import ObjectValidation.Error

/-!
A tree of files in memory, and the paths that lead through it. A path is read step by step from the top of
the tree; every step but the last has to lead into a directory.
-/

namespace ObjectValidation

inductive FileTree where
  | file (content : ByteArray)
  | directory (entries : List (String × FileTree))

namespace FilePath

/-- Appends a step to a path, with a slash between them unless the path is empty or ends with one. A step
that starts with a slash starts anew. -/
def push (path step : String) : String :=
  if step.toList.head? = some '/' then step
  else if path.isEmpty || path.toList.getLast? = some '/' then path ++ step
  else path ++ "/" ++ step

def pushAll (path : String) (steps : List String) : String := steps.foldl push path

/-- The parts of a list between separators, among them the empty ones. -/
def splitAt {α : Type} [DecidableEq α] (separator : α) : List α → List (List α)
  | [] => [[]]
  | c :: rest =>
    if c = separator then [] :: splitAt separator rest
    else
      match splitAt separator rest with
      | part :: parts => (c :: part) :: parts
      | [] => [[c]]

def steps (path : String) : List String := (splitAt '/' path.toList).map String.ofList

/-- The names from the top of a tree to a place, after one more step. Empty steps and single points stay,
double points go back, though never above the top. -/
def walk (names : List String) (step : String) : List String :=
  if step = "" ∨ step = "." then names
  else if step = ".." then names.dropLast
  else names ++ [step]

/-- The names that a path comes down to. -/
def names (path : String) : List String := (steps path).foldl walk []

/-- The most bytes that a path may have. -/
def maxLength : Nat := 4095

/-- Whether a path can lead anywhere: it has no null character and is not too long. -/
def isUsable (path : String) : Bool :=
  !path.toList.contains '\x00' && decide (path.utf8ByteSize ≤ maxLength)

end FilePath

namespace FileTree

def empty : FileTree := directory []

/-- The most bytes that a file's name may have. -/
def maxNameLength : Nat := 255

def child? (entries : List (String × FileTree)) (name : String) : Option FileTree :=
  (entries.find? fun e => e.1 == name).map Prod.snd

/-- Follows steps from a tree, given the directories that lead to it, the nearest first. -/
def follow (above : List FileTree) (tree : FileTree) : List String → Except ReadFailure FileTree
  | [] => .ok tree
  | step :: rest =>
    match tree with
    | file _ => .error .notDirectory
    | directory entries =>
      if step = "" ∨ step = "." then follow above tree rest
      else if step = ".." then
        match above with
        | [] => follow [] tree rest
        | parent :: above => follow above parent rest
      else if maxNameLength < step.utf8ByteSize then .error .badName
      else
        match child? entries step with
        | none => .error .missing
        | some next => follow (tree :: above) next rest

/-- The text of a file. -/
def readText (tree : FileTree) (path : String) : Except ReadFailure String :=
  if !FilePath.isUsable path then .error .badName
  else
    match follow [] tree (FilePath.steps path) with
    | .error e => .error e
    | .ok (directory _) => .error .isDirectory
    | .ok (file content) =>
      match String.fromUTF8? content with
      | some text => .ok text
      | none => .error .notText

/-- What is in a place after something was put there: a directory that is there already stays as it is. -/
def replacedBy : FileTree → FileTree → FileTree
  | directory entries, directory _ => directory entries
  | _, new => new

/-- Puts a file or directory at the end of a chain of names, with all directories on the way. -/
def putAt (new : FileTree) : FileTree → List String → FileTree
  | old, [] => old.replacedBy new
  | tree, name :: rest =>
    let entries := match tree with
      | directory entries => entries
      | file _ => []
    let inner := putAt new ((child? entries name).getD empty) rest
    directory ((name, inner) :: entries.filter fun e => e.1 != name)

def removeAt : FileTree → List String → FileTree
  | tree, [] => tree
  | file content, _ => file content
  | directory entries, [name] => directory (entries.filter fun e => e.1 != name)
  | directory entries, name :: next :: rest =>
    match child? entries name with
    | none => directory entries
    | some inner =>
      directory ((name, removeAt inner (next :: rest)) :: entries.filter fun e => e.1 != name)

/-- Puts something at the end of a path, and directories wherever a step before the last leads. -/
def putAlong (new : FileTree) : FileTree → List String → List String → FileTree
  | tree, _, [] => tree
  | tree, names, [step] => putAt new tree (FilePath.walk names step)
  | tree, names, step :: next :: rest =>
    let names := FilePath.walk names step
    putAlong new (putAt empty tree names) names (next :: rest)

def put (tree : FileTree) (path : String) (new : FileTree) : FileTree :=
  putAlong new tree [] (FilePath.steps path)

/-- Removes what a path leads to, if it leads to anything. -/
def remove (tree : FileTree) (path : String) : FileTree :=
  match follow [] tree (FilePath.steps path) with
  | .ok _ => removeAt tree (FilePath.names path)
  | .error _ => tree

end FileTree

end ObjectValidation
