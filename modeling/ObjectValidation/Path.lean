/-!
Property paths. Names are joined by points, and a position or a key follows in brackets without a point.
A path found inside a nested object is moved under the path of that object; the empty path names the object
itself, so it is neutral on both sides.
-/

namespace ObjectValidation.Path

/-- Moves a path that is relative to a nested object under the path of that object. -/
def rebase (parent child : String) : String :=
  if parent.isEmpty then child
  else if child.isEmpty then parent
  else if child.toList.head? = some '[' then parent ++ child
  else parent ++ "." ++ child

def field (path name : String) : String := rebase path name

def key (path name : String) : String := path ++ "[" ++ name ++ "]"

def index (path : String) (i : Nat) : String := key path (toString i)

end ObjectValidation.Path
