import ObjectValidation.Check.Equality
import ObjectValidation.Check.Names
import ObjectValidation.Check.Order
import ObjectValidation.Check.Pattern
import ObjectValidation.Check.Size
import ObjectValidation.Check.Text
