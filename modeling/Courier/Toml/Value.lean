import Courier.Binary64

/-!
# Values

The values that a TOML document can hold. A table keeps its entries in the order in which the
document introduces them.
-/

namespace Courier.Toml

/-- A value. Dates and times carry nothing: no setting is one. -/
inductive Value where
  | string (text : String)
  | integer (n : Int)
  | float (x : Binary64)
  | boolean (b : Bool)
  | moment
  | array (items : List Value)
  | table (entries : List (String × Value))
  deriving Repr

abbrev Table := List (String × Value)

end Courier.Toml
