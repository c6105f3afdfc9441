import Mathlib

/-! JSON values. A text of JSON stands for the value it spells, so writing a value and reading it
again is the identity; a float is kept as its numeral. -/

namespace TradeX.Lib

inductive Json where
  | null
  | bool (value : Bool)
  | int (value : ℤ)
  | float (numeral : String)
  | str (text : String)
  | arr (items : List Json)
  | obj (members : List (String × Json))
  deriving Repr

namespace Json

/-- `value[name]` and `value.get(name)` of an object. -/
def get (members : List (String × Json)) (name : String) : Option Json := members.lookup name

end Json

end TradeX.Lib
