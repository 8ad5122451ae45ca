import SearchCriteria.Number.Double
import SearchCriteria.Table

/-!
# JSON values

The fields of an object are a table, so two values are equal exactly when they hold the same data.
Integers and doubles are kept apart, since they are written differently.
-/

namespace SearchCriteria

inductive Json where
  | null
  | bool (value : Bool)
  | integer (value : Int)
  /-- A finite double. -/
  | number (value : Double)
  | string (value : String)
  | array (items : List Json)
  /-- The fields, in the order of their names. -/
  | object (fields : List (String × Json))

namespace Json

/-- The object with the given fields; of two fields of one name the later one wins. -/
def ofFields (fields : List (String × Json)) : Json :=
  .object (Table.ofList fields)

/-- JSON has no number for infinity, nor for what is no number; they become null. -/
def ofDouble (x : Double) : Json :=
  if x.isFinite then .number x else .null

def ofNat (n : Nat) : Json :=
  .integer n

/-- A value that may be absent, as itself or as null. -/
def ofOption {α : Type} (write : α → Json) : Option α → Json
  | none => .null
  | some value => write value

def ofTexts (texts : List String) : Json :=
  .array (texts.map .string)

end Json

end SearchCriteria
