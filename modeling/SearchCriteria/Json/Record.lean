import SearchCriteria.Json.Source
import SearchCriteria.Named

/-!
# Reading records from JSON

A record is an object whose fields are found by name, or an array in which they stand in their
order. Fields of other names are passed over, whatever they hold. A field that comes twice makes the
record unreadable, and so does an array with more items than the record has fields. What a field
holds has to be of the right type; only an integer will also do for a double.
-/

namespace SearchCriteria.Json.Source

/-- What a record holds under a name, which may be nothing. It fails if the name comes twice. -/
def slot? (fields : List (String × Source)) (name : String) : Option (Option Source) :=
  match fields.filter fun field => field.1 == name with
  | [] => some none
  | [field] => some (some field.2)
  | _ => none

/-- What a record holds under each of the names of its fields. -/
def slots? (names : List String) : Source → Option (List (Option Source))
  | .object fields => names.mapM (slot? fields)
  | .array items =>
    if items.length ≤ names.length then
      some (items.map some ++ List.replicate (names.length - items.length) none)
    else none
  | _ => none

def toBool? : Source → Option Bool
  | .bool value => some value
  | _ => none

def toText? : Source → Option String
  | .string value => some value
  | _ => none

def toDouble? : Source → Option Double
  | .number value => some value
  | .integer value => some (.ofInt value)
  | _ => none

/-- A natural below a limit. -/
def toNatBelow? (limit : Nat) : Source → Option Nat
  | .integer value => if 0 ≤ value ∧ value < limit then some value.toNat else none
  | _ => none

/-- A member of a set of choices, given by its name alone or as the only field of an object, which
then holds null. -/
def toNamed? {α : Type} [Named α] : Source → Option α
  | .string name => Named.ofName? name
  | .object [(name, .null)] => Named.ofName? name
  | _ => none

def toList? {α : Type} (read : Source → Option α) : Source → Option (List α)
  | .array items => items.mapM read
  | _ => none

/-- A value that may be null. -/
def toNullable? {α : Type} (read : Source → Option α) : Source → Option (Option α)
  | .null => some none
  | source => (read source).map some

/-- The value in a slot that must not be empty. -/
def required? {α : Type} (read : Source → Option α) (slot : Option Source) : Option α :=
  slot.bind read

/-- The value in a slot, or another value if it is empty. -/
def withDefault? {α : Type} (default : α) (read : Source → Option α) :
    Option Source → Option α
  | none => some default
  | some source => read source

/-- The value in a slot that may be empty or null. -/
def optional? {α : Type} (read : Source → Option α) : Option Source → Option (Option α) :=
  withDefault? none (toNullable? read)

end SearchCriteria.Json.Source
