import SearchCriteria.Json.Basic

/-!
# JSON as it was written

What a reader finds in a text before anything is asked of it: the fields of an object stand in the
order in which they were written and a name may come twice. A number too large for a double and a
string with an unpaired surrogate are well formed but stand for nothing. They do no harm where
nobody looks at them, and cannot be read as anything.
-/

namespace SearchCriteria.Json

inductive Source where
  | null
  | bool (value : Bool)
  | integer (value : Int)
  | number (value : Double)
  | string (value : String)
  | array (items : List Source)
  | object (fields : List (String × Source))
  /-- Well formed, and without a value: a number out of range, a string that is no text, or an
  object with such a string as the name of a field. -/
  | unreadable

namespace Source

mutual

/-- The value of a text; of two fields of one name the later one wins. -/
def toJson? : Source → Option Json
  | .null => some .null
  | .bool value => some (.bool value)
  | .integer value => some (.integer value)
  | .number value => some (.number value)
  | .string value => some (.string value)
  | .array items => (toJsonItems? items).map .array
  | .object fields => (toJsonFields? fields).map ofFields
  | .unreadable => none

def toJsonItems? : List Source → Option (List Json)
  | [] => some []
  | item :: rest => do return (← toJson? item) :: (← toJsonItems? rest)

def toJsonFields? : List (String × Source) → Option (List (String × Json))
  | [] => some []
  | (name, value) :: rest => do return (name, ← toJson? value) :: (← toJsonFields? rest)

end

mutual

/-- How many arrays and objects stand inside one another. -/
def depth : Source → Nat
  | .array items => depthOfItems items + 1
  | .object fields => depthOfFields fields + 1
  | _ => 0

def depthOfItems : List Source → Nat
  | [] => 0
  | item :: rest => max item.depth (depthOfItems rest)

def depthOfFields : List (String × Source) → Nat
  | [] => 0
  | (_, value) :: rest => max value.depth (depthOfFields rest)

end

mutual

/-- A value as a writer would put it down. -/
def ofJson : Json → Source
  | .null => .null
  | .bool value => .bool value
  | .integer value => .integer value
  | .number value => .number value
  | .string value => .string value
  | .array items => .array (ofJsonItems items)
  | .object fields => .object (ofJsonFields fields)

def ofJsonItems : List Json → List Source
  | [] => []
  | item :: rest => ofJson item :: ofJsonItems rest

def ofJsonFields : List (String × Json) → List (String × Source)
  | [] => []
  | (name, value) :: rest => (name, ofJson value) :: ofJsonFields rest

end

/-- The first field of a name. -/
def field? (name : String) : Source → Option Source
  | .object fields => Table.find? name fields
  | _ => none

end Source

end SearchCriteria.Json
