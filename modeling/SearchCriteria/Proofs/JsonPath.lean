import SearchCriteria.Proofs.Occurrence
import SearchCriteria.QueryTree.Json

/-!
# Paths into JSON values

What stands in a JSON value is found by a path of field names and indices. An object that is made of
a list of fields has for each name the value that the last field of that name has, so a path into it
can be followed without a look at the order of the names.
-/

namespace SearchCriteria

namespace Table

variable {α β : Type}

theorem find?_append (key : String) (front back : List (String × α)) :
    find? key (front ++ back) = (find? key front).or (find? key back) := by
  induction front with
  | nil => rfl
  | cons entry rest ih =>
    rw [List.cons_append, find?_cons, find?_cons, ih]
    split <;> rfl

/-- The last value that a list of entries has for a key. -/
def last? (key : String) (entries : List (String × α)) : Option α :=
  find? key entries.reverse

@[simp] theorem last?_nil (key : String) : last? key ([] : List (String × α)) = none := rfl

@[simp] theorem last?_append (key : String) (front back : List (String × α)) :
    last? key (front ++ back) = (last? key back).or (last? key front) := by
  rw [last?, List.reverse_append, find?_append]
  rfl

@[simp] theorem last?_cons (key : String) (entry : String × α) (rest : List (String × α)) :
    last? key (entry :: rest) =
      (last? key rest).or (if entry.1 = key then some entry.2 else none) := by
  rw [last?, List.reverse_cons, find?_append, find?_cons]
  rfl

/-- An optional entry is found under its own key only. -/
@[simp] theorem last?_optional (key name : String) (value : Option β) (write : β → α) :
    last? key (value.toList.map fun x => (name, write x))
      = if name = key then value.map write else none := by
  cases value with
  | none => simp
  | some x => simp

/-- A table has for each key the last value that its entries have. -/
theorem find?_ofList (key : String) (entries : List (String × α)) :
    find? key (ofList entries) = last? key entries := by
  have folded (table : List (String × α)) :
      find? key (entries.foldl (fun table entry => insert entry.1 entry.2 table) table)
        = (last? key entries).or (find? key table) := by
    induction entries generalizing table with
    | nil => rfl
    | cons entry rest ih =>
      rw [List.foldl_cons, ih, find?_insert, last?_cons, Option.or_assoc]
      split <;> rfl
  rw [ofList, folded []]
  exact Option.or_none

theorem mem_of_find? {key : String} {value : α} {table : List (String × α)}
    (h : find? key table = some value) : (key, value) ∈ table := by
  obtain ⟨entry, found, rfl⟩ := Option.map_eq_some_iff.mp h
  have same : entry.1 = key := by simpa using List.find?_some found
  rw [← same]
  exact List.mem_of_find?_eq_some found

theorem mem_of_last? {key : String} {value : α} {entries : List (String × α)}
    (h : last? key entries = some value) : (key, value) ∈ entries :=
  List.mem_reverse.mp (mem_of_find? h)

end Table

/-- A step into a JSON value: to a field of an object or to an item of an array. -/
inductive JsonStep where
  | field (name : String)
  | item (index : Nat)
deriving DecidableEq, Repr

namespace Json

/-- What a path leads to. -/
def at? : List JsonStep → Json → Option Json
  | [], json => some json
  | .field name :: rest, .object fields => (Table.find? name fields).bind (at? rest)
  | .item index :: rest, .array items => items[index]?.bind (at? rest)
  | _ :: _, _ => none

variable {path rest : List JsonStep} {name : String}

@[simp] theorem at?_nil (json : Json) : json.at? [] = some json := rfl

@[simp] theorem at?_object (fields : List (String × Json)) :
    (Json.object fields).at? (.field name :: rest)
      = (Table.find? name fields).bind (at? rest) := rfl

@[simp] theorem at?_array (items : List Json) (index : Nat) :
    (Json.array items).at? (.item index :: rest) = items[index]?.bind (at? rest) := rfl

@[simp] theorem at?_ofFields (fields : List (String × Json)) :
    (Json.ofFields fields).at? (.field name :: rest)
      = (Table.last? name fields).bind (at? rest) := by
  rw [ofFields, at?_object, Table.find?_ofList]

/-- A path that goes on starts where its first part leads to. -/
theorem at?_append {json inner : Json} (h : json.at? path = some inner)
    (rest : List JsonStep) : json.at? (path ++ rest) = inner.at? rest := by
  induction path generalizing json with
  | nil =>
    cases h
    rfl
  | cons step path ih =>
    cases step with
    | field name =>
      cases json with
      | object fields =>
        obtain ⟨value, found, h⟩ := Option.bind_eq_some_iff.mp h
        rw [List.cons_append, at?_object, found]
        exact ih h
      | null | bool | integer | number | string | array => cases h
    | item index =>
      cases json with
      | array items =>
        obtain ⟨value, found, h⟩ := Option.bind_eq_some_iff.mp h
        rw [List.cons_append, at?_array, found]
        exact ih h
      | null | bool | integer | number | string | object => cases h

/-- A path leads to a null. -/
def NullAt (json : Json) (path : List JsonStep) : Prop :=
  json.at? path = some .null

/-- A truth value, a number or a text. -/
def IsAtom : Json → Prop
  | .null | .array _ | .object _ => False
  | .bool _ | .integer _ | .number _ | .string _ => True

theorem IsAtom.not_nullAt {json : Json} (h : json.IsAtom) : ¬ json.NullAt path := by
  intro null
  cases path with
  | nil =>
    cases null
    exact h
  | cons step rest =>
    cases json with
    | bool | integer | number | string => cases step <;> cases null
    | null | array | object => exact h

@[simp] theorem not_nullAt_bool (value : Bool) : ¬ (Json.bool value).NullAt path :=
  IsAtom.not_nullAt trivial

@[simp] theorem not_nullAt_ofNat (n : Nat) : ¬ (Json.ofNat n).NullAt path :=
  IsAtom.not_nullAt trivial

@[simp] theorem not_nullAt_number (value : Double) : ¬ (Json.number value).NullAt path :=
  IsAtom.not_nullAt trivial

@[simp] theorem not_nullAt_string (value : String) : ¬ (Json.string value).NullAt path :=
  IsAtom.not_nullAt trivial

@[simp] theorem nullAt_null : Json.null.NullAt path ↔ path = [] := by
  cases path with
  | nil => exact iff_of_true rfl rfl
  | cons step rest => cases step <;> exact iff_of_false nofun nofun

theorem nullAt_array {items : List Json} :
    (Json.array items).NullAt path ↔
      ∃ index rest item, path = .item index :: rest ∧ items[index]? = some item ∧
        item.NullAt rest := by
  constructor
  · intro null
    cases path with
    | nil => cases null
    | cons step rest =>
      cases step with
      | field name => cases null
      | item index =>
        obtain ⟨item, found, null⟩ := Option.bind_eq_some_iff.mp null
        exact ⟨index, rest, item, rfl, found, null⟩
  · rintro ⟨index, rest, item, rfl, found, null⟩
    exact Option.bind_eq_some_iff.mpr ⟨item, found, null⟩

theorem nullAt_object {fields : List (String × Json)} :
    (Json.object fields).NullAt path ↔
      ∃ name rest value, path = .field name :: rest ∧ Table.find? name fields = some value ∧
        value.NullAt rest := by
  constructor
  · intro null
    cases path with
    | nil => cases null
    | cons step rest =>
      cases step with
      | item index => cases null
      | field name =>
        obtain ⟨value, found, null⟩ := Option.bind_eq_some_iff.mp null
        exact ⟨name, rest, value, rfl, found, null⟩
  · rintro ⟨name, rest, value, rfl, found, null⟩
    exact Option.bind_eq_some_iff.mpr ⟨value, found, null⟩

theorem nullAt_ofFields {fields : List (String × Json)} :
    (Json.ofFields fields).NullAt path ↔
      ∃ name rest value, path = .field name :: rest ∧ Table.last? name fields = some value ∧
        value.NullAt rest := by
  simp only [ofFields, nullAt_object, Table.find?_ofList]

/-- An object of one field has its nulls in that field. -/
theorem nullAt_single {value : Json} :
    (Json.object [(name, value)]).NullAt path ↔
      ∃ rest, path = .field name :: rest ∧ value.NullAt rest := by
  rw [nullAt_object]
  constructor
  · rintro ⟨_, rest, _, rfl, found, null⟩
    obtain ⟨⟩ := List.mem_singleton.mp (Table.mem_of_find? found)
    exact ⟨rest, rfl, null⟩
  · rintro ⟨rest, rfl, null⟩
    exact ⟨name, rest, value, rfl, by simp [Table.find?_cons], null⟩

/-- A number is written as null if it is not finite. -/
theorem nullAt_ofDouble {x : Double} :
    (Json.ofDouble x).NullAt path ↔ path = [] ∧ x.isFinite = false := by
  unfold ofDouble
  split
  case isTrue finite => simp [finite]
  case isFalse other => simp [other]

end Json

namespace QueryTree

@[simp] theorem jsonList_eq_map (queries : List QueryTree) : jsonList queries = queries.map toJson := by
  induction queries with
  | nil => rw [jsonList, List.map_nil]
  | cons query rest ih => rw [jsonList, ih, List.map_cons, toJson]

end QueryTree

end SearchCriteria
