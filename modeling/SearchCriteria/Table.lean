/-!
# Tables keyed by text

A table is a list of entries in the order of their keys, each key once. A new value for a key that
is present takes the place of the old one.
-/

namespace SearchCriteria.Table

variable {α : Type}

def insert (key : String) (value : α) : List (String × α) → List (String × α)
  | [] => [(key, value)]
  | entry :: rest =>
    if key < entry.1 then (key, value) :: entry :: rest
    else if key = entry.1 then (key, value) :: rest
    else entry :: insert key value rest

/-- The table of the given entries, of which a later one wins over an earlier one. -/
def ofList (entries : List (String × α)) : List (String × α) :=
  entries.foldl (fun table entry => insert entry.1 entry.2 table) []

def find? (key : String) (table : List (String × α)) : Option α :=
  (table.find? fun entry => entry.1 == key).map (·.2)

@[simp] theorem find?_nil (key : String) : find? key ([] : List (String × α)) = none := rfl

theorem find?_cons (key : String) (entry : String × α) (table : List (String × α)) :
    find? key (entry :: table) = if entry.1 = key then some entry.2 else find? key table := by
  by_cases h : entry.1 = key <;> simp [find?, h]

/-- After an insertion the key has the new value, and every other key has what it had. -/
theorem find?_insert (key other : String) (value : α) (table : List (String × α)) :
    find? other (insert key value table)
      = if key = other then some value else find? other table := by
  induction table with
  | nil => simp [insert, find?_cons]
  | cons entry rest ih =>
    by_cases before : key < entry.1
    · simp [insert, before, find?_cons]
    · by_cases same : key = entry.1
      · by_cases found : key = other <;> simp_all [insert, find?_cons]
      · rw [insert, if_neg before, if_neg same, find?_cons, ih, find?_cons]
        by_cases found : entry.1 = other
        · have apart : key ≠ other := fun h => same (h.trans found.symm)
          simp [found, apart]
        · simp [found]

end SearchCriteria.Table
