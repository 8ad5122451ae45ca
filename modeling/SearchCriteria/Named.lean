/-!
# Names of the members of a finite type

A closed set of choices is listed once, with a name for each choice. Looking a name up is the same
for all such sets, and because the listing leaves nothing out and no name comes twice, it finds
exactly the choice that has the name.
-/

namespace SearchCriteria

/-- A type whose members can be listed and have names of their own, so that the first of the list
that has the name of a member is that member. -/
class Named (α : Type) where
  all : List α
  name : α → String
  find?_name : ∀ a, all.find? (fun b => name b == name a) = some a

namespace Named

variable {α : Type} [Named α]

theorem mem_all (a : α) : a ∈ (all : List α) :=
  List.mem_of_find?_eq_some (find?_name a)

/-- The member that has a name. -/
def ofName? (text : String) : Option α :=
  (all : List α).find? fun a => name a == text

@[simp] theorem ofName?_name (a : α) : ofName? (name a) = some a :=
  find?_name a

theorem ofName?_eq_some_iff {text : String} {a : α} : ofName? text = some a ↔ name a = text := by
  constructor
  · intro h
    simpa using List.find?_some h
  · rintro rfl
    exact ofName?_name a

end Named

end SearchCriteria
