import SearchCriteria.Proofs.Suitability
import SearchCriteria.QueryTree.Json

/-!
# The two sides of a range

A range between two values asks what its two sides ask: not less than the one value, not greater than
the other. Null leaves a side open, though an operator with one bound refuses it. So what is taken as
a side is settled by the JSON value of the operand, which null does not have, and each side can be
read off apart from the other.
-/

namespace SearchCriteria

namespace Table

variable {α : Type} {key : String} {value : α} {table entries : List (String × α)}

/-- A new key that is greater than the others comes last. -/
theorem insert_of_greatest (greatest : ∀ entry ∈ table, entry.1 < key) :
    insert key value table = table ++ [(key, value)] := by
  induction table with
  | nil => rfl
  | cons entry rest ih =>
    have less : entry.1 < key := greatest entry List.mem_cons_self
    have apart : key ≠ entry.1 := by
      rintro rfl
      exact String.lt_irrefl _ less
    rw [insert, if_neg (String.lt_asymm less), if_neg apart,
      ih fun other mem => greatest other (List.mem_cons_of_mem _ mem)]
    rfl

/-- Entries in the order of their keys are a table as they stand. -/
theorem ofList_of_ordered (ordered : entries.Pairwise fun entry later => entry.1 < later.1) :
    ofList entries = entries := by
  induction entries using List.reverseRecOn with
  | nil => rfl
  | append_singleton earlier last ih =>
    obtain ⟨ordered, -, greatest⟩ := List.pairwise_append.mp ordered
    rw [ofList, List.foldl_concat, ← ofList, ih ordered]
    exact insert_of_greatest fun entry mem => greatest entry mem last (List.mem_singleton_self last)

end Table

namespace Bounds

/-- The bounds of what is not less than a value, if there is one. -/
def ofLeast (gte : Option Json) : Bounds :=
  { unbounded with gte }

/-- The bounds of what is not greater than a value, if there is one. -/
def ofMost (lte : Option Json) : Bounds :=
  { unbounded with lte }

/-- Bounds are written in the order of their names. -/
theorem ofFields_fields (found : Bounds) : Json.ofFields found.fields = .object found.fields := by
  have names : ([("gt", found.gt), ("gte", found.gte), ("lt", found.lt), ("lte", found.lte)].map
      Prod.fst).Pairwise (· < ·) := by
    change ["gt", "gte", "lt", "lte"].Pairwise (· < ·)
    decide
  have ordered : found.fields.Pairwise fun field later => field.1 < later.1 := by
    refine (List.pairwise_map.mp names).filterMap _ fun field later less => ?_
    rintro _ given _ given'
    obtain ⟨_, -, rfl⟩ := Option.map_eq_some_iff.mp given
    obtain ⟨_, -, rfl⟩ := Option.map_eq_some_iff.mp given'
    exact less
  rw [Json.ofFields, Table.ofList_of_ordered ordered]

end Bounds

/-- The JSON of a range on a field, which has the given body. -/
def rangeJson (field : String) (body : List (String × Json)) : Json :=
  .object [("range", .object [(field, .object body)])]

theorem QueryTree.toJson_range (field : String) (found : Bounds) :
    (QueryTree.leaf (.range field found) none).toJson = rangeJson field found.fields := by
  simp [toJson, kind, body, Leaf.kind, Leaf.body, Leaf.boostFields, rangeJson,
    Bounds.ofFields_fields]

namespace Clause

variable {settings : Settings} {name : String} {field : ResolvedField} {op : Operator}
variable {operand lower upper : Operand} {embedded : Except Fault (Option QueryTree)}
variable {tree : QueryTree}

theorem bound_eq_ok_iff {json : Json} :
    bound name op operand = .ok json ↔ operand.scalarJson? = some json := by
  rw [bound]
  cases operand.scalarJson? <;> simp

/-- A side of a pair has the JSON value of its operand, and null has none. -/
theorem optionalBound_eq_ok_iff {found : Option Json} :
    optionalBound name op operand = .ok found ↔
      operand.IsOptionalBound ∧ operand.scalarJson? = found := by
  rw [Operand.IsOptionalBound, ← Operand.exists_scalarJson?_iff]
  cases operand with
  | null => simp [optionalBound, Operand.scalarJson?]
  | _ =>
    simp only [optionalBound, map_eq_ok_iff, bound_eq_ok_iff, reduceCtorEq, false_or]
    constructor
    · rintro ⟨json, scalar, rfl⟩
      exact ⟨⟨json, scalar⟩, scalar⟩
    · rintro ⟨⟨json, scalar⟩, rfl⟩
      exact ⟨json, scalar, scalar.symm⟩

/-- What an operator with one bound builds, whichever of the four it is. -/
theorem build_bound_eq_ok_iff (set : Option Json → Bounds) (accepts : op.accepts = [.scalar])
    (arity : op.arity = ⟨1, 1⟩) (family : op.family? = some .range)
    (single : bounds field.name op operand = do
      return set (some (← bound field.name op operand))) :
    build settings field ⟨op, operand⟩ embedded = .ok tree ↔
      operand.IsBound ∧ tree = .leaf (.range field.name (set operand.scalarJson?)) none := by
  rw [build_eq_ok_iff family, buildAs, range, single, ← Operand.exists_scalarJson?_iff]
  simp only [map_eq_ok_iff, bind_eq_ok_iff, pure_eq_ok_iff, bound_eq_ok_iff]
  constructor
  · rintro ⟨-, _, ⟨json, scalar, rfl⟩, rfl⟩
    exact ⟨⟨json, scalar⟩, by rw [scalar]⟩
  · rintro ⟨⟨json, scalar⟩, rfl⟩
    have isBound : operand.IsBound := Operand.exists_scalarJson?_iff.mp ⟨json, scalar⟩
    exact ⟨admits_of_isScalar accepts arity isBound.isScalar, _, ⟨json, scalar, rfl⟩,
      by rw [scalar]⟩

theorem build_between_eq_ok_iff :
    build settings field ⟨.between, .sequence [lower, upper]⟩ embedded = .ok tree ↔
      (lower.IsOptionalBound ∧ upper.IsOptionalBound) ∧
        tree = .leaf (.range field.name
          { Bounds.unbounded with gte := lower.scalarJson?, lte := upper.scalarJson? }) none := by
  have admitted : Operator.between.Admits (.sequence [lower, upper]) :=
    ⟨List.mem_singleton_self _, le_rfl, le_rfl⟩
  rw [build_eq_ok_iff rfl, and_iff_right admitted, buildAs, range, bounds]
  simp only [map_eq_ok_iff, bind_eq_ok_iff, pure_eq_ok_iff, optionalBound_eq_ok_iff]
  constructor
  · rintro ⟨_, ⟨_, ⟨least, rfl⟩, _, ⟨most, rfl⟩, rfl⟩, rfl⟩
    exact ⟨⟨least, most⟩, rfl⟩
  · rintro ⟨⟨least, most⟩, rfl⟩
    exact ⟨_, ⟨_, ⟨least, rfl⟩, _, ⟨most, rfl⟩, rfl⟩, rfl⟩

/-- What a side adds to the bounds and to the body of a range on a field: nothing if it is left open,
and otherwise what is built from its operand alone. -/
inductive Adds (field : String) (operand : Operand) (alone : Except Fault QueryTree) :
    Bounds → List (String × Json) → Prop
  | nothing (unset : operand = .null) : Adds field operand alone .unbounded []
  | bound {found : Bounds} {body : List (String × Json)} (given : operand ≠ .null)
      (built : alone = .ok (.leaf (.range field found) none))
      (written : (QueryTree.leaf (.range field found) none).toJson = rangeJson field body) :
      Adds field operand alone found body

/-- A side that is taken adds the JSON value of its operand where it sets one. -/
theorem adds_of_isOptionalBound (set : Option Json → Bounds) {alone : Except Fault QueryTree}
    (unset : set none = .unbounded) (suits : operand.IsOptionalBound)
    (built : operand.IsBound → alone = .ok (.leaf (.range name (set operand.scalarJson?)) none)) :
    Adds name operand alone (set operand.scalarJson?) (set operand.scalarJson?).fields := by
  rcases suits with rfl | isBound
  · have none : Operand.null.scalarJson? = none := rfl
    rw [none, unset]
    exact .nothing rfl
  · refine .bound ?_ (built isBound) (QueryTree.toJson_range name _)
    rintro rfl
    contradiction

/-- A range between two values is built exactly when each of its sides is open or is built alone.
It then has the least value that the one side has alone, the greatest that the other has, and no more,
and its body joins the bodies of the two. If it is refused, then as a range between two values on its
field. -/
theorem between_merges (settings : Settings) (field : ResolvedField) (lower upper : Operand)
    (embedded embeddedLower embeddedUpper : Except Fault (Option QueryTree)) :
    let least := build settings field ⟨.greaterEqual, lower⟩ embeddedLower
    let most := build settings field ⟨.lessEqual, upper⟩ embeddedUpper
    let both := build settings field ⟨.between, .sequence [lower, upper]⟩ embedded
    ((∃ tree, both = .ok tree) ↔
      (lower = .null ∨ ∃ tree, least = .ok tree) ∧ (upper = .null ∨ ∃ tree, most = .ok tree)) ∧
    (∀ tree, both = .ok tree → ∃ gte lte leastBody mostBody,
      tree = .leaf (.range field.name { gt := none, gte := gte, lt := none, lte := lte }) none ∧
      Adds field.name lower least (.ofLeast gte) leastBody ∧
      Adds field.name upper most (.ofMost lte) mostBody ∧
      tree.toJson = rangeJson field.name (leastBody ++ mostBody)) ∧
    ∀ fault, both = .error fault →
      ∃ problem, fault = .invalidArgument field.name "BETWEEN" problem := by
  intro least most both
  refine ⟨?_, ?_, ?_⟩
  · have suits : (∃ tree, both = .ok tree) ↔ lower.IsOptionalBound ∧ upper.IsOptionalBound := by
      simp only [both, build_between_eq_ok_iff, exists_and_left, exists_eq, and_true]
    have lowerSuits : (∃ tree, least = .ok tree) ↔ lower.IsBound :=
      exists_build_bound_iff rfl rfl rfl exists_bind_pure_eq_ok_iff
    have upperSuits : (∃ tree, most = .ok tree) ↔ upper.IsBound :=
      exists_build_bound_iff rfl rfl rfl exists_bind_pure_eq_ok_iff
    rw [suits, lowerSuits, upperSuits, Operand.IsOptionalBound, Operand.IsOptionalBound]
  · intro tree built
    obtain ⟨⟨lowerSuits, upperSuits⟩, rfl⟩ := build_between_eq_ok_iff.mp built
    refine ⟨lower.scalarJson?, upper.scalarJson?, _, _, rfl,
      adds_of_isOptionalBound .ofLeast rfl lowerSuits fun isBound => ?_,
      adds_of_isOptionalBound .ofMost rfl upperSuits fun isBound => ?_, ?_⟩
    · exact (build_bound_eq_ok_iff .ofLeast rfl rfl rfl rfl).mpr ⟨isBound, rfl⟩
    · exact (build_bound_eq_ok_iff .ofMost rfl rfl rfl rfl).mpr ⟨isBound, rfl⟩
    · rw [QueryTree.toJson_range]
      cases lower.scalarJson? <;> cases upper.scalarJson? <;> rfl
  · intro fault refused
    rcases build_fault refused with ⟨⟨_, embeds⟩, -⟩ | about | ⟨filters, -⟩
    · contradiction
    · exact about
    · contradiction

end Clause

end SearchCriteria
