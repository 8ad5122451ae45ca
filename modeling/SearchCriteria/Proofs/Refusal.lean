import SearchCriteria.Proofs.Compilation

/-!
# What the builders of predicates refuse with

Whatever is wrong with an entry, the fault says which operator it is about, and if the operand is
wrong it says which field. An operator that stands among entries of the other context is refused as
such. Two faults come from elsewhere: the query that an operand embeds can be at fault, and the
neutral unit of distances has no code.

No operator is named as the faults about depth name theirs, so none of these faults is one of those.
-/

namespace SearchCriteria

namespace Fault

/-- Something is wrong with the operand of an operator on a field. -/
def AboutOperand (field : String) (op : Operator) (fault : Fault) : Prop :=
  ∃ problem, fault = .invalidArgument field op.label problem

/-- Criteria or queries are nested too deep. -/
def isTooDeep : Fault → Bool
  | .invalidArgument field operator _ =>
    field == "" && (operator == OperandProblem.criteriaOperator
      || operator == OperandProblem.queryOperator)
  | _ => false

end Fault

theorem Operator.label_ne_depth (op : Operator) :
    op.label ≠ OperandProblem.criteriaOperator ∧ op.label ≠ OperandProblem.queryOperator := by
  cases op <;> decide

theorem Fault.AboutOperand.isTooDeep_eq_false {field : String} {op : Operator} {fault : Fault}
    (h : fault.AboutOperand field op) : fault.isTooDeep = false := by
  obtain ⟨problem, rfl⟩ := h
  simp [isTooDeep, op.label_ne_depth]

theorem Operator.check_fault {op : Operator} {field : String} {kind : OperandKind} {count : Nat}
    {fault : Fault} (h : op.check field kind count = .error fault) : fault.AboutOperand field op := by
  unfold check at h
  split at h
  · cases h
    exact ⟨_, rfl⟩
  · split at h <;> cases h
    exact ⟨_, rfl⟩

/-- An operand that passes the check is of a kind that the operator accepts. -/
theorem Operator.kind_mem_accepts {op : Operator} {field : String} {kind : OperandKind} {count : Nat}
    {u : Unit} (h : op.check field kind count = .ok u) : kind ∈ op.accepts := by
  unfold check at h
  split at h
  case isTrue => cases h
  case isFalse accepted => exact Decidable.not_not.mp accepted

namespace Clause

variable {settings : Settings} {field : String} {op : Operator} {operand : Operand} {fault : Fault}

theorem presence_ne_error (family : op.family? = some .presence) :
    presence field op ≠ .error fault := by
  cases op <;> simp_all [presence, Operator.family?]

theorem textLeaf_ne_error {written : String} (family : op.family? = some .text) :
    textLeaf settings field written op ≠ .error fault := by
  cases op <;> simp_all [textLeaf, Operator.family?]

theorem exactMembership_ne_error {values : List (Option String)}
    (family : op.family? = some .membership) : exactMembership field values op ≠ .error fault := by
  cases op <;> simp_all [exactMembership, Operator.family?]

theorem text_fault (family : op.family? = some .text)
    (h : text settings field op operand = .error fault) : fault.AboutOperand field op := by
  unfold text at h
  split at h
  · exact absurd (map_eq_error_iff.mp h) (textLeaf_ne_error family)
  · cases h
    exact ⟨_, rfl⟩

theorem bound_fault (h : bound field op operand = .error fault) : fault.AboutOperand field op := by
  unfold bound at h
  split at h <;> cases h
  exact ⟨_, rfl⟩

theorem optionalBound_fault (h : optionalBound field op operand = .error fault) :
    fault.AboutOperand field op := by
  unfold optionalBound at h
  split at h
  · cases h
  · exact bound_fault (map_eq_error_iff.mp h)

theorem bounds_fault (family : op.family? = some .range)
    (h : bounds field op operand = .error fault) : fault.AboutOperand field op := by
  unfold bounds at h
  split at h
  case h_5 =>
    split at h
    · rw [bind_eq_error_iff] at h
      rcases h with lower | ⟨_, -, h⟩
      · exact optionalBound_fault lower
      · exact optionalBound_fault (bind_pure_eq_error_iff.mp h)
    · cases h
      exact ⟨_, rfl⟩
  case h_6 => cases op <;> simp_all [Operator.family?]
  all_goals exact bound_fault (bind_pure_eq_error_iff.mp h)

theorem term_fault {name : String} (h : term field name operand = .error fault) :
    ∃ problem, fault = .invalidArgument field name problem := by
  unfold term at h
  split at h
  · cases h
  · split at h <;> cases h
    exact ⟨_, rfl⟩

theorem textMembership_fault {values : List String} (family : op.family? = some .membership)
    (h : textMembership field values op = .error fault) : fault.AboutOperand field op := by
  unfold textMembership at h
  split at h
  · cases h
    exact ⟨_, rfl⟩
  · cases op <;> simp_all [Operator.family?]

theorem membership_fault {field : ResolvedField} (family : op.family? = some .membership)
    (h : membership field op operand = .error fault) : fault.AboutOperand field.name op := by
  unfold membership at h
  split at h
  · cases h
    exact ⟨_, rfl⟩
  · rw [bind_eq_error_iff] at h
    rcases h with h | ⟨values, -, h⟩
    · obtain ⟨_, -, refused⟩ := mapM_eq_error h
      exact term_fault refused
    · split at h
      · exact absurd h (exactMembership_ne_error family)
      · exact textMembership_fault family h

/-- What a relationship asks of related documents, for what its embedded query compiles to. -/
def relate (settings : Settings) (operand : Operand) (query : Option QueryTree) : QueryTree :=
  let query := query.getD .matchAll
  match operand with
  | .hasChild type _ scoreMode innerHits =>
    .hasChild type query (scoreMode.getD settings.childScoreMode) innerHits none
  | .hasParent type _ score innerHits => .hasParent type query score innerHits none
  | _ => query

/-- An embedded query is looked at if the operand passes the check, and then it is all that can be at
fault. -/
theorem build_of_embedded {field : ResolvedField} {entry : Entry} {query : Query}
    {embedded : Except Fault (Option QueryTree)} (h : entry.operand.embedded? = some query) :
    build settings field entry embedded = (do
      entry.operator.check field.name entry.operand.kind entry.operand.count
      embedded.map (relate settings entry.operand)) := by
  obtain ⟨operator, operand⟩ := entry
  cases operand <;> cases h
  case hasChild => cases operator <;> cases embedded <;> rfl
  case hasParent => cases operator <;> cases embedded <;> rfl

theorem build_compileEmbedded {field : ResolvedField} {entry : Entry} {query : Query}
    (h : entry.operand.embedded? = some query) (compile : Query → Except Fault (Option QueryTree)) :
    build settings field entry (entry.operand.compileEmbedded compile) = (do
      entry.operator.check field.name entry.operand.kind entry.operand.count
      (compile query).map (relate settings entry.operand)) := by
  rw [Operand.compileEmbedded_of_some h, build_of_embedded h]

theorem buildAs_fault {family : ClauseFamily} {field : ResolvedField} {entry : Entry}
    {embedded : Except Fault (Option QueryTree)} (plain : entry.operand.embedded? = none)
    (found : entry.operator.family? = some family)
    (h : buildAs family settings field entry embedded = .error fault) :
    fault.AboutOperand field.name entry.operator := by
  cases family with
  | presence => exact absurd h (presence_ne_error found)
  | text => exact text_fault found h
  | range => exact bounds_fault found (map_eq_error_iff.mp h)
  | membership => exact membership_fault found h
  | relationship =>
    rw [buildAs] at h
    unfold relationship at h
    split at h
    · simp_all [Operand.embedded?]
    · simp_all [Operand.embedded?]
    · cases h
      exact ⟨_, rfl⟩

/-- A scoring entry is refused because of its embedded query, its operand or its operator, which then
is one that only filters. -/
theorem build_fault {field : ResolvedField} {entry : Entry}
    {embedded : Except Fault (Option QueryTree)}
    (h : build settings field entry embedded = .error fault) :
    (∃ query, entry.operand.embedded? = some query) ∧ embedded = .error fault ∨
      fault.AboutOperand field.name entry.operator ∨
      entry.operator.context = .filter ∧
        fault = .unsupportedOperator entry.operator.label .query := by
  cases found : entry.operand.embedded? with
  | some query =>
    rw [build_of_embedded found, bind_eq_error_iff] at h
    rcases h with refused | ⟨_, -, h⟩
    · exact .inr (.inl (Operator.check_fault refused))
    · exact .inl ⟨⟨query, rfl⟩, map_eq_error_iff.mp h⟩
  | none =>
    rw [build, bind_eq_error_iff] at h
    rcases h with refused | ⟨_, -, h⟩
    · exact .inr (.inl (Operator.check_fault refused))
    · split at h
      case h_1 family known => exact .inr (.inl (buildAs_fault found known h))
      case h_2 unknown =>
        cases h
        exact .inr (.inr ⟨(Operator.family?_eq_none_iff _).mp unknown, rfl⟩)

end Clause

/-- An entry asks for a distance in the unit that has no code. -/
def Entry.HasNeutralUnit (entry : Entry) : Prop :=
  ∃ centre value, entry = ⟨.within, .sequence [centre, .distance ⟨value, .neutral⟩]⟩

namespace GeoFilter

variable {field : String} {fault : Fault}

theorem centre_fault {operand : Operand} (h : centre field operand = .error fault) :
    fault.AboutOperand field .within := by
  unfold centre at h
  split at h <;> cases h
  exact ⟨_, rfl⟩

/-- A radius is refused because of the operand, or because its unit has no code. -/
theorem radius_fault {operand : Operand} (h : radius field operand = .error fault) :
    fault.AboutOperand field .within ∨
      (∃ value, operand = .distance ⟨value, .neutral⟩) ∧
        fault = .unsupportedOperator DistanceUnit.neutral.label .distanceUnit := by
  unfold radius at h
  split at h
  case h_1 value =>
    obtain ⟨value, unit⟩ := value
    rw [Distance.text, bind_pure_eq_error_iff] at h
    cases unit <;> cases h
    exact .inr ⟨⟨value, rfl⟩, rfl⟩
  case h_2 =>
    split at h <;> cases h
    exact .inl ⟨_, rfl⟩
  case h_3 =>
    cases h
    exact .inl ⟨_, rfl⟩

theorem corner_fault {operand : Operand} (h : corner field operand = .error fault) :
    fault.AboutOperand field .boundingBox := by
  unfold corner at h
  split at h
  · cases h
  · split at h <;> cases h
    exact ⟨_, rfl⟩
  · cases h
    exact ⟨_, rfl⟩

theorem boundingBox_fault {operands : List Operand}
    (h : boundingBox field operands = .error fault) : fault.AboutOperand field .boundingBox := by
  unfold boundingBox at h
  split at h
  · cases h
  · rw [bind_eq_error_iff] at h
    rcases h with first | ⟨_, -, h⟩
    · exact corner_fault first
    · exact corner_fault (bind_pure_eq_error_iff.mp h)
  · cases h
    exact ⟨_, rfl⟩

theorem distance_fault {point length : Operand} (h : distance field point length = .error fault) :
    fault.AboutOperand field .within ∨
      (∃ value, length = .distance ⟨value, .neutral⟩) ∧
        fault = .unsupportedOperator DistanceUnit.neutral.label .distanceUnit := by
  rw [distance, bind_eq_error_iff] at h
  rcases h with refused | ⟨_, -, h⟩
  · exact .inl (centre_fault refused)
  · exact radius_fault (bind_pure_eq_error_iff.mp h)

/-- An operand that passed the check of an operator on shapes is a geometry. -/
theorem shape_ne_error {operand : Operand} {relation : ShapeRelation}
    (kind : operand.kind = .geometry) : shape field operand relation ≠ .error fault := by
  cases operand <;> simp_all [shape, Operand.kind]

/-- A filtering entry is refused because of its operand, the unit of a distance in it, or its
operator, which then is one that scores. -/
theorem build_fault {entry : Entry} (h : build field entry = .error fault) :
    fault.AboutOperand field entry.operator ∨
      entry.HasNeutralUnit ∧
        fault = .unsupportedOperator DistanceUnit.neutral.label .distanceUnit ∨
      entry.operator.context = .query ∧
        fault = .unsupportedOperator entry.operator.label .filter := by
  obtain ⟨operator, operand⟩ := entry
  rw [build, bind_eq_error_iff] at h
  rcases h with refused | ⟨_, checked, h⟩
  · exact .inl (Operator.check_fault refused)
  · have kind := Operator.kind_mem_accepts checked
    dsimp only at h kind ⊢
    split at h
    case h_1 =>
      split at h
      · rcases distance_fault h with refused | ⟨⟨value, rfl⟩, neutral⟩
        · exact .inl refused
        · exact .inr (.inl ⟨⟨_, value, rfl⟩, neutral⟩)
      · cases h
        exact .inl ⟨_, rfl⟩
    case h_2 =>
      split at h
      · exact .inl (boundingBox_fault h)
      · exact .inl (boundingBox_fault h)
    case h_7 =>
      cases h
      refine .inr (.inr ⟨?_, rfl⟩)
      cases operator <;> simp_all [Operator.context]
    all_goals exact absurd h (shape_ne_error (List.mem_singleton.mp kind))

end GeoFilter

end SearchCriteria
