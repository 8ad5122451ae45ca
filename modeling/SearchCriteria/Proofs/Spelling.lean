import Mathlib
import SearchCriteria.Field
import SearchCriteria.Geo.Distance
import SearchCriteria.Geo.Relation
import SearchCriteria.Operator

/-!
# Which spellings of a name are read

Names are looked up in any letter case, and letter case is that of Unicode. Some characters outside
ASCII have a form in the other case that is made of ASCII letters, so a text that holds one of them is
read as if those letters stood in its place. Apart from these characters a text is read as a name
exactly if it differs from the name in the case of ASCII letters only.
-/

namespace SearchCriteria

namespace Text

/-- Two texts are the same but for the case of ASCII letters. -/
def SameButCase (text name : String) : Prop :=
  text.toList.map Char.toLower = name.toList.map Char.toLower

instance (text name : String) : Decidable (SameButCase text name) :=
  inferInstanceAs (Decidable (_ = _))

/-- The characters outside ASCII whose upper case form is made of ASCII letters, with the letters. -/
def capitalForms : List (Char × String) :=
  [('ß', "SS"), ('ı', "I"), ('ſ', "S"), ('ﬀ', "FF"), ('ﬁ', "FI"), ('ﬂ', "FL"), ('ﬃ', "FFI"),
    ('ﬄ', "FFL"), ('ﬅ', "ST"), ('ﬆ', "ST")]

/-- The Kelvin sign is the only character outside ASCII whose lower case form is an ASCII letter. -/
def smallForms : List (Char × String) :=
  [('\u212A', "k")]

variable {forms : List (Char × String)} {c : Char} {text name : String}

/-- The letters that a character stands for, which are those of its form if it has one. -/
def letters (forms : List (Char × String)) (c : Char) : List Char :=
  match forms.lookup c with
  | some form => form.toList
  | none => [c]

/-- A text in which every character that has a form is replaced by the letters of its form. -/
def spellOut (forms : List (Char × String)) (text : String) : String :=
  String.ofList (text.toList.flatMap (letters forms))

theorem letters_of_notMem (h : c ∉ forms.map Prod.fst) : letters forms c = [c] := by
  have none : forms.lookup c = none := by
    rw [List.lookup_eq_none_iff]
    intro form mem
    have apart : c ≠ form.1 := by
      rintro rfl
      exact h (List.mem_map_of_mem mem)
    simpa using apart
  rw [letters, none]

/-- A text without any of the characters stays as it is. -/
theorem spellOut_of_plain (plain : ∀ c ∈ text.toList, c ∉ forms.map Prod.fst) :
    spellOut forms text = text := by
  have same : text.toList.flatMap (letters forms) = text.toList.flatMap fun c => [c] :=
    List.flatMap_congr fun c mem => letters_of_notMem (plain c mem)
  rw [spellOut, same, List.flatMap_singleton', String.ofList_toList]

/-- To write a character in upper case is to write the letters that it stands for in upper case. -/
theorem upperForm_eq (c : Char) : upperForm c = (letters capitalForms c).map Char.toUpper := by
  by_cases h : c ∈ capitalForms.map Prod.fst
  · simp only [capitalForms, List.map_cons, List.map_nil, List.mem_cons, List.not_mem_nil,
      or_false] at h
    rcases h with rfl | rfl | rfl | rfl | rfl | rfl | rfl | rfl | rfl | rfl <;> decide
  · rw [letters_of_notMem h, List.map_singleton, upperForm]
    split
    case isTrue => rfl
    case isFalse notLower =>
      rw [Char.toUpper_eq_of_not_isLower notLower]
      split
      case h_11 => rfl
      all_goals
        next code =>
          rw [← Char.ofNat_toNat c, code] at h
          exact absurd (by decide) h

theorem lowerForm_eq (c : Char) : [lowerForm c] = (letters smallForms c).map Char.toLower := by
  by_cases h : c ∈ smallForms.map Prod.fst
  · obtain rfl : c = '\u212A' := by simpa [smallForms] using h
    decide
  · have notKelvin : c.toNat ≠ 0x212A := by
      intro code
      rw [← Char.ofNat_toNat c, code] at h
      exact h (by decide)
    rw [letters_of_notMem h, List.map_singleton, lowerForm, if_neg notKelvin]
    split
    · rfl
    · next notUpper => rw [Char.toLower_eq_of_not_isUpper notUpper]

theorem upper_eq (text : String) :
    (upper text).toList = (spellOut capitalForms text).toList.map Char.toUpper := by
  simp only [upper, spellOut, String.toList_ofList, List.map_flatMap, ← upperForm_eq]

theorem lower_eq (text : String) :
    (lower text).toList = (spellOut smallForms text).toList.map Char.toLower := by
  simp only [lower, spellOut, String.toList_ofList, List.map_flatMap, ← lowerForm_eq]
  exact List.map_eq_flatMap

/-- A text in upper case is a name in capitals exactly if the two are the same but for case. -/
theorem upper_eq_iff (capital : name.toList.map Char.toUpper = name.toList) :
    upper text = name ↔ SameButCase (spellOut capitalForms text) name := by
  have folding : Char.toUpper ∘ Char.toLower = Char.toUpper :=
    funext Char.toUpper_toLower_eq_toUpper
  rw [← String.toList_inj, upper_eq, SameButCase]
  constructor
  · intro same
    rw [← same, List.map_map]
    exact List.map_congr_left fun c _ => (Char.toLower_toUpper_eq_toLower c).symm
  · intro same
    have folded := congrArg (List.map Char.toUpper) same
    rw [List.map_map, List.map_map, folding, capital] at folded
    exact folded

theorem lower_eq_iff (small : name.toList.map Char.toLower = name.toList) :
    lower text = name ↔ SameButCase (spellOut smallForms text) name := by
  rw [← String.toList_inj, lower_eq, SameButCase, small]

/-- The Kelvin sign makes no difference to a name without its letter. -/
theorem sameButCase_spellOut_iff (noKelvin : 'k' ∉ name.toList.map Char.toLower)
    (ascii : '\u212A' ∉ name.toList.map Char.toLower) :
    SameButCase (spellOut smallForms text) name ↔ SameButCase text name := by
  by_cases kelvin : '\u212A' ∈ text.toList
  · refine iff_of_false (fun same => noKelvin ?_) (fun same => ascii ?_)
    · rw [← same, spellOut, String.toList_ofList]
      exact List.mem_map.mpr ⟨'k', List.mem_flatMap.mpr ⟨_, kelvin, by decide⟩, by decide⟩
    · rw [← same]
      exact List.mem_map.mpr ⟨_, kelvin, by decide⟩
  · have plain : ∀ c ∈ text.toList, c ∉ smallForms.map Prod.fst := by
      intro c mem form
      obtain rfl : c = '\u212A' := by simpa [smallForms] using form
      exact kelvin mem
    rw [spellOut_of_plain plain]

end Text

/-- A reader takes a text for a member of a type exactly if the text is a spelling of it, and refuses
every other text with a fault that holds the text as it was given. -/
structure ReadsSpellings {ε α : Type} (read : String → Except ε α) (spells : String → α → Prop)
    (refusal : String → ε) : Prop where
  reads : ∀ text a, read text = .ok a ↔ spells text a
  refuses : ∀ text, (∀ a, ¬ spells text a) → read text = .error (refusal text)

/-- A reader that looks a text up reads the spellings that are found. -/
theorem ReadsSpellings.of_find {ε α : Type} {read : String → Except ε α}
    {spells : String → α → Prop} {refusal : String → ε} (find : String → Option α)
    (ok : ∀ text a, find text = some a → read text = .ok a)
    (error : ∀ text, find text = none → read text = .error (refusal text))
    (found : ∀ text a, find text = some a ↔ spells text a) :
    ReadsSpellings read spells refusal where
  reads text a := by
    rw [← found]
    refine ⟨fun accepted => ?_, ok text a⟩
    cases lookup : find text with
    | some b =>
      rw [ok text b lookup] at accepted
      exact congrArg some (Except.ok.inj accepted)
    | none =>
      rw [error text lookup] at accepted
      contradiction
  refuses text unspelled := by
    refine error text (Option.eq_none_iff_forall_ne_some.mpr fun a lookup => ?_)
    exact unspelled a ((found text a).mp lookup)

/-- The names of a unit: its code, if it has one, and its full name. -/
def DistanceUnit.names : DistanceUnit → List String
  | .kilometers => ["km", "kilometers"]
  | .miles => ["mi", "miles"]
  | .neutral => ["neutral"]

theorem DistanceUnit.ofText?_eq_some_iff {text : String} {unit : DistanceUnit} :
    ofText? text = some unit ↔ text ∈ unit.names := by
  unfold ofText?
  split
  · next code =>
    subst code
    cases unit <;> simp [names]
  · split
    · next code =>
      subst code
      cases unit <;> simp [names]
    · rw [Named.ofName?_eq_some_iff]
      cases unit <;> simp [names, Named.name, label, eq_comm, *]

open Text

theorem Operator.reads_spellings : ReadsSpellings Operator.read
    (fun text op => SameButCase (spellOut capitalForms text) op.label)
    (.unsupportedOperator · .catalog) := by
  refine .of_find (fun text => Named.ofName? (upper text))
    (fun text op found => by rw [read, found]) (fun text missing => by rw [read, missing])
    fun text op => ?_
  rw [Named.ofName?_eq_some_iff, eq_comm]
  exact upper_eq_iff (by cases op <;> rfl)

theorem DistanceUnit.reads_spellings : ReadsSpellings DistanceUnit.read
    (fun text unit => ∃ name ∈ unit.names, SameButCase (spellOut smallForms text) name)
    (.unsupportedOperator · .distanceUnit) := by
  refine .of_find (fun text => ofText? (lower text))
    (fun text unit found => by rw [read, found]) (fun text missing => by rw [read, missing])
    fun text unit => ?_
  rw [ofText?_eq_some_iff]
  have small : ∀ name ∈ unit.names, name.toList.map Char.toLower = name.toList := by
    cases unit <;> decide
  constructor
  · intro mem
    exact ⟨_, mem, (lower_eq_iff (small _ mem)).mp rfl⟩
  · rintro ⟨name, mem, same⟩
    rw [(lower_eq_iff (small _ mem)).mpr same]
    exact mem

theorem ShapeRelation.reads_spellings : ReadsSpellings ShapeRelation.read
    (fun text relation => SameButCase text relation.label)
    (.unsupportedOperator · .shapeRelation) := by
  refine .of_find (fun text => Named.ofName? (lower text))
    (fun text relation found => by rw [read, found]) (fun text missing => by rw [read, missing])
    fun text relation => ?_
  rw [Named.ofName?_eq_some_iff, eq_comm]
  have lowered : lower text = relation.label ↔
      SameButCase (spellOut smallForms text) relation.label :=
    lower_eq_iff (by cases relation <;> rfl)
  have unkelvin : SameButCase (spellOut smallForms text) relation.label ↔
      SameButCase text relation.label :=
    sameButCase_spellOut_iff (by cases relation <;> decide) (by cases relation <;> decide)
  exact lowered.trans unkelvin

theorem FieldType.reads_spellings : ReadsSpellings FieldType.read
    (fun text type => SameButCase (spellOut smallForms text) type.label) UnknownFieldType.mk := by
  refine .of_find (fun text => Named.ofName? (lower text))
    (fun text type found => by rw [read, found]) (fun text missing => by rw [read, missing])
    fun text type => ?_
  rw [Named.ofName?_eq_some_iff, eq_comm]
  exact lower_eq_iff (by cases type <;> rfl)

/-- The forms are those of characters outside ASCII. -/
theorem spellOut_of_ascii {text : String} (ascii : ∀ c ∈ text.toList, c.toNat < 128) :
    spellOut capitalForms text = text ∧ spellOut smallForms text = text := by
  have outside : ∀ c ∈ (capitalForms ++ smallForms).map Prod.fst, 128 ≤ c.toNat := by
    simp [capitalForms, smallForms]
  constructor
  · refine spellOut_of_plain fun c mem form => ?_
    have := outside c (by rw [List.map_append]; exact List.mem_append_left _ form)
    exact absurd (ascii c mem) (by omega)
  · refine spellOut_of_plain fun c mem form => ?_
    have := outside c (by rw [List.map_append]; exact List.mem_append_right _ form)
    exact absurd (ascii c mem) (by omega)

/-- The names of operators, units, relations and types of fields are read in any case of ASCII
letters, and where characters outside ASCII stand for such letters in the other case they are read as
these; no other text is read. Texts of ASCII characters have no such characters, and none of them
stands for letters in the name of a relation. -/
theorem names_read :
    ReadsSpellings Operator.read
      (fun text op => SameButCase (spellOut capitalForms text) op.label)
      (.unsupportedOperator · .catalog) ∧
    ReadsSpellings DistanceUnit.read
      (fun text unit => ∃ name ∈ unit.names, SameButCase (spellOut smallForms text) name)
      (.unsupportedOperator · .distanceUnit) ∧
    ReadsSpellings ShapeRelation.read (fun text relation => SameButCase text relation.label)
      (.unsupportedOperator · .shapeRelation) ∧
    ReadsSpellings FieldType.read
      (fun text type => SameButCase (spellOut smallForms text) type.label) UnknownFieldType.mk ∧
    ∀ text : String, (∀ c ∈ text.toList, c.toNat < 128) →
      spellOut capitalForms text = text ∧ spellOut smallForms text = text :=
  ⟨Operator.reads_spellings, DistanceUnit.reads_spellings, ShapeRelation.reads_spellings,
    FieldType.reads_spellings, fun _ => spellOut_of_ascii⟩

/-- A sharp s stands for two letters of the name of an operator, and a Kelvin sign for a letter of a
code and of the name of a type. Case within ASCII does not account for either. -/
theorem read_beyond_ascii :
    (Operator.read "leß" = .ok .less ∧ ∀ op : Operator, ¬ SameButCase "leß" op.label) ∧
    (DistanceUnit.read "\u212Am" = .ok .kilometers ∧
      ∀ unit : DistanceUnit, ∀ name ∈ unit.names, ¬ SameButCase "\u212Am" name) ∧
    FieldType.read "\u212Aeyword" = .ok .keyword ∧
      ∀ type : FieldType, ¬ SameButCase "\u212Aeyword" type.label := by
  refine ⟨⟨by decide, ?_⟩, ⟨by decide, ?_⟩, by decide, ?_⟩
  · intro op
    cases op <;> decide
  · intro unit
    cases unit <;> decide
  · intro type
    cases type <;> decide

end SearchCriteria
