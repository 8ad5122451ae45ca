import Mathlib.Logic.Function.Iterate
import SearchCriteria.Proofs.Suitability

/-!
# How search texts are read

A search text is read from left to right. A backslash makes the character behind it literal, and any
other reserved character is active. What has been escaped reads as itself, all of it literal, also
when something stands behind it; so nothing in a text that a caller hands over is ever active.
-/

namespace SearchCriteria

namespace QueryString

/-- A character of a search text as it is read: it stands for itself or has a meaning. -/
inductive Symbol where
  | literal (c : Char)
  | active (c : Char)
deriving DecidableEq, Repr

def Symbol.char : Symbol → Char
  | .literal c => c
  | .active c => c

/-- Reads a search text. A backslash with nothing behind it is active. -/
def read : List Char → List Symbol
  | [] => []
  | ['\\'] => [.active '\\']
  | '\\' :: c :: rest => .literal c :: read rest
  | c :: rest => (if c ∈ reserved then .active c else .literal c) :: read rest

/-- The characters of a search text without the backslashes that made them literal. -/
def unescape (text : String) : String :=
  String.ofList ((read text.toList).map Symbol.char)

theorem read_backslash (c : Char) (rest : List Char) :
    read ('\\' :: c :: rest) = .literal c :: read rest := by
  rw [read]

theorem read_cons {c : Char} (h : c ≠ '\\') (rest : List Char) :
    read (c :: rest) = (if c ∈ reserved then .active c else .literal c) :: read rest := by
  rw [read]
  · exact fun same _ => h same
  · exact fun _ _ same _ => h same

theorem escapeChars_cons (c : Char) (rest : List Char) :
    escapeChars (c :: rest) = (if c ∈ reserved then ['\\', c] else [c]) ++ escapeChars rest := rfl

/-- An escaped text reads as itself, whatever stands behind it. -/
theorem read_escapeChars_append (text rest : List Char) :
    read (escapeChars text ++ rest) = text.map .literal ++ read rest := by
  induction text with
  | nil => rfl
  | cons c others ih =>
    rw [escapeChars_cons]
    split
    case isTrue =>
      rw [List.append_assoc, List.cons_append, List.singleton_append, read_backslash, ih]
      rfl
    case isFalse plain =>
      -- The backslash is reserved itself, so this is another character.
      have other : c ≠ '\\' := by
        rintro rfl
        exact plain (by decide)
      rw [List.append_assoc, List.singleton_append, read_cons other, if_neg plain, ih]
      rfl

theorem read_escape_append (text : String) (rest : List Char) :
    read ((escape text).toList ++ rest) = text.toList.map .literal ++ read rest := by
  rw [escape, String.toList_ofList, read_escapeChars_append]

theorem read_escape (text : String) : read (escape text).toList = text.toList.map .literal := by
  simpa [read] using read_escape_append text []

theorem read_star (rest : List Char) : read ('*' :: rest) = .active '*' :: read rest :=
  read_cons (by decide) rest

theorem unescape_escape : Function.LeftInverse unescape escape := by
  intro text
  rw [unescape, read_escape, List.map_map]
  exact (congrArg String.ofList (List.map_id _)).trans String.ofList_toList

theorem escape_append (s t : String) : escape (s ++ t) = escape s ++ escape t := by
  rw [escape, String.toList_append, escapeChars_append, String.ofList_append]
  rfl

end QueryString

open QueryString

/-- What an operator on a literal text puts before and behind the text. -/
def Operator.stars? : Operator → Option (List Symbol × List Symbol)
  | .equals => some ([], [])
  | .contains => some ([.active '*'], [.active '*'])
  | .startsWith => some ([], [.active '*'])
  | .endsWith => some ([.active '*'], [])
  | _ => none

namespace Clause

variable {op : Operator}

/-- The search text of a literal text has the stars of its operator and is literal otherwise. -/
theorem textLeaf_reads (settings : Settings) (name text : String) {before after : List Symbol}
    (stars : op.stars? = some (before, after)) :
    ∃ query joiner analyze,
      textLeaf settings name text op = .ok (.queryString query [name] joiner analyze) ∧
      read query.toList = before ++ (text.toList.map .literal ++ after) := by
  have star : "*".toList = ['*'] := rfl
  have last : read ['*'] = [.active '*'] := read_star []
  cases op with
  | equals =>
    cases stars
    refine ⟨_, _, _, rfl, ?_⟩
    rw [read_escape, List.append_nil, List.nil_append]
  | contains =>
    cases stars
    refine ⟨_, _, _, rfl, ?_⟩
    rw [String.toList_append, String.toList_append, star, List.append_assoc, List.singleton_append,
      read_star, read_escape_append, last, List.singleton_append]
  | startsWith =>
    cases stars
    refine ⟨_, _, _, rfl, ?_⟩
    rw [String.toList_append, star, read_escape_append, last, List.nil_append]
  | endsWith =>
    cases stars
    refine ⟨_, _, _, rfl, ?_⟩
    rw [String.toList_append, star, List.singleton_append, read_star, read_escape, List.append_nil,
      List.singleton_append]
  | _ => contradiction

end Clause

/-- What is escaped reads as itself and can be restored, as often as it has been escaped, and the
parts of a text are escaped one by one. So the search text of an operator on a literal text reads as
that text, with the stars of the operator and without any other character that has a meaning. -/
theorem escaped_reads_literally :
    (∀ text, read (escape text).toList = text.toList.map .literal) ∧
    Function.LeftInverse unescape escape ∧ Function.Injective escape ∧
    (∀ n, Function.LeftInverse unescape^[n] escape^[n]) ∧
    (∀ s t, escape (s ++ t) = escape s ++ escape t) ∧
    ∀ settings field op operand embedded before after, Operator.stars? op = some (before, after) →
      Operand.IsScalar operand →
      ∃ text query joiner analyze, operand.text? = some text ∧
        Clause.build settings field ⟨op, operand⟩ embedded
          = .ok (.leaf (.queryString query [field.name] joiner analyze) none) ∧
        read query.toList = before ++ (text.toList.map .literal ++ after) := by
  refine ⟨read_escape, unescape_escape, unescape_escape.injective, unescape_escape.iterate,
    escape_append, ?_⟩
  intro settings field op operand embedded before after stars scalar
  obtain ⟨text, written⟩ := Operand.exists_text?_iff.mpr scalar
  have textual : op.accepts = [.scalar] ∧ op.arity = ⟨1, 1⟩ ∧ op.family? = some .text := by
    cases op <;> first | contradiction | exact ⟨rfl, rfl, rfl⟩
  obtain ⟨accepts, arity, family⟩ := textual
  obtain ⟨query, joiner, analyze, leaf, reads⟩ :=
    Clause.textLeaf_reads settings field.name text stars
  have made : Clause.text settings field.name op operand
      = .ok (.leaf (.queryString query [field.name] joiner analyze) none) := by
    rw [Clause.text, written]
    exact map_eq_ok_iff.mpr ⟨_, leaf, rfl⟩
  exact ⟨text, query, joiner, analyze, written, (Clause.build_eq_ok_iff family).mpr
    ⟨Clause.admits_of_isScalar accepts arity scalar, made⟩, reads⟩

theorem escaped_reads_literally_before_star :
    ∃ query joiner analyze,
      Clause.build .standard ⟨"title", none, none⟩ ⟨.contains, .text "*\\"⟩ (.ok none)
        = .ok (.leaf (.queryString query ["title"] joiner analyze) none) ∧
      read query.toList = [.active '*', .literal '*', .literal '\\', .active '*'] := by
  obtain ⟨text, query, joiner, analyze, written, built, reads⟩ :=
    escaped_reads_literally.2.2.2.2.2 .standard ⟨"title", none, none⟩ .contains (.text "*\\")
      (.ok none) _ _ rfl trivial
  cases written
  exact ⟨query, joiner, analyze, built, reads⟩

end SearchCriteria
