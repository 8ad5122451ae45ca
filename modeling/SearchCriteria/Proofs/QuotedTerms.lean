import SearchCriteria.Proofs.SearchText

/-!
# How quoted terms are read

A search text of terms is a row of terms in quotation marks with a space between neighbours. Inside
the marks a backslash makes the character behind it literal, and the first mark that is not literal
ends the term. Behind the last term stands nothing, or the parenthesis that closes a negation. What
is read from the search text of a membership is the texts of the items that are not null.
-/

namespace SearchCriteria

namespace QueryString

mutual

/-- Reads a row of terms, the first of which has to begin here. -/
def readRow? (closing : List Char) : List Char → Option (List (List Char))
  | '\"' :: rest => readInside? closing [] rest
  | _ => none

/-- Reads on inside a term, the beginning of which has been read. -/
def readInside? (closing begun : List Char) : List Char → Option (List (List Char))
  | '\\' :: c :: rest => readInside? closing (begun ++ [c]) rest
  | '\"' :: rest => (readBehind? closing rest).map (begun :: ·)
  | c :: rest => readInside? closing (begun ++ [c]) rest
  | [] => none

/-- Reads what stands behind a term: the end of the row, or a space and the next term. -/
def readBehind? (closing : List Char) : List Char → Option (List (List Char))
  | [] => if closing = [] then some [] else none
  | c :: rest =>
    if closing = c :: rest then some []
    else if c = ' ' then readRow? closing rest
    else none

end

/-- Reads the terms in a search text of an operator. -/
def readTerms? (text : List Char) : Operator → Option (List (List Char))
  | .isIn => readRow? [] text
  | .notIn =>
    match text with
    | 'N' :: 'O' :: 'T' :: '(' :: rest => readRow? [')'] rest
    | _ => none
  | _ => none

variable {closing : List Char}

theorem readInside?_backslash (begun : List Char) (c : Char) (rest : List Char) :
    readInside? closing begun ('\\' :: c :: rest) = readInside? closing (begun ++ [c]) rest := by
  rw [readInside?]

theorem readInside?_cons {c : Char} (literal : c ≠ '\\') (inside : c ≠ '\"')
    (begun rest : List Char) :
    readInside? closing begun (c :: rest) = readInside? closing (begun ++ [c]) rest := by
  rw [readInside?]
  · exact fun _ _ same _ => literal same
  · exact fun same => inside same

/-- No character of an escaped text ends the term. -/
theorem readInside?_escapeChars_append (begun text rest : List Char) :
    readInside? closing begun (escapeChars text ++ '\"' :: rest)
      = (readBehind? closing rest).map ((begun ++ text) :: ·) := by
  induction text generalizing begun with
  | nil =>
    rw [escapeChars_nil, List.nil_append, readInside?, List.append_nil]
  | cons c others ih =>
    rw [escapeChars_cons]
    split
    case isTrue =>
      rw [List.append_assoc, List.cons_append, List.singleton_append, readInside?_backslash, ih,
        List.append_assoc, List.singleton_append]
    case isFalse plain =>
      have other {mark : Char} (mem : mark ∈ reserved) : c ≠ mark := by
        rintro rfl
        exact plain mem
      rw [List.append_assoc, List.singleton_append,
        readInside?_cons (other (by decide)) (other (by decide)), ih, List.append_assoc,
        List.singleton_append]

theorem readRow?_quote_append (text : String) (rest : List Char) :
    readRow? closing ((quote text).toList ++ rest)
      = (readBehind? closing rest).map (text.toList :: ·) := by
  have mark : "\"".toList = ['\"'] := rfl
  rw [quote, String.toList_append, String.toList_append, mark, List.append_assoc, List.append_assoc,
    List.singleton_append, List.singleton_append, readRow?, escape, String.toList_ofList,
    readInside?_escapeChars_append, List.nil_append]

theorem readBehind?_closing : readBehind? closing closing = some [] := by
  cases closing <;> simp [readBehind?]

theorem readBehind?_space (other : ∀ rest, closing ≠ ' ' :: rest) (rest : List Char) :
    readBehind? closing (' ' :: rest) = readRow? closing rest := by
  rw [readBehind?, if_neg (other rest), if_pos rfl]

/-- A row of quoted terms reads as the terms. -/
theorem readRow?_quotedTerms (other : ∀ rest, closing ≠ ' ' :: rest) {values : List String}
    (some : values ≠ []) :
    readRow? closing ((Clause.quotedTerms values).toList ++ closing)
      = .some (values.map String.toList) := by
  induction values with
  | nil => contradiction
  | cons first rest ih =>
    cases rest with
    | nil =>
      rw [Clause.quotedTerms, List.map_singleton, String.intercalate_singleton,
        readRow?_quote_append, readBehind?_closing]
      rfl
    | cons second rest =>
      have later := ih (List.cons_ne_nil second rest)
      have split : (Clause.quotedTerms (first :: second :: rest)).toList
          = (quote first).toList ++ ' ' :: (Clause.quotedTerms (second :: rest)).toList := by
        rw [Clause.quotedTerms, List.map_cons, List.map_cons, String.intercalate_cons_cons,
          String.toList_append, String.toList_append, List.append_assoc]
        rfl
      rw [split, List.append_assoc, readRow?_quote_append, List.cons_append,
        readBehind?_space other, later]
      rfl

end QueryString

open QueryString

namespace Clause

variable {field : String} {op : Operator} {values : List String} {tree : QueryTree}

theorem textMembership_reads (h : textMembership field values op = .ok tree) :
    ∃ query joiner analyze, tree = .leaf (.queryString query [field] joiner analyze) none ∧
      readTerms? query.toList op = some (values.map String.toList) := by
  unfold textMembership at h
  split at h
  case isTrue => contradiction
  case isFalse nonempty =>
    cases op with
    | isIn =>
      cases h
      have row := readRow?_quotedTerms (fun _ => (List.cons_ne_nil _ _).symm) nonempty
      rw [List.append_nil] at row
      exact ⟨_, _, _, rfl, row⟩
    | notIn =>
      cases h
      refine ⟨_, _, _, rfl, ?_⟩
      rw [String.toList_append, String.toList_append, List.append_assoc]
      exact readRow?_quotedTerms (by simp) nonempty
    | _ => contradiction

/-- The items that are not null have the texts. -/
theorem forall₂_filterMap_text? {items : List Operand} (all : ∀ item ∈ items, item.IsTerm) :
    List.Forall₂ (fun item text => item.text? = some text)
      (items.filter fun item => item.kind != .null) (items.filterMap Operand.text?) := by
  induction items with
  | nil => exact .nil
  | cons item rest ih =>
    obtain ⟨first, later⟩ := List.forall_mem_cons.mp all
    rcases first with rfl | scalar
    · exact ih later
    · obtain ⟨text, written⟩ := Operand.exists_text?_iff.mpr scalar
      rw [List.filter_cons_of_pos (by rw [scalar.kind]; rfl), List.filterMap_cons_some written]
      exact .cons written (ih later)

end Clause

/-- How an operator looks terms up on a keyword field. -/
def Operator.lookup (terms : Leaf) : Operator → QueryTree
  | .notIn => .bool { BoolQuery.none with mustNot := [.leaf terms none] }
  | _ => .bool { BoolQuery.none with must := [.leaf terms none] }

/-- The search text of a membership reads as a row of quoted terms, in a negation if it negates, and
the terms are the texts of the items that are not null, in their order. They are the terms that a
keyword field looks up for the same items, null left out. -/
theorem membership_reads_terms {settings : Settings} {field : ResolvedField} {op : Operator}
    {items : List Operand} {embedded : Except Fault (Option QueryTree)} {tree : QueryTree}
    (member : op = .isIn ∨ op = .notIn) (analyzed : field.isKeyword = false)
    (built : Clause.build settings field ⟨op, .sequence items⟩ embedded = .ok tree) :
    ∃ query joiner analyze texts,
      tree = .leaf (.queryString query [field.name] joiner analyze) none ∧
      readTerms? query.toList op = some (texts.map String.toList) ∧
      List.Forall₂ (fun item text => item.text? = some text)
        (items.filter fun item => item.kind != .null) texts ∧
      ∀ keyword : ResolvedField, keyword.isKeyword = true → ∃ values,
        Clause.build settings keyword ⟨op, .sequence items⟩ embedded
          = .ok (op.lookup (.terms keyword.name values)) ∧
        values.reduceOption = texts := by
  have family : op.family? = some .membership := by
    rcases member with rfl | rfl <;> rfl
  obtain ⟨admitted, made⟩ := (Clause.build_eq_ok_iff family).mp built
  obtain ⟨all, made⟩ := Clause.membership_eq_ok_iff.mp made
  rw [if_neg (Bool.eq_false_iff.mp analyzed)] at made
  obtain ⟨query, joiner, analyze, rfl, reads⟩ := Clause.textMembership_reads made
  refine ⟨query, joiner, analyze, _, rfl, reads, Clause.forall₂_filterMap_text? all, ?_⟩
  intro keyword exact
  refine ⟨items.map Operand.text?, ?_, ?_⟩
  · refine (Clause.build_eq_ok_iff family).mpr
      ⟨admitted, Clause.membership_eq_ok_iff.mpr ⟨all, ?_⟩⟩
    rw [if_pos exact]
    rcases member with rfl | rfl <;> rfl
  · rw [List.reduceOption, List.filterMap_map, Function.id_comp]

theorem membership_reads_terms_in_negation :
    let entry : Entry := ⟨.notIn, .sequence [.text "a\" \"b)", .null, .text "\\"]⟩
    ∃ query joiner analyze,
      Clause.build .standard ⟨"tag", none, none⟩ entry (.ok none)
        = .ok (.leaf (.queryString query ["tag"] joiner analyze) none) ∧
      readTerms? query.toList .notIn = some ["a\" \"b)".toList, "\\".toList] := by
  intro entry
  have builds : ∃ tree, Clause.build .standard ⟨"tag", none, none⟩ entry (.ok none) = .ok tree :=
    (Clause.exists_build_membership_iff rfl rfl rfl).mpr ⟨_, rfl, by decide, by decide,
      by simp [Operand.IsTerm, Operand.IsScalar], fun _ => ⟨.text "\\", by simp⟩⟩
  obtain ⟨tree, built⟩ := builds
  obtain ⟨query, joiner, analyze, texts, rfl, reads, same, -⟩ :=
    membership_reads_terms (Or.inr rfl) rfl built
  obtain ⟨_, _, first, rest, rfl⟩ := List.forall₂_cons_left_iff.mp same
  obtain ⟨_, _, second, none, rfl⟩ := List.forall₂_cons_left_iff.mp rest
  cases first
  cases second
  cases none
  exact ⟨query, joiner, analyze, built, reads⟩

end SearchCriteria
