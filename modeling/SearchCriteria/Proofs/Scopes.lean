import SearchCriteria.Proofs.FilterVerdict
import SearchCriteria.Proofs.Pieces

/-!
# Where moves to nested documents stand

Whether a document matches can depend on what stands inside a move to nested documents and what
outside. All predicates of a criterion that scores are moved together, and with them nothing but the
group that they make; in a filter each predicate is moved alone. Negation, alternatives and what is
nested in criteria is joined outside. So above a predicate there is the move of its own field or
none, and no move stands in another one.
-/

namespace SearchCriteria

namespace QueryTree

/-- Nothing but boolean queries without a boost stands between trees and what they are made of. So
all moves to nested documents, and all predicates, are those of what they are made of. -/
structure MadeOf (trees units : List QueryTree) : Prop where
  opens : Opens trees units
  moves : (trees.flatMap moves).Perm (units.flatMap moves)
  predicates : (trees.flatMap predicates).Perm (units.flatMap predicates)

theorem Opens.madeOf {trees units : List QueryTree} (h : Opens trees units) :
    MadeOf trees units where
  opens := h
  moves := h.flatMap_perm fun q _ => moves_bool q
  predicates := h.flatMap_perm fun q _ => predicates_bool q

end QueryTree

/-- Nothing in a group is moved, the tree of the group has one move, at its root, if the field of
the group lives in nested documents, and none otherwise, and what stands in the tree are the
predicates of the group, below that move. -/
structure ResolvedField.Scopes (field : ResolvedField) (scoreMode : ScoreMode)
    (group tree : QueryTree) : Prop where
  inner : group.moves = []
  moves : tree.moves = if field.nestedPath.isSome then [([], tree)] else []
  predicates : tree.predicates = group.predicates.map fun part => (field.scope scoreMode, part.2)

theorem ResolvedField.Encloses.scopes {field : ResolvedField} {scoreMode : ScoreMode}
    {group tree : QueryTree} {boost : Option Double} (h : field.Encloses scoreMode group tree)
    (flat : group.Flat boost) : field.Scopes scoreMode group tree where
  inner := flat.moves
  moves := h.moves flat.moves
  predicates := by
    rw [h.predicates]
    apply List.map_congr_left
    intro part mem
    rw [flat.scope_eq_nil part mem, List.append_nil]

namespace Compiler

/-- A scoring tree is made of one piece for each criterion that has scoring entries, and in it all
predicates of the criterion stand together below one move, or below none. A filter is made of one
piece for each filtering entry, in which its predicate stands alone below one move, or below none.
What joins the pieces, for the joiners and negations of criteria and for criteria nested in others,
stands above all moves. -/
theorem nested_scoping (c : Compiler) (criteria : Criteria) :
    (∀ result, c.compile criteria = .ok result →
      ∃ pieces : List Piece,
        List.Forall₂ (fun criterion piece => piece.IsOf c criterion ∧
          (c.resolve piece.field).Scopes c.settings.nestedScoreMode piece.group piece.tree)
          criteria.scoring pieces ∧
        QueryTree.MadeOf result.toList (pieces.map Piece.tree)) ∧
    (∀ filter, c.compileFilter criteria = .ok filter →
      ∃ pieces : List Filter.Piece,
        List.Forall₂ (fun source piece => piece.IsOf c.resolve source ∧
          (c.resolve piece.field).Scopes .none (.geo piece.predicate) piece.tree)
          criteria.filtering pieces ∧
        QueryTree.MadeOf filter.toList (pieces.map Filter.Piece.tree)) := by
  constructor
  case left =>
    intro result compiled
    obtain ⟨pieces, own, opens⟩ := compile_opensTo compiled
    refine ⟨pieces, own.imp ?_, opens.madeOf⟩
    intro criterion piece isOf
    exact ⟨isOf, isOf.enclosed.scopes isOf.flat⟩
  case right =>
    intro filter compiled
    obtain ⟨pieces, own, opens⟩ := Filter.ofCriteria_opensTo compiled
    refine ⟨pieces, own.imp ?_, opens.madeOf⟩
    intro source piece isOf
    exact ⟨isOf, isOf.enclosed.scopes (QueryTree.flat_geo piece.predicate)⟩

/-- Two entries on a field in nested documents, and nested in their criterion an alternative that is
excluded. Two boxes, one of them in nested documents, are excluded. -/
def scopedLevels : Criteria :=
  ⟨[{ Criterion.present "a" .and false with
      field := some ⟨"a", none, some "n"⟩
      queryEntries := [⟨.present, .null⟩, ⟨.empty, .null⟩]
      nested := [⟨[.present "b" .or true]⟩] },
    { Criterion.boxed "c" with negated := true, field := some ⟨"c", none, some "n"⟩ },
    { Criterion.boxed "d" with negated := true }]⟩

/-- The scoring tree and the filter have two pieces each. -/
theorem nested_scoping_scopedLevels :
    ∃ tree filter, standard.compile scopedLevels = .ok (some tree) ∧
      standard.compileFilter scopedLevels = .ok (some filter) ∧
      (∃ pieces : List Piece, pieces.length = 2 ∧
        QueryTree.MadeOf [tree] (pieces.map Piece.tree)) ∧
      ∃ pieces : List Filter.Piece, pieces.length = 2 ∧
        QueryTree.MadeOf [filter] (pieces.map Filter.Piece.tree) := by
  have compiled : standard.compile scopedLevels = .ok (some _) := rfl
  have filtered : standard.compileFilter scopedLevels = .ok (some _) := rfl
  obtain ⟨scoring, filtering⟩ := nested_scoping standard scopedLevels
  obtain ⟨pieces, own, made⟩ := scoring _ compiled
  obtain ⟨pieces', own', made'⟩ := filtering _ filtered
  exact ⟨_, _, compiled, filtered, ⟨pieces, own.length_eq.symm, made⟩,
    ⟨pieces', own'.length_eq.symm, made'⟩⟩

end Compiler

end SearchCriteria
