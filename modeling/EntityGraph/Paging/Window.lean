/-!
# Windows

The rows of a paged statement that are asked for.
-/
namespace EntityGraph.Paging

/-- A range of rows. -/
inductive Window where
  | all
  | first (limit : Nat)
  | offset (skip limit : Nat)
  deriving Repr, DecidableEq, Inhabited

end EntityGraph.Paging
