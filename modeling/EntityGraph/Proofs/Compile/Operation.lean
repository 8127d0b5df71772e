import EntityGraph.Proofs.Compile.WriteOutline

/-!
# Operations

All that can be asked of an entity, as data, and the statements that each operation is compiled to. A statement
about every compiled statement is a statement about every operation.
-/
namespace EntityGraph.Compile

open Cypher

/-- An operation on an entity, with its arguments. -/
inductive Operation where
  | find (criteria : Criteria)
  | findByRelated (relationship : String) (ids : List String) (criteria : Criteria)
  | findById (id : String)
  | findSimilar (vector : List Float) (k : Nat)
  | existsUnscoped (id : String)
  | write (mode : WriteMode) (input : Input)
  | delete (id : String)

/-- The statements of an operation. -/
structure Compiled where
  /-- The look-up of the nodes that a write links to. -/
  precheck : Option Statement
  main : Statement

/-- The statements that an operation is compiled to. -/
def Compiler.compile (c : Compiler) (caller : Caller) : Operation → Result Compiled
  | .find criteria => (c.find caller criteria).map (⟨none, ·⟩)
  | .findByRelated relationship ids criteria =>
    (c.findByRelated caller relationship ids criteria).map (⟨none, ·⟩)
  | .findById id => (c.findById caller id).map (⟨none, ·⟩)
  | .findSimilar vector k => (c.findSimilar caller vector k).map (⟨none, ·⟩)
  | .existsUnscoped id => (c.existsUnscoped id).map (⟨none, ·⟩)
  | .write mode input => (c.write caller input mode).map (fun plan => ⟨plan.precheck, plan.write⟩)
  | .delete id => (c.delete caller id).map (⟨none, ·⟩)

end EntityGraph.Compile
