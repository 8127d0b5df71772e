import EntityGraph.Session.Transaction

/-!
# Scripted answers

A database that answers by rules: the first rule that fits the query and the transaction, and is not used up,
gives the rows or the failure. Where none fits there are no rows.
-/
namespace EntityGraph.Session

open Cypher (Query)

/-- A rule. -/
structure Rule where
  /-- What the text of the query must contain. -/
  contains : String
  /-- The transactions that the rule is for; all if absent. -/
  mode : Option Mode
  /-- How often the rule may still answer; without end if absent. -/
  left : Option Nat
  outcome : Outcome

/-- Whether one text occurs in another. -/
def occursIn (part : List Char) : List Char → Bool
  | [] => part.isEmpty
  | c :: rest => part.isPrefixOf (c :: rest) || occursIn part rest

/-- Whether a rule answers a query. -/
def Rule.fits (r : Rule) (mode : Mode) (q : Query) : Bool :=
  r.left != some 0 && (r.mode.map (fun m => decide (m = mode))).getD true && occursIn r.contains.toList q.text.toList

/-- The rule after it has answered once more. -/
def Rule.used (r : Rule) : Rule := { r with left := r.left.map (· - 1) }

/-- The answer of a list of rules, and the rules after it. -/
def respond : Responder (List Rule)
  | [], _, _ => (.ok [], [])
  | r :: rest, mode, q =>
    if r.fits mode q then (r.outcome, r.used :: rest)
    else
      let (outcome, rest) := respond rest mode q
      (outcome, r :: rest)

end EntityGraph.Session
