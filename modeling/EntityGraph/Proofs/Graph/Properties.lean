import EntityGraph.Proofs.Dict
import EntityGraph.Proofs.Graph.Matching

/-!
# Properties under assignments

What a `SET` makes of the properties of a vertex or an arc: a value goes under its key, null removes what is there, and
a map does so for each of its entries.
-/
namespace EntityGraph.Graph

/-- Sets a property. Null removes it. -/
def setProp (props : Dict Val) (key : String) (v : Val) : Dict Val :=
  if v.isNull then props.erase key else props.insert key v

/-- What a value leaves under a key that it is assigned to. -/
def Val.present? (v : Val) : Option Val := if v.isNull then none else some v

theorem get?_setProp (props : Dict Val) (key other : String) (v : Val) :
    (setProp props key v).get? other = if other = key then v.present? else props.get? other := by
  unfold setProp Val.present?
  split
  · rw [Dict.get?_erase]
  · rw [Dict.get?_insert]

/-- Sets a property for each entry of a map. -/
def overlayProps (props : Dict Val) : Val → Dict Val
  | .map entries => entries.foldl (fun props e => setProp props e.1 e.2) props
  | _ => props

end EntityGraph.Graph

namespace EntityGraph.Cypher

open EntityGraph.Graph

/-- The properties of the element that a variable stands for, after an assignment in a row. -/
def Assignment.props (x : Context) (env : Env) (name : String) (props : Dict Val) : Assignment → Dict Val
  | .assign var key e => if var = name then setProp props key (e.value x env) else props
  | .overlay var map => if var = name then overlayProps props (map.value x env) else props

end EntityGraph.Cypher
