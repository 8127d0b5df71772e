import EntityGraph.Compile.Scope

/-!
# Edge properties

The properties that a write puts on the edges of a relationship: the declared defaults, overlaid with what the
input supplies. A `one` relationship takes a single map; a `many` relationship takes a map for each target.
-/
namespace EntityGraph.Compile

open Json (Value)
open Schema (Relationship)

/-- The input member with the properties of new edges. -/
def edgePropsKey (name : String) : String := name ++ "EdgeProps"

/-- The input member with the changes of edges that exist. -/
def edgeUpdateKey (name : String) : String := name ++ "EdgePropsUpdate"

/-- Accepts null and an object of declared edge properties. -/
def checkEdgeFields (name : String) (r : Relationship) (value : Value) : Result Unit :=
  match value with
  | .null => .ok ()
  | .obj members =>
    match members.find? (fun m => !r.fields.any (fun f => f.name = m.1)) with
    | some (unknown, _) => refuse (.unknownEdgeField name unknown)
    | none => .ok ()
  | v => refuse (.edgePropertiesNotObject name v)

/-- The declared defaults of a relationship's edges. -/
def edgeDefaults (r : Relationship) : Dict Value :=
  r.fields.foldl
    (fun d f => match f.default with
      | some v => d.insert f.name v
      | none => d)
    ∅

/-- The defaults, overlaid with the supplied properties. -/
def fillEdge (name : String) (r : Relationship) (supplied : Option Value) : Result (Dict Value) :=
  match supplied with
  | none => .ok (edgeDefaults r)
  | some v => do
    checkEdgeFields name r v
    .ok ((edgeDefaults r).overlay v.dict)

/-- The filled properties of each target. -/
def fillTargets (name : String) (r : Relationship) (supplied : Dict Value) :
    List String → Result (Dict Value)
  | ids => ids.foldlM
      (fun d id => (fillEdge name r (supplied.get? id)).map (fun props => d.insert id (.ofDict props))) ∅

/-- The properties that a write puts on the edges to the given targets. -/
def edgeProperties (name : String) (r : Relationship) (input : Dict Value) (ids : List String) :
    Result (Option Value) :=
  let supplied := (input.get? (edgePropsKey name)).filter (fun v => !v.isNull)
  if r.fields.isEmpty then
    if supplied.isSome then refuse (.noEdgeFields name) else .ok none
  else
    match r.cardinality with
    | .one => (fillEdge name r supplied).map (fun props => some (.ofDict props))
    | .many => do
      let perTarget ← match supplied with
        | none => .ok ∅
        | some (.obj members) => .ok (Dict.ofList members)
        | some _ => refuse (.edgePropertiesNotByTarget (edgePropsKey name))
      match perTarget.keys.find? (fun id => !ids.contains id) with
      | some stray => refuse (.strayTarget (edgePropsKey name) stray)
      | none => (fillTargets name r perTarget ids).map (fun props => some (.ofDict props))

end EntityGraph.Compile
