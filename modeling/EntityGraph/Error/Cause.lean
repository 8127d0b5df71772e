import EntityGraph.Json.Printer

/-!
# Why an argument or a row is refused

One constructor for each reason, with the names and values that its text mentions.
-/
namespace EntityGraph

/-- Why an argument was refused before any statement was issued. -/
inductive ArgumentError where
  | badIdentifier (what token : String)
  | reservedName (label name : String)
  | constraintOnUndeclared (label property : String)
  | indexWithoutProperties (label index : String)
  | indexOnUndeclared (label index property : String)
  | indexWithoutDimensions (label index : String)
  | undeclaredFulltextIndex (label index : String)
  | defaultOrderOnUndeclared (label field : String)
  | registeredTwice (label : String)
  | conflictingParameter (name : String)
  | filterWithoutMatch
  | secondPageMarker
  | emptyStatement
  | noVectorIndex (label : String)
  | noNeighbours
  | noScore
  | unknownFilter (label field : String)
  | unknownOrder (label field : String)
  | missingId (label : String)
  | emptyRequired (label relationship : String)
  | severalTargets (label relationship : String)
  | unusableIds (relationship : String) (value : Json.Value)
  | noEdgeFields (relationship : String)
  | edgePropertiesNotByTarget (key : String)
  | edgeUpdatesNotByTarget (key : String)
  | strayTarget (key id : String)
  | unknownEdgeField (relationship field : String)
  | edgePropertiesNotObject (relationship : String) (value : Json.Value)
  | badTake (text : String)
  | zeroTake
  | badPosition (text : String)
  | idRequired
  | other (text : String)
  deriving Repr

/-- The text of a refused argument. -/
def ArgumentError.message : ArgumentError → String
  | badIdentifier what token => s!"{what} '{token}' is not a valid identifier"
  | reservedName label name => s!"{label}: '{name}' is managed by the engine and cannot be declared"
  | constraintOnUndeclared label property => s!"{label}: constraint on undeclared property '{property}'"
  | indexWithoutProperties label index => s!"{label}: index '{index}' lists no properties"
  | indexOnUndeclared label index property =>
    s!"{label}: index '{index}' covers undeclared property '{property}'"
  | indexWithoutDimensions label index => s!"{label}: vector index '{index}' needs dimensions"
  | undeclaredFulltextIndex label index =>
    s!"{label}: fulltext index '{index}' is not among the declared indexes"
  | defaultOrderOnUndeclared label field => s!"{label}: default order on undeclared property '{field}'"
  | registeredTwice label => s!"entity '{label}' registered twice"
  | conflictingParameter name => s!"parameter '{name}' bound twice with different values"
  | filterWithoutMatch => "filter requires a preceding MATCH or WITH"
  | secondPageMarker => "statement already has a page marker"
  | emptyStatement => "statement has no clauses"
  | noVectorIndex label => s!"{label} declares no vector index"
  | noNeighbours => "similarity search needs k > 0"
  | noScore => "vector lookup yields no score"
  | unknownFilter label field => s!"{label} has no field '{field}' to filter on"
  | unknownOrder label field => s!"{label} cannot be ordered by '{field}'"
  | missingId label => s!"{label} write needs a string id"
  | emptyRequired label relationship => s!"{label}: relationship '{relationship}' is required"
  | severalTargets label relationship => s!"{label}: relationship '{relationship}' links at most one node"
  | unusableIds relationship value => s!"relationship '{relationship}' expects ids, got " ++ value.text
  | noEdgeFields relationship => s!"relationship '{relationship}' declares no edge fields"
  | edgePropertiesNotByTarget key => s!"'{key}' must map target ids to edge properties"
  | edgeUpdatesNotByTarget key => s!"'{key}' must map target ids to declared edge fields"
  | strayTarget key id => s!"'{key}' has properties for '{id}', which is not linked"
  | unknownEdgeField relationship field => s!"relationship '{relationship}' has no edge field '{field}'"
  | edgePropertiesNotObject relationship value =>
    s!"edge properties for '{relationship}' must be an object, got " ++ value.text
  | badTake text => s!"take must be a positive integer, got '{text}'"
  | zeroTake => "take must be greater than zero"
  | badPosition text => s!"cursor '{text}' is not a valid position"
  | idRequired => "--id is required for this operation"
  | other text => text

/-- Why a row or an entity could not be mapped. -/
inductive MappingError where
  | noTotal
  | existenceWithout (column : String)
  | noNodeColumn (label column : String)
  | unusableId (resourceType : String)
  | unusableLinkage (relationship : String) (value : Json.Value)
  | other (text : String)
  deriving Repr

/-- The text of a mapping failure. -/
def MappingError.message : MappingError → String
  | noTotal => "count query returned no total"
  | existenceWithout column => s!"existence row without '{column}'"
  | noNodeColumn label column => s!"{label}: row has no '{column}' node column"
  | unusableId resourceType => s!"{resourceType}: entity has no usable id"
  | unusableLinkage relationship value => s!"relationship '{relationship}' has an unusable id: " ++ value.text
  | other text => text

/-- Why a configuration or a schema file could not be used. -/
inductive ConfigError where
  | unreadable (path : String)
  | unparsable (path : String)
  | invalid (field reason : String)
  deriving Repr, DecidableEq

/-- The text of a configuration failure. -/
def ConfigError.message : ConfigError → String
  | unreadable path => s!"failed to read config {path}"
  | unparsable path => s!"failed to parse config {path}"
  | invalid field reason => s!"invalid config value {field}: {reason}"

end EntityGraph
