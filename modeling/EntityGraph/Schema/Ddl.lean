import EntityGraph.Schema.Descriptor

/-!
# Constraint and index statements

One statement for each constraint and then for each index of a descriptor, in the order declared. Each may be
run again without effect.
-/
namespace EntityGraph.Schema

/-- A text with its ASCII letters in lower case. -/
def lowered (s : String) : String := String.ofList (s.toList.map Char.toLower)

/-- The statement that makes a property unique. -/
def constraintStatement (label property : String) : String :=
  "CREATE CONSTRAINT " ++ lowered label ++ "_" ++ property ++ "_unique IF NOT EXISTS FOR (n:" ++ label ++
    ") REQUIRE n." ++ property ++ " IS UNIQUE"

/-- The statement that creates an index. -/
def Index.statement (label : String) (i : Index) : String :=
  let properties := ", ".intercalate (i.properties.map ("n." ++ ·))
  match i.kind with
  | .range => "CREATE INDEX " ++ i.name ++ " IF NOT EXISTS FOR (n:" ++ label ++ ") ON (" ++ properties ++ ")"
  | .fulltext =>
    "CREATE FULLTEXT INDEX " ++ i.name ++ " IF NOT EXISTS FOR (n:" ++ label ++ ") ON EACH [" ++ properties ++ "]"
  | .vector =>
    "CREATE VECTOR INDEX " ++ i.name ++ " IF NOT EXISTS FOR (n:" ++ label ++ ") ON (" ++ properties ++
      ") OPTIONS \x7bindexConfig: \x7b\x60vector.dimensions\x60: " ++ Nat.repr (i.dimensions.getD 0) ++
      ", \x60vector.similarity_function\x60: '" ++ i.similarity.getD "cosine" ++ "'\x7d\x7d"

/-- The statements of a descriptor. -/
def Descriptor.ddl (d : Descriptor) : List String :=
  d.constraints.map (constraintStatement d.label) ++ d.indexes.map (Index.statement d.label)

end EntityGraph.Schema
