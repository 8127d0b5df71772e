import EntityGraph.Document.Basic
import EntityGraph.Error

/-!
# Error documents

A failure as a document. References that are missing are told one by one.
-/
namespace EntityGraph.Document

/-- The title of a class of responses. -/
def title (status : Nat) : String :=
  if status = 400 then "Bad Request"
  else if status = 403 then "Forbidden"
  else if status = 404 then "Not Found"
  else "Internal Server Error"

/-- What happened, in one or more sentences that stand alone. -/
def details (e : GraphError) : List String :=
  match e with
  | .referentialIntegrity missing =>
    if missing.isEmpty then [e.message] else missing.map (fun r => "referenced node not found: " ++ r.text)
  | _ => [e.message]

/-- The document of a failure. -/
def ofError (e : GraphError) : Document :=
  ⟨none, none, [], none, (details e).map (fun d => ⟨Nat.repr e.status, e.code, title e.status, d⟩)⟩

end EntityGraph.Document
