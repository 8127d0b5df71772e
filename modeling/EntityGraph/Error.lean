import EntityGraph.Error.Cause
import EntityGraph.Text.Duration

/-!
# Failures

Every failure that the compiler, the execution client, the repository and the document assembler can report,
with its code, its status and its text.
-/
namespace EntityGraph

/-- The class of a database failure. Transient and connection failures may be retried. -/
inductive FaultKind where
  | transient
  | connection
  | query
  deriving Repr, DecidableEq, Inhabited

def FaultKind.name : FaultKind → String
  | transient => "Transient"
  | connection => "Connection"
  | query => "Query"

/-- A failure that the database reported. -/
structure DatabaseFault where
  kind : FaultKind
  message : String
  deriving Repr, DecidableEq, Inhabited

def DatabaseFault.text (fault : DatabaseFault) : String := fault.kind.name ++ ": " ++ fault.message

/-- A reference to a related node: the relationship, the label of its target, and the target's id. -/
structure Reference where
  relationship : String
  label : String
  id : String
  deriving Repr, DecidableEq, Inhabited

def Reference.text (r : Reference) : String := s!"{r.label}:{r.id} ({r.relationship})"

/-- What can go wrong. -/
inductive GraphError where
  | readExecution (entity query : String) (source : DatabaseFault)
  | writeExecution (entity query : String) (attempts : Nat) (source : DatabaseFault)
  | referentialIntegrity (missing : List Reference)
  | accessDenied (entity id : String)
  | notFound (entity id : String)
  | unknownRelationship (entity relationship : String)
  | transactionRollback (index : Nat) (source : DatabaseFault)
  | poolTimeout (waited : Duration)
  | missingTenant (entity : String)
  | invalidArgument (cause : ArgumentError)
  | mapping (cause : MappingError)
  | config (cause : ConfigError)
  deriving Repr

/-- A result or the failure that prevented it. -/
abbrev Result := Except GraphError

namespace GraphError

/-- The name of the failure for machines. -/
def code : GraphError → String
  | readExecution .. => "ReadExecutionError"
  | writeExecution .. => "WriteExecutionError"
  | referentialIntegrity _ => "ReferentialIntegrityError"
  | accessDenied .. => "AccessDeniedError"
  | notFound .. => "NotFoundError"
  | unknownRelationship .. => "UnknownRelationshipError"
  | transactionRollback .. => "TransactionRollbackError"
  | poolTimeout _ => "PoolTimeoutError"
  | missingTenant _ => "MissingTenantError"
  | invalidArgument _ => "InvalidArgument"
  | mapping _ => "MappingError"
  | config _ => "ConfigError"

/-- The response status of the failure. -/
def status : GraphError → Nat
  | accessDenied .. => 403
  | notFound .. => 404
  | unknownRelationship .. => 400
  | referentialIntegrity _ => 400
  | invalidArgument _ => 400
  | missingTenant _ => 403
  | _ => 500

/-- Whether the failure came from running statements. -/
def isExecution : GraphError → Bool
  | readExecution .. => true
  | writeExecution .. => true
  | transactionRollback .. => true
  | poolTimeout _ => true
  | _ => false

/-- The text of the failure. -/
def message : GraphError → String
  | readExecution entity _ source => s!"read failed for {entity}: {source.text}"
  | writeExecution entity _ attempts source =>
    s!"write failed for {entity} after {Nat.repr attempts} attempt(s): {source.text}"
  | referentialIntegrity missing =>
    "referenced node(s) not found: " ++ ", ".intercalate (missing.map Reference.text)
  | accessDenied entity id => s!"access to {entity} '{id}' denied"
  | notFound entity id => s!"{entity} '{id}' not found"
  | unknownRelationship entity relationship => s!"{entity} has no relationship named '{relationship}'"
  | transactionRollback index source =>
    s!"transaction rolled back at statement {Nat.repr index}: {source.text}"
  | poolTimeout waited => s!"no database session available after {waited.text}"
  | missingTenant entity => s!"{entity} is company scoped but the request carries no company"
  | invalidArgument cause => s!"invalid argument: {cause.message}"
  | mapping cause => s!"mapping error: {cause.message}"
  | config cause => cause.message

/-- The text of the failure behind its code. -/
def messageWithCode (e : GraphError) : String := s!"[{e.code}] {e.message}"

end GraphError

/-- The failure of a refused argument. -/
def refuse {α : Type} (cause : ArgumentError) : Result α := .error (.invalidArgument cause)

end EntityGraph
