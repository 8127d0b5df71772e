import EntityGraph.Json.Value

/-!
# Callers

Who asks: the tenant and the user, whether access is elevated beyond tenant scope, and further values that
relationships may fall back to.
-/
namespace EntityGraph

/-- The identity behind a request. -/
structure Caller where
  company : Option String
  user : Option String
  elevated : Bool
  values : Dict Json.Value

namespace Caller

/-- Nobody in particular, and without access beyond a tenant. -/
def anonymous : Caller := ⟨none, none, false, ∅⟩

/-- A member of a company. -/
def member (company user : String) : Caller :=
  ⟨some company, some user, false, Dict.empty.insert "userId" (.str user)⟩

/-- A user who is exempt from tenant scope. -/
def exempt (user : String) : Caller := ⟨none, some user, true, Dict.empty.insert "userId" (.str user)⟩

/-- Maintenance without any identity. -/
def system : Caller := ⟨none, none, true, ∅⟩

def withCompany (c : Caller) (company : String) : Caller := { c with company := some company }

def withValue (c : Caller) (key : String) (value : Json.Value) : Caller :=
  { c with values := c.values.insert key value }

/-- The value of a key. The ids of company and user go before values of the same name. -/
def value? (c : Caller) (key : String) : Option Json.Value :=
  if key = "companyId" then c.company.map .str
  else if key = "userId" then c.user.map .str
  else c.values.get? key

end Caller
end EntityGraph
