import EntityGraph.Url.Address
import EntityGraph.Url.Basic
import EntityGraph.Url.Domain

/-!
# Hosts

A host between brackets is an IPv6 address. Where the scheme is one of the web's, any other host is a domain, or
an IPv4 address if its last part is a number; elsewhere it is a text of its own.
-/
namespace EntityGraph.Url

/-- The address between brackets. -/
def bracketed (cs : List Char) : Except UrlError String :=
  if cs.getLast? = some ']' then
    match Address.ipv6? cs.dropLast with
    | some pieces => .ok ("[" ++ Address.ipv6Text pieces ++ "]")
    | none => .error .badIpv6
  else .error .badIpv6

/-- The host of a URL with a web scheme. -/
def webHost (cs : List Char) : Except UrlError String :=
  match cs with
  | '[' :: rest => bracketed rest
  | _ =>
    match Domain.ofEncoded? cs with
    | none => .error .badDomain
    | some domain =>
      if domain = "" then .error .emptyHost
      else if Address.endsInNumber domain.toList then
        match Address.ipv4? domain.toList with
        | some value => .ok (Address.ipv4Text value)
        | none => .error .badIpv4
      else .ok domain

/-- The characters that no host may have. -/
def isHostBreaker (c : Char) : Bool :=
  c.toNat = 0 || ['\t', '\n', '\r', ' ', '#', '/', ':', '<', '>', '?', '@', '[', '\\', ']', '^', '|'].contains c

/-- The host of a URL with any other scheme. -/
def plainHost (cs : List Char) : Except UrlError String :=
  match cs with
  | '[' :: rest => bracketed rest
  | _ =>
    if cs.any isHostBreaker then .error .badHostCharacter
    else .ok (String.ofList (percentEncode isControl cs))

end EntityGraph.Url
