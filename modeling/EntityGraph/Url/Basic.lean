/-!
# URLs

A URL in its parts, each in the form in which it is written.
-/
namespace EntityGraph

/-- The path of a URL: segments, each behind a slash, or one text that has no structure. -/
inductive Url.Path where
  | plain (text : String)
  | segments (items : List String)
  deriving Repr, DecidableEq, Inhabited

/-- A URL. -/
structure Url where
  scheme : String
  username : String
  password : String
  /-- Present when the URL has an authority, even an empty one. -/
  host : Option String
  /-- Present when it is not the default of the scheme. -/
  port : Option Nat
  path : Url.Path
  query : Option String
  fragment : Option String
  deriving Repr, DecidableEq, Inhabited

/-- Why a text is no URL. -/
inductive UrlError where
  | noScheme
  | emptyHost
  | badPort
  | badIpv4
  | badIpv6
  | badHostCharacter
  | badDomain
  deriving Repr, DecidableEq, Inhabited

def UrlError.message : UrlError → String
  | noScheme => "relative URL without a base"
  | emptyHost => "empty host"
  | badPort => "invalid port number"
  | badIpv4 => "invalid IPv4 address"
  | badIpv6 => "invalid IPv6 address"
  | badHostCharacter => "invalid domain character"
  | badDomain => "invalid international domain name"

namespace Url

/-- The text of segments. -/
def segmentsText (items : List String) : String := String.join (items.map ("/" ++ ·))

/-- The text of a path. One that begins with two slashes would read as an authority where there is none, so that
it is written behind a dot. -/
def pathText (hasHost : Bool) : Path → String
  | .plain text => text
  | .segments items =>
    let text := segmentsText items
    if !hasHost && text.startsWith "//" then "/." ++ text else text

/-- The user name and the password with the mark behind them. -/
def credentials (u : Url) : String :=
  if u.username = "" && u.password = "" then ""
  else u.username ++ (if u.password = "" then "" else ":" ++ u.password) ++ "@"

/-- Everything between the scheme and the path. -/
def authority (u : Url) : String :=
  match u.host with
  | none => ""
  | some host => "//" ++ u.credentials ++ host ++ (u.port.map (fun n => ":" ++ Nat.repr n)).getD ""

/-- The text of a URL. -/
def text (u : Url) : String :=
  u.scheme ++ ":" ++ u.authority ++ pathText u.host.isSome u.path ++ (u.query.map ("?" ++ ·)).getD "" ++
    (u.fragment.map ("#" ++ ·)).getD ""

end Url
end EntityGraph
