import EntityGraph.Url.Domain.Label
import EntityGraph.Url.Percent

/-!
# Domain names

A domain is written in ASCII. Its characters are mapped to those that a domain uses and composed; the labels
between its dots are then written one by one.
-/
namespace EntityGraph.Url.Domain

/-- The composed characters of a domain, none if one of them is refused. -/
def characters? (cs : List Char) : Option (List Char) := do
  let images ← cs.mapM (fun c => mapped? c.toNat)
  some ((Unicode.composed images.flatten).map Char.ofNat)

/-- A domain in ASCII. -/
def toAscii? (cs : List Char) : Option String := do
  let labels ← ((← characters? cs).splitOn '.').mapM label?
  if labels.any (fun l => turns l.1) && !labels.all (fun l => goTogether (l.1.map Unicode.Direction.of)) then none
  else some (".".intercalate (labels.map (fun l => String.ofList l.2)))

/-- A domain in ASCII, from its percent-encoded form. -/
def ofEncoded? (cs : List Char) : Option String := do
  toAscii? (← Text.Utf8.decode? (percentDecode cs))

end EntityGraph.Url.Domain
