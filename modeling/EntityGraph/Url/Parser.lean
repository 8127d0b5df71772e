import EntityGraph.Url.Host

/-!
# Reading URLs

A URL must begin with a scheme. The web's schemes always have a host and read a backslash as a slash; a `file`
URL may lack the host; any other URL has an authority behind two slashes, a path behind one, and otherwise a text
without structure.
-/
namespace EntityGraph.Url

/-- The kinds of scheme. -/
inductive SchemeKind where
  | web
  | file
  | other
  deriving Repr, DecidableEq, Inhabited

def SchemeKind.ofScheme (scheme : String) : SchemeKind :=
  if ["http", "https", "ws", "wss", "ftp"].contains scheme then .web
  else if scheme = "file" then .file
  else .other

/-- Whether a backslash counts as a slash. -/
def SchemeKind.isSpecial : SchemeKind → Bool
  | .other => false
  | _ => true

/-- The port that a scheme has without saying so. -/
def defaultPort? : String → Option Nat
  | "http" => some 80
  | "https" => some 443
  | "ws" => some 80
  | "wss" => some 443
  | "ftp" => some 21
  | _ => none

/-! ## Cleaning and scheme -/

/-- Whether a character is passed over wherever it stands: a tab or a line end. -/
def isPassedOver (c : Char) : Bool := c == '\t' || c == '\n' || c == '\r'

/-- The text without the characters that are passed over. -/
def clean (cs : List Char) : List Char := cs.filter (fun c => !isPassedOver c)

/-- The text without controls and spaces at its ends. -/
def trim (cs : List Char) : List Char :=
  let blank (c : Char) : Bool := c.toNat ≤ 0x20
  ((cs.dropWhile blank).reverse.dropWhile blank).reverse

def isSchemeChar (c : Char) : Bool := c.isAlphanum || c == '+' || c == '-' || c == '.'

/-- The scheme in small letters and what follows its colon. -/
def scheme? (cs : List Char) : Option (String × List Char) :=
  let name := clean (cs.takeWhile (· ≠ ':'))
  match name.head?, cs.dropWhile (· ≠ ':') with
  | some first, _ :: rest =>
    if first.isAlpha && name.all isSchemeChar then some (String.ofList (name.map Char.toLower), rest) else none
  | _, _ => none

/-- Whether a character ends the authority. -/
def endsAuthority (kind : SchemeKind) (c : Char) : Bool :=
  c == '/' || c == '?' || c == '#' || (kind.isSpecial && c == '\\')

/-! ## Paths -/

/-- Splits a path into its segments. -/
def splitPath (special : Bool) (piece : List Char) : List Char → List (List Char)
  | [] => [piece]
  | c :: rest =>
    if c == '/' || (special && c == '\\') then piece :: splitPath special [] rest
    else splitPath special (piece ++ [c]) rest

/-- The text of a segment with encoded dots read as dots. -/
def plainDots : List Char → List Char
  | '%' :: '2' :: 'e' :: rest => '.' :: plainDots rest
  | '%' :: '2' :: 'E' :: rest => '.' :: plainDots rest
  | c :: rest => c :: plainDots rest
  | [] => []

/-- Whether two characters name a drive. -/
def namesDrive (letter mark : Char) : Bool := letter.isAlpha && (mark == ':' || mark == '|')

/-- Whether a segment names a drive. -/
def isDrive : List Char → Bool
  | [letter, mark] => namesDrive letter mark
  | _ => false

/-- Whether a segment cannot be left upwards: it names a drive, alone or up to a mark that could end it. -/
def isPinned : List Char → Bool
  | [letter, mark] => namesDrive letter mark
  | letter :: mark :: stop :: _ => namesDrive letter mark && stop == '\\'
  | _ => false

/-- The segments without the last one, which stays if it is pinned. -/
def dropSegment (items : List (List Char)) : List (List Char) :=
  if items.getLast?.any isPinned then items else items.dropLast

/-- The segments that were read. -/
structure Trail where
  items : List (List Char)
  /-- Whether the first segment was read as a drive. -/
  onDrive : Bool

namespace Trail

def empty : Trail := ⟨[], false⟩

/-- Ends a path behind a slash if it ends here. -/
def close (t : Trail) (isLast : Bool) : Trail := if isLast then { t with items := t.items ++ [[]] } else t

/-- The parts of a first segment whose drive is cut off from the rest by characters that are passed over. -/
def splitDrive? (segment : List Char) : Option (List Char × List Char) :=
  let solid := segment.dropWhile isPassedOver
  let mark := (solid.drop 1).dropWhile isPassedOver
  match solid, mark with
  | letter :: _, ':' :: gap =>
    let rest := clean gap
    if letter.isAlpha && gap.head?.any isPassedOver && !rest.isEmpty then some ([letter, ':'], rest) else none
  | _, _ => none

/-- Takes in one segment. One dot is the place itself and two are the place above it; at the end of a path either
leaves an empty segment. In a `file` path a first segment may be a drive. -/
def add (kind : SchemeKind) (t : Trail) (segment : List Char) (isLast : Bool) : Trail :=
  let text := clean segment
  let onFirst := kind = .file ∧ t.items.isEmpty
  match if onFirst then splitDrive? segment else none with
  | some (drive, rest) => { t with items := [drive, percentEncode inPathSet rest] }
  | none =>
    if plainDots text = ['.', '.'] then close { t with items := dropSegment t.items } isLast
    else if plainDots text = ['.'] then close t isLast
    else if onFirst ∧ isDrive text then ⟨[text.take 1 ++ [':']], true⟩
    else { t with items := t.items ++ [percentEncode inPathSet text] }

/-- Takes in all segments of a path. -/
def addAll (kind : SchemeKind) (t : Trail) : List (List Char) → Trail
  | [] => t
  | [last] => t.add kind last true
  | segment :: rest => addAll kind (t.add kind segment false) rest

end Trail

/-- A path whose first slash has been read. -/
def readTrail (kind : SchemeKind) (cs : List Char) : Trail :=
  Trail.empty.addAll kind (splitPath kind.isSpecial [] cs)

/-- The segments of a path whose first slash has been read. -/
def readSegments (kind : SchemeKind) (cs : List Char) : List (List Char) := (readTrail kind cs).items

/-- Segments without empty ones in front; at least one is left. -/
def dropEmpty (items : List (List Char)) : List (List Char) :=
  let kept := items.dropWhile List.isEmpty
  if kept.isEmpty then [[]] else kept

/-- The path behind an authority. -/
def authorityPath (kind : SchemeKind) (cs : List Char) : Path :=
  let items := match cs with
    | [] => if kind.isSpecial then [[]] else []
    | c :: rest => if endsAuthority kind c then readSegments kind rest else readSegments kind cs
  .segments (items.map String.ofList)

/-! ## Authority -/

/-- The place of the last character of a kind. -/
def splitLast? (c : Char) (cs : List Char) : Option (List Char × List Char) :=
  if cs.contains c then
    some ((cs.reverse.dropWhile (· ≠ c)).drop 1 |>.reverse, (cs.reverse.takeWhile (· ≠ c)).reverse)
  else none

/-- The host and what follows it: a colon outside brackets ends the host. -/
def splitHost (inBrackets : Bool) : List Char → List Char × List Char
  | [] => ([], [])
  | c :: rest =>
    if c = ':' ∧ !inBrackets then ([], c :: rest)
    else
      let next := splitHost (c = '[' || (inBrackets && c ≠ ']')) rest
      (c :: next.1, next.2)

/-- A port. Digits may be missing. -/
def readPort (scheme : String) (cs : List Char) : Except UrlError (Option Nat) :=
  if cs.isEmpty then .ok none
  else if cs.all Char.isDigit then
    let port := cs.foldl (fun value c => value * 10 + (c.toNat - 48)) 0
    if 65536 ≤ port then .error .badPort
    else .ok (if defaultPort? scheme = some port then none else some port)
  else .error .badPort

/-- The path, the query and the fragment of what follows the authority. -/
structure Tail where
  path : List Char
  query : Option String
  fragment : Option String

def splitTail (kind : SchemeKind) (cs : List Char) : Tail :=
  let beforeHash := cs.takeWhile (· ≠ '#')
  let fragment := (cs.dropWhile (· ≠ '#')).tail?
  let query := (beforeHash.dropWhile (· ≠ '?')).tail?
  let querySet := if kind.isSpecial then inSpecialQuerySet else inQuerySet
  ⟨beforeHash.takeWhile (· ≠ '?'), query.map (fun q => String.ofList (percentEncode querySet q)),
    fragment.map (fun f => String.ofList (percentEncode inFragmentSet f))⟩

/-- The URL whose authority and tail are given as texts. -/
def readAuthority (scheme : String) (kind : SchemeKind) (cs : List Char) : Except UrlError Url := do
  let span := cs.takeWhile (fun c => !endsAuthority kind c)
  let (userinfo, place) := (splitLast? '@' span).getD ([], span)
  if userinfo.isEmpty && place.isEmpty && !span.isEmpty && span.length < cs.length then
    .error .emptyHost
  let username := userinfo.takeWhile (· ≠ ':')
  let password := (userinfo.dropWhile (· ≠ ':')).drop 1
  let (host, port) := splitHost false place
  if host.isEmpty && (kind = .web || !port.isEmpty) then .error .emptyHost
  let hostText ← if kind = .web then webHost host else plainHost host
  let (digits, junk) := if kind = .web then (port, []) else (port.takeWhile (· ≠ '\\'), port.dropWhile (· ≠ '\\'))
  let port ← readPort scheme (digits.drop 1)
  if hostText = "" && !(username.isEmpty && password.isEmpty) then .error .emptyHost
  let tail := splitTail kind (junk ++ cs.dropWhile (fun c => !endsAuthority kind c))
  let encode (part : List Char) := String.ofList (percentEncode inUserinfoSet part)
  .ok ⟨scheme, encode username, encode password, some hostText, port, authorityPath kind tail.path, tail.query,
    tail.fragment⟩

/-- Drops slashes of either kind. -/
def dropSlashes (cs : List Char) : List Char := cs.dropWhile (fun c => c == '/' || c == '\\')

def isSlash (c : Char) : Bool := c == '/' || c == '\\'

/-- What follows the first character that is not passed over, if that is a slash of either kind. -/
def afterSlash? (cs : List Char) : Option (List Char) :=
  match cs.dropWhile isPassedOver with
  | c :: rest => if isSlash c then some rest else none
  | [] => none

/-- The `file` URL of a host and a path whose first slash has been read. A host in front of a drive is no host. A
path has no empty segments in front. -/
def fileUrl (host : String) (rest : List Char) : Url :=
  let path := rest.takeWhile (fun c => c ≠ '?' ∧ c ≠ '#')
  let tail := splitTail .file (clean (rest.drop path.length))
  let trail := readTrail .file path
  ⟨"file", "", "", some (if trail.onDrive then "" else host), none,
    .segments ((dropEmpty trail.items).map String.ofList), tail.query, tail.fragment⟩

/-- A `file` URL. The local host is no host. Where there is none behind two slashes, the path begins with the
slash of its own. -/
def readFile (cs : List Char) : Except UrlError Url :=
  match afterSlash? cs with
  | none => .ok (fileUrl "" cs)
  | some single =>
    match afterSlash? single with
    | none => .ok (fileUrl "" single)
    | some rest =>
      let span := rest.takeWhile (fun c => !endsAuthority .file c)
      let host := clean span
      let behind := rest.drop span.length
      if isDrive host then .ok (fileUrl "" rest)
      else if host.isEmpty then .ok (fileUrl "" behind)
      else do
        let host ← webHost host
        if host = "localhost" then .ok (fileUrl "" behind)
        else .ok (fileUrl host ((afterSlash? behind).getD behind))

/-- The URL that a text stands for. -/
def parse (text : String) : Except UrlError Url :=
  match scheme? (trim text.toList) with
  | none => .error .noScheme
  | some (scheme, rest) =>
    let kind := SchemeKind.ofScheme scheme
    match kind with
    | .web => readAuthority scheme kind (dropSlashes (clean rest))
    | .file => readFile rest
    | .other =>
      match clean rest with
      | '/' :: '/' :: rest => readAuthority scheme kind rest
      | rest =>
        let tail := splitTail kind rest
        let path := match tail.path with
          | '/' :: path => Path.segments ((readSegments kind path).map String.ofList)
          | path => .plain (String.ofList (percentEncode isControl path))
        .ok ⟨scheme, "", "", none, none, path, tail.query, tail.fragment⟩

end EntityGraph.Url
