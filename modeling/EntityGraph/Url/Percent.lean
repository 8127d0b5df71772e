import EntityGraph.Text.Scan
import EntityGraph.Text.Utf8

/-!
# Percent-encoding

The bytes of a text written as `%XX`. Which ASCII characters are written so depends on the part of the URL;
all others always are.
-/
namespace EntityGraph.Url

/-- A hexadecimal digit in upper case. -/
def upperHex (n : Nat) : Char := if n < 10 then Char.ofNat (48 + n) else Char.ofNat (55 + n)

/-- A byte as `%XX`. -/
def percentByte (b : Nat) : List Char := ['%', upperHex (b / 16), upperHex (b % 16)]

/-- The characters of a set that is always encoded: controls and whatever is not ASCII. -/
def isControl (c : Char) : Bool := c.toNat < 0x20 || 0x7F ≤ c.toNat

/-- The set of fragments. -/
def inFragmentSet (c : Char) : Bool := isControl c || [' ', '"', '<', '>', '\x60'].contains c

/-- The set of paths. -/
def inPathSet (c : Char) : Bool := inFragmentSet c || ['#', '?', '\x7b', '\x7d'].contains c

/-- The set of user names and passwords. -/
def inUserinfoSet (c : Char) : Bool :=
  inPathSet c || ['/', ':', ';', '=', '@', '[', '\\', ']', '^', '|'].contains c

/-- The set of queries. -/
def inQuerySet (c : Char) : Bool := isControl c || [' ', '"', '#', '<', '>'].contains c

/-- The set of queries of special schemes. -/
def inSpecialQuerySet (c : Char) : Bool := inQuerySet c || c == '\''

/-- A character, encoded if it is in the set. -/
def encodeCharIn (set : Char → Bool) (c : Char) : List Char :=
  if set c then (Text.Utf8.encodeChar c).flatMap percentByte else [c]

/-- A text with the characters of the set encoded. -/
def percentEncode (set : Char → Bool) (cs : List Char) : List Char := cs.flatMap (encodeCharIn set)

/-- The bytes of a text. A percent sign without two hexadecimal digits stands for itself. -/
def percentDecode : List Char → List Nat
  | [] => []
  | '%' :: a :: b :: rest =>
    match Text.hexDigit? a, Text.hexDigit? b with
    | some x, some y => (16 * x + y) :: percentDecode rest
    | _, _ => 0x25 :: percentDecode (a :: b :: rest)
  | c :: rest => Text.Utf8.encodeChar c ++ percentDecode rest
termination_by cs => cs.length

end EntityGraph.Url
