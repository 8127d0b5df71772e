import EntityGraph.Url.Percent

/-!
# Form-encoded pairs

A query as a list of key and value. A plus sign is a space; a part without an equals sign has an empty value;
empty parts vanish. Pairs are written with every byte encoded but ASCII letters and digits and `*-._`.
-/
namespace EntityGraph.Url.Form

/-- The pieces between occurrences of a separator; `piece` is what was read of the current one. -/
def splitFrom (separator : Char) (piece : List Char) : List Char → List (List Char)
  | [] => [piece]
  | c :: rest =>
    if c = separator then piece :: splitFrom separator [] rest
    else splitFrom separator (piece ++ [c]) rest

/-- A key or a value, decoded. -/
def decodeText (cs : List Char) : String :=
  String.ofList (Text.Utf8.decodeLossy (percentDecode (cs.map (fun c => if c = '+' then ' ' else c))))

/-- The key and the value of one part. -/
def decodePair (part : List Char) : String × String :=
  (decodeText (part.takeWhile (· ≠ '=')), decodeText ((part.dropWhile (· ≠ '=')).drop 1))

/-- The pairs of a query. -/
def decode (query : String) : List (String × String) :=
  ((splitFrom '&' [] query.toList).filter (fun part => !part.isEmpty)).map decodePair

/-- Whether a byte is written as it is. -/
def isPlain (b : Nat) : Bool :=
  (48 ≤ b && b ≤ 57) || (65 ≤ b && b ≤ 90) || (97 ≤ b && b ≤ 122) || b == 0x2A || b == 0x2D || b == 0x2E ||
    b == 0x5F

/-- A byte of a key or a value. -/
def encodeByte (b : Nat) : List Char :=
  if b = 0x20 then ['+'] else if isPlain b then [Char.ofNat b] else percentByte b

/-- A key or a value, encoded. -/
def encodeText (s : String) : String := String.ofList ((Text.Utf8.encode s.toList).flatMap encodeByte)

/-- A query of pairs. -/
def encode (pairs : List (String × String)) : String :=
  "&".intercalate (pairs.map (fun p => encodeText p.1 ++ "=" ++ encodeText p.2))

end EntityGraph.Url.Form
