import EntityGraph.Decimal.Positional
import EntityGraph.Json.Value

/-!
# JSON text

The compact form has no spaces; the indented form gives every item and member its own line, two columns deeper
than its container, and keeps empty containers on one line. Strings are raw but for the quote, the backslash
and the control characters below the space.
-/
namespace EntityGraph.Json

/-- A control character in four lower-case hexadecimal digits. -/
def controlEscape (c : Char) : List Char :=
  let digit (n : Nat) : Char := if n < 10 then Char.ofNat (48 + n) else Char.ofNat (87 + n)
  ['\\', 'u', '0', '0', digit (c.toNat / 16), digit (c.toNat % 16)]

/-- A character inside a string. -/
def escapedChar (c : Char) : List Char :=
  if c = '"' then ['\\', '"']
  else if c = '\\' then ['\\', '\\']
  else if c.toNat = 8 then ['\\', 'b']
  else if c = '\t' then ['\\', 't']
  else if c = '\n' then ['\\', 'n']
  else if c.toNat = 12 then ['\\', 'f']
  else if c = '\r' then ['\\', 'r']
  else if c.toNat < 32 then controlEscape c
  else [c]

/-- A string in quotes. -/
def quoted (s : String) : String := "\"" ++ String.ofList (s.toList.flatMap escapedChar) ++ "\""

/-- A number. Infinities and NaN, which no document holds, are written as null. -/
def Number.text : Number → String
  | .int n => if n < 0 then "-" ++ Nat.repr n.natAbs else Nat.repr n.natAbs
  | .double x => if x.isFinite then Decimal.ofFloat x else "null"

/-- Two columns for each level of depth. -/
def margin (depth : Nat) : String := String.ofList (List.replicate (2 * depth) ' ')

namespace Value

mutual
/-- The compact text of a value. -/
def text : Value → String
  | null => "null"
  | bool b => if b then "true" else "false"
  | num n => n.text
  | str s => quoted s
  | arr items => "[" ++ ",".intercalate (itemTexts items) ++ "]"
  | obj members => "\x7b" ++ ",".intercalate (memberTexts members) ++ "\x7d"
def itemTexts : List Value → List String
  | [] => []
  | v :: rest => v.text :: itemTexts rest
def memberTexts : List (String × Value) → List String
  | [] => []
  | (k, v) :: rest => (quoted k ++ ":" ++ v.text) :: memberTexts rest
end

/-- A container that is not empty, one part on each line, closed at the given depth. -/
def block (opening closing : String) (depth : Nat) (parts : List String) : String :=
  let line := "\n" ++ margin (depth + 1)
  opening ++ line ++ ("," ++ line).intercalate parts ++ "\n" ++ margin depth ++ closing

mutual
/-- The indented text of a value that stands at the given depth. -/
def indentedText (depth : Nat) : Value → String
  | arr items =>
    if items.isEmpty then "[]" else block "[" "]" depth (indentedItems (depth + 1) items)
  | obj members =>
    if members.isEmpty then "\x7b\x7d"
    else block "\x7b" "\x7d" depth (indentedMembers (depth + 1) members)
  | null => "null"
  | bool b => if b then "true" else "false"
  | num n => n.text
  | str s => quoted s
def indentedItems (depth : Nat) : List Value → List String
  | [] => []
  | v :: rest => v.indentedText depth :: indentedItems depth rest
def indentedMembers (depth : Nat) : List (String × Value) → List String
  | [] => []
  | (k, v) :: rest => (quoted k ++ ": " ++ v.indentedText depth) :: indentedMembers depth rest
end

end Value
end EntityGraph.Json
