import EntityGraph.Json.Value

/-!
# Writing TOML text

A text is written in the first form that needs no escapes: between double quotes, between single quotes, over
several lines between three double or three single quotes. What no form can hold is escaped between double quotes,
over several lines if it has line breaks.
-/
namespace EntityGraph.Toml

/-- A value that fits one line. -/
inductive Scalar where
  | str (s : String)
  | nat (n : Nat)
  deriving Repr, DecidableEq

/-- How many times in a row a character occurs at most, `run` of them right before. -/
def longestRun (q : Char) (run : Nat) : List Char → Nat
  | [] => run
  | c :: rest => if c = q then longestRun q (run + 1) rest else max run (longestRun q 0 rest)

/-- The controls that can only be written as escapes. -/
def isControl (c : Char) : Bool := c != '\t' && c != '\n' && (c.toNat < 0x20 || c.toNat = 0x7F)

/-- The escape of a code point with four digits. -/
def escapeCode (c : Char) : List Char :=
  let digits := (Nat.toDigits 16 c.toNat).map Char.toUpper
  ['\\', 'u'] ++ List.replicate (4 - digits.length) '0' ++ digits

/-- A text between double quotes. Over several lines (`lines`), line breaks stand for themselves, and of quotes in
a row only the third is escaped; `run` quotes stand right before. -/
def escaped (lines : Bool) (run : Nat) : List Char → List Char
  | [] => []
  | c :: rest =>
    if c = '"' then
      if lines && decide (run < 2) then c :: escaped lines (run + 1) rest else '\\' :: c :: escaped lines 0 rest
    else if c = '\n' && lines then c :: escaped lines 0 rest
    else if c = '\n' then '\\' :: 'n' :: escaped lines 0 rest
    else if c = '\t' then '\\' :: 't' :: escaped lines 0 rest
    else if c = '\r' then '\\' :: 'r' :: escaped lines 0 rest
    else if c = '\\' then '\\' :: '\\' :: escaped lines 0 rest
    else if c.toNat = 8 then '\\' :: 'b' :: escaped lines 0 rest
    else if c.toNat = 12 then '\\' :: 'f' :: escaped lines 0 rest
    else if isControl c then escapeCode c ++ escaped lines 0 rest
    else c :: escaped lines 0 rest

/-- A text between quotes. -/
def quoted (s : String) : String :=
  let cs := s.toList
  let plain := !cs.any isControl
  let slash := cs.contains '\\'
  let newline := cs.contains '\n'
  let doubles := longestRun '"' 0 cs
  let singles := longestRun '\'' 0 cs
  let start := if newline then "\n" else ""
  let basic := "\"" ++ String.ofList (escaped false 0 cs) ++ "\""
  let basicLines := "\"\"\"" ++ start ++ String.ofList (escaped true 0 cs) ++ "\"\"\""
  if plain && !slash && doubles == 0 && !newline then basic
  else if plain && singles == 0 && !newline then "'" ++ s ++ "'"
  else if plain && !slash && doubles ≤ 2 then basicLines
  else if plain && singles ≤ 2 then "'''" ++ start ++ s ++ "'''"
  else if newline then basicLines else basic

/-- A value on its line. -/
def Scalar.text : Scalar → String
  | str s => quoted s
  | nat n => Nat.repr n

def Scalar.toJson : Scalar → Json.Value
  | str s => .str s
  | nat n => .ofNat n

/-- A table with a header. Its name and its keys are plain words. -/
structure Section where
  name : String
  entries : List (String × Scalar)

/-- The header and a line for each key. -/
def Section.text (s : Section) : String :=
  "[" ++ s.name ++ "]\n" ++ String.join (s.entries.map (fun e => e.1 ++ " = " ++ e.2.text ++ "\n"))

/-- The keys with their values, in order. -/
def Section.toJson (s : Section) : Json.Value := .obj (s.entries.map (fun e => (e.1, e.2.toJson)))

/-- Sections with an empty line between them. -/
def sectionsText (sections : List Section) : String := "\n".intercalate (sections.map Section.text)

end EntityGraph.Toml
