import EntityGraph.Toml.Number
import EntityGraph.Toml.Placing

/-!
# Reading TOML text

A document is read line by line, a value over several lines where brackets or triple quotes allow it. Containers
nest at most 79 deep.
-/
namespace EntityGraph.Toml.Parser

open Text (Rest Tail char? dropAll dropSome hexDigit? word?)

/-! ## Blanks, comments and line ends -/

/-- The blanks inside a line. -/
def isSpace (c : Char) : Bool := c == ' ' || c == '\t'

/-- The characters of comments and texts: all but controls, the tab excepted. -/
def isTextChar (c : Char) : Bool := c == '\t' || (0x20 ≤ c.toNat && c.toNat != 0x7F)

/-- Drops blanks. -/
def skip (cs : List Char) : Tail cs := dropAll isSpace cs

/-- Drops the rest of a comment. -/
def skipComment (cs : List Char) : Tail cs := dropAll isTextChar cs

/-- Drops one line end. -/
def newline? : (cs : List Char) → Option (Rest cs)
  | '\n' :: rest => some (.ofCons '\n' rest)
  | '\r' :: '\n' :: rest => some ((Rest.ofCons '\n' rest).cons '\r')
  | _ => none

/-- Drops a line end if there is one. -/
def dropNewline (cs : List Char) : Tail cs := ((newline? cs).map Rest.toTail).getD (.whole cs)

/-- Drops blanks, line ends and, where comments may stand, comments. -/
def skipLines (comments : Bool) (cs : List Char) : Tail cs :=
  match cs with
  | [] => .whole []
  | c :: rest =>
    if isSpace c then (skipLines comments rest).cons c
    else if comments && c == '#' then
      ((skipComment rest).trans (skipLines comments (skipComment rest).1)).cons c
    else
      match newline? (c :: rest) with
      | some r => (r.tail (skipLines comments r.1)).toTail
      | none => .whole (c :: rest)
termination_by cs.length
decreasing_by
  · exact (Rest.ofCons c rest).2
  · exact ((Rest.ofCons c rest).tail (skipComment rest)).2
  · exact r.2

/-- Drops blanks and a comment. -/
def skipToEnd (cs : List Char) : Tail cs :=
  match char? '#' (skip cs).1 with
  | some mark => ((skip cs).rest (mark.tail (skipComment mark.1))).toTail
  | none => skip cs

/-- Reads to the end of a line on which nothing but a comment is left. -/
def lineEnd? (cs : List Char) : Option (Tail cs) :=
  if (skipToEnd cs).1.isEmpty then some (skipToEnd cs)
  else (newline? (skipToEnd cs).1).map (fun r => ((skipToEnd cs).rest r).toTail)

/-! ## Strings -/

/-- The character of hexadecimal digits. -/
def codePoint? (digits : List Char) : Option Char := do
  let ds ← digits.mapM hexDigit?
  let n := Number.ofDigits 16 ds
  if n < 0xD800 ∨ (0xE000 ≤ n ∧ n < 0x110000) then some (Char.ofNat n) else none

/-- Reads the character of a fixed number of hexadecimal digits. -/
def codeEscape? (width : Nat) (cs : List Char) : Option (Char × Tail cs) :=
  if cs.length < width then none else (codePoint? (cs.take width)).map (fun c => (c, dropSome width cs))

/-- The character of an escape with a single letter. -/
def simpleEscape? (c : Char) : Option Char :=
  if c = '"' ∨ c = '\\' then some c
  else if c = 'b' then some (Char.ofNat 8)
  else if c = 't' then some '\t'
  else if c = 'n' then some '\n'
  else if c = 'f' then some (Char.ofNat 12)
  else if c = 'r' then some '\r'
  else none

/-- Reads what follows a backslash. -/
def escape? : (cs : List Char) → Option (Char × Rest cs)
  | [] => none
  | c :: rest =>
    if c = 'u' then (codeEscape? 4 rest).map (fun (e, t) => (e, (Rest.ofCons c rest).tail t))
    else if c = 'U' then (codeEscape? 8 rest).map (fun (e, t) => (e, (Rest.ofCons c rest).tail t))
    else (simpleEscape? c).map (fun e => (e, .ofCons c rest))

/-- Reads the rest of a string in double quotes. -/
def basic? (cs : List Char) : Option (List Char × Rest cs) :=
  match cs with
  | [] => none
  | c :: rest =>
    if c = '"' then some ([], .ofCons c rest)
    else if c = '\\' then
      match escape? rest with
      | none => none
      | some (e, after) => (basic? after.1).map (fun (s, r) => (e :: s, (after.trans r).cons c))
    else if isTextChar c then (basic? rest).map (fun (s, r) => (c :: s, r.cons c))
    else none
termination_by cs.length
decreasing_by
  · exact (after.cons c).2
  · exact (Rest.ofCons c rest).2

/-- Reads the rest of a string in single quotes. -/
def literal? : (cs : List Char) → Option (List Char × Rest cs)
  | [] => none
  | c :: rest =>
    if c = '\'' then some ([], .ofCons c rest)
    else if isTextChar c then (literal? rest).map (fun (s, r) => (c :: s, r.cons c))
    else none

/-- Reads three quotes. -/
def triple? (quote : Char) (cs : List Char) : Option (Rest cs) := do
  let first ← char? quote cs
  let second ← char? quote first.1
  let third ← char? quote second.1
  some (first.trans (second.trans third))

/-- The end of a string in triple quotes. Up to two quotes right before the closing ones belong to the text. -/
def tripleEnd? (quote : Char) (cs : List Char) : Option (List Char × Rest cs) := do
  let r ← triple? quote cs
  match char? quote r.1 with
  | none => some ([], r)
  | some one =>
    match char? quote one.1 with
    | none => some ([quote], r.trans one)
    | some two => some ([quote, quote], r.trans (one.trans two))

/-- After a backslash, drops the end of a line and all blanks and line ends behind it. -/
def continuation? (cs : List Char) : Option (Rest cs) :=
  (newline? (skip cs).1).map (fun r => (skip cs).rest (r.tail (skipLines false r.1)))

/-- Reads the rest of a string in triple double quotes. -/
def basicLines? (cs : List Char) : Option (List Char × Rest cs) :=
  match tripleEnd? '"' cs with
  | some found => some found
  | none =>
    match cs with
    | [] => none
    | c :: rest =>
      if c = '\\' then
        match continuation? rest with
        | some after => (basicLines? after.1).map (fun (s, r) => (s, (after.trans r).cons c))
        | none =>
          match escape? rest with
          | none => none
          | some (e, after) => (basicLines? after.1).map (fun (s, r) => (e :: s, (after.trans r).cons c))
      else
        match newline? (c :: rest) with
        | some after => (basicLines? after.1).map (fun (s, r) => ('\n' :: s, after.trans r))
        | none =>
          if isTextChar c then (basicLines? rest).map (fun (s, r) => (c :: s, r.cons c)) else none
termination_by cs.length
decreasing_by
  · exact (after.cons c).2
  · exact (after.cons c).2
  · exact after.2
  · exact (Rest.ofCons c rest).2

/-- Reads the rest of a string in triple single quotes. -/
def literalLines? (cs : List Char) : Option (List Char × Rest cs) :=
  match tripleEnd? '\'' cs with
  | some found => some found
  | none =>
    match cs with
    | [] => none
    | c :: rest =>
      match newline? (c :: rest) with
      | some after => (literalLines? after.1).map (fun (s, r) => ('\n' :: s, after.trans r))
      | none => if isTextChar c then (literalLines? rest).map (fun (s, r) => (c :: s, r.cons c)) else none
termination_by cs.length
decreasing_by
  · exact after.2
  · exact (Rest.ofCons c rest).2

/-- Reads a string on one line. -/
def lineString? : (cs : List Char) → Option (List Char × Rest cs)
  | '"' :: rest => (basic? rest).map (fun (s, r) => (s, r.cons '"'))
  | '\'' :: rest => (literal? rest).map (fun (s, r) => (s, r.cons '\''))
  | _ => none

/-- Reads a string that opens with a quote of either kind. Three of them open one over several lines, which not
every string may be. -/
def string? (multiline : Bool) (cs : List Char) : Option (List Char × Rest cs) :=
  match triple? '"' cs, triple? '\'' cs with
  | some r, _ =>
    if multiline then
      (basicLines? (dropNewline r.1).1).map (fun (s, q) => (s, r.trans ((dropNewline r.1).rest q)))
    else none
  | none, some r =>
    if multiline then
      (literalLines? (dropNewline r.1).1).map (fun (s, q) => (s, r.trans ((dropNewline r.1).rest q)))
    else none
  | none, none => lineString? cs

/-! ## Keys -/

/-- The characters of keys without quotes. -/
def isBare (c : Char) : Bool := c.isAlphanum || c == '_' || c == '-'

/-- Reads one key. -/
def key? : (cs : List Char) → Option (String × Rest cs)
  | [] => none
  | c :: rest =>
    if isBare c then
      some (String.ofList (c :: rest.takeWhile isBare), (Rest.ofCons c rest).tail (dropAll isBare rest))
    else (string? false (c :: rest)).map (fun (s, r) => (String.ofList s, r))

/-- Reads one key and the blanks around it. -/
def spacedKey? (cs : List Char) : Option (String × Rest cs) :=
  (key? (skip cs).1).map (fun (k, r) => (k, (skip cs).rest (r.tail (skip r.1))))

/-- Reads keys with points between them, and the blanks behind. -/
def keys? (cs : List Char) : Option (List String × Rest cs) :=
  match spacedKey? cs with
  | none => none
  | some (k, r) =>
    match char? '.' r.1 with
    | some point => (keys? point.1).map (fun (ks, q) => (k :: ks, r.trans (point.trans q)))
    | none => some ([k], r)
termination_by cs.length
decreasing_by exact (r.trans point).2

/-- Reads a path of keys. -/
def path? (cs : List Char) : Option (List String × Rest cs) :=
  (keys? cs).filter (fun found => decide (found.1.length < pathLimit))

/-- Reads a path, the equals sign behind it, and blanks. -/
def assigned? (cs : List Char) : Option (List String × Rest cs) := do
  let (keys, r) ← path? cs
  let equals ← char? '=' r.1
  some (keys, r.trans (equals.tail (skip equals.1)))

/-! ## Values -/

/-- The characters of words: numbers and the two truth values. -/
def isWordChar (c : Char) : Bool := c.isAlphanum || c == '_' || c == '+' || c == '-' || c == '.'

/-- The value that a word spells. -/
def ofWord? (cs : List Char) : Option Value :=
  if cs = ['t', 'r', 'u', 'e'] then some (.bool true)
  else if cs = ['f', 'a', 'l', 's', 'e'] then some (.bool false)
  else Number.read? cs

/-- How many containers may be open around a value that is being read, plus one. -/
def nestingLimit : Nat := 80

mutual
/-- Reads a value. -/
def value? (depth : Nat) (cs : List Char) : Option (Value × Rest cs) :=
  match cs with
  | [] => none
  | c :: rest =>
    if c = '[' then
      if depth ≤ 1 then none
      else (items? (depth - 1) rest).map (fun (vs, r) => (.array vs, r.cons c))
    else if c = '\x7b' then
      if depth ≤ 1 then none
      else
        match char? '\x7d' (skip rest).1 with
        | some r => some (.table .braces [], ((skip rest).rest r).cons c)
        | none =>
          match pairs? (depth - 1) rest with
          | none => none
          | some (ps, r) => (ofPairs ps).map (fun ms => (.table .braces ms, r.cons c))
    else if c = '"' ∨ c = '\'' then
      (string? true (c :: rest)).map (fun (s, r) => (.str (String.ofList s), r))
    else if isWordChar c then
      (ofWord? (c :: rest.takeWhile isWordChar)).map (fun v => (v, (Rest.ofCons c rest).tail (dropAll isWordChar rest)))
    else none
termination_by 2 * cs.length
decreasing_by all_goals simp only [List.length_cons]; omega

/-- Reads the items of a list and the closing bracket. -/
def items? (depth : Nat) (cs : List Char) : Option (List Value × Rest cs) :=
  match char? ']' (skipLines true cs).1 with
  | some closing => some ([], (skipLines true cs).rest closing)
  | none =>
    match value? depth (skipLines true cs).1 with
    | none => none
    | some (v, q) =>
      let r := (skipLines true cs).rest (q.tail (skipLines true q.1))
      match char? ',' r.1 with
      | some comma => (items? depth comma.1).map (fun (vs, p) => (v :: vs, r.trans (comma.trans p)))
      | none => (char? ']' r.1).map (fun closing => ([v], r.trans closing))
termination_by 2 * cs.length + 1
decreasing_by
  · have := (skipLines true cs).2
    omega
  · have := (((skipLines true cs).rest (q.tail (skipLines true q.1))).trans comma).2
    omega

/-- Reads one or more keys with their values and the closing brace. -/
def pairs? (depth : Nat) (cs : List Char) : Option (List (List String × Value) × Rest cs) :=
  match assigned? cs with
  | none => none
  | some (keys, k) =>
    match value? depth k.1 with
    | none => none
    | some (v, q) =>
      let r := k.trans (q.tail (skip q.1))
      match char? ',' r.1 with
      | some comma => (pairs? depth comma.1).map (fun (ps, p) => ((keys, v) :: ps, r.trans (comma.trans p)))
      | none => (char? '\x7d' r.1).map (fun closing => ([(keys, v)], r.trans closing))
termination_by 2 * cs.length + 1
decreasing_by
  · have := k.2
    omega
  · have := ((k.trans (q.tail (skip q.1))).trans comma).2
    omega
end

/-! ## Lines -/

/-- Reads a path and the bracket or brackets that close a header. -/
def header? (closing : List Char) (cs : List Char) : Option (List String × Rest cs) := do
  let (path, r) ← path? cs
  let t ← word? closing r.1
  some (path, r.tail t)

/-- Reads a key and its value. -/
def pair? (cs : List Char) : Option (Line × Rest cs) := do
  let (keys, r) ← assigned? cs
  let (v, q) ← value? nestingLimit r.1
  some (.pair keys v, r.trans q)

/-- Reads what a line holds before its end. -/
def line? : (cs : List Char) → Option (Line × Rest cs)
  | '[' :: '[' :: rest =>
    (header? [']', ']'] rest).map (fun (path, r) => (.element path, (r.cons '[').cons '['))
  | '[' :: rest => (header? [']'] rest).map (fun (path, r) => (.table path, r.cons '['))
  | cs => pair? cs

/-- Reads one line with its end. -/
def wholeLine? (cs : List Char) : Option (Line × Rest cs) := do
  let (line, r) ← line? cs
  let t ← lineEnd? r.1
  some (line, r.tail t)

/-- Reads all lines. -/
def lines? (cs : List Char) : Option (List Line) :=
  if (skipLines true cs).1.isEmpty then some []
  else
    match wholeLine? (skipLines true cs).1 with
    | none => none
    | some (line, r) => (lines? r.1).map (line :: ·)
termination_by cs.length
decreasing_by exact ((skipLines true cs).rest r).2

end EntityGraph.Toml.Parser

namespace EntityGraph.Toml

/-- The members of a document. A mark of the byte order at its front counts for nothing. -/
def parse? (text : String) : Option Members :=
  let cs := match text.toList with
    | c :: rest => if c.toNat = 0xFEFF then rest else c :: rest
    | [] => []
  (Parser.lines? cs).bind ofLines

end EntityGraph.Toml
