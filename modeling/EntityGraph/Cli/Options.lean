import EntityGraph.Dict

/-!
# Options

An option has a name behind two dashes and a value, attached by `=` or as the next argument; a flag has no value.
Arguments are read from left to right. The first one that does not fit ends the reading, and so does the request
for the version.
-/
namespace EntityGraph.Cli

/-- What the value of an option may be. -/
inductive Shape where
  /-- There is no value. -/
  | flag
  | text
  /-- A path, which is not empty. -/
  | path
  /-- One of some words. -/
  | choice (words : List String)
  deriving Repr, DecidableEq

/-- Whether a value fits. -/
def Shape.admits : Shape → String → Bool
  | flag, _ => false
  | text, _ => true
  | path, value => value != ""
  | choice words, value => words.contains value

/-- The options of a level by name, and the commands that end it. -/
structure Level where
  shapes : List (String × Shape)
  commands : List String

/-- Whether arguments come before the command. -/
def Level.isTop (l : Level) : Bool := !l.commands.isEmpty

/-- Values by option; a flag has the empty one. -/
abbrev Given := Dict String

/-- How a level ends. -/
inductive Ending where
  | finished (given : Given)
  | command (given : Given) (name : String) (rest : List String)
  | version
  | refused

/-- The parts of an argument before and after its first `=`. -/
def splitAttached (cs : List Char) : String × Option String :=
  (String.ofList (cs.takeWhile (· ≠ '=')),
    match cs.dropWhile (· ≠ '=') with
    | [] => none
    | _ :: value => some (String.ofList value))

/-- Whether an argument is no value: it begins with a dash and is more than that. -/
def isDashed (arg : String) : Bool :=
  match arg.toList with
  | '-' :: _ :: _ => true
  | _ => false

/-- Adds a value for an option that fits and was not given before. -/
def give? (given : Given) (name : String) (shape : Shape) (value : String) : Option Given :=
  if shape.admits value && !given.contains name then some (given.insert name value) else none

/-- Adds a flag that was not given before. -/
def giveFlag? (given : Given) (name : String) : Option Given :=
  if given.contains name then none else some (given.insert name "")

/-- What an argument turns out to be. -/
inductive Argument where
  | command
  /-- Two dashes alone: no options behind them. -/
  | stop
  | version
  | flag (name : String)
  /-- An option with its value attached. -/
  | attached (name : String) (shape : Shape) (value : String)
  /-- An option whose value is the next argument. -/
  | awaiting (name : String) (shape : Shape)
  | unknown

/-- Recognises an argument. -/
def Level.recognise (l : Level) (arg : String) : Argument :=
  if l.commands.contains arg then .command
  else
    match arg.toList with
    | ['-', '-'] => .stop
    | '-' :: '-' :: cs =>
      let (name, value) := splitAttached cs
      if l.isTop && name = "version" && value.isNone then .version
      else
        match l.shapes.lookup name, value with
        | none, _ => .unknown
        | some .flag, none => .flag name
        | some .flag, some _ => .unknown
        | some shape, some value => .attached name shape value
        | some shape, none => .awaiting name shape
    | '-' :: 'V' :: _ => if l.isTop then .version else .unknown
    | _ => .unknown

/-- Reads the arguments of a level. -/
def Level.read (l : Level) (given : Given) : List String → Ending
  | [] => .finished given
  | arg :: rest =>
    match l.recognise arg with
    | .command => .command given arg rest
    | .stop => if rest.isEmpty then .finished given else .refused
    | .version => .version
    | .unknown => .refused
    | .flag name =>
      match giveFlag? given name with
      | some given => l.read given rest
      | none => .refused
    | .attached name shape value =>
      match give? given name shape value with
      | some given => l.read given rest
      | none => .refused
    | .awaiting name shape =>
      match rest with
      | [] => .refused
      | value :: rest =>
        if isDashed value then .refused
        else
          match give? given name shape value with
          | some given => l.read given rest
          | none => .refused

end EntityGraph.Cli
