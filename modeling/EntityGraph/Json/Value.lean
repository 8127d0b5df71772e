import EntityGraph.Dict

/-!
# JSON values

Integers and doubles are kept apart: an integer is a whole number that fits 64 bits, signed or unsigned, and
`1` differs from `1.0`. Values that are read have objects with strictly increasing keys; a value built for
printing lists its members in the order to print.
-/
namespace EntityGraph.Json

/-- A JSON number. -/
inductive Number where
  | int (n : Int)
  | double (x : Float)
  deriving Repr, DecidableEq, Inhabited

/-- Doubles compare by value, so zero equals negative zero; an integer never equals a double. -/
def Number.same : Number → Number → Bool
  | .int a, .int b => a == b
  | .double a, .double b => a == b
  | _, _ => false

/-- A JSON value. -/
inductive Value where
  | null
  | bool (b : Bool)
  | num (n : Number)
  | str (s : String)
  | arr (items : List Value)
  | obj (members : List (String × Value))
  deriving Repr, Inhabited

namespace Value

mutual
/-- Whether two values are equal, members compared in order. -/
def same : Value → Value → Bool
  | null, null => true
  | bool a, bool b => a == b
  | num a, num b => a.same b
  | str a, str b => a == b
  | arr a, arr b => sameItems a b
  | obj a, obj b => sameMembers a b
  | _, _ => false
def sameItems : List Value → List Value → Bool
  | [], [] => true
  | a :: as, b :: bs => a.same b && sameItems as bs
  | _, _ => false
def sameMembers : List (String × Value) → List (String × Value) → Bool
  | [], [] => true
  | (k, a) :: as, (l, b) :: bs => k == l && a.same b && sameMembers as bs
  | _, _ => false
end

def ofNat (n : Nat) : Value := num (.int n)

def ofInt (n : Int) : Value := num (.int n)

/-- A double, or null where JSON has no numeral for it: infinities, and what is no number. -/
def ofDouble (x : Float) : Value := if x.isFinite then num (.double x) else null

def ofStrings (items : List String) : Value := arr (items.map str)

/-- An object with the entries of a dictionary. -/
def ofDict (d : Dict Value) : Value := obj d.toList

/-- An object from members in any order; of members with the same key the last one stays. -/
def object (members : List (String × Value)) : Value := ofDict (Dict.ofList members)

/-- The empty object. -/
def emptyObject : Value := obj []

def isNull : Value → Bool
  | null => true
  | _ => false

def string? : Value → Option String
  | str s => some s
  | _ => none

def bool? : Value → Option Bool
  | bool b => some b
  | _ => none

def int? : Value → Option Int
  | num (.int n) => some n
  | _ => none

/-- A whole number that is not negative and is not written as a double. -/
def nat? : Value → Option Nat
  | num (.int n) => if 0 ≤ n then some n.toNat else none
  | _ => none

/-- Any number as a double. -/
def double? : Value → Option Float
  | num (.int n) => some (Float.ofInt n)
  | num (.double x) => some x
  | _ => none

def items? : Value → Option (List Value)
  | arr items => some items
  | _ => none

def members? : Value → Option (List (String × Value))
  | obj members => some members
  | _ => none

/-- The member of an object. Nothing else has members. -/
def member? (v : Value) (key : String) : Option Value :=
  match v with
  | obj members => members.lookup key
  | _ => none

/-- The member of an object, where null counts as absent. -/
def present? (v : Value) (key : String) : Option Value :=
  match v.member? key with
  | some null => none
  | m => m

/-- The members of an object as a dictionary; anything else has none. -/
def dict (v : Value) : Dict Value :=
  match v with
  | obj members => Dict.ofList members
  | _ => ∅

end Value

/-- A member that is written only if it has a value. -/
def optionalMember (key : String) (v : Option Value) : List (String × Value) :=
  match v with
  | some v => [(key, v)]
  | none => []

end EntityGraph.Json
