/-
JSON values.

A number is an integer or a binary64 fraction, and the two forms stay apart:
`1` and `1.0` are different values. The fields of an object are kept in
ascending order of their names, each name once; `Fields.insert` keeps that
order and `Json.normalize` brings it about for fields in written order.
-/
import HookRules.Number.Binary64

namespace HookRules

/-- A JSON number. The integers that text can hold run from -2^63 to 2^64 - 1. -/
inductive Number where
  | int (n : Int)
  | float (x : Binary64)
deriving DecidableEq, Inhabited

/-- A JSON value. -/
inductive Json where
  | null
  | bool (b : Bool)
  | num (n : Number)
  | str (s : String)
  | arr (items : List Json)
  | obj (fields : List (String × Json))
deriving Inhabited

-- =========================================================== numbers

namespace Number

/-- The integer of a number, if it has integer form and fits 64 bits with a sign. -/
def int64? : Number → Option Int
  | .int n => if -(Nat.pow 2 63 : Int) ≤ n ∧ n < Nat.pow 2 63 then some n else none
  | .float _ => none

/-- The integer of a number, if it has integer form and is a 64-bit natural. -/
def nat64? : Number → Option Nat
  | .int n => if 0 ≤ n ∧ n < Nat.pow 2 64 then some n.toNat else none
  | .float _ => none

/-- The binary64 number nearest to a number. -/
def toBinary64 : Number → Binary64
  | .int n => .ofInt n
  | .float x => x

/-- Numbers of one form and value; the two float zeros are the same. -/
def same : Number → Number → Bool
  | .int m, .int n => m == n
  | .float x, .float y => x.eqv y
  | _, _ => false

end Number

-- ============================================================ fields

/-- Names with values: the fields of an object. -/
abbrev Fields := List (String × Json)

namespace Fields

/-- The value of a name. -/
def get? (fs : Fields) (name : String) : Option Json := fs.lookup name

/-- Sets a name, in its place if it is new. -/
def insert (name : String) (value : Json) : Fields → Fields
  | [] => [(name, value)]
  | (k, v) :: rest =>
    if name < k then (name, value) :: (k, v) :: rest
    else if name = k then (name, value) :: rest
    else (k, v) :: insert name value rest

/-- Fields given in any order; of fields with one name the last counts. -/
def ofList (fs : List (String × Json)) : Fields :=
  fs.foldl (fun acc f => insert f.1 f.2 acc) []

/-- The fields of `base` with those of `top` set over them. -/
def overlay (base top : Fields) : Fields :=
  top.foldl (fun acc f => insert f.1 f.2 acc) base

/-- The value of a name that is given once, or nothing; `none` when a name is
given twice. -/
def single? (fs : List (String × Json)) (name : String) : Option (Option Json) :=
  match fs.filter (·.1 == name) with
  | [] => some none
  | [f] => some (some f.2)
  | _ => none

end Fields

-- ============================================================ values

namespace Json

/-- An object with fields given in any order. -/
def ofFields (fs : List (String × Json)) : Json := .obj (Fields.ofList fs)

/-- An integer value. -/
def ofInt (n : Int) : Json := .num (.int n)

/-- A text, or null. -/
def ofOption (s : Option String) : Json := s.elim .null .str

mutual

/-- Every object with its fields in order and each name once. -/
def normalize : Json → Json
  | .arr items => .arr (normalizeItems items)
  | .obj fields => .obj (Fields.ofList (normalizeFields fields))
  | .null => .null
  | .bool b => .bool b
  | .num n => .num n
  | .str s => .str s

def normalizeItems : List Json → List Json
  | [] => []
  | v :: vs => v.normalize :: normalizeItems vs

def normalizeFields : List (String × Json) → List (String × Json)
  | [] => []
  | (k, v) :: fs => (k, v.normalize) :: normalizeFields fs

end

mutual

/-- The same value in the same form: `1` and `1.0` differ. -/
def same : Json → Json → Bool
  | .null, .null => true
  | .bool a, .bool b => a == b
  | .num a, .num b => a.same b
  | .str a, .str b => a == b
  | .arr as, .arr bs => sameItems as bs
  | .obj fs, .obj gs => sameFields fs gs
  | _, _ => false

def sameItems : List Json → List Json → Bool
  | [], [] => true
  | a :: as, b :: bs => same a b && sameItems as bs
  | _, _ => false

def sameFields : List (String × Json) → List (String × Json) → Bool
  | [], [] => true
  | (k, a) :: fs, (l, b) :: gs => k == l && same a b && sameFields fs gs
  | _, _ => false

end

/-- A field of an object. -/
def get? : Json → String → Option Json
  | .obj fs, name => Fields.get? fs name
  | _, _ => none

def str? : Json → Option String
  | .str s => some s
  | _ => none

def bool? : Json → Option Bool
  | .bool b => some b
  | _ => none

def nat64? : Json → Option Nat
  | .num n => n.nat64?
  | _ => none

def obj? : Json → Option Fields
  | .obj fs => some fs
  | _ => none

def isNull : Json → Bool
  | .null => true
  | _ => false

end Json

end HookRules
