/-
Integer expressions of the shell.

Signs bind as in arithmetic; a condition is one or zero. An expression may also
give a variable its value.
-/
import HookRules.Shell.Printing

namespace HookRules

namespace Shell

namespace Integer

inductive Token where
  | number (n : Int)
  | name (s : String)
  | sign (s : String)
deriving DecidableEq

/-- What is wrong with an expression. -/
inductive Fault where
  | noValue
  | tooLong
  | zeroDivisor
deriving DecidableEq

def Fault.message : Fault → String
  | .noValue => "expecting primary"
  | .tooLong => "expecting EOF"
  | .zeroDivisor => "division by zero"

def signs : List String :=
  ["<<", ">>", "<=", ">=", "==", "!=", "&&", "||", "+=", "-=", "*=", "/=", "%=", "+", "-", "*", "/",
   "%", "<", ">", "!", "~", "&", "|", "^", "(", ")", "?", ":", "="]

/-- The tokens of an expression; the fuel bounds their number. -/
def tokens : Nat → List Char → Except Fault (List Token)
  | 0, _ => .error .tooLong
  | _, [] => .ok []
  | fuel + 1, c :: cs =>
    if c == ' ' || c == '\t' || c == '\n' then tokens fuel cs
    else if c.isDigit then
      let (ds, rest) := (c :: cs).span Char.isAlphanum
      match Printing.integer? (String.ofList ds) with
      | some n => (tokens fuel rest).map (.number n :: ·)
      | none => .error .tooLong
    else if c.isAlpha || c == '_' then
      let (name, rest) := (c :: cs).span fun c => c.isAlphanum || c == '_'
      (tokens fuel rest).map (.name (String.ofList name) :: ·)
    else
      match signs.find? fun s => s.toList.isPrefixOf (c :: cs) with
      | some s => (tokens fuel ((c :: cs).drop s.length)).map (.sign s :: ·)
      | none => .error .noValue

/-- How tightly a sign between two values binds; the higher, the tighter. -/
def strength : String → Option Nat
  | "||" => some 1
  | "&&" => some 2
  | "|" => some 3
  | "^" => some 4
  | "&" => some 5
  | "==" | "!=" => some 6
  | "<" | "<=" | ">" | ">=" => some 7
  | "<<" | ">>" => some 8
  | "+" | "-" => some 9
  | "*" | "/" | "%" => some 10
  | _ => none

def truth (b : Bool) : Int := if b then 1 else 0

/-- A number as a word of 64 bits holds it. -/
def wrapped (n : Int) : Int := (BitVec.ofInt 64 n).toInt

/-- An operation on the bits of two numbers. -/
def bitwise (f : BitVec 64 → BitVec 64 → BitVec 64) (a b : Int) : Int :=
  (f (.ofInt 64 a) (.ofInt 64 b)).toInt

def apply (sign : String) (a b : Int) : Except Fault Int :=
  match sign with
  | "||" => .ok (truth (a != 0 || b != 0))
  | "&&" => .ok (truth (a != 0 && b != 0))
  | "|" => .ok (bitwise (· ||| ·) a b)
  | "^" => .ok (bitwise (· ^^^ ·) a b)
  | "&" => .ok (bitwise (· &&& ·) a b)
  | "==" => .ok (truth (a == b))
  | "!=" => .ok (truth (a != b))
  | "<" => .ok (truth (a < b))
  | "<=" => .ok (truth (a ≤ b))
  | ">" => .ok (truth (b < a))
  | ">=" => .ok (truth (b ≤ a))
  | "<<" => .ok (bitwise (fun x y => x <<< (y % 64)) a b)
  | ">>" => .ok (bitwise (fun x y => x.sshiftRight (y % 64).toNat) a b)
  | "+" => .ok (wrapped (a + b))
  | "-" => .ok (wrapped (a - b))
  | "*" => .ok (wrapped (a * b))
  | "/" => if b = 0 then .error .zeroDivisor else .ok (a.tdiv b)
  | "%" => if b = 0 then .error .zeroDivisor else .ok (a.tmod b)
  | _ => .error .noValue

/-- How tightly a sign before a value binds. -/
def strongest : Nat := 11

/-- The value of what stands at the front with signs of at least some strength,
and the tokens after it. -/
def value (look : String → Int) : Nat → Nat → List Token → Except Fault (Int × List Token)
  | 0, _, _ => .error .tooLong
  | fuel + 1, least, ts => do
    let (a, ts) ← match ts with
      | .number n :: rest => .ok (n, rest)
      | .name s :: rest => .ok (look s, rest)
      | .sign "-" :: rest => (value look fuel strongest rest).map fun (n, r) => (-n, r)
      | .sign "+" :: rest => value look fuel strongest rest
      | .sign "!" :: rest => (value look fuel strongest rest).map fun (n, r) => (truth (n == 0), r)
      | .sign "~" :: rest => (value look fuel strongest rest).map fun (n, r) => (-n - 1, r)
      | .sign "(" :: rest =>
        match value look fuel 0 rest with
        | .ok (n, .sign ")" :: rest) => .ok (n, rest)
        | .ok _ => .error .noValue
        | .error f => .error f
      | _ => .error .noValue
    more fuel least a ts
where
  /-- The value with all signs after it that are strong enough. -/
  more (fuel least : Nat) (a : Int) (ts : List Token) : Except Fault (Int × List Token) :=
    match fuel with
    | 0 => .error .tooLong
    | fuel + 1 =>
      match ts with
      | .sign "?" :: rest =>
        if least = 0 then do
          let (b, rest) ← value look fuel 0 rest
          match rest with
          | .sign ":" :: rest =>
            let (c, rest) ← value look fuel 0 rest
            return (if a = 0 then c else b, rest)
          | _ => .error .noValue
        else .ok (a, ts)
      | .sign s :: rest =>
        match strength s with
        | none => .ok (a, ts)
        | some k =>
          if least ≤ k then do
            let (b, rest) ← value look fuel (k + 1) rest
            more fuel least (← apply s a b) rest
          else .ok (a, ts)
      | _ => .ok (a, ts)

/-- The value of tokens that are one expression. -/
def whole (look : String → Int) (ts : List Token) : Except Fault Int := do
  let (n, rest) ← value look (4 * ts.length + 4) 0 ts
  if rest.isEmpty then return n else throw .tooLong

/-- The value of an expression, and the variable that it is given to. -/
def evaluate (look : String → Int) (s : String) : Except Fault (Int × Option String) := do
  match ← tokens (s.length + 1) s.toList with
  | .name target :: .sign "=" :: rest => return (← whole look rest, some target)
  | .name target :: .sign sign :: rest =>
    if sign ∈ ["+=", "-=", "*=", "/=", "%="] then
      let n ← apply (String.ofList (sign.toList.take 1)) (look target) (← whole look rest)
      return (n, some target)
    return (← whole look (.name target :: .sign sign :: rest), none)
  | ts => return (← whole look ts, none)

end Integer

end Shell

end HookRules
