/-
Tools that print their arguments.
-/
import HookRules.Json.Token
import HookRules.Shell.Tool

namespace HookRules

namespace Shell

namespace Printing

-- ============================================================= escapes

def octal? (c : Char) : Option Nat := (Json.Token.hexDigit? c).filter (· < 8)

/-- Up to so many digits in a base, and what follows them. -/
def digits (base : Nat) : Nat → Nat → List Char → Nat × List Char
  | 0, n, cs => (n, cs)
  | _, n, [] => (n, [])
  | count + 1, n, c :: cs =>
    match (Json.Token.hexDigit? c).filter (· < base) with
    | some d => digits base count (base * n + d) cs
    | none => (n, c :: cs)

/-- What an escape stands for: bytes, or the end of all output. -/
inductive Escaped where
  | bytes (bs : Bytes) (rest : List Char)
  | stop

/-- The escape after a backslash. With `zeroFirst` an octal number may have a
zero in front of its three digits; with `knowsHex` hexadecimal numbers and the
end of output are known. An unknown escape is kept as it is. -/
def escape (zeroFirst knowsHex : Bool) : List Char → Escaped
  | 'a' :: rest => .bytes [7] rest
  | 'b' :: rest => .bytes [8] rest
  | 'f' :: rest => .bytes [12] rest
  | 'n' :: rest => .bytes [10] rest
  | 'r' :: rest => .bytes [13] rest
  | 't' :: rest => .bytes [9] rest
  | 'v' :: rest => .bytes [11] rest
  | '\\' :: rest => .bytes [92] rest
  | 'e' :: rest => .bytes [27] rest
  | 'c' :: rest => if zeroFirst || knowsHex then .stop else .bytes [92, 99] rest
  | 'x' :: rest =>
    if knowsHex then
      match digits 16 2 0 rest with
      | (n, after) => if after.length < rest.length then .bytes [UInt8.ofNat n] after
        else .bytes [92, 120] rest
    else .bytes [92, 120] rest
  | '0' :: rest =>
    let (n, after) := digits 8 (if zeroFirst then 3 else 2) 0 rest
    .bytes [UInt8.ofNat n] after
  | c :: rest =>
    if (octal? c).isSome then
      let (n, after) := digits 8 3 0 (c :: rest)
      .bytes [UInt8.ofNat n] after
    else .bytes [92] (c :: rest)
  | [] => .bytes [92] []

/-- Text with its escapes replaced, and whether all output ends with it. The fuel
bounds the number of steps. -/
def unescapeWith (zeroFirst knowsHex : Bool) : Nat → List Char → Bytes × Bool
  | 0, _ => ([], false)
  | _, [] => ([], false)
  | fuel + 1, '\\' :: rest =>
    match escape zeroFirst knowsHex rest with
    | .stop => ([], true)
    | .bytes bs rest =>
      let (more, ends) := unescapeWith zeroFirst knowsHex fuel rest
      (bs ++ more, ends)
  | fuel + 1, c :: rest =>
    let (more, ends) := unescapeWith zeroFirst knowsHex fuel rest
    (Bytes.ofText (String.singleton c) ++ more, ends)

def unescape (zeroFirst knowsHex : Bool) (s : String) : Bytes × Bool :=
  unescapeWith zeroFirst knowsHex (s.length + 1) s.toList

-- ================================================================ echo

/-- Prints its arguments with the escapes replaced. -/
def echoBuiltin : Tool := fun c =>
  let (quiet, args) := match c.args with
    | "-n" :: rest => (true, rest)
    | args => (false, args)
  let (bytes, ends) := unescape true false (" ".intercalate args)
  { output := if quiet || ends then bytes else bytes ++ [10], rest := c.input }

/-- The options in front of the arguments of a printing program: whether a line
end is left out and whether escapes are replaced. -/
def echoOptions : Bool → Bool → List String → Bool × Bool × List String
  | quiet, escapes, a :: rest =>
    match a.toList with
    | '-' :: letters =>
      if !letters.isEmpty && letters.all fun l => l == 'n' || l == 'e' || l == 'E' then
        echoOptions (quiet || letters.contains 'n')
          (letters.foldl (fun on l => if l == 'e' then true else if l == 'E' then false else on)
            escapes) rest
      else (quiet, escapes, a :: rest)
    | _ => (quiet, escapes, a :: rest)
  | quiet, escapes, [] => (quiet, escapes, [])

/-- Prints its arguments, escapes only being replaced if that is wanted. -/
def echo : Tool := fun c =>
  let (quiet, escapes, args) := echoOptions false false c.args
  let line := " ".intercalate args
  let (bytes, ends) := if escapes then unescape true true line else (Bytes.ofText line, false)
  { output := if quiet || ends then bytes else bytes ++ [10], rest := c.input }

-- ============================================================== printf

/-- How a value is placed. -/
structure Placement where
  left : Bool := false
  zeros : Bool := false
  plus : Bool := false
  blank : Bool := false
  sharp : Bool := false
  width : Nat := 0
  places : Option Nat := none

/-- The flags of a conversion. -/
def flags : Placement → List Char → Placement × List Char
  | p, '-' :: rest => flags { p with left := true } rest
  | p, '0' :: rest => flags { p with zeros := true } rest
  | p, '+' :: rest => flags { p with plus := true } rest
  | p, ' ' :: rest => flags { p with blank := true } rest
  | p, '#' :: rest => flags { p with sharp := true } rest
  | p, rest => (p, rest)

def pad (p : Placement) (bs : Bytes) : Bytes :=
  let fill := List.replicate (p.width - bs.length) (32 : UInt8)
  if p.left then bs ++ fill else fill ++ bs

def toBase (base : Nat) (n : Nat) : String := String.ofList (Nat.toDigits base n)

/-- An integer argument: decimal, octal after a zero, hexadecimal after `0x`, or
the code of a character after a quote. -/
def integer? (s : String) : Option Int :=
  let unsigned (cs : List Char) : Option Nat :=
    match cs with
    | '0' :: 'x' :: ds => whole 16 ds
    | '0' :: 'X' :: ds => whole 16 ds
    | '0' :: ds => if ds.isEmpty then some 0 else whole 8 ds
    | ds => whole 10 ds
  match (s.toList.dropWhile fun c => c == ' ' || c == '\t') with
  | [] => some 0
  | '-' :: cs => (unsigned cs).map fun n => -(n : Int)
  | '+' :: cs => (unsigned cs).map fun n => (n : Int)
  | '\'' :: c :: _ => some c.toNat
  | '"' :: c :: _ => some c.toNat
  | cs => (unsigned cs).map fun n => (n : Int)
where
  /-- Digits in a base and nothing else. -/
  whole (base : Nat) (cs : List Char) : Option Nat :=
    if cs.isEmpty then none
    else (cs.mapM fun c => (Json.Token.hexDigit? c).filter (· < base)).map fun ds =>
      ds.foldl (fun n d => base * n + d) 0

/-- The integer at the front of a text, nought if there is none, and the rest. -/
def leadingInteger (cs : List Char) : Int × List Char :=
  let cs := cs.dropWhile fun c => c == ' ' || c == '\t'
  let (sign, ds) := match cs with
    | '-' :: ds => ((-1 : Int), ds)
    | '+' :: ds => (1, ds)
    | ds => (1, ds)
  let (digits, rest) := ds.span Char.isDigit
  (sign * ((String.ofList digits).toNat?.getD 0), if digits.isEmpty then cs else rest)

/-- The text of an integer in a conversion. -/
def integerText (p : Placement) (letter : Char) (n : Int) : Bytes :=
  let isSigned := letter == 'd' || letter == 'i'
  let size := if isSigned then n.natAbs else (n % (Nat.pow 2 64 : Int)).toNat
  let body := match letter with
    | 'x' => toBase 16 size
    | 'X' => (toBase 16 size).toUpper
    | 'o' => toBase 8 size
    | _ => toBase 10 size
  let body := match p.places with
    | some k => String.ofList (List.replicate (k - body.length) '0') ++ body
    | none => body
  let sign :=
    if isSigned && n < 0 then "-"
    else if isSigned && p.plus then "+"
    else if isSigned && p.blank then " "
    else if p.sharp && size != 0 then
      match letter with
      | 'x' => "0x"
      | 'X' => "0X"
      | 'o' => "0"
      | _ => ""
    else ""
  let body :=
    if p.zeros && !p.left && p.places.isNone then
      String.ofList (List.replicate (p.width - sign.length - body.length) '0') ++ body
    else body
  pad p (Bytes.ofText (sign ++ body))

/-- What a format has printed so far. -/
structure Printed where
  output : Bytes := []
  errors : List String := []
  args : List String
  /-- Whether an argument was taken. -/
  used : Bool := false
  stopped : Bool := false

/-- The next argument. -/
def Printed.next (p : Printed) : String × Printed :=
  match p.args with
  | [] => ("", p)
  | a :: rest => (a, { p with args := rest, used := true })

def Printed.write (p : Printed) (bs : Bytes) : Printed := { p with output := p.output ++ bs }

/-- One conversion with its letter. -/
def convert (place : Placement) (letter : Char) (p : Printed) : Printed :=
  if letter == '%' then p.write [37]
  else
    let (arg, p) := p.next
    match letter with
    | 's' =>
      let bs := Bytes.ofText arg
      p.write (pad place (match place.places with
        | some k => bs.take k
        | none => bs))
    | 'c' => p.write (pad place ((Bytes.ofText arg).take 1))
    | 'b' =>
      let (bs, ends) := unescape true true arg
      { p.write (pad place bs) with stopped := ends }
    | _ =>
      if "diouxX".toList.contains letter then
        match integer? arg with
        | some n => p.write (integerText place letter n)
        | none =>
          let (n, rest) := leadingInteger arg.toList
          let reason :=
            if rest.length < arg.length then "not completely converted" else "expected numeric value"
          { p.write (integerText place letter n) with
            errors := p.errors ++ ["printf: " ++ arg ++ ": " ++ reason] }
      else { p with stopped := true, errors := p.errors ++ ["printf: %" ++ String.singleton letter ++ ": invalid directive"] }

/-- Prints a format once; the fuel bounds the number of steps. -/
def formatWith (knowsHex : Bool) : Nat → List Char → Printed → Printed
  | 0, _, p => p
  | _, [], p => p
  | fuel + 1, '\\' :: rest, p =>
    match escape false knowsHex rest with
    | .stop => { p with stopped := true }
    | .bytes bs rest => formatWith knowsHex fuel rest (p.write bs)
  | fuel + 1, '%' :: rest, p =>
    let (place, rest) := flags {} rest
    let (place, rest, p) := match rest with
      | '*' :: rest =>
        let (arg, p) := p.next
        ({ place with width := (arg.toNat?).getD 0 }, rest, p)
      | _ =>
        let (n, rest) := digits 10 9 0 rest
        ({ place with width := n }, rest, p)
    let (place, rest) := match rest with
      | '.' :: rest =>
        let (n, rest) := digits 10 9 0 rest
        ({ place with places := some n }, rest)
      | _ => (place, rest)
    match rest with
    | [] => p.write [37]
    | letter :: rest =>
      let p := convert place letter p
      if p.stopped then p else formatWith knowsHex fuel rest p
  | fuel + 1, c :: rest, p => formatWith knowsHex fuel rest (p.write (Bytes.ofText (String.singleton c)))

/-- Prints a format as often as there are arguments for it. -/
def repeatWith (knowsHex : Bool) (format : List Char) : Nat → Printed → Printed
  | 0, p => p
  | fuel + 1, p =>
    let p := formatWith knowsHex (format.length + 1) format { p with used := false }
    if p.stopped || p.args.isEmpty || !p.used then p else repeatWith knowsHex format fuel p

/-- Prints its arguments by a format. -/
def printf (speaker : String) (knowsHex : Bool) : Tool := fun c =>
  let args := match c.args with
    | "--" :: rest => rest
    | args => args
  match args with
  | [] => { Answer.fail 2 (speaker ++ "printf: usage: printf format [arg ...]") with rest := c.input }
  | format :: args =>
    let p := repeatWith knowsHex format.toList (args.length + 1) { args }
    { output := p.output
      errors := Bytes.ofText (String.join (p.errors.map fun e => speaker ++ e ++ "\n"))
      status := if p.errors.isEmpty then 0 else if p.stopped then 2 else 1
      rest := c.input }

end Printing

end Shell

end HookRules
