/-
Tools that look for patterns in lines.

Patterns are basic or extended regular expressions. They are brought into the
syntax of `Regex`, in which most signs mean something without a backslash.
-/
import HookRules.Regex.Replace
import HookRules.Shell.Filter

namespace HookRules

namespace Shell

namespace Search

-- ============================================================ patterns

/-- The inside of a bracket up to its end, and what follows it. -/
def bracket : Nat → List Char → Option (List Char × List Char)
  | 0, _ => none
  | _, [] => none
  | _, ']' :: rest => some ([']'], rest)
  | fuel + 1, '[' :: ':' :: rest =>
    match rest.span (· != ']') with
    | (name, _ :: rest) =>
      (bracket fuel rest).map fun (cs, r) => (['[', ':'] ++ name ++ [']'] ++ cs, r)
    | _ => none
  | fuel + 1, c :: rest =>
    (bracket fuel rest).map fun (cs, r) =>
      if c == '[' || c == '&' || c == '~' || c == '\\' then ('\\' :: c :: cs, r) else (c :: cs, r)

/-- A bracket after its opening sign. -/
def wholeBracket (cs : List Char) : Option (List Char × List Char) :=
  let fuel := cs.length + 1
  let made := match cs with
    | '^' :: ']' :: rest =>
      (bracket fuel rest).map fun ((cs, r) : List Char × List Char) => (['^', '\\', ']'] ++ cs, r)
    | ']' :: rest =>
      (bracket fuel rest).map fun ((cs, r) : List Char × List Char) => (['\\', ']'] ++ cs, r)
    | cs => bracket fuel cs
  made.map fun ((cs, r) : List Char × List Char) => ('[' :: cs, r)

/-- Signs that mean something in `Regex` without a backslash. -/
def isSign (c : Char) : Bool := "\\.+*?()|[]\x7b\x7d^$#&-~".toList.contains c

def literal (c : Char) : List Char := if isSign c then ['\\', c] else [c]

/-- What a backslash and a sign mean in both kinds of expressions. -/
def escaped (c : Char) : List Char :=
  match c with
  | 'n' => ['\n']
  | 't' => ['\t']
  | '<' => "\\b\x7bstart\x7d".toList
  | '>' => "\\b\x7bend\x7d".toList
  | _ => if "wWsSbB".toList.contains c then ['\\', c] else literal c

/-- Brings an expression into the other syntax. `atStart` says that nothing stands
in front that could be repeated. -/
def convert (extended : Bool) : Nat → Bool → List Char → List Char
  | 0, _, _ => []
  | _, _, [] => []
  | fuel + 1, atStart, '\\' :: c :: rest =>
    if extended then escaped c ++ convert extended fuel false rest
    else match c with
      | '(' => '(' :: convert extended fuel true rest
      | '|' => '|' :: convert extended fuel true rest
      | ')' | '\x7b' | '\x7d' | '+' | '?' => c :: convert extended fuel false rest
      | _ => escaped c ++ convert extended fuel (atStart && false) rest
  | fuel + 1, atStart, '[' :: rest =>
    match wholeBracket rest with
    | some (cs, rest) => cs ++ convert extended fuel (atStart && false) rest
    | none => ['['] ++ convert extended fuel false rest
  | fuel + 1, atStart, '^' :: rest =>
    if extended || atStart then '^' :: convert extended fuel true rest
    else ['\\', '^'] ++ convert extended fuel false rest
  | fuel + 1, _, '$' :: rest =>
    let ends := match rest with
      | [] => true
      | '\\' :: ')' :: _ => true
      | '\\' :: '|' :: _ => true
      | _ => false
    (if extended || ends then ['$'] else ['\\', '$']) ++ convert extended fuel false rest
  | fuel + 1, _, '.' :: rest => '.' :: convert extended fuel false rest
  | fuel + 1, atStart, '*' :: rest =>
    (if atStart then ['\\', '*'] else ['*']) ++ convert extended fuel false rest
  | fuel + 1, _, c :: rest =>
    if extended && "()|+?\x7b\x7d".toList.contains c then
      c :: convert extended fuel (c == '(' || c == '|') rest
    else literal c ++ convert extended fuel false rest

/-- How a pattern is meant. -/
structure Manner where
  extended : Bool := false
  fixed : Bool := false
  ignoresCase : Bool := false
  wholeLine : Bool := false
  wholeWord : Bool := false

/-- The pattern of a text. -/
def compile? (m : Manner) (pattern : String) : Option Regex :=
  let cs := pattern.toList
  let body := if m.fixed then cs.flatMap literal else convert m.extended (cs.length + 1) true cs
  let body := if m.wholeWord then "\\b(?:".toList ++ body ++ ")\\b".toList else body
  let body := if m.wholeLine then "^(?:".toList ++ body ++ ")$".toList else body
  let body := if m.ignoresCase then "(?i)".toList ++ body else body
  (Regex.ofText (String.ofList body)).toOption

/-- The matches in a text from left to right; the fuel bounds their number. -/
def matchesWith (r : Regex) (text : Array Char) :
    Nat → Nat → Option Nat → List (Nat × Nat × Regex.Slots)
  | 0, _, _ => []
  | fuel + 1, place, lastEnd =>
    match r.nextMatch? text place lastEnd with
    | none => []
    | some (first, last, slots) => (first, last, slots) :: matchesWith r text fuel last (some last)

def allMatches (r : Regex) (text : Array Char) : List (Nat × Nat × Regex.Slots) :=
  matchesWith r text (text.size + 2) 0 none

-- ================================================================ grep

/-- What one pattern text means: one pattern on each of its lines. -/
def patterns (m : Manner) (texts : List String) : List Regex :=
  (texts.flatMap fun t => t.splitOn "\n").filterMap (compile? m)

/-- Lines that a pattern matches. -/
def grep (manner : Manner) : Tool := fun c =>
  let takesValue (o : Char) : Bool := o == 'e' || o == 'm' || o == 'f'
  let (os, rest) := options takesValue c.args
  let given := (os.filter fun o => o.1 == 'e').map (·.2)
  let (texts, files) := match given, rest with
    | [], pattern :: files => ([pattern], files)
    | given, files => (given, files)
  if texts.isEmpty then .fail 2 "Usage: grep [OPTION]... PATTERNS [FILE]..."
  else
    let m : Manner := {
      extended := manner.extended || hasOption os 'E'
      fixed := manner.fixed || hasOption os 'F'
      ignoresCase := hasOption os 'i'
      wholeLine := hasOption os 'x'
      wholeWord := hasOption os 'w' }
    let rs := patterns m texts
    let isSelected (row : Bytes) : Bool :=
      rs.any (fun r => r.isMatch row.toText) != hasOption os 'v'
    let most := ((optionValue? os 'm').bind String.toNat?)
    let named := !hasOption os 'h' && (1 < files.length || hasOption os 'H')
    let sources := if files.isEmpty then ["-"] else files
    let (output, errors, found) := sources.foldl
      (fun (output, errors, found) name =>
        match c.readAll [name] with
        | (_, fault :: _) =>
          (output, if hasOption os 's' then errors else errors ++ ["grep: " ++ fault ++ "\n"], found)
        | (bytes, []) =>
          let hits := (bytes.lines.zipIdx 1).filter fun (row, _) => isSelected row
          let hits := match most with
            | some n => hits.take n
            | none => hits
          let front (n : Nat) : Bytes := Bytes.ofText (
            (if named then name ++ ":" else "") ++ (if hasOption os 'n' then Nat.repr n ++ ":" else ""))
          let shown : Bytes :=
            if hasOption os 'q' then []
            else if hasOption os 'l' then
              if hits.isEmpty then [] else Bytes.ofText (
                (if name = "-" then "(standard input)" else name) ++ "\n")
            else if hasOption os 'c' then
              Bytes.ofText ((if named then name ++ ":" else "") ++ Nat.repr hits.length ++ "\n")
            else if hasOption os 'o' then
              if hasOption os 'v' then []
              else hits.flatMap fun (row, n) =>
                let text := (Text.decode row).toArray
                rs.flatMap fun r => (allMatches r text).flatMap fun (first, last, _) =>
                  if first = last then []
                  else front n ++ Bytes.ofText (String.ofList (Regex.slice text first last)) ++ [10]
            else hits.flatMap fun (row, n) => front n ++ row ++ [10]
          (output ++ shown, errors, found || !hits.isEmpty))
      (([] : Bytes), ([] : List String), false)
    { output
      errors := Bytes.ofText (String.join errors)
      status :=
        if found && (errors.isEmpty || hasOption os 'q') then 0
        else if errors.isEmpty then 1 else 2 }

-- ================================================================= sed

/-- A part of what a match is replaced by. -/
inductive Replacement where
  | char (c : Char)
  | group (index : Nat)

/-- The parts of a replacement. -/
def replacement : List Char → List Replacement
  | '\\' :: 'n' :: rest => .char '\n' :: replacement rest
  | '\\' :: 't' :: rest => .char '\t' :: replacement rest
  | '\\' :: c :: rest =>
    (if c.isDigit then .group (c.toNat - '0'.toNat) else .char c) :: replacement rest
  | '&' :: rest => .group 0 :: replacement rest
  | c :: rest => .char c :: replacement rest
  | [] => []

inductive Edit where
  /-- Replaces the match with a number, and those after it if there is none or `all`. -/
  | substitute (r : Regex) (parts : List Replacement) (number : Nat) (all prints : Bool)
  | print
  | delete
  | quit
  | number
  | exchange (sources targets : List Char)

inductive Address where
  | always
  | line (n : Nat)
  | lastLine
  | pattern (r : Regex)
  | range (first last : Address)

/-- An edit with the lines that it is for. -/
structure Rule where
  address : Address
  inverted : Bool
  edit : Edit

/-- The characters up to a mark that no backslash stands in front of; a backslash
in front of the mark is taken away. -/
def upTo (mark : Char) : List Char → Option (List Char × List Char)
  | [] => none
  | '\\' :: c :: rest =>
    (upTo mark rest).map fun (cs, r) => (if c = mark then c :: cs else '\\' :: c :: cs, r)
  | c :: rest => if c = mark then some ([], rest) else (upTo mark rest).map fun (cs, r) => (c :: cs, r)

def address? (extended : Bool) (cs : List Char) : Option (Address × List Char) :=
  match cs with
  | '$' :: rest => some (.lastLine, rest)
  | '/' :: rest =>
    match upTo '/' rest with
    | some (pattern, rest) =>
      (compile? { extended } (String.ofList pattern)).map fun r => (.pattern r, rest)
    | none => none
  | c :: _ =>
    if c.isDigit then
      let (ds, rest) := cs.span Char.isDigit
      some (.line ((String.ofList ds).toNat?.getD 0), rest)
    else none
  | [] => none

/-- The flags of a substitution. -/
def substituteFlags (cs : List Char) : List Char × List Char :=
  cs.span fun c => c == 'g' || c == 'p' || c == 'i' || c == 'I' || c.isDigit

def edit? (extended : Bool) (cs : List Char) : Option (Edit × List Char) :=
  match cs with
  | 's' :: mark :: rest => do
    let (pattern, rest) ← upTo mark rest
    let (text, rest) ← upTo mark rest
    let (flags, rest) := substituteFlags rest
    let r ← compile? { extended, ignoresCase := flags.any fun c => c == 'i' || c == 'I' }
      (String.ofList pattern)
    let number := (String.ofList (flags.filter Char.isDigit)).toNat?.getD 1
    return (.substitute r (replacement text) number (flags.contains 'g') (flags.contains 'p'), rest)
  | 'y' :: mark :: rest => do
    let (a, rest) ← upTo mark rest
    let (b, rest) ← upTo mark rest
    return (.exchange a b, rest)
  | 'p' :: rest => some (.print, rest)
  | 'd' :: rest => some (.delete, rest)
  | 'q' :: rest => some (.quit, rest)
  | '=' :: rest => some (.number, rest)
  | _ => none

/-- The rules of a script; the fuel bounds their number. -/
def rules? (extended : Bool) : Nat → List Char → Option (List Rule)
  | 0, _ => none
  | fuel + 1, cs =>
    match cs.dropWhile fun c => c == ' ' || c == ';' || c == '\n' || c == '\t' with
    | [] => some []
    | cs => do
      let (address, cs) : Address × List Char := match address? extended cs with
        | some (first, ',' :: rest) =>
          match address? extended rest with
          | some (last, rest) => (.range first last, rest)
          | none => (first, rest)
        | some (a, rest) => (a, rest)
        | none => (.always, cs)
      let cs := cs.dropWhile (· == ' ')
      let (inverted, cs) := match cs with
        | '!' :: rest => (true, rest)
        | cs => (false, cs)
      let (edit, cs) ← edit? extended cs
      let more ← rules? extended fuel cs
      return { address, inverted, edit } :: more

/-- A line with its matches replaced, and whether there were any. -/
def substitute (r : Regex) (parts : List Replacement) (number : Nat) (all : Bool)
    (line : List Char) : List Char × Bool :=
  let text := line.toArray
  let hits := ((allMatches r text).zipIdx 1).filter fun (_, k) =>
    if all then number ≤ k else k = number
  let write (slots : Regex.Slots) : List Char :=
    parts.flatMap fun
      | .char c => [c]
      | .group k => Regex.groupText text slots k
  let (done, place) := hits.foldl
    (fun (done, place) ((first, last, slots), _) =>
      (done ++ Regex.slice text place first ++ write slots, last))
    (([] : List Char), 0)
  (done ++ Regex.slice text place text.size, !hits.isEmpty)

/-- Whether a line is meant by an address that is no range. -/
def Address.holds (n : Nat) (isLast : Bool) (line : List Char) : Address → Bool
  | .always => true
  | .line k => k = n
  | .lastLine => isLast
  | .pattern r => r.isMatch (String.ofList line)
  | .range _ _ => false

/-- What editing one line has come to. -/
structure Edited where
  line : List Char
  output : List (List Char) := []
  deleted : Bool := false
  quits : Bool := false
  /-- The rules whose range is open. -/
  within : List Nat

/-- One rule on a line. -/
def Rule.apply (k n : Nat) (isLast : Bool) (e : Edited) (r : Rule) : Edited :=
  if e.deleted || e.quits then e
  else
    let (holds, within) := match r.address with
      | .range first last =>
        if e.within.contains k then
          (true, if last.holds n isLast e.line then e.within.filter (· != k) else e.within)
        else if first.holds n isLast e.line then
          let ends : Bool := match last with
            | .line m => m ≤ n
            | .lastLine => isLast
            | _ => false
          (true, if ends then e.within else k :: e.within)
        else (false, e.within)
      | a => (a.holds n isLast e.line, e.within)
    let e := { e with within }
    if holds == r.inverted then e
    else match r.edit with
      | .substitute regex parts number all prints =>
        let (line, hit) := substitute regex parts number all e.line
        { e with line, output := if hit && prints then e.output ++ [line] else e.output }
      | .print => { e with output := e.output ++ [e.line] }
      | .delete => { e with deleted := true }
      | .quit => { e with quits := true }
      | .number => { e with output := e.output ++ [(Nat.repr n).toList] }
      | .exchange a b =>
        { e with line := e.line.map fun c => ((a.idxOf? c).bind fun i => b[i]?).getD c }

/-- Edits lines from a number on. -/
def editLines (quiet : Bool) (rs : List Rule) : Nat → List Nat → List (List Char) → List (List Char)
  | _, _, [] => []
  | n, within, line :: rest =>
    let e := (rs.zipIdx).foldl (fun e (r, k) => r.apply k n rest.isEmpty e) { line, within }
    let shown := e.output ++ (if e.deleted || quiet then [] else [e.line])
    if e.quits then shown else shown ++ editLines quiet rs (n + 1) e.within rest

/-- Edits its input line by line. -/
def sed : Tool := fun c =>
  let (os, rest) := options (fun o => o == 'e') c.args
  let scripts := (os.filter fun o => o.1 == 'e').map (·.2)
  let (script, files) := match scripts, rest with
    | [], script :: files => (script, files)
    | scripts, files => ("\n".intercalate scripts, files)
  let extended := hasOption os 'E' || hasOption os 'r'
  match rules? extended (script.length + 1) script.toList with
  | none => .fail 1 "sed: -e expression #1: unknown command"
  | some rs =>
    .ofFilter "sed" c files fun bytes =>
      let rows := editLines (hasOption os 'n') rs 1 [] (bytes.lines.map Text.decode)
      let output := Bytes.ofLines (rows.map fun row => Bytes.ofText (String.ofList row))
      if bytes.getLast? = some 10 then output else output.dropLast

end Search

end Shell

end HookRules
