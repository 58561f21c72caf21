/-
Tools that turn bytes into bytes.
-/
import HookRules.Shell.Printing

namespace HookRules

namespace Shell

namespace Filter

def cat : Tool := fun c =>
  let (_, files) := options (fun _ => false) c.args
  .ofFilter "cat" c files id

/-- A count of lines or bytes, with a sign that may stand in front of it. -/
def count? (s : String) : Option (Char × Nat) :=
  match s.toList with
  | '-' :: ds => (String.ofList ds).toNat?.map ('-', ·)
  | '+' :: ds => (String.ofList ds).toNat?.map ('+', ·)
  | _ => s.toNat?.map (' ', ·)

/-- Arguments of which the first one may be a number of lines alone. -/
def lineCount : List String → List String
  | [] => []
  | a :: rest =>
    match a.toList with
    | '-' :: d :: ds =>
      (if d.isDigit then "-n" ++ String.ofList (d :: ds) else a) :: rest
    | _ => a :: rest

/-- The first lines or bytes. -/
def head : Tool := fun c =>
  let (os, files) := options (fun o => o == 'n' || o == 'c') (lineCount c.args)
  let bound := (optionValue? os 'c').bind count?
  if files = ["/dev/zero"] then
    { output := List.replicate (bound.elim 0 (·.2)) 0, rest := c.input }
  else .ofFilter "head" c files fun bytes =>
    match bound with
    | some ('-', n) => bytes.take (bytes.length - n)
    | some (_, n) => bytes.take n
    | none =>
      let rows := bytes.lines
      match ((optionValue? os 'n').bind count?).getD (' ', 10) with
      | ('-', n) => Bytes.ofLines (rows.take (rows.length - n))
      | (_, n) => if rows.length ≤ n then bytes else Bytes.ofLines (rows.take n)

/-- The last lines or bytes. -/
def tail : Tool := fun c =>
  let (os, files) := options (fun o => o == 'n' || o == 'c') (lineCount c.args)
  .ofFilter "tail" c files fun bytes =>
    match (optionValue? os 'c').bind count? with
    | some ('+', n) => bytes.drop (n - 1)
    | some (_, n) => bytes.drop (bytes.length - n)
    | none =>
      let rows := bytes.lines
      let kept := match ((optionValue? os 'n').bind count?).getD (' ', 10) with
        | ('+', n) => rows.drop (n - 1)
        | (_, n) => rows.drop (rows.length - n)
      let shown := Bytes.ofLines kept
      if bytes.getLast? = some 10 then shown else shown.dropLast

/-- Counts lines, words and bytes. -/
def wc : Tool := fun c =>
  let (os, files) := options (fun _ => false) c.args
  let isBlank (b : UInt8) : Bool := b == 32 || (9 ≤ b && b ≤ 13)
  let words (bs : Bytes) : Nat := ((bs.splitOnP isBlank).filter fun w => !w.isEmpty).length
  let counts (bs : Bytes) : List Nat :=
    (if hasOption os 'l' || os.isEmpty then [bs.count 10] else [])
      ++ (if hasOption os 'w' || os.isEmpty then [words bs] else [])
      ++ (if hasOption os 'c' || hasOption os 'm' || os.isEmpty then [bs.length] else [])
  let row (width : Nat) (ns : List Nat) (name : String) : String :=
    let texts := ns.map fun n =>
      let t := Nat.repr n
      String.ofList (List.replicate (width - t.length) ' ') ++ t
    " ".intercalate (texts ++ (if name = "" then [] else [name])) ++ "\n"
  match files with
  | [] =>
    let ns := counts c.input
    .ofText (row (if ns.length ≤ 1 then 0 else 7) ns "")
  | _ =>
    let read := files.map fun name => (name, c.readAll [name])
    let rows := read.filterMap fun
      | (name, bytes, []) => some (counts bytes, name)
      | _ => none
    let sums := rows.foldl (fun ns (ms, _) => ns.zipWith (· + ·) ms) (List.replicate 4 0)
    let rows := if files.length ≤ 1 then rows else rows ++ [(sums, "total")]
    let width := ((sums.map fun n => (Nat.repr n).length).max?).getD 0
    { output := Bytes.ofText (String.join (rows.map fun (ns, name) => row width ns name))
      errors := Bytes.ofText (String.join (read.filterMap fun
        | (_, _, fault :: _) => some ("wc: " ++ fault ++ "\n")
        | _ => none))
      status := if read.all fun r => r.2.2.isEmpty then 0 else 1
      rest := c.input }

-- ========================================================== characters

/-- The bytes of a set: escapes, ranges and the classes with names. -/
def bytesOfSet : Nat → List Char → Bytes
  | 0, _ => []
  | _, [] => []
  | fuel + 1, '\\' :: rest =>
    match Printing.escape false false rest with
    | .bytes [92] (c :: rest) => Bytes.ofText (String.singleton c) ++ bytesOfSet fuel rest
    | .bytes bs rest => bs ++ bytesOfSet fuel rest
    | .stop => []
  | fuel + 1, '[' :: ':' :: rest =>
    let (name, after) := rest.span (· != ':')
    let all := (List.range 128).map Char.ofNat
    let isIn : Option (Char → Bool) := match String.ofList name with
      | "upper" => some Char.isUpper
      | "lower" => some Char.isLower
      | "digit" => some Char.isDigit
      | "alpha" => some Char.isAlpha
      | "alnum" => some Char.isAlphanum
      | "space" => some fun c => c == ' ' || (9 ≤ c.toNat && c.toNat ≤ 13)
      | "blank" => some fun c => c == ' ' || c == '\t'
      | "punct" => some fun c => 33 ≤ c.toNat && c.toNat < 127 && !c.isAlphanum
      | _ => none
    match isIn with
    | some p => (all.filter p).map (fun c => UInt8.ofNat c.toNat) ++ bytesOfSet fuel (after.drop 2)
    | none => [91, 58] ++ bytesOfSet fuel rest
  | fuel + 1, a :: '-' :: b :: rest =>
    if a.toNat < 128 && b.toNat < 128 && b != '\\' then
      (List.range (b.toNat + 1 - a.toNat)).map (fun k => UInt8.ofNat (a.toNat + k))
        ++ bytesOfSet fuel rest
    else Bytes.ofText (String.singleton a) ++ bytesOfSet fuel ('-' :: b :: rest)
  | fuel + 1, c :: rest => Bytes.ofText (String.singleton c) ++ bytesOfSet fuel rest

/-- Drops repetitions of bytes that are in a set. -/
def squeeze (isIn : UInt8 → Bool) : Option UInt8 → Bytes → Bytes
  | _, [] => []
  | last, b :: bs =>
    if last = some b ∧ isIn b then squeeze isIn last bs else b :: squeeze isIn (some b) bs

/-- Replaces, deletes or squeezes bytes. -/
def tr : Tool := fun c =>
  let (os, sets) := options (fun _ => false) c.args
  let complement := hasOption os 'c' || hasOption os 'C'
  let set (k : Nat) : Bytes :=
    let cs := (sets[k]?.getD "").toList
    bytesOfSet (cs.length + 1) cs
  let first := set 0
  let second := set 1
  let isFirst (b : UInt8) : Bool := first.contains b != complement
  let replaced (b : UInt8) : UInt8 :=
    if sets.length < 2 || !isFirst b then b
    else if complement then second.getLast?.getD b
    else match first.idxOf? b with
      | some k => second[k]?.getD (second.getLast?.getD b)
      | none => b
  let bytes :=
    if hasOption os 'd' then c.input.filter fun b => !isFirst b
    else c.input.map replaced
  { output :=
      if hasOption os 's' then
        squeeze (if sets.length < 2 then isFirst else second.contains) none bytes
      else bytes }

/-- Places of a list like `1,3-5`. -/
def isListed (list : String) (k : Nat) : Bool :=
  (list.splitOn ",").any fun range =>
    match range.splitOn "-" with
    | [one] => one.toNat? == some k
    | [first, last] =>
      (first.toNat?.getD 1) ≤ k && (if last = "" then true else k ≤ last.toNat?.getD 0)
    | _ => false

/-- The items whose places are listed. -/
def listed (list : String) (items : List α) : List α :=
  (items.zipIdx 1).filterMap fun (item, k) => if isListed list k then some item else none

/-- Fields or bytes of each line. -/
def cut : Tool := fun c =>
  let (os, files) := options (fun o => o == 'd' || o == 'f' || o == 'c' || o == 'b') c.args
  let mark := (Bytes.ofText ((optionValue? os 'd').getD "\t")).head?.getD 9
  .ofFilter "cut" c files fun bytes =>
    Bytes.ofLines (bytes.lines.filterMap fun row =>
      match optionValue? os 'f', (optionValue? os 'c').or (optionValue? os 'b') with
      | some list, _ =>
        if row.contains mark then some ([mark].intercalate (listed list (row.splitOn mark)))
        else if hasOption os 's' then none else some row
      | none, some list => some (listed list row)
      | none, none => some row)

-- =============================================================== lines

def rowLe (a b : Bytes) : Bool := !(b.lex a fun x y => x < y)

/-- Sorted lines. -/
def sort : Tool := fun c =>
  let (os, files) := options (fun o => o == 'k' || o == 't') c.args
  let number (row : Bytes) : Int := (Printing.leadingInteger row.toText.toList).1
  let le (a b : Bytes) : Bool :=
    if hasOption os 'n' && number a != number b then number a < number b else rowLe a b
  .ofFilter "sort" c files fun bytes =>
    let rows := bytes.lines.mergeSort le
    let rows := if hasOption os 'r' then rows.reverse else rows
    Bytes.ofLines (if hasOption os 'u' then rows.eraseDups else rows)

/-- Lines that are not like the one before them. -/
def uniq : Tool := fun c =>
  let (os, files) := options (fun _ => false) c.args
  .ofFilter "uniq" c files fun bytes =>
    let groups := bytes.lines.splitBy (· == ·)
    let groups := if hasOption os 'd' then groups.filter fun g => 1 < g.length else groups
    Bytes.ofLines (groups.filterMap fun g =>
      g.head?.map fun row =>
        if hasOption os 'c' then
          let n := Nat.repr g.length
          Bytes.ofText (String.ofList (List.replicate (7 - n.length) ' ') ++ n ++ " ") ++ row
        else row)

/-- Lines from the last to the first. -/
def tac : Tool := fun c => .ofFilter "tac" c c.args fun bytes => Bytes.ofLines bytes.lines.reverse

/-- Lines with their characters from the last to the first. -/
def rev : Tool := fun c =>
  .ofFilter "rev" c c.args fun bytes =>
    Bytes.ofLines (bytes.lines.map fun row =>
      Bytes.ofText (String.ofList (Text.decode row).reverse))

/-- Numbers from the first to the last. -/
def seq : Tool := fun c =>
  let ns := c.args.filterMap Printing.integer?
  let between (first step last : Int) : List Int :=
    if step = 0 then []
    else (List.range ((last - first) / step + 1).toNat).map fun (k : Nat) => first + step * (k : Int)
  let numbers := match ns with
    | [last] => between 1 1 last
    | [first, last] => between first 1 last
    | [first, step, last] => between first step last
    | _ => []
  .ofText (String.join (numbers.map fun n => toString n ++ "\n"))

-- =============================================================== paths

/-- The last part of a path, without an ending that may be given. -/
def basename : Tool := fun c =>
  match c.args with
  | [] => .fail 1 "basename: missing operand"
  | path :: more =>
    let parts := (path.splitOn "/").filter (· ≠ "")
    let name := parts.getLast?.getD (if path = "" then "" else "/")
    let name := match more with
      | ending :: _ =>
        if ending ≠ "" ∧ name ≠ ending ∧ name.endsWith ending then
          String.ofList (name.toList.take (name.length - ending.length))
        else name
      | [] => name
    .ofText (name ++ "\n")

/-- A path without its last part. -/
def dirname : Tool := fun c =>
  match c.args with
  | [] => .fail 1 "dirname: missing operand"
  | path :: _ =>
    let trimmed := (path.toList.reverse.dropWhile (· == '/')).dropWhile (· != '/')
    let parent := String.ofList (trimmed.dropWhile (· == '/')).reverse
    .ofText ((if parent ≠ "" then parent else if Path.isAbsolute path then "/" else ".") ++ "\n")

/-- The names in a directory. -/
def ls : Tool := fun c =>
  let (_, names) := options (fun _ => false) c.args
  let name := names.head?.getD "."
  match c.files.find? (c.path name) with
  | some (.dir _ entries) =>
    let shown := (entries.map (·.1)).filter fun n => !n.startsWith "."
    .ofText (String.join ((shown.mergeSort (· ≤ ·)).map (· ++ "\n")))
  | some _ => .ofText (name ++ "\n")
  | none => .fail 2 ("ls: cannot access '" ++ name ++ "': No such file or directory")

-- ================================================================ time

/-- The milliseconds of a number of seconds, which may have places and a unit. -/
def milliseconds? (s : String) : Option Nat := do
  let (number, unit) := s.toList.span fun c => c.isDigit || c == '.'
  let factor ← match unit with
    | [] | ['s'] => some 1
    | ['m'] => some 60
    | ['h'] => some 3600
    | ['d'] => some 86400
    | _ => none
  let (whole, places) ← match (String.ofList number).splitOn "." with
    | [whole] => some (whole, "")
    | [whole, places] => some (whole, places)
    | _ => none
  if whole = "" ∧ places = "" then none
  let thousandths := (String.ofList ((places.toList ++ ['0', '0', '0']).take 3)).toNat?.getD 0
  return factor * (1000 * (whole.toNat?.getD 0) + thousandths)

def sleep : Tool := fun c =>
  match c.args with
  | [] => .fail 1 "sleep: missing operand"
  | args =>
    match args.mapM milliseconds? with
    | some ns => { elapsedMs := ns.foldl (· + ·) 0, rest := c.input }
    | none => .fail 1 ("sleep: invalid time interval '" ++ (args.head?.getD "") ++ "'")

end Filter

end Shell

end HookRules
