/-
Reading command lines.

A text is read line by line, since a line runs before the next one is read; a
compound command may run over several lines. Reading fails with what the shell
says about it.
-/
import HookRules.Shell.Command

namespace HookRules

namespace Shell

/-- What is wrong with a text. -/
inductive SyntaxFault where
  | openQuote
  | openBackquote
  | openBrace
  | badSubstitution
  | badLoopVariable
  | openInteger
  | openText (expecting : String)
  | openWord
  | unexpected (what expecting : String)
  | tooDeep
deriving DecidableEq

def SyntaxFault.message : SyntaxFault → String
  | .openQuote => "Syntax error: Unterminated quoted string"
  | .openBackquote => "Syntax error: EOF in backquote substitution"
  | .openBrace => "Syntax error: Missing '\x7d'"
  | .badSubstitution => "Bad substitution"
  | .badLoopVariable => "Syntax error: Bad for loop variable"
  | .openInteger => "Syntax error: Missing '))'"
  | .openWord => "Syntax error: end of file unexpected (expecting word)"
  | .openText "" => "Syntax error: end of file unexpected"
  | .openText expecting =>
    "Syntax error: end of file unexpected (expecting \"" ++ expecting ++ "\")"
  | .unexpected what "" => "Syntax error: " ++ what ++ " unexpected"
  | .unexpected what expecting =>
    "Syntax error: " ++ what ++ " unexpected (expecting \"" ++ expecting ++ "\")"
  | .tooDeep => "Syntax error: too deep"

/-- Whether a fault is found only at the end of a text. -/
def SyntaxFault.isAtEnd : SyntaxFault → Bool
  | .openQuote | .openBackquote | .openBrace | .openInteger | .openText _ | .openWord => true
  | _ => false

/-- Reads from a text and leaves what is left of it. -/
abbrev Reading := StateT (List Char) (Except SyntaxFault)

namespace Reading

/-- The text that is left. -/
def rest : Reading (List Char) := get

def setRest (cs : List Char) : Reading Unit := set cs

def fail (f : SyntaxFault) : Reading α := throw f

/-- Takes a text at the front if it is there. -/
def takes (s : String) : Reading Bool := do
  let cs ← rest
  if s.toList.isPrefixOf cs then
    setRest (cs.drop s.length)
    return true
  return false

end Reading

open Reading

-- ========================================================== characters

def isNameStart (c : Char) : Bool := c.isAlpha || c == '_'

def isNameChar (c : Char) : Bool := c.isAlphanum || c == '_'

/-- Characters that end a word. -/
def endsWord (c : Char) : Bool :=
  c == ' ' || c == '\t' || c == '\n' || c == ';' || c == '&' || c == '|' || c == '<' || c == '>'
    || c == '(' || c == ')'

/-- Variables whose name is one sign. -/
def isSpecial (c : Char) : Bool :=
  c == '?' || c == '#' || c == '@' || c == '*' || c == '$' || c == '!' || c == '-' || c.isDigit

/-- What follows blanks, joined lines and a comment. -/
def dropBlanks : List Char → List Char
  | ' ' :: rest => dropBlanks rest
  | '\t' :: rest => dropBlanks rest
  | '\\' :: '\n' :: rest => dropBlanks rest
  | '#' :: rest => rest.dropWhile (· != '\n')
  | cs => cs

/-- What follows blanks, comments and line ends; the fuel bounds their number. -/
def dropLines : Nat → List Char → List Char
  | 0, cs => cs
  | fuel + 1, cs =>
    match dropBlanks cs with
    | '\n' :: rest => dropLines fuel rest
    | cs => cs

def skipBlanks : Reading Unit := modify dropBlanks

def skipLines : Reading Unit := modify fun cs => dropLines cs.length cs

/-- The characters up to the closing signs of an integer expression, which holds
balanced brackets. -/
def takeInteger : Nat → List Char → Option (List Char × List Char)
  | _, [] => none
  | 0, ')' :: ')' :: rest => some ([], rest)
  | 0, ')' :: _ => none
  | depth + 1, ')' :: rest => (takeInteger depth rest).map fun (cs, r) => (')' :: cs, r)
  | depth, '(' :: rest => (takeInteger (depth + 1) rest).map fun (cs, r) => ('(' :: cs, r)
  | depth, c :: rest => (takeInteger depth rest).map fun (cs, r) => (c :: cs, r)

/-- The characters up to a backquote; a backslash before a backquote, a dollar
sign or a backslash is taken away. -/
def takeBackquoted : List Char → Option (List Char × List Char)
  | [] => none
  | '`' :: rest => some ([], rest)
  | '\\' :: c :: rest =>
    if c == '`' || c == '$' || c == '\\' then
      (takeBackquoted rest).map fun (cs, r) => (c :: cs, r)
    else (takeBackquoted rest).map fun (cs, r) => ('\\' :: c :: cs, r)
  | c :: rest => (takeBackquoted rest).map fun (cs, r) => (c :: cs, r)

/-- The word of a part that is text and not quoted. -/
def plainText : Word → Option String
  | [.plain s] => some s
  | _ => none

/-- A name and what follows an equals sign, at the front of a word. -/
def assignment? : Word → Option (String × Word)
  | .plain s :: rest =>
    match s.toList.span (· != '=') with
    | (name, _ :: value) =>
      if !name.isEmpty && name.all isNameChar && name.head?.any isNameStart then
        some (String.ofList name,
          if value.isEmpty then rest else .plain (String.ofList value) :: rest)
      else none
    | _ => none
  | _ => none

/-- One character more at the end of parts. -/
def addChar (isQuoted : Bool) (parts : Word) (c : Char) : Word :=
  match parts.getLast?, isQuoted with
  | some (.plain s), false => parts.dropLast ++ [.plain (s.push c)]
  | some (.quoted s), true => parts.dropLast ++ [.quoted (s.push c)]
  | _, false => parts ++ [.plain (String.singleton c)]
  | _, true => parts ++ [.quoted (String.singleton c)]

-- ============================================================ reading

/-- The words that can end the list of commands before them. -/
def closers : List String :=
  ["then", "else", "elif", "fi", "do", "done", "esac", "\x7d"]

/-- The words that start no command of their own. -/
def reserved : List String := "in" :: closers

/-- The sign at the front of a text, as messages name it. -/
def signAt : List Char → String
  | '&' :: '&' :: _ => "\"&&\""
  | '|' :: '|' :: _ => "\"||\""
  | ';' :: ';' :: _ => "\";;\""
  | '\n' :: _ => "newline"
  | '<' :: _ => "redirection"
  | '>' :: _ => "redirection"
  | c :: _ => "\"" ++ String.singleton c ++ "\""
  | [] => "end of file"

/-- A word as messages name it. -/
def wordName (w : Word) : String :=
  match plainText w with
  | some s => if reserved.contains s then "\"" ++ s ++ "\"" else "word"
  | none => "word"

/-- Fails at what stands here instead of what is expected. -/
def unexpectedHere (expecting : String) : Reading α := do
  match ← rest with
  | [] => fail (.openText expecting)
  | cs => fail (.unexpected (signAt cs) expecting)

/-- The change that stands after a variable's name in braces, without its word. -/
def change? : List Char → Option (ChangeKind × List Char)
  | ':' :: '-' :: rest => some (.orElse true, rest)
  | '-' :: rest => some (.orElse false, rest)
  | ':' :: '=' :: rest => some (.orSet true, rest)
  | '=' :: rest => some (.orSet false, rest)
  | ':' :: '+' :: rest => some (.ifSet true, rest)
  | '+' :: rest => some (.ifSet false, rest)
  | ':' :: '?' :: rest => some (.demand true, rest)
  | '?' :: rest => some (.demand false, rest)
  | '%' :: '%' :: rest => some (.cut false true, rest)
  | '%' :: rest => some (.cut false false, rest)
  | '#' :: '#' :: rest => some (.cut true true, rest)
  | '#' :: rest => some (.cut true false, rest)
  | _ => none

/-- Whether a word may be a list of digits, as before a redirection. -/
def channelNumber? (cs : List Char) : Option (Nat × List Char) :=
  match cs with
  | '>' :: _ => some (1, cs)
  | '<' :: _ => some (0, cs)
  | d :: '>' :: rest => if d.isDigit then some (d.toNat - '0'.toNat, '>' :: rest) else none
  | d :: '<' :: rest => if d.isDigit then some (d.toNat - '0'.toNat, '<' :: rest) else none
  | _ => none

mutual

/-- The parts of a word up to its end. In double quotes everything is part of
the word up to the closing quote; in braces up to the closing brace. -/
def readParts (fuel : Nat) (inQuotes inBraces : Bool) (parts : Word) : Reading Word := do
  match fuel with
  | 0 => fail .tooDeep
  | fuel + 1 =>
    let isQuoted := inQuotes
    match ← rest with
    | [] => if inQuotes then fail .openQuote else if inBraces then fail .openBrace else return parts
    | '"' :: cs =>
      setRest cs
      if inQuotes && !inBraces then return parts
      let inner ← readParts fuel true false []
      readParts fuel inQuotes inBraces (parts ++ .quoted "" :: inner)
    | '\x7d' :: cs =>
      setRest cs
      if inBraces then return parts
      readParts fuel inQuotes inBraces (addChar isQuoted parts '\x7d')
    | '\\' :: '\n' :: cs =>
      setRest cs
      readParts fuel inQuotes inBraces parts
    | '\\' :: c :: cs =>
      setRest cs
      if inQuotes && !(c == '$' || c == '`' || c == '"' || c == '\\' || (inBraces && c == '\x7d')) then
        readParts fuel inQuotes inBraces (addChar true (addChar true parts '\\') c)
      else readParts fuel inQuotes inBraces (addChar true parts c)
    | '\'' :: cs =>
      if inQuotes then
        setRest cs
        readParts fuel inQuotes inBraces (addChar isQuoted parts '\'')
      else
        match cs.span (· != '\'') with
        | (_, []) => fail .openQuote
        | (inner, _ :: cs) =>
          setRest cs
          readParts fuel inQuotes inBraces (parts ++ [.quoted (String.ofList inner)])
    | '`' :: cs =>
      match takeBackquoted cs with
      | none => fail .openBackquote
      | some (inner, cs) =>
        setRest inner
        let body ← readAll fuel
        setRest cs
        readParts fuel inQuotes inBraces (parts ++ [.output body isQuoted])
    | '$' :: cs =>
      setRest cs
      let part ← readDollar fuel isQuoted
      readParts fuel inQuotes inBraces (parts ++ [part])
    | c :: cs =>
      if !inQuotes && !inBraces && endsWord c then return parts
      setRest cs
      readParts fuel inQuotes inBraces (addChar isQuoted parts c)

/-- What a dollar sign starts. -/
def readDollar (fuel : Nat) (isQuoted : Bool) : Reading Part := do
  match fuel with
  | 0 => fail .tooDeep
  | fuel + 1 =>
    match ← rest with
    | '(' :: '(' :: cs =>
      match takeInteger 0 cs with
      | some (inner, after) =>
        setRest inner
        let parts ← readInteger fuel inner
        setRest after
        return .integer parts isQuoted
      | none =>
        if !cs.contains ')' then fail .openInteger
        setRest ('(' :: cs)
        readOutput fuel isQuoted
    | '(' :: cs =>
      setRest cs
      readOutput fuel isQuoted
    | '\x7b' :: '#' :: cs =>
      let (name, after) := cs.span isNameChar
      match name, after with
      | _ :: _, '\x7d' :: after =>
        setRest after
        return .variable (String.ofList name) (some (.length, [])) isQuoted
      | [], '\x7d' :: after =>
        setRest after
        return .variable "#" none isQuoted
      | _, _ => fail .badSubstitution
    | '\x7b' :: cs =>
      let (name, after) := match cs with
        | c :: after => if isSpecial c && !c.isDigit then ([c], after) else cs.span isNameChar
        | [] => ([], [])
      if name.isEmpty then fail .badSubstitution
      match after with
      | '\x7d' :: after =>
        setRest after
        return .variable (String.ofList name) none isQuoted
      | _ =>
        match change? after with
        | none => fail (if after.isEmpty then .openBrace else .badSubstitution)
        | some (kind, after) =>
          setRest after
          let isPattern := match kind with
            | .cut _ _ => true
            | _ => false
          let word ← readParts fuel (isQuoted && !isPattern) true []
          return .variable (String.ofList name) (some (kind, word)) isQuoted
    | c :: cs =>
      if isNameStart c then
        let (name, after) := (c :: cs).span isNameChar
        setRest after
        return .variable (String.ofList name) none isQuoted
      else if isSpecial c then
        setRest cs
        return .variable (String.singleton c) none isQuoted
      else return if isQuoted then .quoted "$" else .plain "$"
    | [] => return if isQuoted then .quoted "$" else .plain "$"

/-- The parts of an integer expression. -/
def readInteger (fuel : Nat) (inner : List Char) : Reading Word := do
  match fuel with
  | 0 => fail .tooDeep
  | fuel + 1 =>
    setRest (inner ++ ['"'])
    readParts fuel true false []

/-- A command whose output is wanted, after its bracket. -/
def readOutput (fuel : Nat) (isQuoted : Bool) : Reading Part := do
  match fuel with
  | 0 => fail .tooDeep
  | fuel + 1 =>
    let body ← readList fuel []
    if ← takes ")" then return .output body isQuoted
    fail (.openText ")")

/-- A word, if one starts here. -/
def readWord? (fuel : Nat) : Reading (Option Word) := do
  match fuel with
  | 0 => fail .tooDeep
  | fuel + 1 =>
    skipBlanks
    match ← rest with
    | [] => return none
    | c :: _ => if endsWord c then return none else return some (← readParts fuel false false [])

/-- The words up to the end of a simple command. -/
def readWords (fuel : Nat) : Reading (List Word) := do
  match fuel with
  | 0 => fail .tooDeep
  | fuel + 1 =>
    match ← readWord? fuel with
    | none => return []
    | some w => return w :: (← readWords fuel)

/-- A redirection, if one starts here. -/
def readRedirect? (fuel : Nat) : Reading (Option Redirect) := do
  match fuel with
  | 0 => fail .tooDeep
  | fuel + 1 =>
    skipBlanks
    match channelNumber? (← rest) with
    | none => return none
    | some (number, cs) =>
      let (channel, cs) : Channel × List Char := match cs with
        | '>' :: '>' :: cs => (.appended, cs)
        | '>' :: '&' :: cs => (.copy, cs)
        | '>' :: '|' :: cs => (.output, cs)
        | '>' :: cs => (.output, cs)
        | '<' :: '&' :: cs => (.copy, cs)
        | '<' :: '<' :: cs => (.text, cs)
        | _ :: cs => (.input, cs)
        | [] => (.input, [])
      setRest cs
      match channel with
      | .text => return some (.to number .text (← readHere fuel))
      | _ =>
        match ← readWord? fuel with
        | some w => return some (.to number channel w)
        | none => unexpectedHere ""

/-- The text after a line that ends in its mark. The rest of the line is put
behind it. -/
def readHere (fuel : Nat) : Reading Word := do
  match fuel with
  | 0 => fail .tooDeep
  | fuel + 1 =>
    let strips ← takes "-"
    let some mark ← readWord? fuel | unexpectedHere ""
    let isLiteral := (plainText mark).isNone
    let name := String.join (mark.map fun
      | .plain s => s
      | .quoted s => s
      | _ => "")
    let (line, after) := (← rest).span (· != '\n')
    let rows := (String.ofList (after.drop 1)).splitOn "\n"
    let clean (row : String) : String :=
      if strips then String.ofList (row.toList.dropWhile (· == '\t')) else row
    let before := rows.takeWhile fun row => clean row != name
    let left := (rows.drop before.length).drop 1
    let kept := if before.length = rows.length && before.getLast? = some "" then before.dropLast
      else before
    let text := String.join (kept.map fun row => clean row ++ "\n")
    let next := line ++ '\n' :: ("\n".intercalate left).toList
    if isLiteral then
      setRest next
      return [.quoted text]
    setRest ((text.replace "\"" "\\\"").toList ++ ['"'])
    let parts ← readParts fuel true false []
    setRest next
    return parts

/-- Redirections and words of a simple command. -/
def readSimple (fuel : Nat) (words : List Word) (redirects : List Redirect) :
    Reading (List Word × List Redirect) := do
  match fuel with
  | 0 => fail .tooDeep
  | fuel + 1 =>
    match ← readRedirect? fuel with
    | some r => readSimple fuel words (redirects ++ [r])
    | none =>
      match ← readWord? fuel with
      | some w => readSimple fuel (words ++ [w]) redirects
      | none => return (words, redirects)

/-- The redirections after a compound command. -/
def readRedirects (fuel : Nat) : Reading (List Redirect) := do
  match fuel with
  | 0 => fail .tooDeep
  | fuel + 1 =>
    match ← readRedirect? fuel with
    | some r => return r :: (← readRedirects fuel)
    | none => return []

/-- A word that has to stand here. -/
def expectWord (fuel : Nat) (name : String) : Reading Unit := do
  match fuel with
  | 0 => fail .tooDeep
  | fuel + 1 =>
    skipLines
    match ← readWord? fuel with
    | some w =>
      if plainText w == some name then return ()
      fail (.unexpected (wordName w) name)
    | none => unexpectedHere name

/-- The rest of a conditional after its first word. -/
def readConditional (fuel : Nat) : Reading Command := do
  match fuel with
  | 0 => fail .tooDeep
  | fuel + 1 =>
    let test ← readBlock fuel closers
    expectWord fuel "then"
    let yes ← readBlock fuel closers
    skipLines
    match (← readWord? fuel).bind plainText with
    | some "fi" => return .conditional test yes .nothing
    | some "elif" => return .conditional test yes (← readConditional fuel)
    | some "else" =>
      let no ← readBlock fuel closers
      expectWord fuel "fi"
      return .conditional test yes no
    | some w => fail (.unexpected ("\"" ++ w ++ "\"") "fi")
    | none => unexpectedHere "fi"

/-- The patterns of a branch up to the bracket. -/
def readPatterns (fuel : Nat) : Reading (List Word) := do
  match fuel with
  | 0 => fail .tooDeep
  | fuel + 1 =>
    match ← readWord? fuel with
    | none => unexpectedHere ")"
    | some w =>
      skipBlanks
      if ← takes "|" then return w :: (← readPatterns fuel)
      if ← takes ")" then return [w]
      match ← readWord? fuel with
      | some w => fail (.unexpected (wordName w) ")")
      | none => unexpectedHere ")"

/-- The branches of a choice. -/
def readBranches (fuel : Nat) : Reading (List (List Word × Command)) := do
  match fuel with
  | 0 => fail .tooDeep
  | fuel + 1 =>
    skipLines
    let cs ← rest
    match (← readWord? fuel).bind plainText with
    | some "esac" => return []
    | _ =>
      setRest cs
      let _ ← takes "("
      let patterns ← readPatterns fuel
      let body ← readList fuel closers
      skipLines
      if ← takes ";;" then return (patterns, body) :: (← readBranches fuel)
      if (← rest).isEmpty then fail (.openText ";;")
      expectWord fuel "esac"
      return [(patterns, body)]

/-- The body of a loop. -/
def readBody (fuel : Nat) : Reading Command := do
  match fuel with
  | 0 => fail .tooDeep
  | fuel + 1 =>
    expectWord fuel "do"
    let body ← readBlock fuel closers
    expectWord fuel "done"
    return body

/-- A loop over words after its first word. -/
def readEach (fuel : Nat) : Reading Command := do
  match fuel with
  | 0 => fail .tooDeep
  | fuel + 1 =>
    let some name := (← readWord? fuel).bind plainText | fail .badLoopVariable
    if !(name.toList.all isNameChar && name.toList.head?.any isNameStart) then fail .badLoopVariable
    skipLines
    let cs ← rest
    let words ← match (← readWord? fuel).bind plainText with
      | some "in" => pure (some (← readWords fuel))
      | _ =>
        setRest cs
        pure none
    skipBlanks
    let _ ← takes ";"
    return .each name words (← readBody fuel)

/-- A command with the redirections after it. -/
def withRedirects (fuel : Nat) (c : Command) : Reading Command := do
  match fuel with
  | 0 => fail .tooDeep
  | fuel + 1 =>
    match ← readRedirects fuel with
    | [] => return c
    | rs => return .redirected c rs

/-- One command of a pipeline. -/
def readCommand (fuel : Nat) : Reading Command := do
  match fuel with
  | 0 => fail .tooDeep
  | fuel + 1 =>
    skipBlanks
    let start ← rest
    if ← takes "(" then
      let body ← readBlock fuel []
      if !(← takes ")") then return ← unexpectedHere ")"
      return ← withRedirects fuel (.subshell body)
    match (← readWord? fuel).bind plainText with
    | some "if" => withRedirects fuel (← readConditional fuel)
    | some "while" =>
      let test ← readBlock fuel closers
      withRedirects fuel (.loop true test (← readBody fuel))
    | some "until" =>
      let test ← readBlock fuel closers
      withRedirects fuel (.loop false test (← readBody fuel))
    | some "for" => withRedirects fuel (← readEach fuel)
    | some "case" =>
      let some word ← readWord? fuel | fail .openWord
      expectWord fuel "in"
      withRedirects fuel (.choice word (← readBranches fuel))
    | some "\x7b" =>
      let body ← readBlock fuel closers
      expectWord fuel "\x7d"
      withRedirects fuel body
    | first =>
      let after ← rest
      if first.any (fun s => s.toList.all isNameChar) && after.head? == some '(' then
        setRest (after.drop 1)
        skipBlanks
        if ← takes ")" then
          skipLines
          return .define (first.getD "") (← readCommand fuel)
        return ← unexpectedHere ")"
      setRest start
      let line := (start.filter (· == '\n')).length
      let (words, redirects) ← readSimple fuel [] []
      if words.isEmpty && redirects.isEmpty then
        return ← unexpectedHere ""
      if reserved.contains (first.getD "") then
        fail (.unexpected ("\"" ++ first.getD "" ++ "\"") "")
      let assigned := words.takeWhile fun w => (assignment? w).isSome
      let c := Command.simple line (assigned.filterMap assignment?) (words.drop assigned.length)
      return if redirects.isEmpty then c else .redirected c redirects

/-- Commands with bars between them. -/
def readPipeline (fuel : Nat) : Reading Command := do
  match fuel with
  | 0 => fail .tooDeep
  | fuel + 1 =>
    skipBlanks
    let cs ← rest
    if (← readWord? fuel).bind plainText == some "!" then
      return .negated (← readPipeline fuel)
    setRest cs
    let c ← readCommand fuel
    skipBlanks
    match ← rest with
    | '|' :: '|' :: _ => return c
    | '|' :: cs =>
      setRest cs
      skipLines
      return .pipe c (← readPipeline fuel)
    | _ => return c

/-- Pipelines that depend on the ones before them. -/
def readChain (fuel : Nat) (left : Command) : Reading Command := do
  match fuel with
  | 0 => fail .tooDeep
  | fuel + 1 =>
    skipBlanks
    if ← takes "&&" then
      skipLines
      readChain fuel (.both left (← readPipeline fuel))
    else if ← takes "||" then
      skipLines
      readChain fuel (.either left (← readPipeline fuel))
    else return left

/-- The commands of one line. -/
def readLine (fuel : Nat) : Reading Command := do
  match fuel with
  | 0 => fail .tooDeep
  | fuel + 1 =>
    let c ← readChain fuel (← readPipeline fuel)
    let cs ← rest
    let more (c : Command) : Reading Command := do
      skipBlanks
      match ← rest with
      | [] => return c
      | '\n' :: _ => return c
      | _ => return .sequence c (← readLine fuel)
    match cs with
    | '&' :: cs =>
      setRest cs
      more (.background c)
    | ';' :: ';' :: _ => fail (.unexpected "\";;\"" "")
    | ';' :: cs =>
      setRest cs
      more c
    | [] => return c
    | '\n' :: _ => return c
    | cs => fail (.unexpected (signAt cs) "")

/-- Commands up to a bracket, two semicolons, one of some words, or the end. -/
def readList (fuel : Nat) (stops : List String) : Reading Command := do
  match fuel with
  | 0 => fail .tooDeep
  | fuel + 1 =>
    skipLines
    let cs ← rest
    match cs with
    | [] => return .nothing
    | ')' :: _ => return .nothing
    | ';' :: ';' :: _ => return .nothing
    | _ =>
      let stopped := ((← readWord? fuel).bind plainText).any stops.contains
      setRest cs
      if stopped then return .nothing
      let c ← readChain fuel (← readPipeline fuel)
      match ← rest with
      | '&' :: cs =>
        setRest cs
        return (Command.background c).andThen (← readList fuel stops)
      | ';' :: ';' :: _ => return c
      | ';' :: cs =>
        setRest cs
        return c.andThen (← readList fuel stops)
      | '\n' :: _ => return c.andThen (← readList fuel stops)
      | '(' :: _ => unexpectedHere ""
      | _ => return c

/-- Commands that have to be there. -/
def readBlock (fuel : Nat) (stops : List String) : Reading Command := do
  match fuel with
  | 0 => fail .tooDeep
  | fuel + 1 =>
    let start ← rest
    match ← readList fuel stops with
    | .nothing =>
      let cs ← rest
      if cs.isEmpty then return .nothing
      match ← readWord? fuel with
      | some w =>
        setRest start
        fail (.unexpected (wordName w) "")
      | none => unexpectedHere ""
    | c => return c

/-- All commands of a text. -/
def readAll (fuel : Nat) : Reading Command := do
  match fuel with
  | 0 => fail .tooDeep
  | fuel + 1 =>
    let c ← readList fuel []
    match ← rest with
    | [] => return c
    | _ => fail (.unexpected "\")\"" "")

end

/-- The first line of a text, and the text after it; nothing at its end. The
number of a line counts the line ends that are left when it is read. -/
def nextLine? (cs : List Char) : Option (Except SyntaxFault (Command × List Char)) :=
  match dropLines cs.length cs with
  | [] => none
  | cs => some (readLine (8 * cs.length + 64) cs)

end Shell

end HookRules
