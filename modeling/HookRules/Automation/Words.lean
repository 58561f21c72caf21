/-
Splitting a line into words.

Blanks separate words. Single quotes keep everything up to the next one; in
double quotes a backslash takes away the meaning of a dollar sign, a backquote,
a double quote or a backslash and is kept before anything else. A backslash
before a line end joins lines. A number sign at the start of a word starts a
comment.
-/
namespace HookRules

namespace Words

/-- Where the reading of a line stands. -/
inductive State where
  /-- Between words. -/
  | between
  /-- After a backslash between words. -/
  | betweenBackslash
  | unquoted
  | unquotedBackslash
  | single
  | double
  | doubleBackslash
  | comment

def isBlank (c : Char) : Bool := c == ' ' || c == '\t' || c == '\n'

/-- Reads on in a state, with the characters of the current word in reverse.
`none` when a quote is left open. -/
def splitFrom : State → List Char → List Char → Option (List (List Char))
  | .between, _, [] => some []
  | .comment, _, [] => some []
  | .betweenBackslash, word, [] => some [('\\' :: word).reverse]
  | .unquoted, word, [] => some [word.reverse]
  | .unquotedBackslash, word, [] => some [('\\' :: word).reverse]
  | .single, _, [] => none
  | .double, _, [] => none
  | .doubleBackslash, _, [] => none
  | .between, word, c :: cs =>
    if c = '\'' then splitFrom .single word cs
    else if c = '"' then splitFrom .double word cs
    else if c = '\\' then splitFrom .betweenBackslash word cs
    else if isBlank c then splitFrom .between word cs
    else if c = '#' then splitFrom .comment word cs
    else splitFrom .unquoted (c :: word) cs
  | .betweenBackslash, word, c :: cs =>
    if c = '\n' then splitFrom .between word cs else splitFrom .unquoted (c :: word) cs
  | .unquoted, word, c :: cs =>
    if c = '\'' then splitFrom .single word cs
    else if c = '"' then splitFrom .double word cs
    else if c = '\\' then splitFrom .unquotedBackslash word cs
    else if isBlank c then (splitFrom .between [] cs).map (word.reverse :: ·)
    else splitFrom .unquoted (c :: word) cs
  | .unquotedBackslash, word, c :: cs =>
    if c = '\n' then splitFrom .unquoted word cs else splitFrom .unquoted (c :: word) cs
  | .single, word, c :: cs =>
    if c = '\'' then splitFrom .unquoted word cs else splitFrom .single (c :: word) cs
  | .double, word, c :: cs =>
    if c = '"' then splitFrom .unquoted word cs
    else if c = '\\' then splitFrom .doubleBackslash word cs
    else splitFrom .double (c :: word) cs
  | .doubleBackslash, word, c :: cs =>
    if c = '\n' then splitFrom .double word cs
    else if c = '$' ∨ c = '`' ∨ c = '"' ∨ c = '\\' then splitFrom .double (c :: word) cs
    else splitFrom .double (c :: '\\' :: word) cs
  | .comment, word, c :: cs =>
    if c = '\n' then splitFrom .between word cs else splitFrom .comment word cs

/-- The words of a line; `none` when a quote is left open. -/
def split? (line : String) : Option (List String) :=
  (splitFrom .between [] line.toList).map fun ws => ws.map String.ofList

end Words

end HookRules
