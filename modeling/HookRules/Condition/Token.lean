/-
The tokens of conditions and the faults of their text.

A condition is cut into words, strings, numbers and punctuation. Every fault
that reading a condition can meet is a constructor of `SyntaxFault`; the
wording is in `SyntaxFault.message` alone. Positions count the bytes of the
UTF-8 form of the text.
-/
import HookRules.Json.Printer

namespace HookRules

namespace Condition

-- ============================================================ tokens

/-- What a token is. A word is an identifier or a keyword. -/
inductive Lexeme where
  | word (name : String)
  | str (s : String)
  | num (n : Number)
  | dollar | openParen | closeParen | openBracket | closeBracket | comma | dot | minus
  | eq | ne | lt | le | gt | ge
  /-- The regular expression operator. -/
  | search
  | and | or | bang
deriving DecidableEq

/-- A lexeme and the place where it starts. -/
structure Token where
  lexeme : Lexeme
  position : Nat
deriving DecidableEq

/-- How a lexeme is named in messages. -/
def Lexeme.describe : Lexeme → String
  | .word name => "'" ++ name ++ "'"
  | .str s => "string \"" ++ s ++ "\""
  | .num n => "number " ++ n.render
  | .dollar => "'$'"
  | .openParen => "'('"
  | .closeParen => "')'"
  | .openBracket => "'['"
  | .closeBracket => "']'"
  | .comma => "','"
  | .dot => "'.'"
  | .minus => "'-'"
  | .eq => "'=='"
  | .ne => "'!='"
  | .lt => "'<'"
  | .le => "'<='"
  | .gt => "'>'"
  | .ge => "'>='"
  | .search => "'=~'"
  | .and => "'&&'"
  | .or => "'||'"
  | .bang => "'!'"

-- ============================================================ faults

/-- What would have been accepted where something else was found. -/
inductive Wanted where
  | value | openParen | closeParen | closeBracket | fieldName | keyOrIndex
deriving DecidableEq

def Wanted.describe : Wanted → String
  | .value => "a value"
  | .openParen => "'('"
  | .closeParen => "')'"
  | .closeBracket => "']'"
  | .fieldName => "a field name after '.'"
  | .keyOrIndex => "a string key or integer index"

/-- The deepest nesting of a condition. -/
def maxNesting : Nat := 64

/-- Why a text is no condition. -/
inductive SyntaxFault where
  | loneEquals
  | strayCharacter (c : Char)
  | unterminatedString
  | danglingEscape
  | badNumber (text : String)
  | tooDeep
  | noFunctionName
  | keyword (name : String)
  | expected (wanted : Wanted) (found : Option Lexeme)
  | leftover (found : Lexeme)
deriving DecidableEq

def SyntaxFault.message : SyntaxFault → String
  | .loneEquals => "single '=' (use '==')"
  | .strayCharacter c => "unexpected character '" ++ String.ofList [c] ++ "'"
  | .unterminatedString => "unterminated string literal"
  | .danglingEscape => "dangling escape"
  | .badNumber text => "invalid number '" ++ text ++ "'"
  | .tooDeep => "expression nested deeper than " ++ Nat.repr maxNesting ++ " levels"
  | .noFunctionName => "expected a function name after '$'"
  | .keyword name => "unexpected keyword '" ++ name ++ "'"
  | .expected wanted none => "expected " ++ wanted.describe ++ ", found end of expression"
  | .expected wanted (some found) =>
    "expected " ++ wanted.describe ++ ", found " ++ found.describe
  | .leftover found => "unexpected " ++ found.describe

/-- A fault and where it was met. -/
structure SyntaxError where
  fault : SyntaxFault
  position : Nat
deriving DecidableEq

end Condition

end HookRules
