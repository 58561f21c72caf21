/-
Patterns as trees.

Flags are resolved while a pattern is read, so that a node means the same
wherever it stands: sets are already closed under case, anchors know whether
they look at lines, and a repetition knows whether it prefers more or fewer.
-/
import HookRules.Regex.CharSet

namespace HookRules

namespace Regex

/-- What holds between two characters without taking any. -/
inductive Look where
  | textStart | textEnd
  | lineStart | lineEnd
  /-- Line ends where carriage return and line feed both end a line. -/
  | anyLineStart | anyLineEnd
  | wordBoundary (ascii : Bool)
  | notWordBoundary (ascii : Bool)
  | wordStart (ascii : Bool)
  | wordEnd (ascii : Bool)
  | wordStartHalf (ascii : Bool)
  | wordEndHalf (ascii : Bool)

inductive Node where
  | empty
  | set (s : CharSet)
  | look (l : Look)
  | group (index : Nat) (n : Node)
  | cat (a b : Node)
  /-- The first alternative is preferred. -/
  | alt (a b : Node)
  | rep (n : Node) (least : Nat) (most : Option Nat) (greedy : Bool)

/-- Whether a node can match without taking a character. -/
def Node.nullable : Node → Bool
  | .empty => true
  | .set _ => false
  | .look _ => true
  | .group _ n => n.nullable
  | .cat a b => a.nullable && b.nullable
  | .alt a b => a.nullable || b.nullable
  | .rep n least _ _ => least == 0 || n.nullable

/-- The number of program steps that a node takes, up to small change. -/
def Node.size : Node → Nat
  | .empty => 1
  | .set _ => 1
  | .look _ => 1
  | .group _ n => n.size + 2
  | .cat a b => a.size + b.size
  | .alt a b => a.size + b.size + 1
  | .rep n least most _ =>
    match most with
    | none => n.size * (max least 1) + 2
    | some m => n.size * m + (m - least) + 1

/-- A pattern: its tree, with the number and the names of its groups. Group 0
is the whole match and has no node. -/
structure Pattern where
  node : Node
  groups : Nat
  names : List (String × Nat)

end Regex

end HookRules
