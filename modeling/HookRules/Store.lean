/-
State that rules can read: values by key for each session, and values by key for
the project.

`Stores` is what conditions see: lookups that may be missing altogether and may
fail. `MemoryStore` is a store in memory, which is read from a state document.
-/
import HookRules.Json.Basic
import HookRules.Table

namespace HookRules

/-- A store could not answer. -/
inductive StoreFault where
  | unavailable
deriving DecidableEq

/-- The lookups that conditions can use. -/
structure Stores where
  session : Option (String → String → Except StoreFault (Option Json)) := none
  project : Option (String → Except StoreFault (Option Json)) := none

namespace Stores

/-- Numbers, texts and truth values are shown, everything else is null. -/
def scalar : Option Json → Json
  | some (.bool b) => .bool b
  | some (.num n) => .num n
  | some (.str s) => .str s
  | _ => .null

def scalarOf : Except StoreFault (Option Json) → Json
  | .ok v => scalar v
  | .error _ => .null

/-- The value of a key of a session, as conditions see it. -/
def sessionValue (s : Stores) (sessionId key : String) : Json :=
  match s.session with
  | some look => scalarOf (look sessionId key)
  | none => .null

/-- The value of a key of the project, as conditions see it. -/
def projectValue (s : Stores) (key : String) : Json :=
  match s.project with
  | some look => scalarOf (look key)
  | none => .null

end Stores

/-- A store in memory. -/
structure MemoryStore where
  sessions : Table (Table Json) := []
  project : Table Json := []

namespace MemoryStore

def sessionGet (s : MemoryStore) (sessionId key : String) : Option Json :=
  (s.sessions.get? sessionId).bind fun entries => entries.get? key

def sessionSet (s : MemoryStore) (sessionId key : String) (value : Json) : MemoryStore :=
  let entries := (s.sessions.get? sessionId).getD []
  { s with sessions := s.sessions.set sessionId (entries.set key value) }

def projectGet (s : MemoryStore) (key : String) : Option Json := s.project.get? key

def projectSet (s : MemoryStore) (key : String) (value : Json) : MemoryStore :=
  { s with project := s.project.set key value }

/-- What conditions see of a store in memory. -/
def stores (s : MemoryStore) : Stores where
  session := some fun sessionId key => .ok (s.sessionGet sessionId key)
  project := some fun key => .ok (s.projectGet key)

-- ========================================================= documents

/-- Why a state document is refused. -/
inductive DocumentFault where
  | notAnObject
  | partNotAnObject (name : String)
deriving DecidableEq

def DocumentFault.message : DocumentFault → String
  | .notAnObject => "Invalid state document: expected a JSON object"
  | .partNotAnObject name => "Invalid state document: '" ++ name ++ "' must be an object"

/-- A part of a document, which has to be an object. -/
def part (name : String) : Json → Except DocumentFault Fields
  | .obj fs => .ok fs
  | _ => .error (.partNotAnObject name)

/-- One session of a document. -/
def addSession (s : MemoryStore) (session : String × Json) : Except DocumentFault MemoryStore := do
  let entries ← part session.1 session.2
  return entries.foldl (fun s e => s.sessionSet session.1 e.1 e.2) s

/-- The sessions of a document, one after the other. -/
def addSessions (s : MemoryStore) (sessions : Json) : Except DocumentFault MemoryStore := do
  (← part "sessions" sessions).foldlM addSession s

/-- The project of a document. -/
def addProject (s : MemoryStore) (project : Json) : Except DocumentFault MemoryStore := do
  return (← part "project" project).foldl (fun s e => s.projectSet e.1 e.2) s

/-- The store of a document; both of its parts may be left out. -/
def ofJson (document : Json) : Except DocumentFault MemoryStore := do
  let .obj root := document | .error .notAnObject
  let s ← (Fields.get? root "sessions").elim (pure {}) (addSessions {})
  (Fields.get? root "project").elim (pure s) (addProject s)

end MemoryStore

end HookRules
