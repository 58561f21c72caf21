/-
Arguments of the command line.

A command is found step by step; each step has options of its own, and some
options may stand at every step. Such an option given again at a later step
replaces what was given before it. An option takes the text after an equals
sign or the next argument, which must not look like an option. After two dashes
nothing is an option.
-/
import HookRules.Path

namespace HookRules

namespace CommandLine

/-- The steps on the way to a command. -/
inductive Level where
  | top | evaluate | validate | simulate | rules | list | test
deriving DecidableEq

inductive OptionName where
  | rules | state | git | logLevel | strict | rule | event
deriving DecidableEq

namespace OptionName

def text : OptionName → String
  | rules => "rules"
  | state => "state"
  | git => "git"
  | logLevel => "log-level"
  | strict => "strict"
  | rule => "rule"
  | event => "event"

def all : List OptionName := [rules, state, git, logLevel, strict, rule, event]

/-- Whether an option may stand at every step. -/
def isGlobal : OptionName → Bool
  | rules | state | git | logLevel => true
  | strict | rule | event => false

/-- Whether an option has a value. -/
def hasValue : OptionName → Bool
  | strict => false
  | _ => true

/-- Whether an option may be given several times at one step. -/
def isRepeated : OptionName → Bool
  | rules => true
  | _ => false

/-- Whether an option can have a value. A path is not empty, and there are five
log levels. -/
def accepts (o : OptionName) (value : String) : Bool :=
  match o with
  | rules | state | git | event => value ≠ ""
  | logLevel => ["error", "warn", "info", "debug", "trace"].contains value
  | strict | rule => true

end OptionName

namespace Level

/-- The options that belong to a step. -/
def options : Level → List OptionName
  | evaluate => [.strict]
  | simulate => [.rule, .event]
  | test => [.event]
  | top | validate | rules | list => []

/-- The step that a word leads to. -/
def below? : Level → String → Option Level
  | top, "eval" => some evaluate
  | top, "validate" => some validate
  | top, "simulate" => some simulate
  | top, "rules" => some rules
  | rules, "list" => some list
  | rules, "test" => some test
  | _, _ => none

/-- Whether a step leads to others. -/
def hasBelow (l : Level) : Bool := l = top ∨ l = rules

/-- How many texts stand at a step. -/
def texts : Level → Nat
  | validate => 1
  | _ => 0

/-- The option with a name at a step. -/
def option? (l : Level) (name : String) : Option OptionName :=
  OptionName.all.find? fun o => o.text == name && (o.isGlobal || l.options.contains o)

end Level

/-- Why arguments name no command. -/
inductive UsageFault where
  | unknownOption (argument : String)
  | unexpectedText (argument : String)
  | missingValue (o : OptionName)
  | unwantedValue (o : OptionName)
  | badValue (o : OptionName) (value : String)
  | repeatedOption (o : OptionName)
  | missingOption (o : OptionName)
  | missingText
  | missingCommand
deriving DecidableEq

def UsageFault.message : UsageFault → String
  | .unknownOption argument => "unexpected argument '" ++ argument ++ "' found"
  | .unexpectedText argument => "unexpected argument '" ++ argument ++ "' found"
  | .missingValue o => "a value is required for '--" ++ o.text ++ "' but none was supplied"
  | .unwantedValue o => "unexpected value for '--" ++ o.text ++ "' found; no more were expected"
  | .badValue o value => "invalid value '" ++ value ++ "' for '--" ++ o.text ++ "'"
  | .repeatedOption o => "the argument '--" ++ o.text ++ "' cannot be used multiple times"
  | .missingOption o => "the required argument '--" ++ o.text ++ "' was not provided"
  | .missingText => "the required argument '<EXPRESSION>' was not provided"
  | .missingCommand => "a subcommand is required but one was not provided"

/-- What was given at one step. -/
structure Given where
  options : List (OptionName × String) := []
  texts : List String := []

namespace Given

def values (g : Given) (o : OptionName) : List String :=
  (g.options.filter fun p => p.1 == o).map (·.2)

def has (g : Given) (o : OptionName) : Bool := g.options.any fun p => p.1 == o

/-- One more option with its value. -/
def add (g : Given) (o : OptionName) (value : String) : Except UsageFault Given :=
  if !o.accepts value then .error (.badValue o value)
  else if g.has o && !o.isRepeated then .error (.repeatedOption o)
  else .ok { g with options := g.options ++ [(o, value)] }

/-- One more text at a step. -/
def addText (g : Given) (l : Level) (text : String) : Except UsageFault Given :=
  if g.texts.length < l.texts then .ok { g with texts := g.texts ++ [text] }
  else .error (.unexpectedText text)

/-- What was given at two steps: global options of the later one replace those of
the earlier one. -/
def merge (earlier later : Given) : Given where
  options := earlier.options.filter (fun p => !later.has p.1) ++ later.options
  texts := earlier.texts ++ later.texts

end Given

/-- What the arguments ask for. -/
inductive Request where
  /-- Evaluates the event on standard input. -/
  | evaluate (strict : Bool)
  /-- Checks a condition. -/
  | validate (expression : String)
  /-- Tries one rule on an event. -/
  | simulate (rule event : String)
  /-- Lists the rules. -/
  | listRules
  /-- Tries all rules on an event. -/
  | testRules (event : String)
  | help
  | version
deriving DecidableEq

/-- What the arguments name: a request and the files that it works on. -/
structure Invocation where
  request : Request
  rules : List String := []
  state : Option String := none
  git : Option String := none
deriving DecidableEq

/-- A text or a file can be standard input. -/
def standardInput : String := "-"

namespace Invocation

/-- What is asked for at the last step. -/
def ofGiven (l : Level) (g : Given) : Except UsageFault Invocation :=
  let event := (g.values .event).head?.getD standardInput
  let request : Except UsageFault Request := match l with
    | .top | .rules => .error .missingCommand
    | .evaluate => .ok (.evaluate (g.has .strict))
    | .validate =>
      match g.texts with
      | expression :: _ => .ok (.validate expression)
      | [] => .error .missingText
    | .simulate =>
      match g.values .rule with
      | rule :: _ => .ok (.simulate rule event)
      | [] => .error (.missingOption .rule)
    | .list => .ok .listRules
    | .test => .ok (.testRules event)
  request.map fun request =>
    { request
      rules := g.values .rules
      state := (g.values .state).head?
      git := (g.values .git).head? }

/-- What an argument is. -/
inductive Shape where
  | dashes
  | long (name : String) (value : Option String)
  | short (letters : List Char)
  | text

def shape (a : String) : Shape :=
  match a.toList with
  | ['-', '-'] => .dashes
  | '-' :: '-' :: rest =>
    match rest.span (· != '=') with
    | (name, _ :: value) => .long (String.ofList name) (some (String.ofList value))
    | (name, []) => .long (String.ofList name) none
  | '-' :: c :: rest => .short (c :: rest)
  | _ => .text

/-- Requests that an option makes by itself. -/
def immediate? (l : Level) : Shape → Option Request
  | .long "help" none => some .help
  | .long "version" none => if l = .top then some .version else none
  | .short ('h' :: _) => some .help
  | .short ('V' :: _) => if l = .top then some .version else none
  | _ => none

/-- Reads arguments from a step on. `before` was given at earlier steps and `g` at
this one; `pending` is an option that waits for its value, and `onlyTexts` holds
after two dashes. -/
def read (l : Level) (before g : Given) (pending : Option OptionName) (onlyTexts : Bool) :
    List String → Except UsageFault Invocation
  | [] =>
    match pending with
    | some o => .error (.missingValue o)
    | none => ofGiven l (before.merge g)
  | a :: rest =>
    if onlyTexts then
      match pending, g.addText l a with
      | some o, _ => .error (.missingValue o)
      | none, .ok g => read l before g none true rest
      | none, .error fault => .error fault
    else
      match pending, shape a with
      | some o, .text =>
        match g.add o a with
        | .ok g => read l before g none false rest
        | .error fault => .error fault
      | some o, _ => .error (.missingValue o)
      | none, .dashes => read l before g none true rest
      | none, .text =>
        match l.below? a with
        | some next => read next (before.merge g) {} none false rest
        | none =>
          if l.hasBelow && a == "help" then .ok { request := .help }
          else match g.addText l a with
            | .ok g => read l before g none false rest
            | .error fault => .error fault
      | none, s =>
        match immediate? l s, s with
        | some request, _ => .ok { request }
        | none, .long name value =>
          match l.option? name, value with
          | none, _ => .error (.unknownOption a)
          | some o, some value =>
            if !o.hasValue then .error (.unwantedValue o)
            else match g.add o value with
              | .ok g => read l before g none false rest
              | .error fault => .error fault
          | some o, none =>
            if o.hasValue then
              if g.has o && !o.isRepeated then .error (.repeatedOption o)
              else read l before g (some o) false rest
            else match g.add o "" with
              | .ok g => read l before g none false rest
              | .error fault => .error fault
        | none, _ => .error (.unknownOption a)

/-- The file with the event that an invocation is about. -/
def event? (i : Invocation) : Option String :=
  match i.request with
  | .simulate _ event | .testRules event => some event
  | .evaluate _ => some standardInput
  | _ => none

/-- Whether a path stands for standard input. -/
def isStandardInput (path : String) : Bool :=
  Path.components path = Path.components standardInput

def readsInput (i : Invocation) : Bool := i.event?.any isStandardInput

/-- The files that an invocation names. -/
def files (i : Invocation) : List String :=
  i.rules ++ i.state.toList ++ i.git.toList ++ i.event?.toList.filter (!isStandardInput ·)

/-- What arguments name. -/
def ofArguments (args : List String) : Except UsageFault Invocation :=
  read .top {} {} none false args

end Invocation

end CommandLine

end HookRules
