/-!
# Options of command lines

A command line is read from left to right. Options have a long name and perhaps a letter; letters
may be put together behind one hyphen, and a value may be attached or follow as the next word, unless
that word looks like an option. Each option may be given once. A double hyphen ends the options.
-/

namespace TemplateAudit.CommandLine

set_option autoImplicit false

/-- An option: its long name, its letter, and which values it takes, if it takes any. -/
structure OptionSpec where
  name : String
  letter : Option Char := none
  accepts : Option (String → Bool) := none

/-- What may stand on one level of a command line. -/
structure Level where
  options : List OptionSpec
  /-- The words that are a command with a level of its own. -/
  commands : List String := []
  /-- Which words may stand for themselves, in their order. -/
  operands : List (String → Bool) := []

structure Parsed where
  options : List (String × String) := []
  operands : List String := []

namespace Parsed

def has (p : Parsed) (name : String) : Bool :=
  p.options.any (·.1 == name)

def value? (p : Parsed) (name : String) : Option String :=
  p.options.lookup name

/-- Adds an option that has not been given before. -/
def add? (p : Parsed) (name value : String) : Option Parsed :=
  if p.has name then none else some { p with options := p.options ++ [(name, value)] }

def addValue? (p : Parsed) (spec : OptionSpec) (value : String) : Option Parsed :=
  match spec.accepts with
  | some accepts => if accepts value then p.add? spec.name value else none
  | none => none

/-- Adds a word that stands for itself. -/
def addOperand? (p : Parsed) (level : Level) (word : String) : Option Parsed :=
  match level.operands[p.operands.length]? with
  | some accepts => if accepts word then some { p with operands := p.operands ++ [word] } else none
  | none => none

end Parsed

inductive Reading where
  | done (parsed : Parsed)
  /-- A command, and the words after it. -/
  | command (parsed : Parsed) (name : String) (rest : List String)
  | version
  | help

/-- What is left to do after a word: go on, wait for the value of an option, or stop at once. -/
inductive Progress where
  | going (parsed : Parsed)
  | waiting (parsed : Parsed) (spec : OptionSpec)
  | stopped (reading : Reading)

namespace Level

def option? (level : Level) (name : String) : Option OptionSpec :=
  level.options.find? (·.name == name)

def letter? (level : Level) (letter : Char) : Option OptionSpec :=
  level.options.find? (·.letter == some letter)

/-- Takes up an option that has no value. -/
def flag (p : Parsed) (spec : OptionSpec) : Option Progress :=
  if spec.name = "version" then some (.stopped .version)
  else if spec.name = "help" then some (.stopped .help)
  else (p.add? spec.name "").map .going

/-- Takes up an option whose value is attached, or is still to come. -/
def valued (p : Parsed) (spec : OptionSpec) (value : Option String) : Option Progress :=
  match value with
  | some v => (p.addValue? spec v).map .going
  | none => if p.has spec.name then none else some (.waiting p spec)

/-- The part of a word before its first equals sign, and the part after it. -/
def splitValue (word : List Char) : String × Option String :=
  match word.dropWhile (· != '=') with
  | [] => (String.ofList word, none)
  | _ :: value => (String.ofList (word.takeWhile (· != '=')), some (String.ofList value))

def long? (level : Level) (p : Parsed) (word : List Char) : Option Progress :=
  let (name, value) := splitValue word
  match level.option? name with
  | none => none
  | some spec =>
    if spec.accepts.isSome then valued p spec value
    else if value.isSome then none
    else flag p spec

def letters? (level : Level) : List Char → Parsed → Option Progress
  | [], p => some (.going p)
  | letter :: rest, p =>
    match level.letter? letter with
    | none => none
    | some spec =>
      if spec.accepts.isSome then
        match rest with
        | [] => valued p spec none
        | '=' :: value => valued p spec (some (String.ofList value))
        | value => valued p spec (some (String.ofList value))
      else match flag p spec with
        | some (.going next) => letters? level rest next
        | other => other

def optionWord? (level : Level) (p : Parsed) (word : String) : Option (Option Progress) :=
  match word.toList with
  | '-' :: '-' :: c :: rest => some (level.long? p (c :: rest))
  | '-' :: c :: rest => if c = '-' then none else some (level.letters? (c :: rest) p)
  | _ => none

def operands? (level : Level) : List String → Parsed → Option Parsed
  | [], p => some p
  | word :: rest, p =>
    match p.addOperand? level word with
    | some next => operands? level rest next
    | none => none

/-- Reads the words of a level; `waiting` is the option whose value the next word should be. -/
def read? (level : Level) : List String → Parsed → Option OptionSpec → Option Reading
  | [], p, waiting => if waiting.isSome then none else some (.done p)
  | word :: rest, p, waiting =>
    if waiting.isNone && level.commands.contains word then some (.command p word rest)
    else if word = "--" then
      if waiting.isSome then none else (level.operands? rest p).map .done
    else match level.optionWord? p word, waiting with
      | some _, some _ => none
      | some none, none => none
      | some (some (.going next)), none => level.read? rest next none
      | some (some (.waiting next spec)), none => level.read? rest next (some spec)
      | some (some (.stopped reading)), none => some reading
      | none, some spec =>
        match p.addValue? spec word with
        | some next => level.read? rest next none
        | none => none
      | none, none =>
        match p.addOperand? level word with
        | some next => level.read? rest next none
        | none => none

end Level

end TemplateAudit.CommandLine
