import JobResults.Duration.Text
import JobResults.Outcome

/-!
  # Arguments

  The arguments name a command, possibly behind the path of a configuration file, and then what the
  command needs.  An option is written `--name value` or `--name=value`; its value does not start
  with a dash in the first form.  After `--` nothing is an option.

  Values are looked at in the order in which they are complete.  The first fault ends the reading,
  and an argument that belongs nowhere counts before the value in front of it.
-/

namespace JobResults.CommandLine

/-- What the program is to do. -/
inductive Action where
  | get (id : String)
  | list (outcome : Outcome) (json : Bool)
  | delete (id : String)
  | purge (window : Duration)
  | run
  deriving DecidableEq, Repr

/-- What the program is to do, with which configuration file. -/
structure Invocation where
  configPath : Option String
  action : Action
  deriving DecidableEq, Repr

/-- A command by its name. -/
inductive CommandName where
  | get
  | list
  | delete
  | purge
  | run
  deriving DecidableEq, Repr

namespace CommandName

def word : CommandName → String
  | get => "get"
  | list => "list"
  | delete => "delete"
  | purge => "purge"
  | run => "run"

def all : List CommandName := [get, list, delete, purge, run]

def ofWord? (word : String) : Option CommandName := all.find? fun c => c.word == word

end CommandName

/-- What help can be had on. -/
inductive Topic where
  | program
  | command (name : CommandName)
  | help
  deriving DecidableEq, Repr

namespace Topic

def helpWord : String := "help"

def ofWord? (word : String) : Option Topic :=
  if word = helpWord then some help else (CommandName.ofWord? word).map command

end Topic

/-- Why arguments name nothing to do. -/
inductive UsageError where
  | help (topic : Topic)
  /-- A value that its argument does not accept. -/
  | invalidValue (value argument reason : String)
  /-- Arguments that are missing, repeated or unknown. -/
  | misuse
  deriving DecidableEq, Repr

/-! ### What a command needs -/

/-- What a value is for. -/
inductive Slot where
  | id
  | outcome
  | olderThan
  | config
  deriving DecidableEq, Repr

namespace Slot

def label : Slot → String
  | id => "<ID>"
  | outcome => "<OUTCOME>"
  | olderThan => "--older-than <OLDER_THAN>"
  | config => "--config <CONFIG>"

def fault? (slot : Slot) (value : String) : Option UsageError :=
  let invalid (reason : String) : Option UsageError :=
    some (.invalidValue value slot.label reason)
  match slot with
  | id => none
  | outcome =>
    match Outcome.parse value with
    | .ok _ => none
    | .error e => invalid e.message
  | olderThan =>
    match Duration.parse value with
    | .ok _ => none
    | .error e => invalid e.message
  | config => if value.isEmpty then some .misuse else none

end Slot

/-- What the argument of a command without a name is for. -/
def CommandName.positional? : CommandName → Option Slot
  | get => some .id
  | delete => some .id
  | list => some .outcome
  | purge => none
  | run => none

def CommandName.option? (c : CommandName) (name : String) : Option Slot :=
  if name = "config" then some .config
  else if c = purge ∧ name = "older-than" then some .olderThan
  else none

/-- Whether a command has an option without a value. -/
def CommandName.hasSwitch (c : CommandName) (name : String) : Bool := c == list && name == "json"

/-! ### Kinds of arguments -/

/-- An argument by its form. -/
inductive Form where
  | escape
  /-- An option, possibly with a value attached. -/
  | long (name : String) (value : Option String)
  /-- A dash and letters, of which the first one counts. -/
  | short (letter : Char)
  | plain
  deriving DecidableEq, Repr

def formOf (argument : String) : Form :=
  match argument.toList with
  | ['-', '-'] => .escape
  | '-' :: '-' :: rest =>
    let name := String.ofList (rest.takeWhile (· != '='))
    match rest.dropWhile (· != '=') with
    | _ :: value => .long name (some (String.ofList value))
    | [] => .long name none
  | '-' :: letter :: _ => .short letter
  | _ => .plain

/-! ### The arguments of a command -/

/-- The arguments of a command so far.  The value of the slot that is pending has not been looked
    at yet. -/
structure Partial where
  values : List (Slot × String)
  json : Bool
  pending : Option Slot
  deriving DecidableEq, Repr

namespace Partial

def settle (p : Partial) : Except UsageError Partial :=
  match p.pending with
  | none => .ok p
  | some slot =>
    match (p.values.lookup slot).bind slot.fault? with
    | some e => .error e
    | none => .ok { p with pending := none }

def take (p : Partial) (slot : Slot) (value : String) : Except UsageError Partial :=
  if (p.values.lookup slot).isSome then .error .misuse
  else .ok { p with values := (slot, value) :: p.values, pending := some slot }

/-- Takes the argument without a name, if the command still needs it. -/
def takePlain (p : Partial) (c : CommandName) (argument : String) : Except UsageError Partial :=
  match c.positional? with
  | some slot =>
    if (p.values.lookup slot).isSome then .error .misuse
    else do
      let p ← p.settle
      p.take slot argument
  | none => .error .misuse

end Partial

/-- Arguments behind `--`. -/
def readPlain (c : CommandName) : Partial → List String → Except UsageError Partial
  | p, [] => p.settle
  | p, argument :: rest => do
    let p ← p.takePlain c argument
    readPlain c p rest

def readFor (c : CommandName) : Partial → List String → Except UsageError Partial
  | p, [] => p.settle
  | p, argument :: rest =>
    match formOf argument with
    | .escape => readPlain c p rest
    | .plain => do
      let p ← p.takePlain c argument
      readFor c p rest
    | .short letter => do
      if letter = 'h' then
        let _ ← p.settle
        throw (.help (.command c))
      else throw .misuse
    | .long name value =>
      if name = "help" then do
        if value.isSome then throw .misuse
        else
          let _ ← p.settle
          throw (.help (.command c))
      else if c.hasSwitch name then do
        if value.isSome then throw .misuse
        else
          let p ← p.settle
          if p.json then throw .misuse
          else readFor c { p with json := true } rest
      else
        match c.option? name, value, rest with
        | some slot, some value, rest => do
          let p ← p.settle
          let p ← p.take slot value
          let p ← p.settle
          readFor c p rest
        | some slot, none, value :: rest => do
          let p ← p.settle
          if formOf value = .plain then
            let p ← p.take slot value
            readFor c p rest
          else throw .misuse
        | some _, none, [] => do
          let _ ← p.settle
          throw .misuse
        | none, _, _ => throw .misuse

def required (p : Partial) (slot : Slot) : Except UsageError String :=
  match p.values.lookup slot with
  | some value => .ok value
  | none => .error .misuse

/-- The action of a command with its arguments. -/
def actionOf (c : CommandName) (p : Partial) : Except UsageError Action := do
  match c with
  | .get => return .get (← required p .id)
  | .delete => return .delete (← required p .id)
  | .list =>
    match Outcome.parse (← required p .outcome) with
    | .ok o => return .list o p.json
    | .error _ => throw .misuse
  | .purge =>
    match Duration.parse (← required p .olderThan) with
    | .ok d => return .purge d
    | .error _ => throw .misuse
  | .run => return .run

/-- What a command with its arguments is to do, behind a path that may have come before it. -/
def invocationOf (c : CommandName) (configPath : Option String) (arguments : List String) :
    Except UsageError Invocation := do
  let p ← readFor c ⟨[], false, none⟩ arguments
  let action ← actionOf c p
  return ⟨(p.values.lookup .config).or configPath, action⟩

/-! ### All arguments -/

/-- Help for the words behind `help`. -/
def helpOn : List String → UsageError
  | [] => .help .program
  | [word] => (Topic.ofWord? word).elim .misuse .help
  | _ => .misuse

def parseFrom (configPath : Option String) : List String → Except UsageError Invocation
  | [] => .error .misuse
  | argument :: rest =>
    match formOf argument with
    | .plain =>
      match CommandName.ofWord? argument with
      | some c => invocationOf c configPath rest
      | none => .error (if argument = Topic.helpWord then helpOn rest else .misuse)
    | .short letter => .error (if letter = 'h' then .help .program else .misuse)
    | .escape => .error .misuse
    | .long name value =>
      if name = "help" then .error (if value.isSome then .misuse else .help .program)
      else if name ≠ "config" ∨ configPath.isSome then .error .misuse
      else
        match value, rest with
        | some value, rest => if value.isEmpty then .error .misuse else parseFrom (some value) rest
        | none, value :: rest =>
          if formOf value = .plain ∧ !value.isEmpty then parseFrom (some value) rest
          else .error .misuse
        | none, [] => .error .misuse

def parse (arguments : List String) : Except UsageError Invocation := parseFrom none arguments

end JobResults.CommandLine
