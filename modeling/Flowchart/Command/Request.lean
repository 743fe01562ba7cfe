import Flowchart.Catalog.Builtin
import Flowchart.Command.Arguments

/-!
# Requests

What the arguments of a command ask for. Options before the name of an action concern every action,
those behind it the action alone.
-/

namespace Flowchart.Command

inductive Action where
  | detect
  | parse
  | convert
  | validate
  | formats
  deriving DecidableEq, Repr

inductive Job where
  | help
  | detect
  | parse (source : Option Text) (sortKeys : Bool) (output : Option Text)
  | convert (source : Option Text) (target : Text) (direction output : Option Text)
  | validate (format : Option Text)
  | formats
  deriving DecidableEq, Repr

/-- Where there is no path the input is what comes in. Where the job is a fault, it is told once the
input is found. -/
structure Request where
  level : Level := .warning
  input : Option Text := none
  job : Except UsageFault Job

namespace OptionRule

def help : OptionRule := ⟨.help, "--help".toList, none, false⟩
def logLevel : OptionRule := ⟨.logLevel, "--log-level".toList, none, true⟩
def source : OptionRule := ⟨.source, "--from".toList, some 'f', true⟩
def target : OptionRule := ⟨.target, "--to".toList, some 't', true⟩
def direction : OptionRule := ⟨.direction, "--direction".toList, some 'd', true⟩
def output : OptionRule := ⟨.output, "--output".toList, some 'o', true⟩
def sortKeys : OptionRule := ⟨.sortKeys, "--sort-keys".toList, none, false⟩
def format : OptionRule := ⟨.format, "--format".toList, some 'f', true⟩

def general : List OptionRule := [logLevel, help]

def takesFormat (rule : OptionRule) : Bool := rule.name ∈ [.source, .target, .format]

end OptionRule

namespace Action

def all : List Action := [detect, parse, convert, validate, formats]

def name : Action → Text
  | detect => "detect".toList
  | parse => "parse".toList
  | convert => "convert".toList
  | validate => "validate".toList
  | formats => "formats".toList

def ofName? (name : Text) : Option Action := all.find? (·.name = name)

def rules : Action → List OptionRule
  | detect | formats => [.help]
  | parse => [.source, .output, .sortKeys, .help]
  | convert => [.target, .source, .direction, .output, .help]
  | validate => [.format, .help]

def takesInput (action : Action) : Bool := action ≠ formats

def job (action : Action) (given : Arguments) : Except UsageFault Job :=
  match action with
  | detect => .ok .detect
  | parse => .ok (.parse (given.value? .source) (given.has .sortKeys) (given.value? .output))
  | convert =>
    match given.value? .target with
    | none => .error (.optionMissing .target)
    | some target =>
      .ok (.convert (given.value? .source) target (given.value? .direction) (given.value? .output))
  | validate => .ok (.validate (given.value? .format))
  | formats => .ok .formats

end Action

def levelNames : List (Text × Level) :=
  [("debug".toList, .debug), ("info".toList, .info), ("warning".toList, .warning),
    ("error".toList, .error)]

def readLevel (s : Text) : Except UsageFault Level :=
  match levelNames.lookup (s.map Char.toLower) with
  | some level => .ok level
  | none => .error (.badOption .logLevel
      (s.quoted ++ " is not one of ".toList ++
        Text.join ", ".toList (levelNames.map (·.1.quoted)) ++ ['.']))

def unknownFormat (known : List Text) (id : Text) : Text :=
  "unknown format '".toList ++ id ++ "'; use one of ".toList ++ Text.join ", ".toList known

def formatFault? (known : List Text) (given : Arguments) : Option UsageFault :=
  given.options.findSome? fun (rule, _) =>
    match given.value? rule.name with
    | some id =>
      if rule.takesFormat && !known.contains id then some (.badOption rule (unknownFormat known id))
      else none
    | none => none

namespace Request

def help (level : Level) : Request := { level := level, job := .ok .help }

/-- The request of an action. A fault of an option comes before one of the input, and this one
before anything that is missing or too much. -/
def ofArguments (level : Level) (action : Action) (given : Arguments) :
    Except UsageFault Request :=
  match formatFault? (Format.builtin.map (·.id)) given with
  | some fault => .error fault
  | none =>
    let taken := if action.takesInput then 1 else 0
    let extra := given.positional.drop taken
    .ok { level := level
          input := (given.positional.take taken).head?
          job := do
            let job ← action.job given
            if extra.isEmpty then .ok job else .error (.extra extra) }

/-- Arguments that name no action. One that begins like an option is taken for an option first. -/
def unknownAction (name : Text) (rest : List Text) : UsageFault :=
  match split OptionRule.general false (name :: rest) with
  | .error fault => fault
  | .ok _ => .unknownCommand name (Text.closest name (Action.all.map Action.name))

def read (arguments : List Text) : Except UsageFault Request := do
  if arguments.isEmpty then .error .noCommand
  else
    let general ← split OptionRule.general false arguments
    if general.has .help then .ok (help .warning)
    else
      let level ← (general.value? .logLevel).elim (.ok .warning) readLevel
      match general.positional with
      | [] => .error .missingCommand
      | name :: rest =>
        match Action.ofName? name with
        | none => .error (unknownAction name rest)
        | some action =>
          let given ← split action.rules true rest
          if given.has .help then .ok (help level) else ofArguments level action given

end Request

end Flowchart.Command
