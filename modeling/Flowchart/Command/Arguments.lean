import Flowchart.Text.Likeness
import Flowchart.Text.Quoted

/-!
# Arguments of a command

Options begin with a dash or two and may take a value; all else is positional. Two dashes alone end
the options.
-/

namespace Flowchart.Command

inductive OptionName where
  | help
  | logLevel
  | source
  | target
  | direction
  | output
  | sortKeys
  | format
  deriving DecidableEq, Repr

structure OptionRule where
  name : OptionName
  long : Text
  short : Option Char := none
  takesValue : Bool := true
  deriving DecidableEq, Repr

inductive UsageFault where
  | noCommand
  | missingCommand
  | unknownCommand (name : Text) (alike : List Text)
  | unknownOption (spelling : Text) (alike : List Text)
  | valueMissing (spelling : Text)
  | valueUnwanted (spelling : Text)
  | optionMissing (rule : OptionRule)
  | badOption (rule : OptionRule) (complaint : Text)
  | badInput (complaint : Text)
  | extra (arguments : List Text)
  deriving DecidableEq, Repr

namespace OptionRule

def hint (rule : OptionRule) : Text :=
  match rule.short with
  | some c => rule.long.quoted ++ " / ".toList ++ Text.quoted ['-', c]
  | none => rule.long.quoted

end OptionRule

def suggestion : List Text → Text
  | [] => []
  | [word] => " Did you mean ".toList ++ word.quoted ++ ['?']
  | words =>
    " (Did you mean one of: ".toList ++ Text.join ", ".toList (words.map Text.quoted) ++
      "?)".toList

namespace UsageFault

def message? : UsageFault → Option Text
  | noCommand => none
  | missingCommand => some "Missing command.".toList
  | unknownCommand name alike =>
    some ("No such command ".toList ++ name.quoted ++ ['.'] ++ suggestion alike)
  | unknownOption spelling alike =>
    some ("No such option ".toList ++ spelling.quoted ++ ['.'] ++ suggestion alike)
  | valueMissing spelling =>
    some ("Option ".toList ++ spelling.quoted ++ " requires an argument.".toList)
  | valueUnwanted spelling =>
    some ("Option ".toList ++ spelling.quoted ++ " does not take a value.".toList)
  | optionMissing rule => some ("Missing option ".toList ++ rule.hint ++ ['.'])
  | badOption rule complaint =>
    some ("Invalid value for ".toList ++ rule.hint ++ ": ".toList ++ complaint)
  | badInput complaint => some ("Invalid value for '[INPUT]': ".toList ++ complaint)
  | extra arguments =>
    let noun := if arguments.length = 1 then "argument".toList else "arguments".toList
    some ("Got unexpected extra ".toList ++ noun ++ " (".toList ++ Text.join [' '] arguments ++
      [')'])

end UsageFault

structure Arguments where
  options : List (OptionRule × Text) := []
  positional : List Text := []
  deriving DecidableEq, Repr

/-- An argument that begins like an option: which rule it names, how it is spelled there, and the
value that it holds itself. -/
structure Spelled where
  rule : OptionRule
  spelling : Text
  value : Option Text
  deriving DecidableEq, Repr

def splitValue (s : Text) : Text × Option Text :=
  match s.dropWhile (· != '=') with
  | _ :: value => (s.takeWhile (· != '='), some value)
  | [] => (s, none)

def spellShort (rules : List OptionRule) (s : Text) : Except UsageFault Spelled :=
  match s with
  | dash :: c :: rest =>
    match rules.find? (·.short = some c) with
    | some rule => .ok ⟨rule, [dash, c], if rest.isEmpty then none else some rest⟩
    | none => .error (.unknownOption [dash, c] [])
  | _ => .error (.unknownOption s [])

def spell (rules : List OptionRule) (s : Text) : Except UsageFault Spelled :=
  let (long, value) := splitValue s
  match rules.find? (·.long = long) with
  | some rule =>
    if value.isSome && !rule.takesValue then .error (.valueUnwanted long)
    else .ok ⟨rule, long, value⟩
  | none =>
    if Text.startsWith s "--".toList then
      .error (.unknownOption long (Text.closest long (rules.map OptionRule.long)))
    else spellShort rules s

def endOfOptions : Text := "--".toList

def isOption (s : Text) : Bool := s.head? == some '-' && 1 < s.length

def Arguments.withOption (rule : OptionRule) (value : Text) (arguments : Arguments) : Arguments :=
  { arguments with options := (rule, value) :: arguments.options }

def Arguments.withPositional (s : Text) (arguments : Arguments) : Arguments :=
  { arguments with positional := s :: arguments.positional }

/-- Splits arguments. Where options may not be `mixed` with positional arguments, the first of these
ends the options. -/
def split (rules : List OptionRule) (mixed : Bool) : List Text → Except UsageFault Arguments
  | [] => .ok {}
  | s :: rest =>
    if s = endOfOptions then .ok { positional := rest }
    else if isOption s then
      match spell rules s with
      | .error fault => .error fault
      | .ok ⟨rule, spelling, held⟩ =>
        if !rule.takesValue then (split rules mixed rest).map (·.withOption rule [])
        else
          match held with
          | some value => (split rules mixed rest).map (·.withOption rule value)
          | none =>
            match rest with
            | [] => .error (.valueMissing spelling)
            | value :: rest => (split rules mixed rest).map (·.withOption rule value)
    else if mixed then (split rules mixed rest).map (·.withPositional s)
    else .ok { positional := s :: rest }

namespace Arguments

def value? (arguments : Arguments) (name : OptionName) : Option Text :=
  (arguments.options.reverse.find? (·.1.name = name)).map Prod.snd

def has (arguments : Arguments) (name : OptionName) : Bool := (arguments.value? name).isSome

end Arguments

end Flowchart.Command
