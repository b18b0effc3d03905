/-!
Argument lists with options. A grammar names the options and how many positional arguments there may
be; reading a list against it gives the values, asks for help, or refuses the first argument that
does not fit.
-/
namespace PipeShell

inductive ValueKind where
  | text
  /-- A number that fits in 64 bits. -/
  | number
  deriving DecidableEq, Repr

inductive Positionals where
  | none
  | atMostOne
  /-- Any number, and the first ends the options. -/
  | rest
  deriving DecidableEq, Repr

structure OptionGrammar where
  help : String
  /-- Each spelling of a switch with the name of the switch. -/
  switches : List (String × String) := []
  valued : List (String × ValueKind) := []
  positionals : Positionals

inductive NumberError where
  | empty
  | invalidDigit
  | tooLarge
  deriving DecidableEq, Repr

def NumberError.message : NumberError → String
  | .empty => "cannot parse integer from empty string"
  | .invalidDigit => "invalid digit found in string"
  | .tooLarge => "number too large to fit in target type"

/-- Reads decimal digits after a number that was read so far; each digit is looked at before the
size of the number. -/
def readDigits (number : Nat) : List Char → Except NumberError Nat
  | [] => .ok number
  | c :: rest =>
    if !c.isDigit then .error .invalidDigit
    else
      let next := number * 10 + (c.toNat - '0'.toNat)
      if next < 2 ^ 64 then readDigits next rest else .error .tooLarge

/-- Reads a number of 64 bits in decimal, with or without a plus sign. -/
def readNumber (text : String) : Except NumberError Nat :=
  match text.toList with
  | [] => .error .empty
  | ['+'] => .error .invalidDigit
  | '+' :: digits => readDigits 0 digits
  | digits => readDigits 0 digits

inductive OptionError where
  | unrecognized (argument : String)
  | trailingAfterHelp
  | missingValue (option : String)
  | badValue (option value : String) (cause : NumberError)
  | duplicate (option value : String)
  deriving DecidableEq, Repr

def OptionError.message : OptionError → String
  | .unrecognized argument => "Unrecognized argument: " ++ argument ++ "\n"
  | .trailingAfterHelp => "Trailing arguments are not allowed after `help`."
  | .missingValue option => "No value provided for option '" ++ option ++ "'.\n"
  | .badValue option value cause =>
    "Error parsing option '" ++ option ++ "' with value '" ++ value ++ "': " ++ cause.message ++
      "\n"
  | .duplicate option value =>
    "Error parsing option '" ++ option ++ "' with value '" ++ value ++
      "': duplicate values provided\n"

structure OptionValues where
  switches : List String := []
  values : List (String × String) := []
  positionals : List String := []
  deriving DecidableEq, Repr

inductive OptionStop where
  | help (text : String)
  | refused (cause : OptionError)
  deriving DecidableEq, Repr

namespace OptionGrammar

structure Reading where
  values : OptionValues := {}
  helpAsked : Bool := false
  optionsEnded : Bool := false
  deriving DecidableEq, Repr

def isHelp (argument : String) : Bool := argument = "--help" || argument = "help"

def addPositional (grammar : OptionGrammar) (reading : Reading) (argument : String) :
    Except OptionError Reading :=
  let taken := { reading with values :=
    { reading.values with positionals := reading.values.positionals ++ [argument] } }
  match grammar.positionals with
  | .none => .error (.unrecognized argument)
  | .atMostOne =>
    if reading.values.positionals.isEmpty then .ok taken else .error (.unrecognized argument)
  | .rest => .ok { taken with optionsEnded := true }

def addSwitch (reading : Reading) (name : String) : Reading :=
  { reading with values := { reading.values with switches := reading.values.switches ++ [name] } }

def addValue (reading : Reading) (option value : String) (kind : ValueKind) :
    Except OptionError Reading :=
  let taken := { reading with values :=
    { reading.values with values := reading.values.values ++ [(option, value)] } }
  if (reading.values.values.lookup option).isSome then .error (.duplicate option value)
  else match kind, readNumber value with
    | .number, .error cause => .error (.badValue option value cause)
    | _, _ => .ok taken

/-- Reads the rest of an argument list. Help is given only after all arguments were read. -/
def readFrom (grammar : OptionGrammar) (reading : Reading) :
    List String → Except OptionStop OptionValues
  | [] => if reading.helpAsked then .error (.help grammar.help) else .ok reading.values
  | argument :: rest =>
    if !reading.optionsEnded && isHelp argument then
      readFrom grammar { reading with helpAsked := true } rest
    else if !reading.optionsEnded && argument.startsWith "-" then
      if argument = "--" then readFrom grammar { reading with optionsEnded := true } rest
      else if reading.helpAsked then .error (.refused .trailingAfterHelp)
      else match grammar.switches.lookup argument with
        | some name => readFrom grammar (addSwitch reading name) rest
        | none =>
          match grammar.valued.lookup argument with
          | none => .error (.refused (.unrecognized argument))
          | some kind =>
            match rest with
            | [] => .error (.refused (.missingValue argument))
            | value :: later =>
              match addValue reading argument value kind with
              | .ok next => readFrom grammar next later
              | .error cause => .error (.refused cause)
    else match addPositional grammar reading argument with
      | .ok next => readFrom grammar next rest
      | .error cause => .error (.refused cause)

def read (grammar : OptionGrammar) (args : List String) : Except OptionStop OptionValues :=
  readFrom grammar {} args

end OptionGrammar

end PipeShell
