import StubDns.Text.Basic

/-! # Command lines

A command takes flags, each a name with a value behind it, in any order and
each at most once. An argument behind a name is its value, whatever it looks
like. Two words ask for help; after one of them no flag may follow. Two hyphens
end the flags, and no other argument is taken.
-/

namespace StubDns.CommandLine

/-! ## Errors -/

inductive ValueError
  /-- The flag was given before. -/
  | duplicate
  /-- The value does not suit; the report says why. -/
  | unsuitable (report : String)
  deriving DecidableEq, Repr

def ValueError.message : ValueError → String
  | .duplicate => "duplicate values provided"
  | .unsuitable report => report

inductive UsageError
  | unknown (argument : Text)
  | noValue (flag : Text)
  | badValue (flag value : Text) (error : ValueError)
  | afterHelp
  deriving DecidableEq, Repr

def UsageError.message : UsageError → String
  | .unknown argument => "Unrecognized argument: " ++ String.ofList argument ++ "\n"
  | .noValue flag => "No value provided for option '" ++ String.ofList flag ++ "'.\n"
  | .badValue flag value error =>
      "Error parsing option '" ++ String.ofList flag ++ "' with value '" ++ String.ofList value
        ++ "': " ++ error.message ++ "\n"
  | .afterHelp => "Trailing arguments are not allowed after `help`."

/-! ## Commands -/

/-- A flag of a command: how it is written and described, and what its value
adds to the values given so far. -/
structure Flag (Given : Type) where
  name : Text
  description : String
  store : Text → Given → Except ValueError Given

/-- A command with its flags. -/
structure Command (Given : Type) where
  name : String
  description : String
  flags : List (Flag Given)
  /-- The values before any argument is read. -/
  initial : Given

inductive Request (Given : Type)
  | run (given : Given)
  | help
  deriving DecidableEq, Repr

/-- Give a flag its value unless it has one. -/
def once (present : Option α) (value : Except String α) : Except ValueError (Option α) :=
  match present with
  | some _ => .error .duplicate
  | none => (value.mapError .unsuitable).map some

namespace Command

/-! ## Reading arguments -/

/-- Words that ask for help. -/
def helpWords : List Text := ["--help".toList, "help".toList]

/-- The argument behind which no flag is read. -/
def endOfFlags : Text := ['-', '-']

/-- Arguments behind the end of flags: there must be none. -/
def readOthers (given : Given) (help : Bool) : List Text → Except UsageError (Request Given)
  | [] => .ok (if help then .help else .run given)
  | argument :: _ => .error (.unknown argument)

/-- Read arguments after those that gave `given`. -/
def readFrom (flags : List (Flag Given)) (given : Given) (help : Bool) :
    List Text → Except UsageError (Request Given)
  | [] => .ok (if help then .help else .run given)
  | argument :: rest =>
      if Text.isOneOf helpWords argument then readFrom flags given true rest
      else if argument = endOfFlags then readOthers given help rest
      else if argument.head? ≠ some '-' then .error (.unknown argument)
      else if help then .error .afterHelp
      else
        match flags.find? (·.name = argument), rest with
        | none, _ => .error (.unknown argument)
        | some _, [] => .error (.noValue argument)
        | some flag, value :: rest =>
            match flag.store value given with
            | .error error => .error (.badValue argument value error)
            | .ok given => readFrom flags given help rest

def read (command : Command Given) (arguments : List Text) :
    Except UsageError (Request Given) :=
  readFrom command.flags command.initial false arguments

/-! ## Help -/

/-- The column at which descriptions start. -/
def descriptionColumn : Nat := 18

def helpLine (name : Text) (description : String) : String :=
  "  " ++ String.ofList (Text.padRight descriptionColumn name) ++ description ++ "\n"

/-- How a flag is shown in the line of usage: with a placeholder of its name. -/
def usageOf (flag : Flag Given) : String :=
  let word := String.ofList (flag.name.drop 2)
  " [--" ++ word ++ " <" ++ word ++ ">]"

def help (command : Command Given) : String :=
  "Usage: " ++ command.name ++ String.join (command.flags.map usageOf) ++ "\n\n"
    ++ command.description ++ "\n\nOptions:\n"
    ++ String.join (command.flags.map fun flag => helpLine flag.name flag.description)
    ++ helpLine "--help, help".toList "display usage information"

end Command

end StubDns.CommandLine
