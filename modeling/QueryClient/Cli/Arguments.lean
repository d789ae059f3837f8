import QueryClient.Text.Split

/-!
# Arguments

The arguments of a command line: options, which begin with a dash, and operands. The value of an
option is the next argument, or follows an equals sign; two dashes on their own end the options.
-/

namespace QueryClient.Cli

/-! ## Misuse -/

/-- Why a command line cannot be understood. -/
inductive Misuse where
  | noSuchOption (name : String)
  | valueMissing (name : String)
  | valueUnwanted (name : String)
  | commandMissing
  | noSuchCommand (name : String)
  | operandMissing (name : String)
  | extraOperands (operands : List String)
  | notWhole (name value : String)
  | notChoice (name value : String) (choices : List String)
  | isDirectory (name value : String)
deriving Repr, DecidableEq

/-- A text in plain quotes. -/
def inQuotes (s : String) : String :=
  "'" ++ s ++ "'"

/-- What is said of a value that does not do. -/
def invalidValue (name reason : String) : String :=
  "Invalid value for " ++ inQuotes name ++ ": " ++ reason

def Misuse.message : Misuse → String
  | noSuchOption name => "No such option: " ++ name
  | valueMissing name => "Option " ++ inQuotes name ++ " requires an argument."
  | valueUnwanted name => "Option " ++ inQuotes name ++ " does not take a value."
  | commandMissing => "Missing command."
  | noSuchCommand name => "No such command " ++ inQuotes name ++ "."
  | operandMissing name => "Missing argument " ++ inQuotes name ++ "."
  | extraOperands operands =>
    (if operands.length == 1 then "Got unexpected extra argument ("
      else "Got unexpected extra arguments (") ++ Text.join " " operands ++ ")"
  | notWhole name value =>
    invalidValue name (inQuotes value ++ " is not a valid integer.")
  | notChoice name value choices =>
    invalidValue name
      (inQuotes value ++ " is not one of " ++ Text.join ", " (choices.map inQuotes) ++ ".")
  | isDirectory name value =>
    invalidValue name ("File " ++ inQuotes value ++ " is a directory.")

/-! ## Options -/

/-- An option that a command takes. -/
structure Switch where
  /-- The name with its dashes. -/
  name : String
  /-- A letter that stands for it after one dash. -/
  letter : Option Char := none
  /-- What its value is called; an option without one is a flag. -/
  value : Option String := none
  /-- What it does. -/
  summary : String := ""
deriving Repr, DecidableEq

/-- What an argument says that is an option. -/
inductive Sign where
  /-- Options by name, with their values; those of flags are empty. -/
  | complete (found : List (String × String))
  /-- An option whose value is the next argument. -/
  | awaiting (name : String)
deriving Repr, DecidableEq

/-- The flags that letters stand for. -/
def flagsOf (switches : List Switch) : List Char → Except Misuse (List (String × String))
  | [] => .ok []
  | c :: rest =>
    match switches.find? (·.letter == some c) with
    | some switch => (flagsOf switches rest).map ((switch.name, "") :: ·)
    | none => .error (.noSuchOption (String.ofList ['-', c]))

def Sign.read (switches : List Switch) (arg : String) : Except Misuse Sign :=
  let cs := arg.toList
  let name := String.ofList (cs.takeWhile (· != '='))
  let given := (cs.dropWhile (· != '=')).tail?.map String.ofList
  match switches.find? (·.name == name) with
  | some switch =>
    match switch.value, given with
    | some _, some value => .ok (.complete [(name, value)])
    | some _, none => .ok (.awaiting name)
    | none, some _ => .error (.valueUnwanted name)
    | none, none => .ok (.complete [(name, "")])
  | none =>
    match cs with
    | '-' :: '-' :: _ => .error (.noSuchOption name)
    | _ => (flagsOf switches cs.tail).map .complete

/-! ## Command lines -/

/-- What a command line gives. -/
structure Given where
  /-- The options in the order in which they stand. -/
  options : List (String × String) := []
  operands : List String := []
deriving Repr, DecidableEq

namespace Given

/-- An option is there. -/
def has (g : Given) (name : String) : Bool :=
  g.options.any (·.1 == name)

/-- The value of an option; the last one counts. -/
def value? (g : Given) (name : String) : Option String :=
  (g.options.reverse.find? (·.1 == name)).map (·.2)

def withOptions (g : Given) (found : List (String × String)) : Given :=
  { g with options := found ++ g.options }

def withOperand (g : Given) (operand : String) : Given :=
  { g with operands := operand :: g.operands }

end Given

/-- An argument that is an option: a dash with something after it. -/
def isOption (arg : String) : Bool :=
  match arg.toList with
  | '-' :: _ :: _ => true
  | _ => false

/-- Read arguments. Options may stand among the operands, or must stand in front of them. -/
def readArguments (switches : List Switch) (mixed : Bool) : List String → Except Misuse Given
  | [] => .ok {}
  | arg :: rest =>
    if arg == "--" then .ok { operands := rest }
    else if isOption arg then
      match Sign.read switches arg, rest with
      | .error misuse, _ => .error misuse
      | .ok (.complete found), rest =>
        (readArguments switches mixed rest).map (·.withOptions found)
      | .ok (.awaiting name), value :: rest =>
        (readArguments switches mixed rest).map (·.withOptions [(name, value)])
      | .ok (.awaiting name), [] => .error (.valueMissing name)
    else if mixed then (readArguments switches mixed rest).map (·.withOperand arg)
    else .ok { operands := arg :: rest }

/-! ## Operands -/

def noOperand : List String → Except Misuse Unit
  | [] => .ok ()
  | extra => .error (.extraOperands extra)

def oneOperand (name : String) : List String → Except Misuse String
  | [] => .error (.operandMissing name)
  | operand :: rest => (noOperand rest).map fun _ => operand

def twoOperands (first second : String) : List String → Except Misuse (String × String)
  | [] => .error (.operandMissing first)
  | operand :: rest => (oneOperand second rest).map (operand, ·)

end QueryClient.Cli
