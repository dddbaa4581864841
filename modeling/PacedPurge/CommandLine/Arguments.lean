/-!
# Arguments

How the arguments of a command are told apart. An option begins with two dashes and takes a value,
which is written behind an equals sign or is the next argument. A value that is an argument of its
own cannot begin with a dash, unless it is nothing but a dash. Options may stand in any order, each
once; two dashes alone end them.
-/

namespace PacedPurge.CommandLine

/-- Why arguments make no command. -/
inductive UsageFault where
  | unknownOption (text : String)
  | missingValue (name : String)
  | repeatedOption (name : String)
  | badValue (name value : String)
  | missingOption (name : String)
  | unexpected (argument : String)
  | unknownCommand (name : String)
  | noCommand
  deriving DecidableEq, Repr

/-- The wording of a fault. -/
def UsageFault.message : UsageFault → String
  | .unknownOption text => s!"unknown option {text}"
  | .missingValue name => s!"option --{name} needs a value"
  | .repeatedOption name => s!"option --{name} is given more than once"
  | .badValue name value => s!"option --{name} cannot be {value}"
  | .missingOption name => s!"option --{name} is required"
  | .unexpected argument => s!"unexpected argument {argument}"
  | .unknownCommand name => s!"unknown command {name}"
  | .noCommand => "no command is given"

/-- Why reading arguments ends before there is a command. -/
inductive Stop where
  /-- Help was asked for. -/
  | help
  | fault (f : UsageFault)
  deriving DecidableEq, Repr

/-- What an argument looks like. -/
inductive Shape where
  /-- Anything that does not begin with a dash, and a dash alone. -/
  | plain
  /-- Two dashes alone. -/
  | separator
  /-- Two dashes and a name, perhaps with a value behind an equals sign. -/
  | long (name : String) (value : Option String)
  /-- One dash and a letter. -/
  | short (letter : Char)
  deriving DecidableEq, Repr

namespace Shape

/-- The name and the value of what stands behind two dashes. -/
def ofLong (cs : List Char) : Shape :=
  let name := String.ofList (cs.takeWhile (· != '='))
  match cs.dropWhile (· != '=') with
  | [] => .long name none
  | _ :: value => .long name (some (String.ofList value))

/-- What the characters of an argument look like. -/
def ofChars : List Char → Shape
  | ['-', '-'] => .separator
  | '-' :: '-' :: rest => ofLong rest
  | '-' :: letter :: _ => .short letter
  | _ => .plain

/-- What an argument looks like. -/
def of (argument : String) : Shape := ofChars argument.toList

end Shape

/-- An option: its name, and what it makes of the text of its value. -/
structure Setting (α : Type) where
  name : String
  read : String → Option α

/-- The values of options that have been given, by name. -/
abbrev Given (α : Type) := List (String × α)

namespace Given

variable {α : Type}

/-- The value of an option, if it was given. -/
def get? (given : Given α) (name : String) : Option α := (given.find? (·.1 == name)).map (·.2)

/-- Adds the value of an option, which must be new and make sense. -/
def add (given : Given α) (setting : Setting α) (value : String) : Except Stop (Given α) :=
  if (given.get? setting.name).isSome then .error (.fault (.repeatedOption setting.name))
  else
    match setting.read value with
    | none => .error (.fault (.badValue setting.name value))
    | some a => .ok (given ++ [(setting.name, a)])

/-- Reads options up to the first argument that is none: what was given, and the arguments from
there on. -/
def readOptions (settings : List (Setting α)) (given : Given α) :
    List String → Except Stop (Given α × List String)
  | [] => .ok (given, [])
  | argument :: rest =>
    match Shape.of argument with
    | .plain | .separator => .ok (given, argument :: rest)
    | .short 'h' | .long "help" none => .error .help
    | .short _ => .error (.fault (.unknownOption argument))
    | .long name attached =>
      match settings.find? (·.name == name), attached, rest with
      | none, _, _ => .error (.fault (.unknownOption argument))
      | some setting, some value, rest =>
        match given.add setting value with
        | .error stop => .error stop
        | .ok given => readOptions settings given rest
      | some setting, none, value :: rest =>
        if Shape.of value = .plain then
          match given.add setting value with
          | .error stop => .error stop
          | .ok given => readOptions settings given rest
        else .error (.fault (.missingValue setting.name))
      | some setting, none, [] => .error (.fault (.missingValue setting.name))

end Given

end PacedPurge.CommandLine
