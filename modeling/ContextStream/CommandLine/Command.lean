import ContextStream.CommandLine.Value

/-!
# Commands

A command takes values by their place or behind a name. What was given is kept in
settings, a type that each command chooses. Two flags belong to every command: they
ask for help and for the version.
-/

namespace ContextStream.CommandLine

/-- How a value is given. -/
inductive Form where
  | place
  | named (letter : Option Char) (name : String)
  deriving DecidableEq, Repr

/-- A value that a command takes. -/
structure Parameter (σ : Type) where
  form : Form
  /-- What stands for the value in texts. -/
  value : String
  about : String
  default : Option String
  /-- Puts a value into the settings. -/
  store : String → σ → Except ValueFault σ

/-- A command. -/
structure Command (σ : Type) where
  name : String
  version : String
  about : String
  /-- The values by place. All of them are needed. -/
  places : List (Parameter σ)
  /-- The values behind a name. -/
  options : List (Parameter σ)
  /-- The settings before anything is given. -/
  initial : σ

/-- The flags of every command. -/
inductive Flag where
  | help
  | version
  deriving DecidableEq, Repr

namespace Flag

/-- All flags. -/
def all : List Flag := [help, version]

/-- The name of a flag. -/
def name : Flag → String
  | help => "help"
  | version => "version"

/-- The letter of a flag. -/
def letter : Flag → Char
  | help => 'h'
  | version => 'V'

/-- What a flag does. -/
def about : Flag → String
  | help => "Print help"
  | version => "Print version"

/-- How a flag is shown. -/
def label (flag : Flag) : String :=
  "--" ++ flag.name

end Flag

namespace Parameter

variable {σ : Type}

/-- How a parameter is shown. -/
def label (parameter : Parameter σ) : String :=
  match parameter.form with
  | .place => "<" ++ parameter.value ++ ">"
  | .named _ name => "--" ++ name ++ " <" ++ parameter.value ++ ">"

/-- The name of a parameter. -/
def name? (parameter : Parameter σ) : Option String :=
  match parameter.form with
  | .place => none
  | .named _ name => some name

/-- The letter of a parameter. -/
def letter? (parameter : Parameter σ) : Option Char :=
  match parameter.form with
  | .place => none
  | .named letter _ => letter

end Parameter

namespace Command

variable {σ : Type}

/-- What a name stands for. -/
def named? (command : Command σ) (name : String) : Option (Parameter σ ⊕ Flag) :=
  match command.options.find? (·.name? = some name) with
  | some parameter => some (.inl parameter)
  | none => (Flag.all.find? (·.name = name)).map .inr

/-- What a letter stands for. -/
def lettered? (command : Command σ) (letter : Char) : Option (Parameter σ ⊕ Flag) :=
  match command.options.find? (·.letter? = some letter) with
  | some parameter => some (.inl parameter)
  | none => (Flag.all.find? (·.letter = letter)).map .inr

/-- All names, those of flags last. -/
def names (command : Command σ) : List String :=
  command.options.filterMap (·.name?) ++ Flag.all.map Flag.name

end Command

end ContextStream.CommandLine
