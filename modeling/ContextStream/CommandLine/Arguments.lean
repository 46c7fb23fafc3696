import ContextStream.CommandLine.Refusal
import ContextStream.CommandLine.Usage
import ContextStream.Text.Similarity
import ContextStream.Text.Split

/-!
# Reading arguments

Arguments are read from the left. The value of an option is checked no sooner than
the next parameter or the end is reached, so that an argument that nothing is known
about is refused before a bad value in front of it. Behind two hyphens every argument
is a value by place.
-/

namespace ContextStream.CommandLine

/-- What an argument looks like. -/
inductive Word where
  | named (name : String) (value : Option String)
  | lettered (letter : Char) (rest : List Char)
  | plain
  deriving DecidableEq, Repr

/-- What an argument looks like. A single hyphen is plain. -/
def Word.ofArgument (argument : String) : Word :=
  match argument.toList with
  | '-' :: '-' :: text =>
      match Text.cutAt (· == '=') text with
      | (name, _ :: value) => .named (String.ofList name) (some (String.ofList value))
      | (name, []) => .named (String.ofList name) none
  | '-' :: letter :: rest => .lettered letter rest
  | _ => .plain

/-- What is asked for instead of a run, or why there is none. -/
inductive Ending where
  | flag (flag : Flag)
  | refused (refusal : Refusal)
  deriving DecidableEq, Repr

/-- What has been read. -/
structure Progress (σ : Type) where
  settings : σ
  /-- The parameters that are given, by what is shown of them. -/
  given : List String := []
  /-- The number of values by place. -/
  placed : Nat := 0
  /-- The last parameter, if it has not been checked yet, and its value, if that is
  already there. -/
  pending : Option (Parameter σ × Option String) := none

/-- How alike a name has to be to be offered for another. -/
def alike : Float := 0.7

/-- The name that is most like another; the later of two that are equally so. -/
def closest (name : String) (names : List String) : Option String :=
  let better (best : Option (Float × String)) (candidate : String) :=
    let likeness := Text.Similarity.jaro name.toList candidate.toList
    if likeness ≤ alike then best
    else
      match best with
      | some (most, _) => if likeness < most then best else some (likeness, candidate)
      | none => some (likeness, candidate)
  (names.foldl better none).map (·.2)

namespace Progress

variable {σ : Type}

/-- Takes the value of a parameter, and tells why it is refused. A parameter given
twice counts as not given. -/
def take (command : Command σ) (progress : Progress σ) (parameter : Parameter σ) :
    Option String → Progress σ × Option Refusal
  | none => (progress, some (.badValue parameter.label "" .nothing))
  | some value =>
      let label := parameter.label
      if label ∈ progress.given then
        ({ progress with given := progress.given.erase label },
          some (.repeated label (command.usage [])))
      else
        let progress := { progress with given := progress.given ++ [label] }
        match parameter.store value progress.settings with
        | .ok settings => ({ progress with settings }, none)
        | .error fault => (progress, some (.badValue label value fault))

/-- Takes what is pending. -/
def settle (command : Command σ) (progress : Progress σ) : Progress σ × Option Refusal :=
  match progress.pending with
  | none => (progress, none)
  | some (parameter, value) =>
      { progress with pending := none }.take command parameter value

/-- Takes what is pending, and refuses it if it is bad. -/
def settled (command : Command σ) (progress : Progress σ) : Except Ending (Progress σ) :=
  match progress.settle command with
  | (progress, none) => .ok progress
  | (_, some refusal) => .error (.refused refusal)

/-- Refuses an argument that nothing is known about. -/
def refuse (command : Command σ) (argument : String) : Except Ending (Progress σ) :=
  .error (.refused (.unexpected argument none (command.usage [])))

/-- The options among what is given. -/
def options (command : Command σ) (progress : Progress σ) : List String :=
  progress.given.filter fun label => command.options.any (·.label = label)

/-- Reads a value by place. -/
def place (command : Command σ) (progress : Progress σ) (argument : String) :
    Except Ending (Progress σ) :=
  match command.places[progress.placed]? with
  | none => refuse command argument
  | some parameter => do
      let progress ← progress.settled command
      return { progress with
        pending := some (parameter, some argument), placed := progress.placed + 1 }

/-- Reads an option, with its value if that belongs to the same argument. -/
def option (command : Command σ) (progress : Progress σ) (parameter : Parameter σ)
    (value : Option String) : Except Ending (Progress σ) := do
  let progress ← progress.settled command
  let progress := { progress with pending := some (parameter, value) }
  if value.isSome then progress.settled command else return progress

/-- What is shown of the name that an unknown one may stand for. -/
def shown (command : Command σ) (name : String) : List String :=
  match command.named? name with
  | some (.inl parameter) => [parameter.label]
  | some (.inr flag) => [flag.label]
  | none => []

/-- Refuses a name that nothing is known about. What is like it is offered, or else to
take it as a value. -/
def refuseName (command : Command σ) (progress : Progress σ) (name : String) :
    Except Ending (Progress σ) :=
  let given := (progress.settle command).1.options command
  let argument := "--" ++ name
  match closest name command.names with
  | some similar =>
      let added := (shown command similar).filter (· ∉ given)
      .error (.refused (.unexpected argument (some (.similar similar))
        (command.usage (given ++ added))))
  | none =>
      let tip := if command.places.isEmpty then none else some (.asValue argument)
      .error (.refused (.unexpected argument tip (command.usage given)))

/-- Reads an argument that is a name. -/
def name (command : Command σ) (progress : Progress σ) (name : String)
    (value : Option String) : Except Ending (Progress σ) :=
  match command.named? name, value with
  | some (.inl parameter), value => progress.option command parameter value
  | some (.inr flag), none => progress.settled command >>= fun _ => .error (.flag flag)
  | some (.inr flag), some value =>
      .error (.refused (.unexpectedValue flag.label value
        (command.usage (progress.options command ++ [flag.label]))))
  | none, _ => progress.refuseName command name

/-- The value behind a letter, without an equals sign in front. -/
def attached : List Char → Option String
  | [] => none
  | '=' :: value => some (String.ofList value)
  | value => some (String.ofList value)

/-- Reads an argument that begins with a letter. -/
def letter (command : Command σ) (progress : Progress σ) (letter : Char)
    (rest : List Char) : Except Ending (Progress σ) :=
  match command.lettered? letter with
  | some (.inl parameter) => progress.option command parameter (attached rest)
  | some (.inr flag) => progress.settled command >>= fun _ => .error (.flag flag)
  | none =>
      let argument := "-" ++ letter.toString
      let tip := if command.places.isEmpty then none else some (.asValue argument)
      .error (.refused (.unexpected argument tip (command.usage [])))

/-- Reads an argument that is neither a name nor a letter: the value of the option in
front of it, or a value by place. -/
def plain (command : Command σ) (progress : Progress σ) (argument : String) :
    Except Ending (Progress σ) :=
  match progress.pending with
  | some (parameter, none) =>
      .ok { progress with pending := some (parameter, some argument) }
  | _ => progress.place command argument

/-- Reads an argument. -/
def word (command : Command σ) (progress : Progress σ) (argument : String) :
    Except Ending (Progress σ) :=
  match Word.ofArgument argument with
  | .named name value => progress.name command name value
  | .lettered letter rest => progress.letter command letter rest
  | .plain => progress.plain command argument

/-- Reads arguments. -/
def words (command : Command σ) : Progress σ → List String → Except Ending (Progress σ)
  | progress, [] => .ok progress
  | progress, "--" :: values => values.foldlM (place command) progress
  | progress, argument :: rest =>
      progress.word command argument >>= fun progress => progress.words command rest

end Progress

/-- The settings that arguments give. -/
def Command.read {σ : Type} (command : Command σ) (arguments : List String) :
    Except Ending σ := do
  let progress : Progress σ := { settings := command.initial }
  let progress ← progress.words command arguments
  let progress ← progress.settled command
  let missing := (command.places.drop progress.placed).map (·.label)
  if missing.isEmpty then return progress.settings
  else throw (.refused (.missing missing (command.usage (progress.options command))))

end ContextStream.CommandLine
