import ContextStream.CommandLine.Command

/-!
# Help texts

The usage line shows how a command is called; the help text adds what it does and
what it takes.
-/

namespace ContextStream.CommandLine

/-- The usage line. It shows the options that are given, or a sign that there are
some. -/
def Command.usage {σ : Type} (command : Command σ) (given : List String) : String :=
  let options :=
    if given.isEmpty ∧ !command.options.isEmpty then [" [OPTIONS]"]
    else given.map (" " ++ ·)
  "Usage: " ++ command.name ++ String.join options ++
    String.join (command.places.map fun place => " " ++ place.label)

/-- What stands before a parameter, and what is said about it. -/
structure Row where
  head : String
  about : String
  deriving DecidableEq, Repr

/-- How a name and its letter are shown. Names without a letter leave room for one. -/
def namesText (letter : Option Char) (name : String) : String :=
  match letter with
  | some letter => "-" ++ letter.toString ++ ", --" ++ name
  | none => "    --" ++ name

/-- The row of a parameter. -/
def Parameter.row {σ : Type} (parameter : Parameter σ) : Row where
  head :=
    match parameter.form with
    | .place => parameter.label
    | .named letter name => namesText letter name ++ " <" ++ parameter.value ++ ">"
  about :=
    match parameter.default with
    | some text => parameter.about ++ " [default: " ++ text ++ "]"
    | none => parameter.about

/-- The row of a flag. -/
def Flag.row (flag : Flag) : Row :=
  ⟨namesText (some flag.letter) flag.name, flag.about⟩

/-- A titled table in two columns; no text without rows. -/
def table (title : String) (rows : List Row) : String :=
  if rows.isEmpty then ""
  else
    let width := rows.foldl (fun width row => max width row.head.length) 0
    let line (row : Row) :=
      "  " ++ row.head ++ String.ofList (List.replicate (width - row.head.length) ' ') ++
        "  " ++ row.about ++ "\n"
    "\n" ++ title ++ ":\n" ++ String.join (rows.map line)

/-- The help text. -/
def Command.helpText {σ : Type} (command : Command σ) : String :=
  command.about ++ "\n\n" ++ command.usage [] ++ "\n" ++
    table "Arguments" (command.places.map (·.row)) ++
    table "Options" (command.options.map (·.row) ++ Flag.all.map (·.row))

/-- The version text. -/
def Command.versionText {σ : Type} (command : Command σ) : String :=
  command.name ++ " " ++ command.version ++ "\n"

end ContextStream.CommandLine
