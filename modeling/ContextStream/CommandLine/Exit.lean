import ContextStream.CommandLine.Arguments

/-!
# How a program ends
-/

namespace ContextStream.CommandLine

/-- What a program leaves to its caller. -/
structure Exit where
  code : UInt8 := 0
  output : String := ""
  errors : String := ""
  deriving DecidableEq, Repr

/-- The end of a program that was asked for a text, or whose arguments are refused. -/
def Ending.exit {σ : Type} (command : Command σ) : Ending → Exit
  | .flag .help => { output := command.helpText }
  | .flag .version => { output := command.versionText }
  | .refused refusal => { code := 2, errors := refusal.message }

/-- Causes below each other, numbered if there are more of them. -/
def causesText : List String → String
  | [] => ""
  | [cause] => "\n\nCaused by:\n    " ++ cause
  | causes =>
      "\n\nCaused by:" ++
        String.join (causes.zipIdx.map fun (cause, i) =>
          "\n    " ++ toString i ++ ": " ++ cause)

/-- The text about a failure and its causes. -/
def failureText : List String → String
  | [] => "Error\n"
  | failure :: causes => "Error: " ++ failure ++ causesText causes ++ "\n"

/-- The end of a program that failed. -/
def Exit.ofChain (chain : List String) : Exit :=
  { code := 1, errors := failureText chain }

end ContextStream.CommandLine
