import ContextStream.CommandLine.Value

/-!
# Why arguments are refused
-/

namespace ContextStream.CommandLine

/-- What the caller may have meant. -/
inductive Tip where
  /-- Another name that is much like the argument. -/
  | similar (name : String)
  /-- The argument as a value. -/
  | asValue (argument : String)
  deriving DecidableEq, Repr

/-- Why arguments are refused. Parameters are given by what is shown of them. -/
inductive Refusal where
  | badValue (label value : String) (fault : ValueFault)
  | unexpected (argument : String) (tip : Option Tip) (usage : String)
  | unexpectedValue (label value usage : String)
  | repeated (label usage : String)
  | missing (labels : List String) (usage : String)
  deriving DecidableEq, Repr

/-- The wording of a tip. -/
def Tip.text : Tip → String
  | .similar name => "a similar argument exists: '--" ++ name ++ "'"
  | .asValue argument =>
      "to pass '" ++ argument ++ "' as a value, use '-- " ++ argument ++ "'"

namespace Refusal

/-- What is wrong. -/
def reason : Refusal → String
  | badValue label _ .nothing =>
      "a value is required for '" ++ label ++ "' but none was supplied"
  | badValue label value fault =>
      "invalid value '" ++ value ++ "' for '" ++ label ++ "': " ++ fault.message
  | unexpected argument _ _ => "unexpected argument '" ++ argument ++ "' found"
  | unexpectedValue label value _ =>
      "unexpected value '" ++ value ++ "' for '" ++ label ++
        "' found; no more were expected"
  | repeated label _ => "the argument '" ++ label ++ "' cannot be used multiple times"
  | missing labels _ =>
      "the following required arguments were not provided:" ++
        String.join (labels.map ("\n  " ++ ·))

/-- What the caller may have meant. -/
def tip? : Refusal → Option Tip
  | unexpected _ tip _ => tip
  | _ => none

/-- The usage line that the caller is reminded of. -/
def usage? : Refusal → Option String
  | badValue _ _ _ => none
  | unexpected _ _ usage | unexpectedValue _ _ usage | repeated _ usage | missing _ usage =>
      some usage

/-- The whole text about a refusal. -/
def message (refusal : Refusal) : String :=
  "error: " ++ refusal.reason ++
    (refusal.tip?.map fun tip => "\n\n  tip: " ++ tip.text).getD "" ++
    (refusal.usage?.map ("\n\n" ++ ·)).getD "" ++
    "\n\nFor more information, try '--help'.\n"

end Refusal

end ContextStream.CommandLine
