import ContextStream.Json.Value
import ContextStream.Text.Hex
import ContextStream.Text.Split

/-!
# Writing values

A value is written either without blanks or spread over lines, each level two
blanks further in. Strings show all characters but quotation marks, backslashes
and control characters.
-/

namespace ContextStream.Json

open ContextStream.Text

/-- A character inside a string. -/
def escape (c : Char) : List Char :=
  if c = '"' then ['\\', '"']
  else if c = '\\' then ['\\', '\\']
  else if c = '\x08' then ['\\', 'b']
  else if c = '\x0c' then ['\\', 'f']
  else if c = '\n' then ['\\', 'n']
  else if c = '\r' then ['\\', 'r']
  else if c = '\t' then ['\\', 't']
  else if c.toNat < 0x20 then ['\\', 'u'] ++ Hex.fixed 4 c.toNat
  else [c]

/-- A string between quotation marks. -/
def quote (s : String) : List Char :=
  '"' :: s.toList.flatMap escape ++ ['"']

/-- A truth value. -/
def truth (b : Bool) : List Char :=
  if b then ['t', 'r', 'u', 'e'] else ['f', 'a', 'l', 's', 'e']

/-- Members in a given order, without blanks. -/
def writeMembers (members : List (String × List Char)) : List Char :=
  '\x7b' :: joinWith [','] (members.map fun (key, text) => quote key ++ ':' :: text) ++ ['\x7d']

mutual

/-- A value without blanks. -/
def Value.compact : Value → List Char
  | .null => ['n', 'u', 'l', 'l']
  | .bool b => truth b
  | .number n => n.text.toList
  | .string s => quote s
  | .list items => '[' :: joinWith [','] (compactItems items) ++ [']']
  | .object members => writeMembers (compactMembers members)

/-- The texts of items. -/
def compactItems : List Value → List (List Char)
  | [] => []
  | item :: items => item.compact :: compactItems items

/-- The texts of members. -/
def compactMembers : List (String × Value) → List (String × List Char)
  | [] => []
  | (key, value) :: members => (key, value.compact) :: compactMembers members

end

/-- A new line at a level. -/
def newLine (level : Nat) : List Char :=
  '\n' :: List.replicate (2 * level) ' '

/-- Parts between brackets, each on a line of its own. -/
def spread (level : Nat) (opening closing : Char) (parts : List (List Char)) : List Char :=
  if parts.isEmpty then [opening, closing]
  else
    opening :: newLine (level + 1) ++ joinWith (',' :: newLine (level + 1)) parts ++
      newLine level ++ [closing]

mutual

/-- A value spread over lines, the first of which is at a level. -/
def Value.pretty (level : Nat) : Value → List Char
  | .null => ['n', 'u', 'l', 'l']
  | .bool b => truth b
  | .number n => n.text.toList
  | .string s => quote s
  | .list items => spread level '[' ']' (prettyItems (level + 1) items)
  | .object members => spread level '\x7b' '\x7d' (prettyMembers (level + 1) members)

/-- The texts of items. -/
def prettyItems (level : Nat) : List Value → List (List Char)
  | [] => []
  | item :: items => item.pretty level :: prettyItems level items

/-- The texts of members. -/
def prettyMembers (level : Nat) : List (String × Value) → List (List Char)
  | [] => []
  | (key, value) :: members =>
      (quote key ++ [':', ' '] ++ value.pretty level) :: prettyMembers level members

end

end ContextStream.Json
