import ContextStream.Text.Hex
import ContextStream.Unicode.Printable

/-!
# Quoted texts

How a message shows a text or a character that came from outside: between
quotation marks, with an escape for each character that would not show itself,
so that no control character reaches the message.
-/

namespace ContextStream.Text.Quoted

open ContextStream.Unicode

/-- The escape that names a code point. -/
def codePoint (c : Char) : List Char :=
  ['\\', 'u', '\x7b'] ++ Hex.plain c.toNat ++ ['\x7d']

/-- A character inside quotation marks of the given kind. -/
def escape (mark c : Char) : List Char :=
  if c = '\x00' then ['\\', '0']
  else if c = '\t' then ['\\', 't']
  else if c = '\r' then ['\\', 'r']
  else if c = '\n' then ['\\', 'n']
  else if c = '\\' then ['\\', '\\']
  else if c = mark then ['\\', mark]
  else if extendsGrapheme c then codePoint c
  else if isPrintable c then [c]
  else codePoint c

/-- A text between double quotation marks. -/
def text (s : String) : String :=
  String.ofList ('"' :: s.toList.flatMap (escape '"') ++ ['"'])

/-- A character between single quotation marks. -/
def char (c : Char) : String :=
  String.ofList ('\'' :: escape '\'' c ++ ['\''])

end ContextStream.Text.Quoted
