import ContextStream.Text.Hex
import ContextStream.Text.Split

/-!
# Tokens of Turtle

The tokens that documents about nodes and integers are made of. A reference stands
between angle brackets and is taken as it is; a name has a label, a colon and a rest.
Blanks and comments separate tokens.
-/

namespace ContextStream.Turtle

open ContextStream.Text

/-- A token. -/
inductive Token where
  /-- Announces the binding of a namespace. -/
  | directive
  | reference (text : List Char)
  | name (label rest : List Char)
  /-- Stands for the property that tells a type. -/
  | type
  | integer (value : Int)
  | comma
  | semicolon
  | stop
  deriving DecidableEq, Repr

namespace Token

/-! ## Characters -/

/-- Blanks between tokens. -/
def isBlank (c : Char) : Bool :=
  c == ' ' || c == '\t' || c == '\n' || c == '\r'

/-- Characters that may stand in a reference. -/
def isReferenceChar (c : Char) : Bool :=
  ' ' < c && c ∉ ['<', '>', '"', '\x7b', '\x7d', '|', '^', '`', '\\']

/-- Letters that a label may begin with. -/
def isLetter (c : Char) : Bool :=
  let within (first last : Nat) := first ≤ c.toNat && c.toNat ≤ last
  c.isAlpha || within 0xc0 0xd6 || within 0xd8 0xf6 || within 0xf8 0x2ff ||
    within 0x370 0x37d || within 0x37f 0x1fff || within 0x200c 0x200d ||
    within 0x2070 0x218f || within 0x2c00 0x2fef || within 0x3001 0xd7ff ||
    within 0xf900 0xfdcf || within 0xfdf0 0xfffd || within 0x10000 0xeffff

/-- Characters that a label or a rest may go on with. -/
def isNameChar (c : Char) : Bool :=
  isLetter c || c == '_' || c == '-' || c.isDigit || c.toNat == 0xb7 ||
    (0x300 ≤ c.toNat && c.toNat ≤ 0x36f) || (0x203f ≤ c.toNat && c.toNat ≤ 0x2040)

/-- Characters of a run that may be a name. -/
def isRunChar (c : Char) : Bool :=
  isNameChar c || c == '.' || c == ':' || c == '%'

/-- Whether a label is well formed: empty, or a letter with characters of a name and
full stops behind it. -/
def isLabel : List Char → Bool
  | [] => true
  | first :: rest => isLetter first && rest.all fun c => isNameChar c || c == '.'

/-- Whether the characters behind the first one of a rest are well formed. Each
percent sign begins an escape. -/
def continuesRest : List Char → Bool
  | [] => true
  | '%' :: high :: low :: rest =>
      (Hex.value? high).isSome && (Hex.value? low).isSome && continuesRest rest
  | c :: rest => (isNameChar c || c == '.' || c == ':') && continuesRest rest

/-- Whether a rest is well formed. It may begin with a digit, but not with a hyphen. -/
def isRest (text : List Char) : Bool :=
  match text with
  | [] => true
  | first :: _ =>
      (isLetter first || first == '_' || first == ':' || first.isDigit || first == '%') &&
        continuesRest text

/-! ## Single tokens -/

/-- The token that a run is. -/
def ofRun? (run : List Char) : Option Token :=
  if run = ['a'] then some .type
  else
    match cutAt (· == ':') run with
    | (label, _ :: rest) => if isLabel label && isRest rest then some (.name label rest) else none
    | (_, []) => none

/-- Takes full stops from the end of a run, and counts them. -/
def trimStops (run : List Char) : List Char × Nat :=
  let kept := (run.reverse.dropWhile (· == '.')).reverse
  (kept, run.length - kept.length)

/-- The value of decimal digits. -/
def digitsValue (digits : List Char) : Nat :=
  digits.foldl (fun n c => 10 * n + (c.toNat - '0'.toNat)) 0

/-- Reads an integer behind its sign. A number that goes on with a fraction or an
exponent is none. -/
def integer? (negative : Bool) (text : List Char) : Option (Token × List Char) :=
  let (digits, rest) := cutAt (fun c => !c.isDigit) text
  let goesOn :=
    match rest with
    | '.' :: c :: _ => c.isDigit
    | c :: _ => c == 'e' || c == 'E'
    | [] => false
  if digits.isEmpty || goesOn then none
  else
    let value : Int := digitsValue digits
    some (.integer (if negative then -value else value), rest)

/-- Reads the token that begins with a character. -/
def begin? (first : Char) (rest : List Char) : Option (Token × List Char) :=
  if first = '.' then some (.stop, rest)
  else if first = ',' then some (.comma, rest)
  else if first = ';' then some (.semicolon, rest)
  else if first = '<' then
    match cutAt (· == '>') rest with
    | (text, _ :: rest) =>
        if text.all isReferenceChar then some (.reference text, rest) else none
    | (_, []) => none
  else if first = '@' then
    let (word, rest) := cutAt (fun c => !c.isAlpha) rest
    if word = "prefix".toList then some (.directive, rest) else none
  else if first = '+' then integer? false rest
  else if first = '-' then integer? true rest
  else if first.isDigit then integer? false (first :: rest)
  else
    let (run, rest) := cutAt (fun c => !isRunChar c) (first :: rest)
    let (kept, stops) := trimStops run
    (ofRun? kept).map (·, List.replicate stops '.' ++ rest)

/-! ## Texts -/

/-- Cuts a text into tokens. Every token takes a character at least, so that the number
of characters bounds the number of rounds. -/
def readAll : (rounds : Nat) → List Char → Option (List Token)
  | _, [] => some []
  | 0, _ => none
  | rounds + 1, c :: rest =>
      if isBlank c then readAll rounds rest
      else if c = '#' then readAll rounds (cutAt (fun c => c == '\n' || c == '\r') rest).2
      else
        (begin? c rest).bind fun (token, rest) => (readAll rounds rest).map (token :: ·)

/-- The tokens of a text. -/
def ofText? (text : List Char) : Option (List Token) :=
  readAll text.length text

end Token

end ContextStream.Turtle
