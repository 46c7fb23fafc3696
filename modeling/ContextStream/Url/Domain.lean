import ContextStream.Text.Split
import ContextStream.Text.Utf8
import ContextStream.Unicode.Bidi
import ContextStream.Unicode.DomainMapping
import ContextStream.Unicode.Joining
import ContextStream.Unicode.Normalization
import ContextStream.Url.Error
import ContextStream.Url.Punycode

/-!
# Domain names

A domain name is folded and normalized, its labels are checked, and labels with
characters beyond ASCII are written in Punycode. A name of plain ASCII in which
no label announces Punycode needs none of the tables: it only turns into small
letters.
-/

namespace ContextStream.Url.Domain

open ContextStream.Text ContextStream.Unicode

/-- ASCII characters that no domain name may hold. -/
def isForbidden (c : Char) : Bool :=
  c.toNat ≤ 0x20 || c.toNat == 0x7f || c == '%' || c == '#' || c == '/' || c == ':' ||
    c == '<' || c == '>' || c == '?' || c == '@' || c == '[' || c == '\\' || c == ']' ||
    c == '^' || c == '|'

/-- Whether the character is in ASCII. -/
def isAscii (c : Char) : Bool :=
  c.toNat < 128

/-! ## Checks on a label -/

/-- A zero width joiner or non-joiner stands only where it changes the form of the
letters around it. `before` are the characters in front of it, the nearest first. -/
def joinersFit (before : List Char) : List Char → Bool
  | [] => true
  | c :: rest =>
      let afterVirama := (before.head?.map fun p => combiningClass p.toNat == 9).getD false
      let visible := fun (text : List Char) =>
        (text.dropWhile fun d => joiningType d == .transparent).head?.map joiningType
      let here :=
        if c = '\u200c' then
          afterVirama ||
            ((visible before == some .left || visible before == some .dual) &&
              (visible rest == some .right || visible rest == some .dual))
        else if c = '\u200d' then afterVirama
        else true
      here && joinersFit (c :: before) rest

/-- Whether the class belongs to a script that runs from right to left. -/
def runsLeft (b : BidiClass) : Bool :=
  b == .right || b == .arabicLetter || b == .arabicNumber

/-- Classes that may stand in labels of either direction. -/
def isDirectionless (b : BidiClass) : Bool :=
  b == .europeanNumber || b == .europeanSeparator || b == .commonSeparator ||
    b == .europeanTerminator || b == .otherNeutral || b == .boundaryNeutral ||
    b == .nonspacingMark

/-- The rule for labels of a domain name with text that runs from right to left. -/
def directionFits (label : List Char) : Bool :=
  let classes := label.map bidiClass
  let last := classes.reverse.find? (· != .nonspacingMark)
  match classes with
  | [] => true
  | first :: _ =>
      if first = .right ∨ first = .arabicLetter then
        classes.all (fun b => runsLeft b || isDirectionless b) &&
          (last.map fun b => runsLeft b || b == .europeanNumber).getD false &&
          !(classes.contains .europeanNumber && classes.contains .arabicNumber)
      else if first = .left then
        classes.all (fun b => b == .left || isDirectionless b) &&
          (last.map fun b => b == .left || b == .europeanNumber).getD false
      else false

/-- The checks on a label that are independent of the other labels. -/
def labelFits (label : List Char) : Bool :=
  (label.head?.map fun c => !isMark c).getD true &&
    label.all (fun c => domainFate c == .kept && !isForbidden c) &&
    joinersFit [] label

/-! ## Reading -/

/-- Whether a label announces Punycode. -/
def announcesPunycode (label : List Char) : Bool :=
  label.take 4 == ['x', 'n', '-', '-']

/-- The most characters that a label with characters beyond ASCII may have. -/
def longestLabel : Nat := 1000

/-- The most characters that may follow the announcement of Punycode. -/
def longestPunycode : Nat := 2000

/-- The label with its Punycode undone. What Punycode stands for must be beyond
ASCII and already in the form that folding would give. Labels that are too long to
be coded in reasonable time are refused. -/
def reveal (label : List Char) : Option (List Char) :=
  if announcesPunycode label then
    if longestPunycode < (label.drop 4).length then none
    else
      match Punycode.decode? (label.drop 4) with
      | none => none
      | some decoded =>
          if decoded.all isAscii || Normalization.nfc decoded != decoded ||
              announcesPunycode decoded || decoded.contains '.' then none
          else some decoded
  else if longestLabel < label.length && !label.all isAscii then none
  else some label

/-- Folds each character of a name. -/
def fold (name : List Char) : Option (List Char) :=
  name.foldr
    (fun c folded =>
      folded.bind fun rest =>
        match domainFate c with
        | .kept => some (c :: rest)
        | .dropped => some rest
        | .replaced codes => some (codes.map Char.ofNat ++ rest)
        | .refused => none)
    (some [])

/-- A label as it is written in the name that is looked up. -/
def written (label : List Char) : List Char :=
  if label.all isAscii then label else ['x', 'n', '-', '-'] ++ Punycode.encode label

/-- The general case: all steps. -/
def foldedToAscii (name : List Char) : Option (List Char) :=
  (fold name).bind fun folded =>
    ((splitBy (· == '.') (Normalization.nfc folded)).mapM reveal).bind fun labels =>
      if labels.all labelFits &&
          (!labels.any (·.any (runsLeft <| bidiClass ·)) || labels.all directionFits) then
        some (joinWith ['.'] (labels.map written))
      else none

/-- A name of ASCII in small letters. -/
def lowered (name : List Char) : List Char :=
  name.map Char.toLower

/-- Whether the short way gives the right answer: plain ASCII without Punycode. -/
def isPlain (name : List Char) : Bool :=
  name.all isAscii && !(splitBy (· == '.') (lowered name)).any announcesPunycode

/-- The ASCII form of a domain name. -/
def toAscii (name : List Char) : Except ParseError (List Char) :=
  if isPlain name then
    if name.any isForbidden then .error .invalidDomain else .ok (lowered name)
  else
    match foldedToAscii name with
    | some ascii => .ok ascii
    | none => .error .invalidDomain

end ContextStream.Url.Domain
