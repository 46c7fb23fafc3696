import ContextStream.Json.Printer
import ContextStream.Json.Token
import ContextStream.Proofs.Text.Digits

/-!
# Other ways to write

Whoever writes a text may escape any character of a string, put blanks around every token
and give the members of an object in any order. Whatever is written by these rules, which
are those of RFC 8259, is cut into the same lexemes.
-/

namespace ContextStream.Json

open ContextStream.Text

/-- Blanks, any number of them. -/
def Blanks (text : List Char) : Prop :=
  ∀ c ∈ text, isBlank c = true

instance (text : List Char) : Decidable (Blanks text) :=
  decidable_of_iff (text.all isBlank = true) List.all_eq_true

/-! ## Strings -/

/-- Letters behind a backslash, and the characters that they stand for. -/
def letters : List (Char × Char) :=
  [('"', '"'), ('\\', '\\'), ('/', '/'), ('b', '\x08'), ('f', '\x0c'), ('n', '\n'), ('r', '\r'),
    ('t', '\t')]

/-- Four hexadecimal digits of either case, and their number. -/
inductive Code : List Char → Nat → Prop
  | digits {a b c d : Char} {i j k l : Nat} (first : Hex.value? a = some i)
      (second : Hex.value? b = some j) (third : Hex.value? c = some k)
      (fourth : Hex.value? d = some l) :
      Code [a, b, c, d] (16 ^ 3 * i + 16 ^ 2 * j + 16 * k + l)

/-- Text between quotation marks, and the characters that it stands for. -/
inductive Spelling : List Char → List Char → Prop
  | nil : Spelling [] []
  | plain {c : Char} {text chars : List Char} (noQuote : c ≠ '"') (noEscape : c ≠ '\\')
      (noControl : 0x20 ≤ c.toNat) (others : Spelling text chars) :
      Spelling (c :: text) (c :: chars)
  | letter {letter c : Char} {text chars : List Char} (means : (letter, c) ∈ letters)
      (others : Spelling text chars) : Spelling ('\\' :: letter :: text) (c :: chars)
  | code {digits : List Char} {c : Char} {text chars : List Char} (code : Code digits c.toNat)
      (others : Spelling text chars) : Spelling ('\\' :: 'u' :: digits ++ text) (c :: chars)
  /-- A character beyond the first plane, in two halves. -/
  | pair {front back : List Char} {c : Char} {text chars : List Char}
      (beyond : 0x10000 ≤ c.toNat) (first : Code front (0xd800 + (c.toNat - 0x10000) / 0x400))
      (second : Code back (0xdc00 + (c.toNat - 0x10000) % 0x400))
      (others : Spelling text chars) :
      Spelling ('\\' :: 'u' :: front ++ '\\' :: 'u' :: back ++ text) (c :: chars)

/-- A text is a string between blanks. -/
inductive IsString (s : String) : List Char → Prop
  | between {front body back : List Char} (before : Blanks front)
      (spelled : Spelling body s.toList) (after : Blanks back) :
      IsString s (front ++ ('"' :: body ++ ['"']) ++ back)

/-! ## Integers and objects -/

/-- A text is an integer in its decimal digits, between blanks. -/
inductive IsInteger (n : Int) : List Char → Prop
  | between {front back : List Char} (before : Blanks front) (after : Blanks back) :
      IsInteger n (front ++ (toString n).toList ++ back)

/-- The text of an object, from the texts of keys and values. -/
def objectText (parts : List (List Char × List Char)) : List Char :=
  '\x7b' :: joinWith [','] (parts.map fun (name, text) => name ++ ':' :: text) ++ ['\x7d']

/-- A member of an object: its key, however it is spelled, and the text of its value. -/
structure Member where
  key : String
  name : List Char
  text : List Char
  spelled : IsString key name

/-- The texts of a member. -/
def Member.part (member : Member) : List Char × List Char :=
  (member.name, member.text)

/-- A text is an object with members, between blanks. -/
inductive IsObject (members : List Member) : List Char → Prop
  | between {front back : List Char} (before : Blanks front) (after : Blanks back) :
      IsObject members (front ++ objectText (members.map Member.part) ++ back)

/-- A text is an object in which certain keys stand once each, with values of certain texts.
They stand in any order, among any other keys with foreign values. -/
inductive IsMixture (own : List (String × (List Char → Prop))) (foreign : List Char → Prop) :
    List Char → Prop
  | object {members : List Member} {text : List Char} (is : IsObject members text)
      (once : ∀ entry ∈ own, ∃ member, members.filter (·.key = entry.1) = [member] ∧
        entry.2 member.text)
      (others : ∀ member ∈ members, member.key ∉ own.map (·.1) → foreign member.text) :
      IsMixture own foreign text

/-! ## What is written -/

/-- A number stands for itself in four digits. -/
theorem code_fixed {n : Nat} (fits : n < 16 ^ 4) : Code (Hex.fixed 4 n) n := by
  have digit (n : Nat) : Hex.value? (Hex.digit (n % 16)) = some (n % 16) :=
    Hex.value?_digit (Nat.mod_lt n (by decide))
  have code := Code.digits (digit (n / 16 / 16 / 16)) (digit (n / 16 / 16)) (digit (n / 16))
    (digit n)
  have same : 16 ^ 3 * (n / 16 / 16 / 16 % 16) + 16 ^ 2 * (n / 16 / 16 % 16) +
      16 * (n / 16 % 16) + n % 16 = n := by omega
  rwa [same] at code

/-- A character is written as one of its spellings. -/
theorem Spelling.escape {text chars : List Char} (others : Spelling text chars) (c : Char) :
    Spelling (Json.escape c ++ text) (c :: chars) := by
  unfold Json.escape
  -- Seven characters have a letter of their own.
  iterate 7
    split
    · next same =>
        subst same
        exact .letter (by decide) others
  split
  · exact .code (code_fixed (by omega)) others
  · next noQuote noEscape _ _ _ _ _ noControl =>
      exact .plain noQuote noEscape (Nat.not_lt.mp noControl) others

theorem spelling_escapes (chars : List Char) : Spelling (chars.flatMap Json.escape) chars := by
  induction chars with
  | nil => exact .nil
  | cons c chars ih => exact ih.escape c

/-- A string is written as one of its spellings. -/
theorem isString_quote (s : String) : IsString s (quote s) := by
  have none? : Blanks [] := nofun
  simpa [quote] using IsString.between none? (spelling_escapes s.toList) none?

theorem isInteger_toString (n : Int) : IsInteger n (toString n).toList := by
  have none? : Blanks [] := nofun
  simpa using IsInteger.between none? none?

/-- A member whose key is written in the usual way. -/
def Member.ofPart (part : String × List Char) : Member :=
  ⟨part.1, quote part.1, part.2, isString_quote part.1⟩

theorem isObject_writeMembers (parts : List (String × List Char)) :
    IsObject (parts.map Member.ofPart) (writeMembers parts) := by
  have none? : Blanks [] := nofun
  have written : writeMembers parts =
      [] ++ objectText ((parts.map Member.ofPart).map Member.part) ++ [] := by
    simp [writeMembers, objectText, Member.part, Member.ofPart, Function.comp_def]
  exact written ▸ .between none? none?

/-- Members are written as a mixture of those whose keys stand once and of others. -/
theorem isMixture_writeMembers {own : List (String × (List Char → Prop))}
    {foreign : List Char → Prop} {parts : List (String × List Char)}
    (once : ∀ entry ∈ own, ∃ part, parts.filter (·.1 = entry.1) = [part] ∧ entry.2 part.2)
    (others : ∀ part ∈ parts, part.1 ∉ own.map (·.1) → foreign part.2) :
    IsMixture own foreign (writeMembers parts) := by
  refine .object (isObject_writeMembers parts) ?_ ?_
  · intro entry entryMem
    obtain ⟨part, single, wanted⟩ := once entry entryMem
    refine ⟨Member.ofPart part, ?_, wanted⟩
    rw [List.filter_map]
    exact congrArg (List.map Member.ofPart) single
  · intro member memberMem notOwn
    obtain ⟨part, partMem, rfl⟩ := List.mem_map.mp memberMem
    exact others part partMem notOwn

end ContextStream.Json
