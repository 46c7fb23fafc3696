import ContextStream.Text.Split

/-!
# Content types

A content type names a type and a subtype, and parameters behind them. One of these is the
charset of a text.
-/

namespace ContextStream.Http.ContentType

open ContextStream.Text

/-- The characters of a content type that is read at all. -/
def isVisible (c : Char) : Bool :=
  (0x20 ≤ c.toNat && c.toNat < 0x7f) || c == '\t'

/-- The characters of names, and of values that are not quoted. -/
def isToken (c : Char) : Bool :=
  c.isAlphanum || c ∈ "!#$%&'*+-.^_`|~".toList

/-- The characters of quoted values. -/
def isQuotable (c : Char) : Bool :=
  0x1f < c.toNat && c.toNat ≠ 0x7f

/-- The value in front of a text, and what follows the semicolon behind it. A quotation mark
directly behind the first one belongs to the value. -/
def value? : List Char → Option (String × List Char)
  | '"' :: first :: rest =>
      let (front, behind) := cutAt (· == '"') rest
      match behind with
      | [] => none
      | _ :: behind =>
          if (first :: front).all isQuotable then
            match behind.dropWhile (· == ' ') with
            | [] => some (String.ofList (first :: front), [])
            | ';' :: others => some (String.ofList (first :: front), others)
            | _ => none
          else none
  | text =>
      let (front, behind) := cutAt (!isToken ·) text
      match behind with
      | [] => some (String.ofList front, [])
      | ';' :: others => if front.isEmpty then none else some (String.ofList front, others)
      | _ => none

/-- The parameters in a text, their names in small letters. Every parameter takes a character
at least, so that the number of characters bounds the number of rounds. -/
def parameters? : (rounds : Nat) → List Char → Option (List (String × String))
  | _, [] => some []
  | 0, _ => none
  | rounds + 1, ' ' :: rest => parameters? rounds rest
  | rounds + 1, text =>
      match cutAt (!isToken ·) text with
      | ([], _) => none
      | (name, '=' :: behind) =>
          (value? behind).bind fun (value, others) =>
            (parameters? rounds others).map (((String.ofList name).toLower, value) :: ·)
      | _ => none

/-- The charset that a content type names. What is no content type names none. -/
def charset? (contentType : String) : Option String :=
  let (type, behind) := cutAt (!isToken ·) contentType.toList
  let (subtype, behind) := cutAt (!isToken ·) (behind.drop 1)
  match behind with
  | ';' :: rest =>
      if !contentType.toList.all isVisible || type.isEmpty || subtype.isEmpty then none
      else
        (parameters? rest.length rest).bind fun parameters =>
          (parameters.find? (·.1 = "charset")).map (·.2)
  | _ => none

example : charset? "text/plain; format=flowed; Charset=\"utf-16\"" = some "utf-16" := by
  decide +kernel

end ContextStream.Http.ContentType
