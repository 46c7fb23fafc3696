import ContextStream.Json.Reader

/-!
# Reading records

A record is written as an object, whose members stand in any order beside others
that are ignored, or as a list of its fields in order. While it is read, a draft
holds the fields that were found. A field that is found twice, and one that is never
found, are faults; they are reported where the record would have ended.
-/

namespace ContextStream.Json

/-- Skips what may close a list or an object, and gives the offset reached. -/
def closingOffset (close : Symbol) (size : Nat) : List Token → Nat
  | [] => size
  | token :: rest =>
      if token.lexeme matches .symbol .comma then
        if close = .listClose then (rest.head?.map (·.start)).getD size else token.start
      else
        match token.lexeme with
        | .symbol symbol => if symbol = close then token.stop else token.start
        | _ => token.start

/-! ## Fields -/

/-- The fault of a token that is not of the wanted kind. -/
def Token.mismatch (token : Token) (wanted : String) : Fault :=
  let unexpected := fun found offset => (⟨.unexpectedType found wanted, offset⟩ : Fault)
  match token.lexeme with
  | .null => unexpected .null token.stop
  | .bool b => unexpected (.bool b) token.stop
  | .number n => unexpected (.number n) token.stop
  | .string s => unexpected (.string s) token.stop
  | .symbol .listOpen => unexpected .list token.start
  | .symbol .objectOpen => unexpected .object token.start
  | .malformed _ fault _ => fault
  | .symbol _ | .stray => token.refuse .expectedValue

/-- Reads a string. -/
def readString : Reader String
  | size, [] => .error ⟨.endInValue, size⟩
  | _, token :: rest =>
      match token.lexeme with
      | .string s => .ok (s, rest)
      | _ => .error (token.mismatch "a string")

/-- Reads a signed integer of sixty-four bits. -/
def readInt64 : Reader Int64
  | size, [] => .error ⟨.endInValue, size⟩
  | _, token :: rest =>
      match token.lexeme with
      | .number (.integer n) =>
          match n.toInt64? with
          | some i => .ok (i, rest)
          | none => .error ⟨.unfitInteger n.val "i64", token.stop⟩
      | _ => .error (token.mismatch "i64")

/-- A field of a record with drafts in `σ`. Reading it may open `room` lists and
objects inside each other. -/
structure Field (σ : Type) where
  name : String
  isSet : σ → Bool
  read : (room : Nat) → σ → Reader σ

/-- A kind of record. A draft in which a field is missing gives the name of the first
such field. -/
structure Record (σ α : Type) where
  title : String
  fields : List (Field σ)
  blank : σ
  complete : σ → Except String α

namespace Record

variable {σ α : Type}

/-- The name of the record in messages. -/
def wanted (record : Record σ α) : String :=
  "struct " ++ record.title

/-! ## Records in objects -/

/-- The colon behind a key. -/
def colon : Reader Unit
  | size, [] => .error ⟨.endInObject, size⟩
  | _, token :: rest =>
      match token.lexeme with
      | .symbol .colon => .ok ((), rest)
      | _ => .error (token.refuse .expectedColon)

/-- The next key of an object, if there is one; `first` tells whether no key was
read before. -/
def nextKey (first : Bool) : Reader (Option String)
  | size, [] => .error ⟨.endInObject, size⟩
  | size, token :: rest =>
      match token.lexeme with
      | .symbol .objectClose => .ok (none, rest)
      | lexeme =>
          if first then ((Manner.read 0).key token).map fun key => (some key, rest)
          else
            match lexeme, rest with
            | .symbol .comma, [] => .error ⟨.endInValue, size⟩
            | .symbol .comma, token :: rest =>
                match token.lexeme with
                | .symbol .objectClose => .error (token.refuse .trailingComma)
                | _ => ((Manner.read 0).key token).map fun key => (some key, rest)
            | _, _ => .error (token.refuse .expectedObjectCommaOrEnd)

/-- Reads the value of a key into a draft. -/
def readMember (record : Record σ α) (room : Nat) (draft : σ) (key : String) : Reader σ :=
  fun size tokens =>
    match record.fields.find? (·.name = key) with
    | none => do
        let ((), rest) ← colon size tokens
        let ((), rest) ← passValue size rest
        return (draft, rest)
    | some field =>
        if field.isSet draft then
          .error ⟨.duplicateField key, closingOffset .objectClose size tokens⟩
        else do
          let ((), rest) ← colon size tokens
          field.read room draft size rest

/-- Reads the members of an object into a draft. Each member takes a token at least,
so that the number of tokens bounds the number of rounds. -/
def readMembers (record : Record σ α) (room size : Nat) :
    (rounds : Nat) → (first : Bool) → σ → List Token → Except Fault (σ × List Token)
  | 0, _, draft, tokens => .ok (draft, tokens)
  | rounds + 1, first, draft, tokens => do
      match ← nextKey first size tokens with
      | (none, _) => return (draft, tokens)
      | (some key, rest) =>
          let (draft, rest) ← record.readMember room draft key size rest
          record.readMembers room size rounds false draft rest

/-- Reads a record behind the opening symbol of an object. -/
def readObject (record : Record σ α) (room : Nat) : Reader α :=
  fun size tokens => do
    let (draft, rest) ← record.readMembers room size (tokens.length + 1) true record.blank tokens
    match record.complete draft with
    | .ok value => return (value, rest.drop 1)
    | .error name => throw ⟨.missingField name, closingOffset .objectClose size rest⟩

/-! ## Records in lists -/

/-- Reads the next field from a list. `count` fields were read before. -/
def readItem (record : Record σ α) (room : Nat) (field : Field σ) (count : Nat) (draft : σ) :
    Reader σ
  | size, [] => .error ⟨.endInList, size⟩
  | size, token :: rest =>
      match token.lexeme with
      | .symbol .listClose =>
          .error ⟨.wrongLength count (record.wanted ++ " with " ++
            toString record.fields.length ++ " elements"), token.stop⟩
      | lexeme =>
          if count = 0 then field.read room draft size (token :: rest)
          else
            match lexeme, rest with
            | .symbol .comma, [] => .error ⟨.endInValue, size⟩
            | .symbol .comma, token :: _ =>
                match token.lexeme with
                | .symbol .listClose => .error (token.refuse .trailingComma)
                | _ => field.read room draft size rest
            | _, _ => .error (token.refuse .expectedListCommaOrEnd)

/-- Reads the fields of a list into a draft. -/
def readItems (record : Record σ α) (room size : Nat) :
    List (Field σ) → (count : Nat) → σ → List Token → Except Fault (σ × List Token)
  | [], _, draft, tokens => .ok (draft, tokens)
  | field :: fields, count, draft, tokens => do
      let (draft, rest) ← record.readItem room field count draft size tokens
      record.readItems room size fields (count + 1) draft rest

/-- The end of a list of fields. -/
def closeList : Reader Unit
  | size, [] => .error ⟨.endInList, size⟩
  | size, token :: rest =>
      match token.lexeme, rest with
      | .symbol .listClose, _ => .ok ((), rest)
      | .symbol .comma, [] => .error ⟨.trailingCharacters, size⟩
      | .symbol .comma, next :: _ =>
          match next.lexeme with
          | .symbol .listClose => .error (next.refuse .trailingComma)
          | _ => .error (next.refuse .trailingCharacters)
      | _, _ => .error (token.refuse .trailingCharacters)

/-- Reads a record behind the opening symbol of a list. -/
def readList (record : Record σ α) (room : Nat) : Reader α :=
  fun size tokens => do
    let (draft, rest) ← record.readItems room size record.fields 0 record.blank tokens
    let ((), rest) ← closeList size rest
    match record.complete draft with
    | .ok value => return (value, rest)
    | .error name => throw ⟨.missingField name, closingOffset .listClose size rest⟩

/-! ## Records -/

/-- Reads a record, which may open `room` lists and objects inside each other, itself
among them. -/
def read (record : Record σ α) (room : Nat) : Reader α
  | size, [] => .error ⟨.endInValue, size⟩
  | size, token :: rest =>
      match token.lexeme, room with
      | .symbol .listOpen, 0 | .symbol .objectOpen, 0 => .error (token.refuse .tooDeep)
      | .symbol .listOpen, room + 1 => record.readList room size rest
      | .symbol .objectOpen, room + 1 => record.readObject room size rest
      | _, _ => .error (token.mismatch record.wanted)

/-- The record that a text is. -/
def parse (record : Record σ α) (text : String) : Except ReadError α :=
  let chars := text.toList
  let { tokens, size } := tokenize chars
  let result := do
    let (value, rest) ← record.read maxDepth size tokens
    finish rest
    return value
  result.mapError (·.locate chars)

end Record

end ContextStream.Json
