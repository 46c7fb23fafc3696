import ContextStream.Iri.Wire
import ContextStream.Proofs.Iri.Absolute
import ContextStream.Proofs.Json.Strings

/-!
# IRIs as JSON strings

Three classes of characters meet on the wire: those that the writer escapes, those that a
reader can find in a string, escaped or not, and those that an IRI may hold. Nothing that
an IRI may hold is escaped, and whatever is found in a string is judged as if it had stood
in a text of its own.
-/

namespace ContextStream.Iri

open ContextStream.Json

/-! ## Writing -/

/-- A character of an IRI is written as it is. -/
theorem escape_of_legal {c : Char} (legal : isIllegal c = false) : Json.escape c = [c] := by
  have visible := lt_toNat_of_legal legal
  have noQuote : c ≠ '"' := by
    rintro rfl
    exact absurd legal (by decide)
  have noBackslash : c ≠ '\\' := by
    rintro rfl
    exact absurd legal (by decide)
  have noControl : ∀ {d : Char}, d.toNat < 0x20 → c ≠ d := by
    rintro d control rfl
    omega
  unfold Json.escape
  rw [if_neg noQuote, if_neg noBackslash, if_neg (noControl (by decide)),
    if_neg (noControl (by decide)), if_neg (noControl (by decide)), if_neg (noControl (by decide)),
    if_neg (noControl (by decide)), if_neg (by omega)]

/-- The JSON text of an IRI is its text between quotation marks. -/
theorem json_eq (iri : Iri) : iri.json = "\"" ++ iri.text ++ "\"" := by
  have plain : iri.text.toList.flatMap Json.escape = iri.text.toList := by
    rw [List.flatMap_congr fun c member => escape_of_legal (iri.isIllegal_eq_false member)]
    exact List.flatMap_singleton' _
  rw [← String.toList_inj, json, quote, plain]
  simp

/-! ## Reading -/

/-- A string is read as an IRI exactly as its text is. -/
theorem ofJson_of_isString {text content : String} (is : IsString content text.toList) :
    ofJson text = (parse content).mapError .invalid := by
  have cut := tokenize_eq_string_iff.mpr is
  obtain ⟨token, tokens, lexeme⟩ := List.map_eq_singleton_iff.mp cut
  simp only [ofJson, tokens, readString, lexeme]
  change ((parse content).mapError WireFault.invalid >>= fun iri => Except.ok iri) = _
  cases parse content <;> rfl

example : ofJson "\"ht\\u0074p:\\/\\/h/\\u0000\" " =
    .error (.invalid ⟨"http://h/\x00", .illegalCharacter '\x00'⟩) :=
  (ofJson_of_isString (tokenize_eq_string_iff.mp (by rfl))).trans (by rfl)

theorem eq_cons_of_readString {size : Nat} {tokens rest : List Token} {content : String}
    (read : readString size tokens = .ok (content, rest)) :
    ∃ token, tokens = token :: rest ∧ token.lexeme = .string content := by
  cases tokens with
  | nil => cases read
  | cons token others =>
      cases lexeme : token.lexeme with
      | string s =>
          simp only [readString, lexeme, Except.ok.injEq, Prod.mk.injEq] at read
          obtain ⟨rfl, rfl⟩ := read
          exact ⟨token, rfl, lexeme⟩
      | _ => simp [readString, lexeme] at read

theorem eq_nil_of_finish {rest : List Token} (ended : finish rest = .ok ()) : rest = [] := by
  cases rest with
  | nil => rfl
  | cons => cases ended

/-- What is read as an IRI is one string, and its text is the IRI. -/
theorem exists_isString_of_ofJson {text : String} {iri : Iri} (read : ofJson text = .ok iri) :
    ∃ content, IsString content text.toList ∧ parse content = .ok iri := by
  obtain ⟨⟨content, rest⟩, string, read⟩ := bind_eq_ok_iff.mp read
  obtain ⟨other, parsed, read⟩ := bind_eq_ok_iff.mp read
  obtain ⟨_, ended, is⟩ := bind_eq_ok_iff.mp read
  cases is
  rw [mapError_eq_ok_iff] at string parsed ended
  refine ⟨content, tokenize_eq_string_iff.mp ?_, parsed⟩
  obtain ⟨token, given, lexeme⟩ := eq_cons_of_readString string
  have tokens : (tokenize text.toList).tokens = token :: rest := given
  rw [tokens, eq_nil_of_finish ended]
  simpa using lexeme

/-- A text spells one string at most. -/
theorem isString_unique {content other : String} {text : List Char}
    (is : IsString content text) (is' : IsString other text) : other = content := by
  have same := (tokenize_eq_string_iff.mpr is').symm.trans (tokenize_eq_string_iff.mpr is)
  simpa using same

/-! ## The codec -/

/-- What is known of a JSON text that is read as an IRI. -/
structure IsRead (text : String) (iri : Iri) (content : String) : Prop where
  /-- It is one string between blanks, however it is spelled, -/
  isString : IsString content text.toList
  /-- no other string is spelled so, -/
  unique : ∀ other, IsString other text.toList → other = content
  /-- and the string is accepted as the IRI that is read. -/
  accepted : parse content = .ok iri
  same : content = iri.text

/-- An IRI is written without escapes and read back. A text is read as an IRI if and only if
it is a string whose content is accepted as this IRI; a string with any other content is
refused as its content is. -/
theorem codec :
    (∀ iri : Iri, iri.json = "\"" ++ iri.text ++ "\"" ∧ ofJson iri.json = .ok iri) ∧
      (∀ text iri, ofJson text = .ok iri ↔ ∃ content, IsRead text iri content) ∧
      ∀ text content, IsString content text.toList →
        ofJson text = (parse content).mapError .invalid := by
  refine ⟨fun iri => ⟨iri.json_eq, ?_⟩, fun text iri => ⟨fun read => ?_, ?_⟩,
    fun text content is => ofJson_of_isString is⟩
  · have is : IsString iri.text iri.json.toList := by
      rw [json, String.toList_ofList]
      exact isString_quote iri.text
    rw [ofJson_of_isString is, parse_eq_ok_iff.mpr rfl]
    rfl
  · obtain ⟨content, is, accepted⟩ := exists_isString_of_ofJson read
    exact ⟨content, is, fun _ => isString_unique is, accepted, parse_eq_ok_iff.mp accepted⟩
  · rintro ⟨content, is, -, accepted, -⟩
    rw [ofJson_of_isString is, accepted]
    rfl

end ContextStream.Iri
