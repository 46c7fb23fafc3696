import ContextStream.Iri
import ContextStream.Uuid

/-!
# Names made of identifiers

Every universally unique identifier names a node: its digits and hyphens behind
`urn:uuid:` are an IRI.
-/

namespace ContextStream

namespace Uuid

/-- The characters of written identifiers. -/
def alphabet : List Char :=
  ['0', '1', '2', '3', '4', '5', '6', '7', '8', '9', 'a', 'b', 'c', 'd', 'e', 'f', '-']

theorem digit_mem_alphabet (n : Nat) (small : n < 16) : Text.Hex.digit n ∈ alphabet := by
  revert n
  decide

theorem fixed_subset_alphabet (width n : Nat) : ∀ c ∈ Text.Hex.fixed width n, c ∈ alphabet := by
  induction width generalizing n with
  | zero => simp [Text.Hex.fixed]
  | succ width ih =>
      intro c cMem
      simp only [Text.Hex.fixed, List.mem_append, List.mem_singleton] at cMem
      rcases cMem with inFront | last
      · exact ih _ c inFront
      · exact last ▸ digit_mem_alphabet _ (Nat.mod_lt _ (by decide))

theorem hyphenated_subset_alphabet (digits : List Char) (lengths : List Nat)
    (all : ∀ c ∈ digits, c ∈ alphabet) : ∀ c ∈ hyphenated digits lengths, c ∈ alphabet := by
  induction lengths generalizing digits with
  | nil => simp [hyphenated]
  | cons length lengths ih =>
      cases lengths with
      | nil => exact fun c cMem => all c (List.mem_of_mem_take cMem)
      | cons next others =>
          intro c cMem
          simp only [hyphenated, List.mem_append, List.mem_cons] at cMem
          rcases cMem with inFront | hyphen | behind
          · exact all c (List.mem_of_mem_take inFront)
          · exact hyphen ▸ (by decide)
          · exact ih (digits.drop length) (fun d dMem => all d (List.mem_of_mem_drop dMem)) c
              behind

/-- Written identifiers hold digits and hyphens. -/
theorem text_subset_alphabet (id : Uuid) : ∀ c ∈ id.text, c ∈ alphabet :=
  hyphenated_subset_alphabet _ _ (fixed_subset_alphabet 32 _)

end Uuid

namespace Iri

open ContextStream.Text

/-- What stands in front of an identifier. -/
def uuidNamespace : List Char := ['u', 'r', 'n', ':', 'u', 'u', 'i', 'd', ':']

/-- Whether a character may stand in an IRI and marks no part of a URL. -/
def isUnmarked (c : Char) : Bool :=
  !isIllegal c && !(c == '#') && !(c == '?')

theorem alphabet_all_isUnmarked : Uuid.alphabet.all isUnmarked = true := by
  decide +kernel

theorem alphabet_plain (c : Char) (cMem : c ∈ Uuid.alphabet) :
    isIllegal c = false ∧ (c == '#') = false ∧ (c == '?') = false := by
  have unmarked := List.all_eq_true.1 alphabet_all_isUnmarked c cMem
  simp only [isUnmarked, Bool.and_eq_true, Bool.not_eq_true'] at unmarked
  exact ⟨unmarked.1.1, unmarked.1.2, unmarked.2⟩

theorem alphabet_all_isPrintable :
    Uuid.alphabet.all (!Percent.inControls ·) = true := by
  decide +kernel

/-- Nothing has to be encoded in a text of the alphabet. -/
theorem encode_uuid (rest : List Char) (all : ∀ c ∈ rest, c ∈ Uuid.alphabet) :
    Percent.encode Percent.inControls ('u' :: 'u' :: 'i' :: 'd' :: ':' :: rest) =
      'u' :: 'u' :: 'i' :: 'd' :: ':' :: rest := by
  apply Percent.encode_eq_self
  intro c cMem
  simp only [List.mem_cons] at cMem
  rcases cMem with rfl | rfl | rfl | rfl | rfl | inRest
  all_goals first
    | decide
    | simpa using List.all_eq_true.1 alphabet_all_isPrintable c (all c inRest)

/-- A text of the alphabet behind the namespace is read as a URL whose path is that text. -/
theorem parse_uuid (rest : List Char) (all : ∀ c ∈ rest, c ∈ Uuid.alphabet) :
    Url.parse (uuidNamespace ++ rest) =
      .ok { scheme := "urn", authority := none, query := none, fragment := none,
            path := .bare (String.ofList ('u' :: 'u' :: 'i' :: 'd' :: ':' :: rest)) } := by
  have plain : ∀ c ∈ 'u' :: 'u' :: 'i' :: 'd' :: ':' :: rest,
      (c == '#') = false ∧ (c == '?') = false := by
    intro c cMem
    simp only [List.mem_cons] at cMem
    rcases cMem with rfl | rfl | rfl | rfl | rfl | inRest
    all_goals first
      | decide
      | exact (alphabet_plain c (all c inRest)).2
  have parts : Url.Parts.ofText ('u' :: 'u' :: 'i' :: 'd' :: ':' :: rest) =
      ⟨'u' :: 'u' :: 'i' :: 'd' :: ':' :: rest, none, none⟩ := by
    unfold Url.Parts.ofText
    rw [cutAt_all fun c cMem => (plain c cMem).1]
    dsimp only
    rw [cutAt_all fun c cMem => (plain c cMem).2]
    rfl
  have scheme : Url.splitScheme (uuidNamespace ++ rest) =
      some ("urn", 'u' :: 'u' :: 'i' :: 'd' :: ':' :: rest) :=
    rfl
  have kind : Url.kindOf "urn" = .plain := by decide
  simp [Url.parse, scheme, Url.parseAfterScheme, parts, kind, Url.parsePlain, Url.complete,
    encode_uuid rest all]

theorem legal_namespace : uuidNamespace.find? isIllegal = none := by
  decide +kernel

/-- The name of an identifier has no fault. -/
theorem fault?_uuid (id : Uuid) : fault? (String.ofList (uuidNamespace ++ id.text)) = none := by
  have read := parse_uuid id.text id.text_subset_alphabet
  have legal : (uuidNamespace ++ id.text).find? isIllegal = none := by
    rw [List.find?_append, legal_namespace, Option.none_or, List.find?_eq_none]
    intro c cMem
    simp [(alphabet_plain c (id.text_subset_alphabet c cMem)).1]
  unfold fault?
  rw [String.toList_ofList]
  split
  · next empty => simp [uuidNamespace] at empty
  · rw [legal, read]

/-- The node that an identifier names. -/
def ofUuid (id : Uuid) : Iri :=
  ⟨String.ofList (uuidNamespace ++ id.text), fault?_uuid id⟩

end Iri

end ContextStream
