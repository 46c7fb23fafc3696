import ContextStream.Proofs.Config.Validation
import ContextStream.Proofs.Json.Mixtures

/-!
# Every configuration can be written down

Five IRIs and an interval can be written down in many ways: the characters of strings may be
escaped, the members of the object stand in any order, with any blanks between the tokens,
and beside any others. All these texts give the same configuration.
-/

namespace ContextStream.Config

open Json

section Entries

variable (config : Config) (seconds : Nat)

/-- The members of a configuration: the texts of its IRIs, however they are spelled, and the
digits of its interval in seconds. -/
def entries : List (String × (List Char → Prop)) :=
  [("assertionType", IsString config.assertionType.text),
    ("assertionSubject", IsString config.assertionSubject.text),
    ("assertionObject", IsString config.assertionObject.text),
    ("hubURI", IsString config.hub.text), ("streamURI", IsString config.stream.text),
    ("generateEvery", IsInteger seconds)]

/-- The values of these members. -/
def valueAt (seconds : Integer) (key : String) : Value :=
  if key = "assertionType" then .string config.assertionType.text
  else if key = "assertionSubject" then .string config.assertionSubject.text
  else if key = "assertionObject" then .string config.assertionObject.text
  else if key = "hubURI" then .string config.hub.text
  else if key = "streamURI" then .string config.stream.text
  else .number (.integer seconds)

end Entries

/-- Texts of other members: each is a value on its own, and leaves room for the object around
it. -/
def Foreign (text : List Char) : Prop :=
  IsValue text ∧ nesting text ≤ 126

variable {config : Config} {seconds : Nat}

theorem exists_stands_of_foreign {text : List Char} (foreign : Foreign text) :
    ∃ value, Stands 126 text value := by
  obtain ⟨⟨value, read⟩, shallow⟩ := foreign
  exact ⟨value, stands_of_parse read shallow⟩

theorem foreign_quote (s : String) : Foreign (quote s) := by
  have lexemes := tokenize_of_cuts (Lexer.cuts_quote s)
  constructor
  · have cuts : Lexer.Cuts (String.ofList (quote s)).toList [.string s] := by
      rw [String.toList_ofList]
      exact Lexer.cuts_quote s
    exact ⟨.string s, parse_of_cuts cuts (spells_string s) (by decide)⟩
  · rw [nesting, lexemes]
    exact Nat.zero_le 126

theorem stands_of_entries {n : Integer} (same : n.val = seconds) :
    ∀ entry ∈ entries config seconds, ∀ text, entry.2 text →
      Stands 126 text (valueAt config n entry.1) := by
  simp only [entries, List.forall_mem_cons, ← same]
  exact ⟨fun _ is => stands_isString is 126, fun _ is => stands_isString is 126,
    fun _ is => stands_isString is 126, fun _ is => stands_isString is 126,
    fun _ is => stands_isString is 126, fun _ is => stands_isInteger is 126, List.forall_mem_nil _⟩

/-- Members with these values hold the configuration. -/
theorem holds_of_valueAt {members : List (String × Value)} {n : Integer}
    (same : n.val = seconds) (positive : 0 < seconds)
    (domain : config.assertionType ≠ Vocabulary.binaryAssertion)
    (interval : config.interval = 1000 * seconds)
    (found : ∀ entry ∈ entries config seconds,
      member? entry.1 members = some (valueAt config n entry.1)) : Holds members config := by
  simp only [entries, List.forall_mem_cons] at found
  obtain ⟨type, subject, object, hub, stream, every, -⟩ := found
  refine ⟨type, subject, object, hub, stream, Or.inr ⟨n, every, ?_, ?_⟩,
    fun marker => domain (Iri.text_inj.mp marker)⟩ <;> omega

/-- The members of a configuration can be written one behind the other. -/
theorem exists_isMixture (config : Config) (seconds : Nat) :
    ∃ text : String, IsMixture (config.entries seconds) Foreign text.toList := by
  refine ⟨String.ofList <| writeMembers
    [("assertionType", quote config.assertionType.text),
      ("assertionSubject", quote config.assertionSubject.text),
      ("assertionObject", quote config.assertionObject.text), ("hubURI", quote config.hub.text),
      ("streamURI", quote config.stream.text),
      ("generateEvery", (toString (seconds : Int)).toList)], ?_⟩
  rw [String.toList_ofList]
  apply isMixture_writeMembers
  · simp only [entries, List.forall_mem_cons]
    exact ⟨⟨_, rfl, isString_quote _⟩, ⟨_, rfl, isString_quote _⟩, ⟨_, rfl, isString_quote _⟩,
      ⟨_, rfl, isString_quote _⟩, ⟨_, rfl, isString_quote _⟩,
      ⟨_, rfl, isInteger_toString seconds⟩, List.forall_mem_nil _⟩
  · simp [entries]

/-- Every valid configuration can be written down, and is loaded from every text that holds its
members in some order and spelling, with any others beside them. -/
theorem parse_of_entries {config : Config} {seconds : Nat}
    (interval : config.interval = 1000 * seconds) (positive : 0 < seconds)
    (fits : seconds < 2 ^ 64) (domain : config.assertionType ≠ Vocabulary.binaryAssertion) :
    (∃ text : String, IsMixture (config.entries seconds) Foreign text.toList) ∧
      ∀ text : String, IsMixture (config.entries seconds) Foreign text.toList →
        parse text = .ok config := by
  refine ⟨exists_isMixture config seconds, ?_⟩
  intro text written
  have lower : -9223372036854775808 ≤ (seconds : Int) := by omega
  have upper : (seconds : Int) < 18446744073709551616 := by omega
  obtain ⟨members, read, found⟩ := parse_of_isMixture written (by decide)
    (config.valueAt ⟨seconds, lower, upper⟩) (stands_of_entries rfl)
    fun _ => exists_stands_of_foreign
  have holds := holds_of_valueAt rfl positive domain interval found
  simp [parse, read, ofValue, ofMembers_eq_ok_iff.mpr holds, Except.mapError, bind, Except.bind]

/-- The members of a configuration in an unusual order, and others under the same key. -/
def rearranged : List (String × List Char) :=
  [("note", [' ', '[', '[', ']', ']']), ("generateEvery", ['\n', '5', ' ']),
    ("streamURI", quote "http://stream.test/s1"), ("hubURI", quote "http://hub.test/push"),
    ("note", ['n', 'u', 'l', 'l']), ("assertionObject", quote "http://example.org/lab308"),
    ("assertionSubject", quote "http://example.org/alexAgent"),
    ("assertionType", quote "http://example.org/LocatedAt")]

theorem isMixture_rearranged :
    IsMixture (exampleConfig.entries 5) Foreign (writeMembers rearranged) := by
  have digit : IsInteger (5 : Nat) (['\n'] ++ ['5'] ++ [' ']) := .between (by decide) (by decide)
  apply isMixture_writeMembers
  · simp only [entries, List.forall_mem_cons]
    exact ⟨⟨_, rfl, isString_quote _⟩, ⟨_, rfl, isString_quote _⟩, ⟨_, rfl, isString_quote _⟩,
      ⟨_, rfl, isString_quote _⟩, ⟨_, rfl, isString_quote _⟩, ⟨_, rfl, digit⟩,
      List.forall_mem_nil _⟩
  · have lists : Foreign [' ', '[', '[', ']', ']'] := ⟨⟨.list [.list []], rfl⟩, by decide⟩
    have null : Foreign ['n', 'u', 'l', 'l'] := ⟨⟨.null, rfl⟩, by decide⟩
    simp [rearranged, entries, lists, null]

/-- The order of the members and what stands beside them do not matter. -/
theorem parse_of_rearranged :
    exampleConfig.interval = 1000 * 5 ∧
      IsMixture (exampleConfig.entries 5) Foreign (writeMembers rearranged) ∧
        parse (String.ofList (writeMembers rearranged)) = .ok exampleConfig := by
  have domain : exampleConfig.assertionType ≠ Vocabulary.binaryAssertion := by decide +kernel
  have interval : exampleConfig.interval = 1000 * 5 := rfl
  have loads := (parse_of_entries interval (by decide) (by decide) domain).2
  refine ⟨interval, isMixture_rearranged, loads _ ?_⟩
  rw [String.toList_ofList]
  exact isMixture_rearranged

end ContextStream.Config
