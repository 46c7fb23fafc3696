import ContextStream.Config.Basic
import ContextStream.Proofs.Text.Utf8
import Mathlib.Tactic.Common

/-!
# Accepted configurations

A configuration that is accepted holds the texts of its members character for
character, and its type is none that every assertion has anyway.
-/

namespace ContextStream

/-- An IRI is the text that it was read from. -/
theorem Iri.text_of_parse {text : String} {iri : Iri} (read : parse text = .ok iri) :
    iri.text = text := by
  unfold parse at read
  split at read
  · cases read
    rfl
  · cases read

namespace Config

variable {members : List (String × Json.Value)} {config : Config}

/-- The IRI under a key is the string that stands there. -/
theorem member?_of_iriAt {key : Key} {iri : Iri} (found : iriAt key members = .ok iri) :
    Json.member? key.name members = some (.string iri.text) := by
  unfold iriAt at found
  split at found
  · cases found
  · cases found
  · next text is =>
      cases read : Iri.parse text with
      | error invalid => simp [read, Except.mapError] at found
      | ok parsed =>
          simp only [read, Except.mapError, Except.ok.injEq] at found
          rw [is, ← found, Iri.text_of_parse read]
  · cases found

/-- What the members of an object are that gives a configuration. -/
structure Gives (members : List (String × Json.Value)) (config : Config) : Prop where
  assertionType : iriAt .assertionType members = .ok config.assertionType
  assertionSubject : iriAt .assertionSubject members = .ok config.assertionSubject
  assertionObject : iriAt .assertionObject members = .ok config.assertionObject
  hub : iriAt .hub members = .ok config.hub
  stream : iriAt .stream members = .ok config.stream
  interval : ∃ seconds, secondsAt members = .ok seconds ∧ config.interval = 1000 * seconds
  domainType : config.assertionType ≠ Vocabulary.binaryAssertion

theorem gives_of_ofMembers (read : ofMembers members = .ok config) : Gives members config := by
  simp only [ofMembers] at read
  split at read
  · next type subject object hub stream seconds isType isSubject isObject isHub isStream
      isSeconds noProblems =>
      cases read
      refine ⟨isType, isSubject, isObject, isHub, isStream, ⟨seconds, isSeconds, rfl⟩, ?_⟩
      intro marker
      simp only [isType, markerProblems, List.append_eq_nil_iff] at noProblems
      rw [if_pos marker] at noProblems
      cases noProblems.2
  · cases read

/-- A text that gives a configuration is an object whose members give it. -/
theorem exists_members_of_parse {text : String} (loaded : parse text = .ok config) :
    ∃ members, Json.parse text = .ok (.object members) ∧ Gives members config := by
  unfold parse at loaded
  cases read : Json.parse text with
  | error fault => simp [read, Except.mapError, bind, Except.bind] at loaded
  | ok value =>
      cases given : ofValue value with
      | error problems => simp [read, given, Except.mapError, bind, Except.bind] at loaded
      | ok config' =>
          simp only [read, given, Except.mapError, bind, Except.bind, Except.ok.injEq] at loaded
          subst loaded
          cases value with
          | object members => exact ⟨members, rfl, gives_of_ofMembers given⟩
          | _ => cases given

/-- An accepted interval is not empty. -/
theorem secondsAt_pos {seconds : Nat} (read : secondsAt members = .ok seconds) : 0 < seconds := by
  unfold secondsAt at read
  split at read
  · cases read
    decide
  · cases read
    decide
  · next n is =>
      split at read
      · next positive =>
          cases read
          omega
      · cases read
  · cases read
  · cases read

theorem Gives.interval_pos (gives : Gives members config) : 0 < config.interval := by
  obtain ⟨seconds, read, is⟩ := gives.interval
  have positive := secondsAt_pos read
  omega

/-- A configuration that is loaded was read from the text of the file. -/
theorem exists_text_of_load {path : String} {file : File}
    (loaded : (load path file).1 = .ok config) :
    ∃ text, parse text = .ok config := by
  unfold load ofFile at loaded
  cases read : file.read with
  | error fault => simp [read, Except.mapError, bind, Except.bind] at loaded
  | ok text =>
      cases parsed : parse text with
      | error error => simp [read, parsed, Except.mapError, bind, Except.bind] at loaded
      | ok config' =>
          simp only [read, parsed, Except.mapError, bind, Except.bind, Except.ok.injEq] at loaded
          exact ⟨text, loaded ▸ parsed⟩

/-- A file with the text of a configuration gives it. -/
theorem load_of_parse {text : String} (accepted : parse text = .ok config) (path : String) :
    (load path (.content (Text.Utf8.encode text.toList))).1 = .ok config := by
  have read : (File.content (Text.Utf8.encode text.toList)).read = .ok text := by
    simp [File.read, Text.Utf8.decode?_encode]
  simp [load, ofFile, read, accepted, Except.mapError, bind, Except.bind]

/-! ## A configuration that is accepted -/

/-- A text of the six members of a configuration. -/
def exampleText : String :=
  "\x7b\"assertionType\": \"http://example.org/LocatedAt\", " ++
    "\"assertionSubject\": \"http://example.org/alexAgent\", " ++
    "\"assertionObject\": \"http://example.org/lab308\", " ++
    "\"hubURI\": \"http://hub.test/push\", \"streamURI\": \"http://stream.test/s1\", " ++
    "\"generateEvery\": 5\x7d"

/-- The configuration that they give. -/
def exampleConfig : Config where
  assertionType := ⟨"http://example.org/LocatedAt", by decide +kernel⟩
  assertionSubject := ⟨"http://example.org/alexAgent", by decide +kernel⟩
  assertionObject := ⟨"http://example.org/lab308", by decide +kernel⟩
  hub := ⟨"http://hub.test/push", by decide +kernel⟩
  stream := ⟨"http://stream.test/s1", by decide +kernel⟩
  interval := 5000

/-- A text is loaded if what is loaded can be taken out. -/
theorem parse_of_toOption {text : String} (read : (parse text).toOption = some config) :
    parse text = .ok config := by
  cases found : parse text with
  | error error => simp [found, Except.toOption] at read
  | ok given =>
      simp only [found, Except.toOption, Option.some.injEq] at read
      rw [read]

theorem parse_exampleText : parse exampleText = .ok exampleConfig :=
  parse_of_toOption (by decide +kernel)

end Config

end ContextStream
