import ContextStream.Proofs.Config

/-!
# Conditions on a configuration

The members of an object meet certain conditions, each on the value of one key. They give a
configuration exactly if all conditions are met; otherwise each condition that is not met is
a problem, in the order of the conditions, and there are no other problems.
-/

namespace ContextStream

theorem Iri.parse_of_fault {text : String} {fault : Iri.Fault} (is : Iri.fault? text = some fault) :
    Iri.parse text = .error ⟨text, fault⟩ := by
  unfold parse
  split
  · next faultless => cases faultless.symm.trans is
  · next found =>
      cases found.symm.trans is
      rfl

namespace Config

/-! ## Conditions -/

/-- What the members of a configuration have to meet. -/
inductive Condition where
  /-- The value of a key is of the kind that belongs there. -/
  | valid (key : Key)
  /-- The assertion type is none that every assertion has anyway. -/
  | domainType
  deriving DecidableEq

namespace Condition

/-- The conditions in order. -/
def all : List Condition :=
  [.valid .assertionType, .valid .assertionSubject, .valid .assertionObject, .valid .hub,
    .valid .stream, .valid .interval, .domainType]

theorem mem_all (condition : Condition) : condition ∈ all := by
  cases condition with
  | valid key => cases key <;> decide
  | domainType => decide

/-- The key whose value is looked at. -/
def key : Condition → Key
  | .valid key => key
  | .domainType => .assertionType

/-- The value that is looked at. -/
def valueIn (members : List (String × Json.Value)) (condition : Condition) : Option Json.Value :=
  Json.member? condition.key.name members

/-- A value is a string that is an IRI. -/
def IsIri (value : Option Json.Value) : Prop :=
  ∃ text iri, value = some (.string text) ∧ Iri.parse text = .ok iri

/-- A value is left out, or is a positive integer of sixty-four bits. -/
def IsInterval (value : Option Json.Value) : Prop :=
  value = none ∨ value = some .null ∨
    ∃ n : Json.Integer,
      value = some (.number (.integer n)) ∧ 1 ≤ n.val ∧ n.val < 18446744073709551616

/-- A value meets a condition. -/
def Met : Condition → Option Json.Value → Prop
  | .valid .interval, value => IsInterval value
  | .valid _, value => IsIri value
  | .domainType, value => value ≠ some (.string Vocabulary.binaryAssertion.text)

/-! ## Problems -/

/-- The problem of a value that should be an IRI. -/
def iriProblem? (key : Key) : Option Json.Value → Option Problem
  | none | some .null => some (.missing key)
  | some (.string text) => (Iri.fault? text).map fun fault => .notIri key ⟨text, fault⟩
  | some other => some (.notString key (kindOf other))

/-- The problem of a value that should be an interval. -/
def intervalProblem? : Option Json.Value → Option Problem
  | none | some .null => none
  | some (.number (.integer n)) => if 0 < n.val then none else some (.notInterval (toString n.val))
  | some (.number n) => some (.notInterval n.text)
  | some other => some (.notInterval (kindOf other))

/-- The problem of a value that should not be the type that every assertion has. -/
def markerProblem? : Option Json.Value → Option Problem
  | some (.string text) => if text = Vocabulary.binaryAssertion.text then some .markerType else none
  | _ => none

/-- The problem of a value that does not meet a condition. -/
def problem? : Condition → Option Json.Value → Option Problem
  | .valid .interval => intervalProblem?
  | .valid key => iriProblem? key
  | .domainType => markerProblem?

/-- The condition that a problem is about. -/
def ofProblem? : Problem → Option Condition
  | .notObject => none
  | .missing key | .notIri key _ | .notString key _ => some (.valid key)
  | .notInterval _ => some (.valid .interval)
  | .markerType => some .domainType

variable {value : Option Json.Value}

theorem iriProblem?_eq_none_iff {key : Key} : iriProblem? key value = none ↔ IsIri value := by
  unfold iriProblem? IsIri
  split
  · simp
  · simp
  · next text =>
      rw [Option.map_eq_none_iff]
      constructor
      · intro faultless
        exact ⟨text, _, rfl, Iri.parse_of_faultless faultless⟩
      · rintro ⟨_, iri, same, read⟩
        cases same
        exact Iri.text_of_parse read ▸ iri.faultless
  · next other _ noString =>
      constructor
      · rintro ⟨⟩
      · rintro ⟨text, _, same, _⟩
        exact absurd (Option.some.inj same) (noString text)

theorem intervalProblem?_eq_none_iff : intervalProblem? value = none ↔ IsInterval value := by
  cases value with
  | none => simp [intervalProblem?, IsInterval]
  | some value =>
      cases value with
      | number n =>
          cases n with
          | integer n =>
              have upper := n.upper
              simp only [intervalProblem?, IsInterval]
              split
              · next positive => simpa using ⟨positive, upper⟩
              · next notPositive =>
                  simp only [reduceCtorEq, Option.some.injEq, Json.Value.number.injEq,
                    Json.Number.integer.injEq, false_or, false_iff, not_exists]
                  rintro n' ⟨rfl, positive, -⟩
                  exact notPositive positive
          | double x => simp [intervalProblem?, IsInterval]
      | _ => simp [intervalProblem?, IsInterval]

theorem markerProblem?_eq_none_iff :
    markerProblem? value = none ↔ value ≠ some (.string Vocabulary.binaryAssertion.text) := by
  unfold markerProblem?
  split
  · next text => simp
  · next noString =>
      simp only [true_iff]
      rintro rfl
      exact noString _ rfl

/-- A condition is met exactly if there is no problem. -/
theorem problem?_eq_none_iff {condition : Condition} :
    condition.problem? value = none ↔ condition.Met value := by
  cases condition with
  | valid key =>
      cases key with
      | interval => exact intervalProblem?_eq_none_iff
      | _ => exact iriProblem?_eq_none_iff
  | domainType => exact markerProblem?_eq_none_iff

instance decidableMet (condition : Condition) (value : Option Json.Value) :
    Decidable (condition.Met value) :=
  decidable_of_iff _ problem?_eq_none_iff

/-- The problem of a condition is about this condition. -/
theorem ofProblem?_of_problem? {condition : Condition} {problem : Problem}
    (found : condition.problem? value = some problem) : ofProblem? problem = some condition := by
  have ofIri (key : Key) (found : iriProblem? key value = some problem) :
      ofProblem? problem = some (.valid key) := by
    unfold iriProblem? at found
    split at found
    · cases found
      rfl
    · cases found
      rfl
    · obtain ⟨fault, -, rfl⟩ := Option.map_eq_some_iff.mp found
      rfl
    · cases found
      rfl
  cases condition with
  | valid key =>
      cases key with
      | interval =>
          simp only [problem?, intervalProblem?] at found
          split at found
          · cases found
          · cases found
          · split at found
            · cases found
            · cases found
              rfl
          · cases found
            rfl
          · cases found
            rfl
      | _ => exact ofIri _ found
  | domainType =>
      simp only [problem?, markerProblem?] at found
      split at found
      · split at found
        · cases found
          rfl
        · cases found
      · cases found

end Condition

/-! ## All problems -/

section Members

variable (members : List (String × Json.Value))

/-- The conditions that the members of an object do not meet. -/
def violated : List Condition :=
  Condition.all.filter fun condition => ¬condition.Met (condition.valueIn members)

/-- Their problems. -/
def problemsIn : List Problem :=
  Condition.all.filterMap fun condition => condition.problem? (condition.valueIn members)

/-- Every condition that is not met has one problem, and nothing else has. -/
theorem ofProblem?_problemsIn :
    (problemsIn members).map Condition.ofProblem? = (violated members).map some := by
  unfold problemsIn violated
  induction Condition.all with
  | nil => rfl
  | cons condition conditions ih =>
      cases found : condition.problem? (condition.valueIn members) with
      | none =>
          have met := Condition.problem?_eq_none_iff.mp found
          simpa [List.filterMap_cons, List.filter_cons, found, met] using ih
      | some problem =>
          have notMet : ¬condition.Met (condition.valueIn members) := by
            rw [← Condition.problem?_eq_none_iff, found]
            exact Option.some_ne_none problem
          simpa [List.filterMap_cons, List.filter_cons, found, notMet,
            Condition.ofProblem?_of_problem? found] using ih

theorem problemsIn_eq_nil_iff :
    problemsIn members = [] ↔
      ∀ condition : Condition, condition.Met (condition.valueIn members) := by
  unfold problemsIn
  rw [List.filterMap_eq_nil_iff]
  constructor
  · intro none? condition
    exact Condition.problem?_eq_none_iff.mp (none? condition (Condition.mem_all condition))
  · intro met condition _
    exact Condition.problem?_eq_none_iff.mpr (met condition)

theorem problemsOf_iriAt (key : Key) :
    problemsOf (iriAt key members) =
      (Condition.iriProblem? key (Json.member? key.name members)).toList := by
  unfold iriAt
  generalize Json.member? key.name members = value
  cases value with
  | none => rfl
  | some value =>
      cases value with
      | string text =>
          simp only [Condition.iriProblem?]
          cases found : Iri.fault? text with
          | none => rw [Iri.parse_of_faultless found]; rfl
          | some fault => rw [Iri.parse_of_fault found]; rfl
      | _ => rfl

theorem problemsOf_secondsAt :
    problemsOf (secondsAt members) =
      (Condition.intervalProblem? (Json.member? Key.interval.name members)).toList := by
  unfold secondsAt
  generalize Json.member? Key.interval.name members = value
  cases value with
  | none => rfl
  | some value =>
      cases value with
      | number n =>
          cases n with
          | integer n =>
              by_cases positive : 0 < n.val <;>
                simp [Condition.intervalProblem?, positive, problemsOf]
          | double x => rfl
      | _ => rfl

theorem markerProblems_iriAt :
    markerProblems (iriAt .assertionType members) =
      (Condition.markerProblem? (Json.member? Key.assertionType.name members)).toList := by
  unfold iriAt
  generalize Json.member? Key.assertionType.name members = value
  cases value with
  | none => rfl
  | some value =>
      cases value with
      | string text =>
          simp only [Condition.markerProblem?]
          cases found : Iri.fault? text with
          | none =>
              rw [Iri.parse_of_faultless found]
              simp only [Except.mapError, markerProblems, ← Iri.text_inj]
              split <;> rfl
          | some fault =>
              have other : text ≠ Vocabulary.binaryAssertion.text := by
                rintro rfl
                cases Vocabulary.binaryAssertion.faultless.symm.trans found
              simp [Iri.parse_of_fault found, Except.mapError, markerProblems, other]
      | _ => rfl

/-- What is collected are the problems of the conditions. -/
theorem collected_eq_problemsIn :
    problemsOf (iriAt .assertionType members) ++ problemsOf (iriAt .assertionSubject members) ++
      problemsOf (iriAt .assertionObject members) ++ problemsOf (iriAt .hub members) ++
      problemsOf (iriAt .stream members) ++ problemsOf (secondsAt members) ++
      markerProblems (iriAt .assertionType members) = problemsIn members := by
  have filterMap_cons (condition : Condition) (conditions : List Condition) :
      (condition :: conditions).filterMap (fun c => c.problem? (c.valueIn members)) =
        (condition.problem? (condition.valueIn members)).toList ++
          conditions.filterMap fun c => c.problem? (c.valueIn members) := by
    cases found : condition.problem? (condition.valueIn members) <;> simp [found]
  simp only [problemsOf_iriAt, problemsOf_secondsAt, markerProblems_iriAt, problemsIn,
    Condition.all, filterMap_cons, List.filterMap_nil, List.append_assoc, List.append_nil]
  rfl

theorem problemsOf_eq_nil_iff {α : Type} {part : Except Problem α} :
    problemsOf part = [] ↔ ∃ value, part = .ok value := by
  cases part <;> simp [problemsOf]

/-- The members give a configuration if they meet all conditions, and else their problems. -/
theorem ofMembers_eq :
    (problemsIn members = [] ∧ ∃ config, ofMembers members = .ok config) ∨
      (problemsIn members ≠ [] ∧ ofMembers members = .error (problemsIn members)) := by
  have collected := collected_eq_problemsIn members
  by_cases none? : problemsIn members = []
  · refine Or.inl ⟨none?, ?_⟩
    rw [none?] at collected
    have parts := collected
    simp only [List.append_eq_nil_iff, problemsOf_eq_nil_iff] at parts
    obtain ⟨⟨⟨⟨⟨⟨⟨type, isType⟩, subject, isSubject⟩, object, isObject⟩, hub, isHub⟩, stream,
      isStream⟩, seconds, isSeconds⟩, -⟩ := parts
    refine ⟨⟨type, subject, object, hub, stream, 1000 * seconds⟩, ?_⟩
    simp only [ofMembers, collected]
    simp only [isType, isSubject, isObject, isHub, isStream, isSeconds]
  · refine Or.inr ⟨none?, ?_⟩
    simp only [ofMembers, collected]
    split
    · next empty => exact absurd empty none?
    · rfl

end Members

/-! ## What a configuration holds -/

/-- An interval is the one that a value gives, in milliseconds. -/
def IsIntervalOf (value : Option Json.Value) (interval : Nat) : Prop :=
  ((value = none ∨ value = some .null) ∧ interval = 60 * 1000) ∨
    ∃ n : Json.Integer, value = some (.number (.integer n)) ∧ 1 ≤ n.val ∧
      interval = n.val.toNat * 1000

/-- A configuration holds the texts of the members as they are, and their interval. -/
structure Holds (members : List (String × Json.Value)) (config : Config) : Prop where
  assertionType :
    Json.member? "assertionType" members = some (.string config.assertionType.text)
  assertionSubject :
    Json.member? "assertionSubject" members = some (.string config.assertionSubject.text)
  assertionObject :
    Json.member? "assertionObject" members = some (.string config.assertionObject.text)
  hub : Json.member? "hubURI" members = some (.string config.hub.text)
  stream : Json.member? "streamURI" members = some (.string config.stream.text)
  interval : IsIntervalOf (Json.member? "generateEvery" members) config.interval
  domainType : config.assertionType.text ≠ Vocabulary.binaryAssertion.text

variable {members : List (String × Json.Value)} {config : Config}

theorem iriAt_eq_ok_iff {key : Key} {iri : Iri} :
    iriAt key members = .ok iri ↔ Json.member? key.name members = some (.string iri.text) := by
  constructor
  · exact member?_of_iriAt
  · intro is
    simp [iriAt, is, Iri.parse_of_faultless iri.faultless, Except.mapError]

theorem isIntervalOf_iff {interval : Nat} :
    IsIntervalOf (Json.member? Key.interval.name members) interval ↔
      ∃ seconds, secondsAt members = .ok seconds ∧ interval = 1000 * seconds := by
  unfold secondsAt IsIntervalOf
  generalize Json.member? Key.interval.name members = value
  cases value with
  | none => simp [defaultSeconds]
  | some value =>
      cases value with
      | null => simp [defaultSeconds]
      | number n =>
          cases n with
          | integer n =>
              by_cases positive : 0 < n.val
              · simp [positive, Nat.mul_comm]
                omega
              · simp [positive]
                omega
          | double x => simp
      | _ => simp

theorem holds_iff_gives : Holds members config ↔ Gives members config := by
  constructor
  · intro holds
    exact ⟨iriAt_eq_ok_iff.mpr holds.assertionType, iriAt_eq_ok_iff.mpr holds.assertionSubject,
      iriAt_eq_ok_iff.mpr holds.assertionObject, iriAt_eq_ok_iff.mpr holds.hub,
      iriAt_eq_ok_iff.mpr holds.stream, isIntervalOf_iff.mp holds.interval,
      fun same => holds.domainType (Iri.text_inj.mpr same)⟩
  · intro gives
    exact ⟨iriAt_eq_ok_iff.mp gives.assertionType, iriAt_eq_ok_iff.mp gives.assertionSubject,
      iriAt_eq_ok_iff.mp gives.assertionObject, iriAt_eq_ok_iff.mp gives.hub,
      iriAt_eq_ok_iff.mp gives.stream, isIntervalOf_iff.mpr gives.interval,
      fun same => gives.domainType (Iri.text_inj.mp same)⟩

theorem ofMembers_of_gives (gives : Gives members config) : ofMembers members = .ok config := by
  obtain ⟨seconds, isSeconds, interval⟩ := gives.interval
  simp only [ofMembers, gives.assertionType, gives.assertionSubject, gives.assertionObject,
    gives.hub, gives.stream, isSeconds, problemsOf, markerProblems, if_neg gives.domainType,
    List.append_nil]
  rw [← interval]

theorem ofMembers_eq_ok_iff : ofMembers members = .ok config ↔ Holds members config := by
  rw [holds_iff_gives]
  exact ⟨gives_of_ofMembers, ofMembers_of_gives⟩

theorem ofMembers_eq_error_iff {problems : List Problem} :
    ofMembers members = .error problems ↔ problems ≠ [] ∧ problems = problemsIn members := by
  rcases ofMembers_eq members with ⟨none?, config, accepted⟩ | ⟨some?, refused⟩
  · rw [accepted, none?]
    simp
  · rw [refused, Except.error.injEq]
    constructor
    · rintro rfl
      exact ⟨some?, rfl⟩
    · rintro ⟨-, rfl⟩
      rfl

theorem exists_ofMembers_eq_ok_iff :
    (∃ config, ofMembers members = .ok config) ↔
      ∀ condition : Condition, condition.Met (condition.valueIn members) := by
  rw [← problemsIn_eq_nil_iff]
  rcases ofMembers_eq members with ⟨none?, accepted⟩ | ⟨some?, refused⟩
  · exact iff_of_true accepted none?
  · exact iff_of_false (by rw [refused]; simp) some?

/-! ## Texts -/

/-- A text is refused as no JSON, or as a value with problems. -/
theorem parse_eq_error_iff {text : String} {error : Error} :
    parse text = .error error ↔
      (∃ fault, Json.parse text = .error fault ∧ error = .json fault) ∨
        ∃ value problems, Json.parse text = .ok value ∧ ofValue value = .error problems ∧
          error = .configuration problems := by
  unfold parse
  cases read : Json.parse text with
  | error fault => simp [Except.mapError, bind, Except.bind, eq_comm]
  | ok value =>
      cases given : ofValue value <;>
        simp [given, Except.mapError, bind, Except.bind, eq_comm]

/-- No value is refused without a problem. -/
theorem ne_nil_of_ofValue {value : Json.Value} {problems : List Problem}
    (refused : ofValue value = .error problems) : problems ≠ [] := by
  cases value with
  | object members => exact (ofMembers_eq_error_iff.mp refused).1
  | _ =>
      cases refused
      exact List.cons_ne_nil _ _

/-- An object is accepted exactly if its members meet all conditions, and then its texts and
its interval are held as they are. Otherwise its problems are reported, which are those of
the conditions that are not met, one for each and in their order; each is found in the value
of one key. A text is refused as no JSON exactly if it is none, and else only with problems. -/
theorem validation (members : List (String × Json.Value)) (text : String) :
    ((∃ config, ofValue (.object members) = .ok config) ↔
        ∀ condition : Condition, condition.Met (condition.valueIn members)) ∧
      (∀ config, ofValue (.object members) = .ok config ↔ Holds members config) ∧
      (∀ problems, ofValue (.object members) = .error problems ↔
        problems ≠ [] ∧ problems = problemsIn members) ∧
      (problemsIn members).map Condition.ofProblem? = (violated members).map some ∧
      (∀ fault, parse text = .error (.json fault) ↔ Json.parse text = .error fault) ∧
      ∀ error, parse text = .error error ↔
        (∃ fault, Json.parse text = .error fault ∧ error = .json fault) ∨
          ∃ value problems, Json.parse text = .ok value ∧ ofValue value = .error problems ∧
            problems ≠ [] ∧ error = .configuration problems := by
  refine ⟨exists_ofMembers_eq_ok_iff, fun config => ofMembers_eq_ok_iff,
    fun problems => ofMembers_eq_error_iff, ofProblem?_problemsIn members, fun fault => ?_,
    fun error => ?_⟩
  · simp [parse_eq_error_iff]
  · rw [parse_eq_error_iff]
    constructor
    · rintro (noJson | ⟨value, problems, read, refused, is⟩)
      · exact Or.inl noJson
      · exact Or.inr ⟨value, problems, read, refused, ne_nil_of_ofValue refused, is⟩
    · rintro (noJson | ⟨value, problems, read, refused, -, is⟩)
      · exact Or.inl noJson
      · exact Or.inr ⟨value, problems, read, refused, is⟩

end Config

end ContextStream
