import ContextStream.Application
import ContextStream.Proofs.Config.Validation
import ContextStream.Proofs.Json.Causes
import ContextStream.Proofs.Text.Clean
import ContextStream.Proofs.Text.Utf8

/-!
# Messages about a configuration

What is said about a configuration that is refused names keys, kinds of values, numbers and
places, and quotes texts and characters. So it has no control character, whatever the values
of the configuration hold, and it is one line of the log.
-/

namespace ContextStream

open Text

/-! ## Numbers -/

namespace Decimal

variable {digits : List Char}

theorem Layout.isClean_plain (layout : Layout) (clean : IsClean digits) (exponent : Int) :
    IsClean (layout.plain digits exponent) := by
  unfold Layout.plain
  dsimp only
  split_ifs
  · exact ((by decide : IsClean ['0', '.']).append (isClean_replicate rfl _)).append clean
  · exact (clean.append (isClean_replicate rfl _)).append (by decide)
  · exact (clean.append (isClean_replicate rfl _)).append (by decide)
  · exact (clean.of_subset (List.take_subset _ _)).append
      (.cons rfl (clean.of_subset (List.drop_subset _ _)))

theorem isClean_scientific (clean : IsClean digits) (exponent : Int) :
    IsClean (scientific digits exponent) := by
  have first : IsClean (digits.take 1) := clean.of_subset (List.take_subset _ _)
  have fraction : IsClean (if digits.length ≤ 1 then [] else '.' :: digits.drop 1) := by
    split_ifs
    · nofun
    · exact .cons rfl (clean.of_subset (List.drop_subset _ _))
  have mark : IsClean ['e', if exponent < 0 then '-' else '+'] := by
    split_ifs <;> decide
  exact ((first.append fraction).append mark).append
    (isClean_toDigits (by decide) (by decide) exponent.natAbs)

theorem Layout.isClean_decimal (layout : Layout) (x : Scaled) : IsClean (layout.decimal x) := by
  have digits : IsClean (Nat.toDigits 10 x.digits) :=
    isClean_toDigits (by decide) (by decide) x.digits
  unfold Layout.decimal
  dsimp only
  split_ifs
  · exact layout.isClean_plain digits _
  · exact isClean_scientific digits _

theorem Layout.isClean_float (layout : Layout) (x : Float) : IsClean (layout.float x).toList := by
  unfold Layout.float
  dsimp only
  rw [String.toList_ofList]
  refine .append ?_ ?_
  · split_ifs <;> decide
  · split_ifs
    · exact layout.isClean_plain (by decide) 0
    · exact layout.isClean_decimal _

end Decimal

namespace Json

theorem Number.isClean_text (n : Number) : IsClean n.text.toList := by
  cases n with
  | integer n => exact isClean_toString_int n.val
  | double x => exact layout.isClean_float x

/-- A rule of the grammar is named by a fixed text. -/
theorem Cause.isClean_message {cause : Cause} (grammar : cause.isGrammar = true) :
    IsClean cause.message.toList := by
  cases cause <;> first | decide | cases grammar

/-- The message about a text that is no value holds nothing of the text. -/
theorem ReadError.isClean_message {error : ReadError} (grammar : error.cause.isGrammar = true) :
    IsClean error.message.toList :=
  ((((Cause.isClean_message grammar).toList_append (by decide)).toList_append
    (isClean_toString_nat error.place.line)).toList_append (by decide)).toList_append
    (isClean_toString_nat error.place.column)

end Json

/-! ## Texts that are no IRIs -/

theorem Url.ParseError.isClean_message (error : ParseError) : IsClean error.message.toList := by
  cases error <;> decide

theorem Iri.Fault.isClean_message (fault : Fault) : IsClean fault.message.toList := by
  cases fault with
  | empty => decide
  | illegalCharacter c =>
      exact (by decide : IsClean "illegal character ".toList).toList_append (Quoted.isClean_char c)
  | noUrl error => exact error.isClean_message

theorem InvalidIri.isClean_message (invalid : InvalidIri) : IsClean invalid.message.toList :=
  (((by decide : IsClean "invalid uri ".toList).toList_append
    (Quoted.isClean_text invalid.value)).toList_append (by decide)).toList_append
    invalid.fault.isClean_message

/-! ## Problems -/

namespace Config

theorem Key.isClean_marked (key : Key) : IsClean key.marked.toList := by
  cases key <;> decide

theorem isClean_kindOf (value : Json.Value) : IsClean (kindOf value).toList := by
  cases value <;> (rw [kindOf]; decide)

/-- What a problem says about the value that was found is clean. -/
def Problem.FindsClean : Problem → Prop
  | .notString _ found | .notInterval found => IsClean found.toList
  | _ => True

theorem Problem.isClean_message {problem : Problem} (finds : problem.FindsClean) :
    IsClean problem.message.toList := by
  cases problem with
  | notObject => decide
  | markerType => decide +kernel
  | missing key =>
      exact (by decide : IsClean "missing required key ".toList).toList_append key.isClean_marked
  | notIri key invalid =>
      exact (key.isClean_marked.toList_append (by decide)).toList_append invalid.isClean_message
  | notString key found =>
      exact (key.isClean_marked.toList_append (by decide)).toList_append finds
  | notInterval found =>
      exact ((Key.isClean_marked _).toList_append (by decide)).toList_append finds

namespace Condition

variable {value : Option Json.Value} {problem : Problem}

theorem findsClean_of_iriProblem? {key : Key} (found : iriProblem? key value = some problem) :
    problem.FindsClean := by
  unfold iriProblem? at found
  split at found
  · cases found
    trivial
  · cases found
    trivial
  · obtain ⟨fault, -, rfl⟩ := Option.map_eq_some_iff.mp found
    trivial
  · cases found
    exact isClean_kindOf _

theorem findsClean_of_intervalProblem? (found : intervalProblem? value = some problem) :
    problem.FindsClean := by
  unfold intervalProblem? at found
  split at found
  · cases found
  · cases found
  · split at found
    · cases found
    · cases found
      exact isClean_toString_int _
  · cases found
    exact Json.Number.isClean_text _
  · cases found
    exact isClean_kindOf _

theorem findsClean_of_markerProblem? (found : markerProblem? value = some problem) :
    problem.FindsClean := by
  unfold markerProblem? at found
  split at found
  · split at found <;> cases found
    trivial
  · cases found

/-- The problem of a condition tells a kind of value or a number, or quotes a text. -/
theorem findsClean_of_problem? {condition : Condition}
    (found : condition.problem? value = some problem) : problem.FindsClean := by
  cases condition with
  | valid key =>
      cases key with
      | interval => exact findsClean_of_intervalProblem? found
      | _ => exact findsClean_of_iriProblem? found
  | domainType => exact findsClean_of_markerProblem? found

end Condition

theorem findsClean_of_ofValue {value : Json.Value} {problems : List Problem}
    (refused : ofValue value = .error problems) : ∀ problem ∈ problems, problem.FindsClean := by
  cases value with
  | object members =>
      obtain ⟨-, rfl⟩ := ofMembers_eq_error_iff.mp refused
      intro problem problemMem
      obtain ⟨condition, -, found⟩ := List.mem_filterMap.mp problemMem
      exact Condition.findsClean_of_problem? found
  | _ =>
      cases refused
      exact List.forall_mem_singleton.mpr trivial

theorem isClean_message_of_parse {text : String} {error : Error}
    (refused : parse text = .error error) : IsClean error.message.toList := by
  rcases parse_eq_error_iff.mp refused with
    ⟨fault, noJson, rfl⟩ | ⟨value, problems, -, unfit, rfl⟩
  · exact (by decide : IsClean "json error: ".toList).toList_append
      (Json.ReadError.isClean_message (Json.isGrammar_of_parse noJson))
  · have finds := findsClean_of_ofValue unfit
    refine (by decide : IsClean "configuration error: ".toList).toList_append ?_
    rw [String.toList_intercalate]
    refine isClean_intercalate (by decide) fun piece pieceMem => ?_
    simp only [List.map_map, List.mem_map] at pieceMem
    obtain ⟨problem, problemMem, rfl⟩ := pieceMem
    exact Problem.isClean_message (finds problem problemMem)

/-! ## Lines of the log -/

/-- A file whose text is refused is not loaded. -/
theorem load_of_refused {text : String} {error : Error} (refused : parse text = .error error)
    (path : String) : load path (.content (Utf8.encode text.toList)) = (.error error, []) := by
  have read : (File.content (Utf8.encode text.toList)).read = .ok text := by
    simp [File.read, Utf8.decode?_encode]
  simp [load, ofFile, read, refused, Except.mapError, bind, Except.bind]

/-- The line that tells why a configuration was not loaded. -/
def complaint (error : Error) : String :=
  "ERROR ctxgen::app: " ++ ("Failed to load configuration: " ++ error.message)

theorem isKept_entry (message : String) :
    Log.isKept (Application.entry .error message) = true := by
  have source : (Log.keptParts.any fun part => part.toList.isPrefixOf "ctxgen::app".toList) =
      true := by
    decide
  rw [Log.isKept, Bool.and_eq_true]
  exact ⟨rfl, source⟩

theorem text_entry (message : String) :
    Log.Line.text ⟨none, Application.entry .error message⟩ = "ERROR ctxgen::app: " ++ message :=
  have front : Log.Level.error.column ++ " " ++ "" ++ "ctxgen::app" ++ ": " =
      "ERROR ctxgen::app: " := by
    decide
  congrArg (· ++ message) front

theorem fileLines_entry (message : String) :
    Log.fileLines [⟨none, Application.entry .error message⟩] =
      ["ERROR ctxgen::app: " ++ message] := by
  simp only [Log.fileLines, List.filter_cons, isKept_entry, if_true, List.filter_nil,
    List.map_cons, List.map_nil, text_entry]

/-- The message about a text that is refused has no control character, and neither has the line
that a file with this text leaves in the log. It is the only line. -/
theorem clean_of_refused {text : String} {error : Error} (refused : parse text = .error error) :
    IsClean error.message.toList ∧ IsClean (complaint error).toList ∧
      ∀ path, ∃ lines,
        Application.load path (.content (Utf8.encode text.toList)) =
            (.error (.loading path error), lines) ∧
          Log.fileLines lines = [complaint error] := by
  have clean := isClean_message_of_parse refused
  have front : IsClean "Failed to load configuration: ".toList := by decide
  refine ⟨clean, IsClean.toList_append (by decide) (front.toList_append clean), fun path =>
    ⟨_, ?_, fileLines_entry _⟩⟩
  rw [Application.load, load_of_refused refused]
  rfl

/-- A configuration whose texts try to begin a line of the log, and to color it. -/
def forged : String :=
  "\x7b\"assertionType\": \"\\nERROR\", \"assertionSubject\": [\"\\r\"], " ++
    "\"hubURI\": \"\\u001b[31m\", \"streamURI\": \"\\u0085\", \"generateEvery\": \"\\n\"\x7d"

/-- A text is refused if a message about it can be taken out. -/
theorem exists_refusal {text message : String}
    (wording : (match parse text with | .error error => some error.message | .ok _ => none) =
      some message) : ∃ error, parse text = .error error ∧ error.message = message := by
  cases found : parse text with
  | error error =>
      rw [found] at wording
      exact ⟨error, rfl, Option.some.inj wording⟩
  | ok config =>
      rw [found] at wording
      cases wording

/-- What they try stands in the message in quotation marks, with escapes. -/
theorem clean_of_forged :
    ∃ error, parse forged = .error error ∧
      error.message =
        "configuration error: `assertionType`: invalid uri \"\\nERROR\": " ++
          "illegal character '\\n'; `assertionSubject` must be a string, got an array; " ++
          "missing required key `assertionObject`; `hubURI`: invalid uri " ++
          "\"\\u\x7b1b\x7d[31m\": illegal character '\\u\x7b1b\x7d'; `streamURI`: invalid uri " ++
          "\"\\u\x7b85\x7d\": illegal character '\\u\x7b85\x7d'; " ++
          "`generateEvery` must be a positive integer, got a string" ∧
      IsClean error.message.toList := by
  refine (exists_refusal ?wording).imp fun error found =>
    ⟨found.1, found.2, (clean_of_refused found.1).1⟩
  decide +kernel

end Config

end ContextStream
