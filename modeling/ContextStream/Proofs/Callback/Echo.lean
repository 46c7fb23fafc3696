import ContextStream.Callback.Responder
import ContextStream.Proofs.Json.Records
import ContextStream.Proofs.Json.Writing
import ContextStream.Proofs.Text.Utf8

/-!
# Bodies are given back

An envelope is read back from its text as long as there is room for its data one level
further in. Whatever a body says is therefore given back, up to the deepest values that
a body may hold, which are too deep for the envelope around them.
-/

namespace ContextStream.Callback

open Json Json.Lexer Text

namespace Envelope

/-- The lexemes of an envelope. -/
def lexemes (envelope : Envelope) : List Lexeme :=
  objectOf
    [("status", [.string envelope.status]), ("message", [.string envelope.message]),
      ("data", envelope.data.lexemes)]

variable {envelope : Envelope}

theorem cuts_json (exact : envelope.data.IsExact) : Cuts envelope.json.toList envelope.lexemes := by
  rw [json, String.toList_ofList]
  exact cuts_writeMembers <|
    .cons (cuts_quote envelope.status).inFront <|
      .cons (cuts_quote envelope.message).inFront (.cons (cuts_compact exact) .nil)

/-- An envelope is read back if there is room for its data. -/
theorem parse_json (exact : envelope.data.IsExact) (ordered : envelope.data.IsOrdered)
    (fits : envelope.data.depth < maxDepth) : parse envelope.json = .ok envelope := by
  have status := (reads_string envelope.status).map
    fun status => ({ record.blank with status := some status } : Draft)
  have message := (reads_string envelope.message).map
    fun message => (⟨some envelope.status, some message, none⟩ : Draft)
  have data := (reads_value (spells_lexemes ordered) (Nat.le_of_lt_succ fits)).map
    fun data => (⟨some envelope.status, some envelope.message, some data⟩ : Draft)
  exact Record.parse_of_cuts (cuts_json exact) <| Record.reads_objectOf
    (.member rfl rfl status (.member rfl rfl message (.member rfl rfl data (.done _)))) rfl

/-- An envelope without room for its data is refused. -/
theorem tooDeep_of_json (exact : envelope.data.IsExact) (ordered : envelope.data.IsOrdered)
    (deep : maxDepth ≤ envelope.data.depth) :
    ∃ place, parse envelope.json = .error ⟨.tooDeep, place⟩ := by
  have status := (reads_string envelope.status).map
    fun status => ({ record.blank with status := some status } : Draft)
  have message := (reads_string envelope.message).map
    fun message => (⟨some envelope.status, some message, none⟩ : Draft)
  have data := (refuses_value (spells_lexemes ordered) deep).map
    fun data => (⟨some envelope.status, some envelope.message, some data⟩ : Draft)
  exact Record.parse_of_refuses (cuts_json exact) <| Record.refuses_objectOf
    (.later rfl rfl status (.later rfl rfl message (.here rfl rfl data)))

end Envelope

/-! ## Answers -/

/-- The text of the answer to a request of the method `POST`. -/
def answer (target : String) (body : List UInt8) : String :=
  (respond ⟨"POST", target, body⟩).1.body

variable {body : List UInt8}

/-- A body that is not too long is answered with its acknowledgement. -/
theorem answer_of_short (short : body.length ≤ maxBody) (target : String) :
    answer target body = (acknowledge body).json := by
  simp [answer, respond, Nat.not_lt.mpr short]

/-- What a body says is a value with its members in order, and with a bounded depth. -/
theorem fits_of_readBody {value : Value} (read : readBody body = some value) :
    value.Fits maxDepth := by
  obtain ⟨chars, -, found⟩ := Option.bind_eq_some_iff.mp read
  cases parsed : Json.parse (String.ofList chars) with
  | error fault => simp [parsed, Except.toOption] at found
  | ok parsedValue =>
      simp only [parsed, Except.toOption, Option.some.injEq] at found
      exact found ▸ fits_of_parse parsed

theorem readBody_encode (text : List Char) :
    readBody (Utf8.encode text) = (Json.parse (String.ofList text)).toOption := by
  rw [readBody, Utf8.decode?_encode, Option.bind_some]

/-- The acknowledgement of a value shows the text of the value. -/
theorem json_success (data : Value) :
    (Envelope.success "Data received" data).json =
      "\x7b\"status\":\"success\",\"message\":\"Data received\",\"data\":" ++
        String.ofList data.compact ++ "\x7d" := by
  rw [← String.toList_inj]
  simp [Envelope.json, Envelope.success, writeMembers, joinWith]
  rfl

/-- Whatever a body says is given back. A value without floating point numbers is shown, and
is read back from the answer unless it is as deep as a body may be: one level further in it
is too deep. Of any other body the characters are given back, all of them if it is a text. -/
theorem echo_of_short (short : body.length ≤ maxBody) (target : String) :
    (∀ value, readBody body = some value → value.IsExact →
      answer target body =
          "\x7b\"status\":\"success\",\"message\":\"Data received\",\"data\":" ++
            String.ofList value.compact ++ "\x7d" ∧
        value.depth ≤ 127 ∧
        (value.depth ≤ 126 →
          Envelope.parse (answer target body) = .ok ⟨"success", "Data received", value⟩) ∧
        ((∃ place, Envelope.parse (answer target body) = .error ⟨.tooDeep, place⟩) ↔
          value.depth = 127)) ∧
    (readBody body = none →
      Envelope.parse (answer target body) =
        .ok ⟨"success", "Raw data received", .string (String.ofList (Utf8.decodeLossy body))⟩) ∧
    ∀ text, body = Utf8.encode text → Utf8.decodeLossy body = text := by
  refine ⟨?_, ?_, ?_⟩
  · intro value read exact
    obtain ⟨ordered, deep⟩ := fits_of_readBody read
    have acknowledged : answer target body = (Envelope.success "Data received" value).json := by
      rw [answer_of_short short, acknowledge, read]
    have kept (small : value.depth ≤ 126) :
        Envelope.parse (answer target body) = .ok ⟨"success", "Data received", value⟩ := by
      rw [acknowledged]
      exact Envelope.parse_json exact ordered (Nat.lt_succ_of_le small)
    refine ⟨acknowledged.trans (json_success value), deep, kept, ?_, ?_⟩
    · rintro ⟨place, refused⟩
      by_contra other
      have small : value.depth ≤ 126 := Nat.le_of_lt_succ (Nat.lt_of_le_of_ne deep other)
      rw [kept small] at refused
      cases refused
    · intro deepest
      rw [acknowledged]
      exact Envelope.tooDeep_of_json exact ordered (Nat.le_of_eq deepest.symm)
  · intro noValue
    have acknowledged : answer target body = (Envelope.success "Raw data received"
        (.string (String.ofList (Utf8.decodeLossy body)))).json := by
      rw [answer_of_short short, acknowledge, noValue]
    rw [acknowledged]
    exact Envelope.parse_json nofun nofun (by simp [Envelope.success, Value.depth, maxDepth])
  · rintro text rfl
    exact Utf8.decodeLossy_encode text

/-- So many lists inside each other. -/
def nestedLists : Nat → Value
  | 0 => .list []
  | levels + 1 => .list [nestedLists levels]

theorem isExact_nestedLists (levels : Nat) : (nestedLists levels).IsExact := by
  induction levels with
  | zero => exact Value.isExact_list_iff.mpr nofun
  | succ levels ih => exact Value.isExact_list_iff.mpr (List.forall_mem_singleton.mpr ih)

theorem depth_nestedLists (levels : Nat) : (nestedLists levels).depth = levels + 1 := by
  induction levels with
  | zero => rfl
  | succ levels ih => rw [nestedLists, Value.depth, Value.depthOfItems, ih, Value.depthOfItems,
      Nat.max_zero]

theorem isOrdered_nestedLists (levels : Nat) : (nestedLists levels).IsOrdered := by
  induction levels with
  | zero => exact Value.isOrdered_list_iff.mpr nofun
  | succ levels ih => exact Value.isOrdered_list_iff.mpr (List.forall_mem_singleton.mpr ih)

theorem readBody_nestedLists {levels : Nat} (fits : levels < 127) :
    readBody (Utf8.encode (nestedLists levels).compact) = some (nestedLists levels) := by
  have cuts : Cuts (nestedLists levels).compact (nestedLists levels).lexemes := by
    cases levels with
    | zero => exact cuts_listOf .nil
    | succ levels => exact cuts_listOf (.cons (cuts_compact (isExact_nestedLists levels)) .nil)
  have read : Json.parse (String.ofList (nestedLists levels).compact) = .ok (nestedLists levels) :=
    parse_of_cuts (by rwa [String.toList_ofList]) (spells_lexemes (isOrdered_nestedLists levels))
      (by rwa [depth_nestedLists])
  rw [readBody_encode, read]
  rfl

/-- Lists are given back up to the deepest ones, which are not, and a body with a stray byte
is given back with a character in its place. -/
theorem echo_of_nestedLists :
    Envelope.parse (answer "/lists" (Utf8.encode (nestedLists 125).compact)) =
        .ok ⟨"success", "Data received", nestedLists 125⟩ ∧
      (∃ place, Envelope.parse (answer "/lists" (Utf8.encode (nestedLists 126).compact)) =
        .error ⟨.tooDeep, place⟩) ∧
      Envelope.parse (answer "/bytes" [0x5b, 0xff]) =
        .ok ⟨"success", "Raw data received", .string "[\uFFFD"⟩ := by
  have lists := (echo_of_short (by decide +kernel) "/lists").1 _
    (readBody_nestedLists (by decide : 125 < 127)) (isExact_nestedLists 125)
  have deepest := (echo_of_short (by decide +kernel) "/lists").1 _
    (readBody_nestedLists (by decide : 126 < 127)) (isExact_nestedLists 126)
  have short : ([0x5b, 0xff] : List UInt8).length ≤ maxBody := by decide
  have bytes := (echo_of_short short "/bytes").2.1 (by decide +kernel)
  have replaced : Utf8.decodeLossy [0x5b, 0xff] = ['[', '\uFFFD'] := by decide +kernel
  rw [replaced] at bytes
  exact ⟨lists.2.2.1 (Nat.le_of_eq (depth_nestedLists 125)),
    deepest.2.2.2.mpr (depth_nestedLists 126), bytes⟩

end ContextStream.Callback
