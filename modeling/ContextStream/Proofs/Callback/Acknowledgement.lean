import ContextStream.Callback.Responder
import ContextStream.Proofs.Json.Grammar

/-!
# Which requests are acknowledged

An acknowledgement is known by its text: an object that tells success, with a message and
with some value as its data. A request of the method `POST` is acknowledged whatever its path
and its bytes, but only up to a certain length.
-/

namespace ContextStream.Callback

open scoped Computability
open Json Json.Grammar

/-- A member with a certain key, which is given with its quotation marks. -/
def field (key : String) (rule : Language Char) : Language Char :=
  word key * (symbol ':' * rule)

/-- The texts of acknowledgements. -/
def acknowledgement : Language Char :=
  symbol '\x7b' * (field "\"status\"" (word "\"success\"") *
    (symbol ',' * (field "\"message\"" string *
      (symbol ',' * (field "\"data\"" value * symbol '\x7d')))))

/-- An answer acknowledges a request. -/
structure Acknowledges (response : Response) : Prop where
  status : response.status = 200
  contentType : response.contentType = some "application/json"
  body : response.body.toList ∈ acknowledgement

theorem append_mem_field (key : String) {rule : Language Char} {text : List Char}
    (is : text ∈ rule) : key.toList ++ ':' :: text ∈ field key rule :=
  Language.append_mem_mul (mem_word key) (cons_mem_symbol_mul is)

/-- Every envelope that tells success is an acknowledgement, whatever its data are. -/
theorem json_success_mem (message : String) (data : Value) :
    (Envelope.success message data).json.toList ∈ acknowledgement := by
  have status := append_mem_field "\"status\"" (mem_word "\"success\"")
  have message' := append_mem_field "\"message\"" (quote_mem_string message)
  have data' := append_mem_field "\"data\"" data.compact_mem_value
  have whole := cons_mem_symbol_mul (c := '\x7b') <| Language.append_mem_mul status <|
    cons_mem_symbol_mul (c := ',') <| Language.append_mem_mul message' <|
      cons_mem_symbol_mul (c := ',') <| Language.append_mem_mul data' (mem_symbol '\x7d')
  have written : (Envelope.success message data).json.toList =
      '\x7b' :: ("\"status\"".toList ++ ':' :: "\"success\"".toList ++ ',' ::
        ("\"message\"".toList ++ ':' :: quote message ++ ',' ::
          ("\"data\"".toList ++ ':' :: data.compact ++ ['\x7d']))) := by
    simp [Envelope.json, Envelope.success, writeMembers, Text.joinWith]
    rfl
  exact written ▸ whole

/-- A request is acknowledged exactly when its body is not longer than a body may be. -/
theorem acknowledges_iff (target : String) (body : List UInt8) :
    Acknowledges (respond ⟨"POST", target, body⟩).1 ↔ body.length ≤ maxBody := by
  constructor
  · intro acknowledged
    by_contra long
    have refused := acknowledged.status
    rw [respond, if_pos (Nat.not_le.mp long)] at refused
    exact absurd refused (by decide)
  · intro short
    rw [respond, if_neg (Nat.not_lt.mpr short), if_pos rfl]
    refine ⟨rfl, rfl, ?_⟩
    unfold acknowledge
    split <;> exact json_success_mem _ _

/-- A body of one byte more is refused. -/
theorem not_acknowledges_of_long :
    ¬Acknowledges (respond ⟨"POST", "/", List.replicate 2097153 97⟩).1 := by
  intro acknowledged
  have refused := acknowledged.status
  rw [respond, if_pos (by rw [List.length_replicate]; decide)] at refused
  exact absurd refused (by decide)

end ContextStream.Callback
