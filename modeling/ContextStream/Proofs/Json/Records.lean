import ContextStream.Json.Record
import ContextStream.Proofs.Json.Reading
import ContextStream.Proofs.Json.Values

/-!
# Reading records from their members

A reader that takes exactly some lexemes gives the same value whatever follows. The
members of an object fill a draft one after the other, and a draft without missing
fields is the record.
-/

namespace ContextStream.Json

/-- A reader takes lexemes and gives a value, whatever follows. -/
def Reads {α : Type} (reader : Reader α) (lexemes : List Lexeme) (value : α) : Prop :=
  ∀ (size : Nat) (rest : List Token) {tokens : List Token},
    tokens.map (·.lexeme) = lexemes → reader size (tokens ++ rest) = .ok (value, rest)

/-! ## Fields -/

theorem reads_string (s : String) : Reads readString [.string s] s := by
  intro size rest tokens means
  obtain ⟨token, rfl, is⟩ := List.map_eq_singleton_iff.mp means
  simp [readString, is]

theorem reads_int64 (n : Int64) : Reads readInt64 [.number (Number.ofInt64 n)] n := by
  intro size rest tokens means
  obtain ⟨token, rfl, is⟩ := List.map_eq_singleton_iff.mp means
  have fits : n.toInt < 9223372036854775808 := by
    have := n.toInt_lt
    omega
  simp [readInt64, is, Number.ofInt64, Integer.toInt64?, fits]

/-- What is read can be put to use. -/
theorem Reads.map {α β : Type} {reader : Reader α} {lexemes : List Lexeme} {value : α}
    (reads : Reads reader lexemes value) (use : α → β) :
    Reads (fun size tokens => do
      let (a, rest) ← reader size tokens
      return (use a, rest)) lexemes (use value) := by
  intro size rest tokens means
  simp [reads size rest means, bind, Except.bind, pure, Except.pure]

theorem reads_value {depth room : Nat} {lexemes : List Lexeme} {value : Value}
    (spelled : Spells depth lexemes value) (fits : depth ≤ room) :
    Reads (readValue room) lexemes value :=
  fun size rest _ means => spelled .whole size rest means (by simpa [Context.depth] using fits)

/-- A reader refuses lexemes for a cause, whatever follows. -/
def Refuses {α : Type} (reader : Reader α) (lexemes : List Lexeme) (cause : Cause) : Prop :=
  ∀ (size : Nat) (rest : List Token) {tokens : List Token},
    tokens.map (·.lexeme) = lexemes →
      ∃ offset, reader size (tokens ++ rest) = .error ⟨cause, offset⟩

theorem Refuses.map {α β : Type} {reader : Reader α} {lexemes : List Lexeme} {cause : Cause}
    (refuses : Refuses reader lexemes cause) (use : α → β) :
    Refuses (fun size tokens => do
      let (a, rest) ← reader size tokens
      return (use a, rest)) lexemes cause := by
  intro size rest tokens means
  obtain ⟨offset, refused⟩ := refuses size rest means
  exact ⟨offset, by simp [refused, bind, Except.bind]⟩

/-- A value is refused where there is less room than it takes. -/
theorem refuses_value {depth room : Nat} {lexemes : List Lexeme} {value : Value}
    (spelled : Spells depth lexemes value) (deep : room < value.depth) :
    Refuses (readValue room) lexemes .tooDeep := by
  intro size rest tokens means
  have read := reads_value spelled (Nat.le_max_left depth room) size rest means
  exact tooDeep_of_readValue read (Nat.le_max_right depth room) deep

/-! ## Members -/

namespace Record

variable {σ α : Type} {record : Record σ α} {room : Nat}

/-- Members fill a draft: each of them belongs to a field that is not set, or to none. -/
inductive Fills (record : Record σ α) (room : Nat) :
    σ → List (String × List Lexeme) → σ → Prop
  | done (draft : σ) : Fills record room draft [] draft
  | member {key : String} {lexemes : List Lexeme} {lexed : List (String × List Lexeme)}
      {field : Field σ} {draft next final : σ}
      (found : record.fields.find? (·.name = key) = some field)
      (open? : field.isSet draft = false) (reads : Reads (field.read room draft) lexemes next)
      (others : Fills record room next lexed final) :
      Fills record room draft ((key, lexemes) :: lexed) final
  | other {key : String} {lexemes : List Lexeme} {lexed : List (String × List Lexeme)}
      {draft final : σ} (foreign : record.fields.find? (·.name = key) = none)
      (passes : Reads passValue lexemes ()) (others : Fills record room draft lexed final) :
      Fills record room draft ((key, lexemes) :: lexed) final

theorem colon_cons {token : Token} (is : token.lexeme = .symbol .colon) (size : Nat)
    (rest : List Token) : colon size (token :: rest) = .ok ((), rest) := by
  simp [colon, is]

/-- The value of a key fills its field. -/
theorem reads_readMember_of_field {key : String} {lexemes : List Lexeme} {field : Field σ}
    {draft next : σ} (found : record.fields.find? (·.name = key) = some field)
    (open? : field.isSet draft = false) (reads : Reads (field.read room draft) lexemes next) :
    Reads (record.readMember room draft key) (.symbol .colon :: lexemes) next := by
  intro size rest tokens means
  obtain ⟨token, inside, rfl, isColon, means⟩ := List.map_eq_cons_iff.mp means
  simp [readMember, found, open?, colon_cons isColon, reads size rest means, bind, Except.bind]

/-- The value of a key that belongs to no field is passed over. -/
theorem reads_readMember_of_other {key : String} {lexemes : List Lexeme} {draft : σ}
    (foreign : record.fields.find? (·.name = key) = none) (passes : Reads passValue lexemes ()) :
    Reads (record.readMember room draft key) (.symbol .colon :: lexemes) draft := by
  intro size rest tokens means
  obtain ⟨token, inside, rfl, isColon, means⟩ := List.map_eq_cons_iff.mp means
  simp [readMember, foreign, colon_cons isColon, passes size rest means, bind, Except.bind, pure,
    Except.pure]

/-- A member whose key has been read fills its field. -/
theorem readMembers_member {key : String} {lexemes : List Lexeme} {draft next : σ}
    (reads : Reads (record.readMember room draft key) (.symbol .colon :: lexemes) next)
    {size : Nat} {first : Bool} {tokens behindKey rest : List Token}
    (keyed : nextKey first size tokens = .ok (some key, behindKey ++ rest))
    (means : behindKey.map (·.lexeme) = .symbol .colon :: lexemes) (rounds : Nat) :
    record.readMembers room size (rounds + 1) first draft tokens =
      record.readMembers room size rounds false next rest := by
  have filled := reads size rest means
  simp [readMembers, keyed, filled, bind, Except.bind]

/-- The first member is read, and the others fill the draft that it leaves. -/
theorem Fills.exists_next {key : String} {lexemes : List Lexeme}
    {lexed : List (String × List Lexeme)} {draft final : σ}
    (fills : Fills record room draft ((key, lexemes) :: lexed) final) :
    ∃ next, Reads (record.readMember room draft key) (.symbol .colon :: lexemes) next ∧
      Fills record room next lexed final := by
  cases fills with
  | member found open? reads others =>
      exact ⟨_, reads_readMember_of_field found open? reads, others⟩
  | other foreign passes others => exact ⟨_, reads_readMember_of_other foreign passes, others⟩

/-- Reading ends in front of the end of an object. -/
theorem readMembers_close {size rounds : Nat} {first : Bool} {draft : σ} {closing : Token}
    {rest : List Token} (is : closing.lexeme = .symbol .objectClose) :
    record.readMembers room size rounds first draft (closing :: rest) =
      .ok (draft, closing :: rest) := by
  cases rounds <;> simp [readMembers, nextKey, is, bind, Except.bind, pure, Except.pure]

theorem length_lt_moreMembers (lexed : List (String × List Lexeme)) :
    lexed.length < (moreMembers lexed).length := by
  induction lexed with
  | nil => decide
  | cons member lexed ih =>
      simp only [moreMembers, List.length_cons, List.length_append]
      omega

/-- The key of a member behind others is found, in front of its colon and its value. -/
theorem exists_member_of_moreMembers {key : String} {lexemes : List Lexeme}
    {lexed : List (String × List Lexeme)} {tokens : List Token}
    (means : tokens.map (·.lexeme) = moreMembers ((key, lexemes) :: lexed)) (size : Nat)
    (rest : List Token) :
    ∃ member behind, member.map (·.lexeme) = .symbol .colon :: lexemes ∧
      behind.map (·.lexeme) = moreMembers lexed ∧
        nextKey false size (tokens ++ rest) = .ok (some key, member ++ (behind ++ rest)) := by
  obtain ⟨comma, _, rfl, isComma, means⟩ := List.map_eq_cons_iff.mp means
  obtain ⟨name, _, rfl, isName, means⟩ := List.map_eq_cons_iff.mp means
  rw [← List.cons_append] at means
  obtain ⟨member, behind, rfl, memberMeans, means⟩ := List.map_eq_append_iff.mp means
  exact ⟨member, behind, memberMeans, means, by
    simp [nextKey, isComma, isName, Manner.key, Except.map]⟩

/-- The key of the first member of an object is found. -/
theorem exists_member_of_objectOf {key : String} {lexemes : List Lexeme}
    {lexed : List (String × List Lexeme)} {tokens : List Token}
    (means : tokens.map (·.lexeme) = objectOf ((key, lexemes) :: lexed)) (size : Nat)
    (rest : List Token) :
    ∃ opening inside member behind, tokens = opening :: inside ∧
      opening.lexeme = .symbol .objectOpen ∧ lexed.length ≤ inside.length ∧
        member.map (·.lexeme) = .symbol .colon :: lexemes ∧
          behind.map (·.lexeme) = moreMembers lexed ∧
            nextKey true size (inside ++ rest) = .ok (some key, member ++ (behind ++ rest)) := by
  obtain ⟨opening, _, rfl, isOpening, means⟩ := List.map_eq_cons_iff.mp means
  obtain ⟨name, _, rfl, isName, means⟩ := List.map_eq_cons_iff.mp means
  rw [← List.cons_append] at means
  obtain ⟨member, behind, rfl, memberMeans, means⟩ := List.map_eq_append_iff.mp means
  have longer := length_lt_moreMembers lexed
  rw [← means, List.length_map] at longer
  refine ⟨opening, _, member, behind, rfl, isOpening, ?_, memberMeans, means, ?_⟩
  · simp only [List.length_cons, List.length_append]
    omega
  · simp [nextKey, isName, Manner.key, Except.map]

theorem readMembers_moreMembers {lexed : List (String × List Lexeme)} {draft final : σ}
    (fills : Fills record room draft lexed final) {rounds : Nat} (enough : lexed.length ≤ rounds)
    {tokens : List Token} (means : tokens.map (·.lexeme) = moreMembers lexed) (size : Nat)
    (rest : List Token) :
    ∃ closing, record.readMembers room size rounds false draft (tokens ++ rest) =
      .ok (final, closing :: rest) := by
  induction lexed generalizing draft rounds tokens with
  | nil =>
      obtain ⟨closing, rfl, is⟩ := List.map_eq_singleton_iff.mp means
      cases fills
      exact ⟨closing, readMembers_close is⟩
  | cons member lexed ih =>
      obtain ⟨rounds, rfl⟩ := Nat.exists_eq_add_of_le' enough
      obtain ⟨next, reads, others⟩ := fills.exists_next
      obtain ⟨inside, behind, memberMeans, means, keyed⟩ :=
        exists_member_of_moreMembers means size rest
      obtain ⟨closing, read⟩ := ih others (Nat.le_add_left lexed.length rounds) means
      refine ⟨closing, ?_⟩
      rw [List.length_cons, ← Nat.add_assoc, readMembers_member reads keyed memberMeans]
      exact read

/-- Behind the beginning of an object, members that give a complete draft are read as the
record. -/
theorem read_objectOpen {opening closing : Token} {size : Nat} {tokens rest : List Token}
    {final : σ} {value : α} (is : opening.lexeme = .symbol .objectOpen)
    (members : record.readMembers room size (tokens.length + 1) true record.blank tokens =
      .ok (final, closing :: rest))
    (complete : record.complete final = .ok value) :
    record.read (room + 1) size (opening :: tokens) = .ok (value, rest) := by
  simp [read, is, readObject, members, complete, bind, Except.bind, pure, Except.pure]

/-- A record is read from the members of an object that fill a draft of it. -/
theorem reads_objectOf {lexed : List (String × List Lexeme)} {final : σ} {value : α}
    (fills : Fills record room record.blank lexed final)
    (complete : record.complete final = .ok value) :
    Reads (record.read (room + 1)) (objectOf lexed) value := by
  intro size rest tokens means
  cases lexed with
  | nil =>
      simp only [objectOf, List.map_eq_cons_iff, List.map_eq_nil_iff] at means
      obtain ⟨opening, _, rfl, isOpening, closing, _, rfl, isClosing, rfl⟩ := means
      cases fills
      exact read_objectOpen isOpening (readMembers_close isClosing) complete
  | cons member lexed =>
      obtain ⟨next, reads, others⟩ := fills.exists_next
      obtain ⟨opening, inside, member, behind, rfl, isOpening, few, memberMeans, means, keyed⟩ :=
        exists_member_of_objectOf means size rest
      have enough : lexed.length ≤ (inside ++ rest).length := by
        rw [List.length_append]
        omega
      obtain ⟨closing, behindRead⟩ := readMembers_moreMembers others enough means size rest
      have membersRead := (readMembers_member reads keyed memberMeans _).trans behindRead
      exact read_objectOpen isOpening membersRead complete

/-! ## Members that are refused -/

/-- Members fill a draft up to one whose value is refused for a cause. -/
inductive Stalls (record : Record σ α) (room : Nat) (cause : Cause) :
    σ → List (String × List Lexeme) → Prop
  | here {key : String} {lexemes : List Lexeme} {lexed : List (String × List Lexeme)}
      {field : Field σ} {draft : σ}
      (found : record.fields.find? (·.name = key) = some field)
      (open? : field.isSet draft = false)
      (refuses : Refuses (field.read room draft) lexemes cause) :
      Stalls record room cause draft ((key, lexemes) :: lexed)
  | later {key : String} {lexemes : List Lexeme} {lexed : List (String × List Lexeme)}
      {field : Field σ} {draft next : σ}
      (found : record.fields.find? (·.name = key) = some field)
      (open? : field.isSet draft = false) (reads : Reads (field.read room draft) lexemes next)
      (others : Stalls record room cause next lexed) :
      Stalls record room cause draft ((key, lexemes) :: lexed)

/-- A member whose key has been read is refused with its value. -/
theorem readMembers_refused {key : String} {lexemes : List Lexeme} {field : Field σ}
    {draft : σ} {cause : Cause} (found : record.fields.find? (·.name = key) = some field)
    (open? : field.isSet draft = false) (refuses : Refuses (field.read room draft) lexemes cause)
    {size : Nat} {first : Bool} {tokens behindKey rest : List Token}
    (keyed : nextKey first size tokens = .ok (some key, behindKey ++ rest))
    (means : behindKey.map (·.lexeme) = .symbol .colon :: lexemes) (rounds : Nat) :
    ∃ offset, record.readMembers room size (rounds + 1) first draft tokens =
      .error ⟨cause, offset⟩ := by
  obtain ⟨token, inside, rfl, isColon, means⟩ := List.map_eq_cons_iff.mp means
  obtain ⟨offset, refused⟩ := refuses size rest means
  have stopped : record.readMember room draft key size (token :: (inside ++ rest)) =
      .error ⟨cause, offset⟩ := by
    simp [readMember, found, open?, colon_cons isColon, refused, bind, Except.bind]
  rw [List.cons_append] at keyed
  exact ⟨offset, by simp [readMembers, keyed, stopped, bind, Except.bind]⟩

theorem readMembers_stalls {cause : Cause} {lexed : List (String × List Lexeme)} {draft : σ}
    (stalls : Stalls record room cause draft lexed) {rounds : Nat}
    (enough : lexed.length ≤ rounds) {tokens : List Token}
    (means : tokens.map (·.lexeme) = moreMembers lexed) (size : Nat) (rest : List Token) :
    ∃ offset, record.readMembers room size rounds false draft (tokens ++ rest) =
      .error ⟨cause, offset⟩ := by
  induction stalls generalizing rounds tokens with
  | here found open? refuses =>
      obtain ⟨rounds, rfl⟩ := Nat.exists_eq_add_of_le' enough
      obtain ⟨member, behind, memberMeans, -, keyed⟩ := exists_member_of_moreMembers means size rest
      exact readMembers_refused found open? refuses keyed memberMeans _
  | later found open? reads others ih =>
      obtain ⟨rounds, rfl⟩ := Nat.exists_eq_add_of_le' enough
      obtain ⟨member, behind, memberMeans, means, keyed⟩ :=
        exists_member_of_moreMembers means size rest
      rw [List.length_cons, ← Nat.add_assoc,
        readMembers_member (reads_readMember_of_field found open? reads) keyed memberMeans]
      exact ih (Nat.le_add_left _ rounds) means

/-- The fault of a member is the fault of the record. -/
theorem read_objectOpen_of_error {opening : Token} {size : Nat} {tokens : List Token}
    {fault : Fault} (is : opening.lexeme = .symbol .objectOpen)
    (members : record.readMembers room size (tokens.length + 1) true record.blank tokens =
      .error fault) :
    record.read (room + 1) size (opening :: tokens) = .error fault := by
  simp [read, is, readObject, members, bind, Except.bind]

/-- A record is refused whose members fill its draft up to one that is refused. -/
theorem refuses_objectOf {cause : Cause} {lexed : List (String × List Lexeme)}
    (stalls : Stalls record room cause record.blank lexed) :
    Refuses (record.read (room + 1)) (objectOf lexed) cause := by
  intro size rest tokens means
  have refused : ∃ opening inside offset, tokens = opening :: inside ∧
      opening.lexeme = .symbol .objectOpen ∧
        record.readMembers room size ((inside ++ rest).length + 1) true record.blank
          (inside ++ rest) = .error ⟨cause, offset⟩ := by
    cases stalls with
    | here found open? refuses =>
        obtain ⟨opening, inside, member, behind, rfl, isOpening, -, memberMeans, -, keyed⟩ :=
          exists_member_of_objectOf means size rest
        obtain ⟨offset, refused⟩ := readMembers_refused found open? refuses keyed memberMeans _
        exact ⟨opening, inside, offset, rfl, isOpening, refused⟩
    | later found open? reads others =>
        obtain ⟨opening, inside, member, behind, rfl, isOpening, few, memberMeans, means, keyed⟩ :=
          exists_member_of_objectOf means size rest
        obtain ⟨offset, refused⟩ := readMembers_stalls others
          (Nat.le_trans few (by simp : inside.length ≤ (inside ++ rest).length)) means size rest
        exact ⟨opening, inside, offset, rfl, isOpening,
          (readMembers_member (reads_readMember_of_field found open? reads) keyed memberMeans
            _).trans refused⟩
  obtain ⟨opening, inside, offset, rfl, isOpening, refused⟩ := refused
  exact ⟨offset, read_objectOpen_of_error isOpening refused⟩

/-- A text of which the lexemes are those of a record is read as this record. -/
theorem parse_of_cuts {text : String} {lexemes : List Lexeme} {value : α}
    (cuts : Lexer.Cuts text.toList lexemes) (reads : Reads (record.read maxDepth) lexemes value) :
    record.parse text = .ok value := by
  have means := tokenize_of_cuts cuts
  have whole := reads (tokenize text.toList).size [] means
  rw [List.append_nil] at whole
  simp [parse, whole, finish, Except.mapError, bind, Except.bind, pure, Except.pure]

/-- A text of which the lexemes are refused is refused for the same cause. -/
theorem parse_of_refuses {text : String} {lexemes : List Lexeme} {cause : Cause}
    (cuts : Lexer.Cuts text.toList lexemes)
    (refuses : Refuses (record.read maxDepth) lexemes cause) :
    ∃ place, record.parse text = .error ⟨cause, place⟩ := by
  have means := tokenize_of_cuts cuts
  obtain ⟨offset, refused⟩ := refuses (tokenize text.toList).size [] means
  rw [List.append_nil] at refused
  refine ⟨Place.ofOffset text.toList offset, ?_⟩
  simp [parse, refused, Except.mapError, bind, Except.bind, Fault.locate]

end Record

end ContextStream.Json
