import ContextStream.Proofs.Delivery.Wire
import ContextStream.Proofs.Json.Mixtures

/-!
# Payloads in other texts

A payload is read from the text that is written for it, and from every other text that holds
its members: in any order, spelling and spacing, beside any members that a payload knows
nothing of.
-/

namespace ContextStream

open Json Json.Lexer

namespace Update

variable (update : Update)

/-- The members of an update. -/
def entries : List (String × (List Char → Prop)) :=
  [("graph_serialized", IsString update.document),
    ("timestamp_ms", IsInteger update.timestamp.toInt)]

/-- The draft of an update of which members with some keys were read. -/
def draft (seen : List String) : Draft :=
  ⟨if "graph_serialized" ∈ seen then some update.document else none,
    if "timestamp_ms" ∈ seen then some update.timestamp else none⟩

variable {update} {text : List Char}

theorem takes_document (is : IsString update.document text) (room : Nat) :
    record.Takes room update.draft "graph_serialized" text :=
  Record.takes_of_reads rfl (fun document draft => { draft with document := some document })
    (cuts_isString is).inFront (reads_string update.document) (fun _ => rfl) (by simp [draft])
    (by simp [draft])

theorem takes_timestamp (is : IsInteger update.timestamp.toInt text) (room : Nat) :
    record.Takes room update.draft "timestamp_ms" text := by
  have cuts : CutsInFront text [.number (Number.ofInt64 update.timestamp)] := by
    intro c symbol ends
    unfold Number.ofInt64
    exact cuts_isInteger is ends
  exact Record.takes_of_reads rfl
    (fun timestamp draft => { draft with timestamp := some timestamp }) cuts
    (reads_int64 update.timestamp) (fun _ => rfl) (by simp [draft]) (by simp [draft])

/-- An update is read from the members that it has, whatever stands beside them. -/
theorem reads_of_entries (mixture : IsMixture update.entries IsValue text) (room : Nat) :
    ∃ lexemes, Cuts text lexemes ∧ Reads (record.read (room + 1)) lexemes update := by
  refine Record.reads_of_isMixture update.draft mixture ?_ ?_ ?_ rfl ?_
  · simp only [entries, List.forall_mem_cons]
    exact ⟨fun _ is => takes_document is room, fun _ is => takes_timestamp is room,
      List.forall_mem_nil _⟩
  · intro key notOwn text is
    simp only [entries, List.map_cons, List.map_nil, List.mem_cons, List.not_mem_nil, or_false,
      not_or] at notOwn
    obtain ⟨noDocument, noTimestamp⟩ := notOwn
    refine Record.takes_of_isValue ?_ ?_ is
    · simp [record, Ne.symm noDocument, Ne.symm noTimestamp]
    · intro seen
      simp [draft, Ne.symm noDocument, Ne.symm noTimestamp]
  · simp [record, entries]
  · simp only [entries, List.forall_mem_cons]
    rintro seen ⟨document, timestamp, -⟩
    simp [record, draft, document, timestamp]

/-- The text of an update holds its members. -/
theorem isMixture_json (update : Update) : IsMixture update.entries IsValue update.json := by
  apply isMixture_writeMembers
  · simp only [entries, List.forall_mem_cons]
    exact ⟨⟨_, rfl, isString_quote _⟩, ⟨_, rfl, isInteger_toString _⟩, List.forall_mem_nil _⟩
  · simp [entries]

end Update

namespace Payload

variable (payload : Payload)

/-- The members of a payload, one of which holds the members of its update. -/
def entries : List (String × (List Char → Prop)) :=
  [("hub.mode", IsString payload.mode), ("hub.url", IsString payload.stream),
    ("hub.payload", IsMixture payload.update.entries IsValue)]

/-- The draft of a payload of which members with some keys were read. -/
def draft (seen : List String) : Draft :=
  ⟨if "hub.mode" ∈ seen then some payload.mode else none,
    if "hub.url" ∈ seen then some payload.stream else none,
    if "hub.payload" ∈ seen then some payload.update else none⟩

variable {payload} {text : List Char}

theorem takes_mode (is : IsString payload.mode text) (room : Nat) :
    record.Takes room payload.draft "hub.mode" text :=
  Record.takes_of_reads rfl (fun mode draft => { draft with mode := some mode })
    (cuts_isString is).inFront (reads_string payload.mode) (fun _ => rfl) (by simp [draft])
    (by simp [draft])

theorem takes_stream (is : IsString payload.stream text) (room : Nat) :
    record.Takes room payload.draft "hub.url" text :=
  Record.takes_of_reads rfl (fun stream draft => { draft with stream := some stream })
    (cuts_isString is).inFront (reads_string payload.stream) (fun _ => rfl) (by simp [draft])
    (by simp [draft])

theorem takes_update (mixture : IsMixture payload.update.entries IsValue text) (room : Nat) :
    record.Takes (room + 1) payload.draft "hub.payload" text := by
  obtain ⟨lexemes, cuts, reads⟩ := Update.reads_of_entries mixture room
  exact Record.takes_of_reads rfl (fun update draft => { draft with update := some update })
    cuts.inFront reads (fun _ => rfl) (by simp [draft]) (by simp [draft])

/-- A payload is read from the members that it has, whatever stands beside them. -/
theorem reads_of_entries (mixture : IsMixture payload.entries IsValue text) (room : Nat) :
    ∃ lexemes, Cuts text lexemes ∧ Reads (record.read (room + 2)) lexemes payload := by
  refine Record.reads_of_isMixture payload.draft mixture ?_ ?_ ?_ rfl ?_
  · simp only [entries, List.forall_mem_cons]
    exact ⟨fun _ is => takes_mode is (room + 1), fun _ is => takes_stream is (room + 1),
      fun _ is => takes_update is room, List.forall_mem_nil _⟩
  · intro key notOwn text is
    simp only [entries, List.map_cons, List.map_nil, List.mem_cons, List.not_mem_nil, or_false,
      not_or] at notOwn
    obtain ⟨noMode, noUrl, noPayload⟩ := notOwn
    refine Record.takes_of_isValue ?_ ?_ is
    · simp [record, Ne.symm noMode, Ne.symm noUrl, Ne.symm noPayload]
    · intro seen
      simp [draft, Ne.symm noMode, Ne.symm noUrl, Ne.symm noPayload]
  · simp [record, entries]
  · simp only [entries, List.forall_mem_cons]
    rintro seen ⟨mode, stream, update, -⟩
    simp [record, draft, mode, stream, update]

theorem parse_of_isMixture {text : String}
    (mixture : IsMixture payload.entries IsValue text.toList) : parse text = .ok payload := by
  obtain ⟨lexemes, cuts, reads⟩ := reads_of_entries mixture 125
  exact Record.parse_of_cuts cuts reads

/-- The text of a payload holds its members. -/
theorem isMixture_json (payload : Payload) :
    IsMixture payload.entries IsValue payload.json.toList := by
  rw [json, String.toList_ofList]
  apply isMixture_writeMembers
  · simp only [entries, List.forall_mem_cons]
    exact ⟨⟨_, rfl, isString_quote _⟩, ⟨_, rfl, isString_quote _⟩,
      ⟨_, rfl, payload.update.isMixture_json⟩, List.forall_mem_nil _⟩
  · simp [entries]

/-- A payload is read back from its text, and from every text that holds its members in some
order and spelling, with any others beside them. -/
theorem parse_of_members (payload : Payload) :
    parse payload.json = .ok payload ∧
      ∀ text : String, IsMixture payload.entries IsValue text.toList →
        parse text = .ok payload :=
  ⟨parse_of_isMixture payload.isMixture_json, fun _ mixture => parse_of_isMixture mixture⟩

/-- The members of an update in another order, and one that it knows nothing of. -/
def rearrangedUpdate : List (String × List Char) :=
  [("timestamp_ms", ['-', '7', ' ']), ("note", ['[', '[', ']', ']']),
    ("graph_serialized", quote "<a> <b> \"c\" .\n")]

/-- The members of a payload in another order, and others under the same key. -/
def rearranged : List (String × List Char) :=
  [("note", ['n', 'u', 'l', 'l']), ("hub.payload", writeMembers rearrangedUpdate),
    ("note", ['[', '[', ']', ']']), ("hub.url", quote "http://stream.test/s1"),
    ("hub.mode", quote "update_stream")]

/-- The payload that they are members of. -/
def rearrangedPayload : Payload :=
  ⟨"update_stream", "http://stream.test/s1", ⟨"<a> <b> \"c\" .\n", -7⟩⟩

theorem isMixture_rearranged :
    IsMixture rearrangedPayload.entries IsValue (writeMembers rearranged) := by
  have none? : Blanks [] := nofun
  have timestamp : IsInteger rearrangedPayload.update.timestamp.toInt ['-', '7', ' '] :=
    .between none? (by decide : Blanks [' '])
  have lists : IsValue ['[', '[', ']', ']'] := ⟨.list [.list []], rfl⟩
  have null : IsValue ['n', 'u', 'l', 'l'] := ⟨.null, rfl⟩
  have update : IsMixture rearrangedPayload.update.entries IsValue
      (writeMembers rearrangedUpdate) := by
    apply isMixture_writeMembers
    · simp only [Update.entries, List.forall_mem_cons]
      exact ⟨⟨_, rfl, isString_quote _⟩, ⟨_, rfl, timestamp⟩, List.forall_mem_nil _⟩
    · simp [rearrangedUpdate, Update.entries, lists]
  apply isMixture_writeMembers
  · simp only [entries, List.forall_mem_cons]
    exact ⟨⟨_, rfl, isString_quote _⟩, ⟨_, rfl, isString_quote _⟩, ⟨_, rfl, update⟩,
      List.forall_mem_nil _⟩
  · simp [rearranged, entries, lists, null]

/-- The order of the members and what stands beside them do not matter. -/
theorem parse_of_rearrangedPayload :
    IsMixture rearrangedPayload.entries IsValue (writeMembers rearranged) ∧
      parse (String.ofList (writeMembers rearranged)) = .ok rearrangedPayload := by
  refine ⟨isMixture_rearranged, (parse_of_members rearrangedPayload).2 _ ?_⟩
  rw [String.toList_ofList]
  exact isMixture_rearranged

end Payload

end ContextStream
