import ContextStream.Application
import ContextStream.Proofs.Config
import ContextStream.Proofs.Scheduler.Ending
import ContextStream.Proofs.Scheduler.Failure

/-!
# The end of a session

A session whose configuration cannot be loaded sends nothing. Every other one ends with
a summary once it is interrupted, however long its deliveries take and whatever its clock
shows: no cycle fails, and a run that is asked to end returns.
-/

namespace ContextStream.Application

open Scheduler

variable {surroundings : Surroundings} {config : Config} {agenda : List (Nat × Call)}
  {limit : Nat}

/-- The random bits of the two identifiers of each cycle give different identifiers. -/
def Surroundings.DrawsApart (surroundings : Surroundings) : Prop :=
  ∀ cycle, Uuid.ofRandom (surroundings.randomBits (2 * cycle)) ≠
    Uuid.ofRandom (surroundings.randomBits (2 * cycle + 1))

/-- Between two cycles an even number of identifiers was made. -/
theorem even_of_reaches {memory : Memory}
    (reached : (world surroundings config).Reaches {} memory) :
    ∃ cycle, memory.identifiers = 2 * cycle := by
  induction reached with
  | first => exact ⟨0, rfl⟩
  | cycle reached moment payload ih =>
      obtain ⟨cycle, even⟩ := ih
      exact ⟨cycle + 1, by simp [world, World.prepared, even]; omega⟩

/-- Bits that alternate give different identifiers. -/
theorem drawsApart_of_alternates
    (alternates : ∀ n, surroundings.randomBits n = BitVec.ofNat 128 (n % 2)) :
    surroundings.DrawsApart := by
  intro cycle
  have even : 2 * cycle % 2 = 0 := by omega
  have odd : (2 * cycle + 1) % 2 = 1 := by omega
  rw [alternates, alternates, even, odd]
  decide

theorem drawsApart_world (fresh : surroundings.DrawsApart) (config : Config) :
    (world surroundings config).DrawsApart {} := by
  intro memory reached moment
  obtain ⟨cycle, even⟩ := even_of_reaches reached
  simpa [world, even] using fresh cycle

/-! ## Sessions -/

/-- A session that cannot load its configuration fails, and sends nothing. -/
theorem session_of_load_error (agenda : List (Nat × Call)) (limit : Nat) {path : String}
    {error : Error}
    (failed : (Config.load path (surroundings.file path)).1 = .error error) :
    (session surroundings path agenda limit).result = some (.error (.loading path error)) ∧
      (session surroundings path agenda limit).requests = [] := by
  cases loaded : Config.load path (surroundings.file path) with
  | mk result entries =>
      obtain rfl : result = .error error := by rwa [loaded] at failed
      simp [session, load, loaded]

/-- A session whose configuration is loaded is a run. -/
theorem session_of_load {path : String}
    (accepted : (Config.load path (surroundings.file path)).1 = .ok config) :
    (session surroundings path agenda limit).result =
      (({ memory := {}, agenda } : Machine Memory).runToEnd (world surroundings config) config
        limit).result?.map (·.mapError .running) := by
  cases loaded : Config.load path (surroundings.file path) with
  | mk result entries =>
      obtain rfl : result = .ok config := by rwa [loaded] at accepted
      simp [session, load, loaded]

/-- A session with an accepted configuration does not fail. -/
theorem eq_ok_of_session {path : String}
    (accepted : (Config.load path (surroundings.file path)).1 = .ok config)
    (fresh : surroundings.DrawsApart) {result : Except Failure Summary}
    (ended : (session surroundings path agenda limit).result = some result) :
    ∃ summary, result = .ok summary := by
  obtain ⟨text, parsed⟩ := Config.exists_text_of_load accepted
  obtain ⟨members, -, gives⟩ := Config.exists_members_of_parse parsed
  have healthy : Machine.Healthy (world surroundings config) {}
      ({ memory := {}, agenda } : Machine Memory) :=
    ⟨.first, by rintro result ⟨⟩⟩
  rw [session_of_load accepted, Option.map_eq_some_iff] at ended
  obtain ⟨inner, is, rfl⟩ := ended
  have good := (Machine.healthy_runToEnd gives.domainType (drawsApart_world fresh config) healthy
    limit).ended inner is
  exact ⟨_, by rw [good.1]; rfl⟩

/-- A session with an accepted configuration ends once it is interrupted. -/
theorem isSome_session {path : String}
    (accepted : (Config.load path (surroundings.file path)).1 = .ok config) {last : Nat}
    (bounded : ∀ entry ∈ agenda, entry.1 ≤ last) (runs : ∃ moment, (moment, .run) ∈ agenda)
    (asks : ∃ moment, (moment, .cancel) ∈ agenda)
    (enough : 2 * last + agenda.length + 6 ≤ limit) :
    (session surroundings path agenda limit).result.isSome := by
  obtain ⟨text, parsed⟩ := Config.exists_text_of_load accepted
  obtain ⟨members, -, gives⟩ := Config.exists_members_of_parse parsed
  rw [session_of_load accepted, Option.isSome_map]
  exact Machine.isSome_result?_of_asked _ gives.interval_pos _ bounded runs asks enough

/-! ## Failures -/

/-- A run fails in its first cycle or never, so that the run of an accepted
configuration ends only as it was asked to. A session fails when it loads its
configuration or never, and then it has sent nothing; whatever its clock shows, however
long deliveries take and whatever others do, a session whose configuration was loaded
comes to its summary once it is interrupted. -/
theorem failures_are_early :
    (∀ {σ : Type} (world : World σ) (config : Config) (machine : Machine σ),
      machine.state = .idle → machine.activity = .idle → world.DrawsApart machine.memory →
      ∀ limit final, (machine.start world config).run world config limit = final →
        Machine.Ends world config machine final ∧
          ∀ text, Config.parse text = .ok config →
            ∀ result, final.result? = some result →
              result = .ok final.summary ∧ final.cancelled = true) ∧
    ∀ (surroundings : Surroundings) (path : String) (agenda : List (Nat × Call)) (limit : Nat),
      surroundings.DrawsApart →
        (∀ failure, (session surroundings path agenda limit).result = some (.error failure) ↔
          ∃ error, (Config.load path (surroundings.file path)).1 = .error error ∧
            failure = .loading path error) ∧
        (∀ failure, (session surroundings path agenda limit).result = some (.error failure) →
          (session surroundings path agenda limit).requests = []) ∧
        ∀ config, (Config.load path (surroundings.file path)).1 = .ok config →
          (∀ result, (session surroundings path agenda limit).result = some result →
            ∃ summary, result = .ok summary) ∧
          ∀ last, (∀ entry ∈ agenda, entry.1 ≤ last) → (∃ moment, (moment, .run) ∈ agenda) →
            (∃ moment, (moment, .cancel) ∈ agenda) → 2 * last + agenda.length + 6 ≤ limit →
              ∃ summary,
                (session surroundings path agenda limit).result = some (.ok summary) := by
  constructor
  · intro σ world config machine idle waits fresh limit final ran
    refine ⟨Machine.ends_of_run idle waits fresh ran, ?_⟩
    intro text accepted result ended
    obtain ⟨members, -, gives⟩ := Config.exists_members_of_parse accepted
    exact Machine.run_of_domain_or_cancelled idle waits fresh (Or.inl gives.domainType) ran ended
  · intro surroundings path agenda limit fresh
    cases loaded : (Config.load path (surroundings.file path)).1 with
    | error error =>
        obtain ⟨failed, unsent⟩ := session_of_load_error agenda limit loaded
        simp [failed, unsent, eq_comm]
    | ok config =>
        have good {result : Except Failure Summary}
            (ended : (session surroundings path agenda limit).result = some result) :
            ∃ summary, result = .ok summary :=
          eq_ok_of_session loaded fresh ended
        refine ⟨fun failure => ⟨fun failed => ?_, by simp⟩, fun failure failed => ?_, ?_⟩
        · obtain ⟨summary, is⟩ := good failed
          cases is
        · obtain ⟨summary, is⟩ := good failed
          cases is
        · rintro config ⟨⟩
          refine ⟨fun result => good, fun last bounded runs asks enough => ?_⟩
          obtain ⟨result, ended⟩ :=
            Option.isSome_iff_exists.mp (isSome_session loaded bounded runs asks enough)
          obtain ⟨summary, rfl⟩ := good ended
          exact ⟨summary, ended⟩

/-- A world that draws the same two identifiers in every cycle and takes every update. -/
def steadyWorld : World Unit where
  clock _ _ := 0
  draw _ := (⟨1⟩, ⟨2⟩, ())
  deliver _ _ := ({ delay := 0, outcome := .delivered 200 }, ())

/-- A configuration of the marker type, which no text gives. -/
def markerConfig : Config where
  assertionType := Vocabulary.binaryAssertion
  assertionSubject := Vocabulary.integer
  assertionObject := Vocabulary.integer
  hub := Vocabulary.integer
  stream := Vocabulary.integer
  interval := 1000

/-- Surroundings with one file, where nobody answers, and not soon. The clock stands still. -/
def quietSurroundings : Surroundings where
  file path :=
    if path = "config.json" then .content (Text.Utf8.encode Config.exampleText.toList) else .absent
  network _ := .error []
  time := 0
  randomBits n := BitVec.ofNat 128 (n % 2)
  clock _ _ := 0
  delay _ := 700

/-- What others do in a session there: they interrupt it in its second delivery. -/
def impatientAgenda : List (Nat × Call) :=
  [(0, .observe), (0, .run), (6000, .cancel), (6100, .run)]

theorem ends_of_markerConfig_and_exampleText :
    (∃ error, ((({ memory := () } : Machine Unit).start steadyWorld markerConfig).run
      steadyWorld markerConfig 3).result? = some (.error error)) ∧
    (∃ failure, (session quietSurroundings "absent.json" impatientAgenda 12300).result =
      some (.error failure)) ∧
    (session quietSurroundings "absent.json" impatientAgenda 12300).requests = [] ∧
    (∃ summary, (session quietSurroundings "config.json" impatientAgenda 12300).result =
      some (.ok summary)) ∧
    ∃ summary, (run quietSurroundings "config.json" 5).result = some (.ok summary) := by
  obtain ⟨runs, sessions⟩ := failures_are_early
  have steady : steadyWorld.DrawsApart () := by
    intro memory _ moment
    change (⟨1⟩ : Uuid) ≠ ⟨2⟩
    decide
  have alternating : quietSurroundings.DrawsApart := drawsApart_of_alternates fun _ => rfl
  have ends := (runs steadyWorld markerConfig { memory := () } rfl rfl steady 3 _ rfl).1
  obtain ⟨fails, unsent, -⟩ :=
    sessions quietSurroundings "absent.json" impatientAgenda 12300 alternating
  have failed := (fails (.loading "absent.json" (.file .absent))).mpr ⟨_, rfl, rfl⟩
  have loaded := Config.load_of_parse Config.parse_exampleText "config.json"
  refine ⟨ends.fails_iff.mpr ⟨rfl, rfl⟩, ⟨_, failed⟩, unsent _ failed, ?_, ?_⟩
  · exact ((sessions quietSurroundings "config.json" impatientAgenda 12300 alternating).2.2 _
      loaded).2 6100 (by decide) ⟨0, by decide⟩ ⟨6000, by decide⟩ (by decide)
  · exact ((sessions quietSurroundings "config.json" (Application.agenda 5) (advances 5)
      alternating).2.2 _ loaded).2 5 (by decide) ⟨0, by decide⟩ ⟨5, by decide⟩ (by decide)

end ContextStream.Application
