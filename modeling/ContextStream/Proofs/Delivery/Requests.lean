import ContextStream.Delivery.Client
import ContextStream.Proofs.Text.Charset

/-!
# One request for one payload

A hub with a plain web address that sends no client elsewhere gets one request for each
delivery, and its answer to this request decides what became of the delivery.
-/

namespace ContextStream.Delivery

open Http Text

/-! ## Requests -/

/-- A request asks a hub to take a payload. -/
structure Carries (hub : Iri) (payload : Payload) (request : Request) : Prop where
  method : request.method = .post
  host : request.url.host = hub.url.host
  port : request.url.port = hub.url.port
  target : request.url.target = hub.url.target
  contentType : request.contentType = some "application/json"
  body : request.body = some payload.json

/-- Credentials are taken out of a URL, or left in it. -/
theorem credentials_cases (url : Url) :
    (credentials url).2 = url ∨ (credentials url).2 = url.withoutCredentials := by
  unfold credentials
  split
  · exact Or.inl rfl
  · split
    · exact Or.inl rfl
    · dsimp only
      split
      · exact Or.inl rfl
      · exact Or.inr rfl

/-- What does not depend on credentials is the same without them. -/
theorem view_credentials {β : Type} (view : Url → β)
    (blind : ∀ url, view url.withoutCredentials = view url) (url : Url) :
    view (credentials url).2 = view url := by
  rcases credentials_cases url with same | without
  · rw [same]
  · rw [without, blind]

theorem host_withoutCredentials (url : Url) : url.withoutCredentials.host = url.host := by
  cases authority : url.authority <;> simp [Url.host, Url.withoutCredentials, authority]

theorem port_withoutCredentials (url : Url) : url.withoutCredentials.port = url.port := by
  cases authority : url.authority <;> simp [Url.port, Url.withoutCredentials, authority]

theorem carries_request (hub : Iri) (payload : Payload) :
    Carries hub payload (request hub payload) where
  method := rfl
  host := view_credentials Url.host host_withoutCredentials hub.url
  port := view_credentials Url.port port_withoutCredentials hub.url
  target := view_credentials Url.target (fun _ => rfl) hub.url
  contentType := rfl
  body := rfl

/-! ## Answers -/

variable {labels : Charset.Labels} {response : Response}

/-- The charset of an answer: what the label in its content type stands for, and UTF-8 unless
there is one that stands for something. -/
inductive Speaks (labels : Charset.Labels) (response : Response) : Charset → Prop
  | named {contentType label : String} {charset : Charset}
      (typed : response.contentType = some contentType)
      (names : ContentType.charset? contentType = some label)
      (known : labels label = some charset) : Speaks labels response charset
  | unnamed
      (unknown : ∀ contentType label, response.contentType = some contentType →
        ContentType.charset? contentType = some label → labels label = none) :
      Speaks labels response (.unicode .utf8)

/-- The text of the body of an answer: what its bytes mean in the charset of the answer, and
nothing if it broke off. -/
inductive Reads (labels : Charset.Labels) (response : Response) : String → Prop
  | whole {bytes : List UInt8} {charset : Charset} {text : List Char}
      (body : response.body = some bytes) (speaks : Speaks labels response charset)
      (means : charset.Means bytes text) : Reads labels response (String.ofList text)
  | brokenOff (body : response.body = none) : Reads labels response ""

/-- What an answer makes of a delivery. Two statuses tell that the update was taken; any other
one refuses it, with the text of the body. Without an answer the update is lost, for some
cause. -/
inductive Decides (labels : Charset.Labels) :
    Except (List String) Response → Outcome → Prop
  | taken (response : Response) (status : response.status = 200 ∨ response.status = 204) :
      Decides labels (.ok response) (.delivered response.status)
  | refused {body : String} (response : Response)
      (status : response.status ≠ 200 ∧ response.status ≠ 204)
      (reads : Reads labels response body) :
      Decides labels (.ok response) (.rejected response.status body)
  | unanswered (causes : List String) (cause : String) :
      Decides labels (.error causes) (.transportFailure cause)

theorem speaks_iff {charset : Charset} :
    Speaks labels response charset ↔ Delivery.charset labels response = charset := by
  constructor
  · intro speaks
    cases speaks with
    | named typed names known => simp [Delivery.charset, typed, names, known]
    | unnamed unknown =>
        have none : (response.contentType.bind ContentType.charset?).bind labels = none := by
          rw [Option.bind_eq_none_iff]
          intro label named
          obtain ⟨contentType, typed, names⟩ := Option.bind_eq_some_iff.mp named
          exact unknown contentType label typed names
        rw [Delivery.charset, none]
        rfl
  · rintro rfl
    cases found : (response.contentType.bind ContentType.charset?).bind labels with
    | none =>
        rw [Delivery.charset, found]
        refine .unnamed fun contentType label typed names => ?_
        rwa [typed, Option.bind_some, names, Option.bind_some] at found
    | some known =>
        obtain ⟨label, names, is⟩ := Option.bind_eq_some_iff.mp found
        obtain ⟨contentType, typed, names⟩ := Option.bind_eq_some_iff.mp names
        rw [Delivery.charset, found]
        exact .named typed names is

/-- A body is read as the text that it is. -/
theorem reads_iff {text : String} :
    Reads labels response text ↔ bodyText labels response = text := by
  constructor
  · intro reads
    cases reads with
    | whole body speaks means =>
        simp only [bodyText, body, speaks_iff.mp speaks, Charset.means_iff.mp means]
    | brokenOff body => simp only [bodyText, body]
  · rintro rfl
    unfold bodyText
    split
    · next none => exact .brokenOff none
    · next bytes body => exact .whole body (speaks_iff.mpr rfl) (Charset.means_iff.mpr rfl)

theorem decides_outcome (labels : Charset.Labels) (response : Response) :
    Decides labels (.ok response) (outcome labels (.ok response)) := by
  simp only [outcome, Outcome.ofStatus]
  split
  · next status => exact .taken response status
  · next status => exact .refused response (not_or.mp status) (reads_iff.mpr rfl)

/-- The answers of a network to requests behind earlier ones. -/
def answers (network : Network) :
    (earlier sent : List Request) → List (Except (List String) Response)
  | _, [] => []
  | earlier, request :: sent =>
      network (earlier ++ [request]) :: answers network (earlier ++ [request]) sent

theorem length_answers (network : Network) (earlier sent : List Request) :
    (answers network earlier sent).length = sent.length := by
  induction sent generalizing earlier with
  | nil => rfl
  | cons request sent ih => rw [answers, List.length_cons, ih, List.length_cons]

/-- An answer takes an update. -/
def takes : Except (List String) Response → Bool
  | .ok response => response.status = 200 ∨ response.status = 204
  | .error _ => false

/-- An answer refuses an update. -/
def refuses : Except (List String) Response → Bool
  | .ok response => ¬(response.status = 200 ∨ response.status = 204)
  | .error _ => false

/-- A hub does not send a client elsewhere that delivers to it. -/
def Stays (network : Network) (hub : Iri) : Prop :=
  ∀ earlier payload response, network (earlier ++ [request hub payload]) = .ok response →
    (request hub payload).next? response = none

/-- A delivery is one request, and the answer to it decides. -/
theorem deliver_of_stays {network : Network} {hub : Iri} (web : hub.url.scheme = "http")
    (sendable : isSendable (credentials hub.url).2 = true) (stays : Stays network hub)
    (payload : Payload) (earlier : List Request) (labels : Charset.Labels) :
    (deliver network hub payload earlier labels).requests =
        earlier ++ [request hub payload] ∧
      Decides labels (network (earlier ++ [request hub payload]))
        (deliver network hub payload earlier labels).outcome := by
  have allowed : (request hub payload).url.scheme = "http" :=
    (view_credentials Url.scheme (fun _ => rfl) hub.url).trans web
  have asked : post network hub payload earlier =
      exchange network (maxRequests - 1) earlier (request hub payload) := by
    have sendable : isSendable (request hub payload).url = true := sendable
    simp [post, allowed, sendable]
  have reached : unasked? (request hub payload).url = none := by
    simp [unasked?, allowed]
  unfold deliver
  rw [asked]
  unfold exchange
  cases answer : network (earlier ++ [request hub payload]) with
  | error causes => exact ⟨by simp [reached, answer],
      by simpa [reached, answer] using .unanswered causes _⟩
  | ok response =>
      have ends := stays earlier payload response answer
      exact ⟨by simp [reached, answer, ends],
        by simpa [reached, answer, ends] using decides_outcome labels response⟩

end ContextStream.Delivery
