/-
How an exchange ends decides what comes of it.

Reviews and health reports share one path: the content of the answer is taken first, and
only what was taken is decoded.  So the classes of failure are told apart before any
document is looked at, and it is enough to say once, for a decoder of any kind, what
becomes of each ending.

There are four kinds of ending.  A status that is no success settles the matter, whatever
follows it; a complete body after a success is decoded; no answer is a failure of
transport; and a body that breaks off after a success is a failure to decode, although
nothing was decoded.  `Classified` says from both sides what the classes are meant to be,
what each ending leads to and which endings lead to a given class; the last of the four is
what they do not fit.
-/
import ReviewDesk.Service.Exchange

namespace ReviewDesk.Service

variable {r : Http.Request} {status : Nat}

/-! ### The content of an answer -/

theorem content_of_refusal (h : Http.Status.isSuccess status = false) (body : Option Bytes) :
    content r (.answered status body) = .error (.response status) := by
  simp only [content, h, Bool.false_eq_true, if_false]

theorem content_of_body (h : Http.Status.isSuccess status = true) (bs : Bytes) :
    content r (.answered status (some bs)) = .ok bs := by
  simp only [content, h, if_true]

theorem content_of_cutOff (h : Http.Status.isSuccess status = true) :
    content r (.answered status none) = .error cutOff := by
  simp only [content, h, if_true]

/-! ### From the content to a document -/

/-- Why bytes were not the document that was asked for is a failure to decode. -/
def FailsToDecode {α : Type} (decode : Bytes → Except Failure α) : Prop :=
  ∀ ⦃bs f⦄, decode bs = .error f → ∃ reason, f = .decode reason

/-- The review in a body, or the failure to read it. -/
def decodeReview (bs : Bytes) : Except Failure Review :=
  (Review.decode bs).mapError (·.toFailure)

/-- The report in a body, or the failure to read it. -/
def decodeHealth (bs : Bytes) : Except Failure Health :=
  (Health.ofBytes bs).mapError fun m => .decode m.message

theorem mapError_eq_ok {α ε : Type} {x : Except ε α} {f : ε → Failure} {a : α} :
    x.mapError f = .ok a ↔ x = .ok a := by
  cases x with
  | error e => exact ⟨nofun, nofun⟩
  | ok b =>
    constructor
    · rintro ⟨⟩
      rfl
    · rintro ⟨⟩
      rfl

theorem failsToDecode_mapError {α ε : Type} (read : Bytes → Except ε α) (reason : ε → String) :
    FailsToDecode fun bs => (read bs).mapError fun e => Failure.decode (reason e) := by
  intro bs f h
  dsimp only at h
  cases hread : read bs with
  | ok a =>
    rw [hread] at h
    cases h
  | error e =>
    rw [hread] at h
    cases h
    exact ⟨reason e, rfl⟩

/-- The document of an answer, with any decoder. -/
def received {α : Type} (decode : Bytes → Except Failure α) (r : Http.Request)
    (e : Http.Ending) : Except Failure α := do
  let bs ← content r e
  decode bs

theorem review_eq : review = received decodeReview := rfl

theorem health_eq : health = received decodeHealth := rfl

/-! ### The classes -/

variable {α : Type} {decode : Bytes → Except Failure α}

/-- No answer came, or the request was given up. -/
def NoAnswer (e : Http.Ending) : Prop :=
  e = .unanswered ∨ ∃ reason, e = .failed reason

/-- What becomes of each kind of ending.  All about the classes follows from it. -/
theorem received_cases (decode : Bytes → Except Failure α) (r : Http.Request) (e : Http.Ending) :
    (NoAnswer e ∧ ∃ message, received decode r e = .error (.transport message)) ∨
    (∃ status body, e = .answered status body ∧ Http.Status.isSuccess status = false ∧
      received decode r e = .error (.response status)) ∨
    (∃ status, e = .answered status none ∧ Http.Status.isSuccess status = true ∧
      received decode r e = .error cutOff) ∨
    (∃ status bs, e = .answered status (some bs) ∧ Http.Status.isSuccess status = true ∧
      received decode r e = decode bs) := by
  cases e with
  | unanswered => exact .inl ⟨.inl rfl, _, rfl⟩
  | failed reason => exact .inl ⟨.inr ⟨reason, rfl⟩, reason, rfl⟩
  | answered status body =>
    refine .inr ?_
    cases hs : Http.Status.isSuccess status with
    | false =>
      refine .inl ⟨status, body, rfl, hs, ?_⟩
      rw [received, content_of_refusal hs]
      rfl
    | true =>
      refine .inr ?_
      cases body with
      | none =>
        refine .inl ⟨status, rfl, hs, ?_⟩
        rw [received, content_of_cutOff hs]
        rfl
      | some bs =>
        refine .inr ⟨status, bs, rfl, hs, ?_⟩
        rw [received, content_of_body hs]
        rfl

/-- Only a complete body after a success brings a document, and it is that of the body. -/
theorem received_eq_ok {e : Http.Ending} {a : α} :
    received decode r e = .ok a ↔
      ∃ status bs, e = .answered status (some bs) ∧ Http.Status.isSuccess status = true ∧
        decode bs = .ok a := by
  constructor
  · intro h
    rcases received_cases decode r e with
      ⟨-, _, he⟩ | ⟨status, body, -, -, he⟩ | ⟨status, -, -, he⟩ | ⟨status, bs, rfl, hs, he⟩
    · cases he.symm.trans h
    · cases he.symm.trans h
    · cases he.symm.trans h
    · exact ⟨status, bs, rfl, hs, he.symm.trans h⟩
  · rintro ⟨status, bs, rfl, hs, ha⟩
    rw [received, content_of_body hs]
    exact ha

/-- A success whose body breaks off. -/
def BreaksOff (e : Http.Ending) : Prop :=
  ∃ status, e = .answered status none ∧ Http.Status.isSuccess status = true

/-- An exchange that ended like this led to what the class of its ending asks for, given how
bodies are decoded. -/
structure Classified (decode : Bytes → Except Failure α) (e : Http.Ending)
    (outcome : Except Failure α) : Prop where
  /-- No success: the status is all that is reported, whatever its body and whether or not it
  came. -/
  refused : ∀ status body, e = .answered status body → Http.Status.isSuccess status = false →
    outcome = .error (.response status)
  /-- A success with all of its body is what the body decodes to. -/
  complete : ∀ status bs, e = .answered status (some bs) → Http.Status.isSuccess status = true →
    outcome = decode bs
  /-- A body that is not the document asked for is a failure to decode, and nothing else. -/
  decoding : FailsToDecode decode
  /-- An exchange that did not come to its end is a failure of transport. -/
  incomplete : NoAnswer e ∨ BreaksOff e → ∃ message, outcome = .error (.transport message)
  /-- A failure to decode comes from a complete body after a success. -/
  of_decode : ∀ reason, outcome = .error (.decode reason) →
    ∃ status bs, e = .answered status (some bs) ∧ Http.Status.isSuccess status = true ∧
      decode bs = .error (.decode reason)
  /-- So does a document. -/
  of_ok : ∀ a, outcome = .ok a →
    ∃ status bs, e = .answered status (some bs) ∧ Http.Status.isSuccess status = true ∧
      decode bs = .ok a

theorem received_breaksOff {e : Http.Ending} (h : BreaksOff e) :
    received decode r e = .error cutOff := by
  obtain ⟨status, rfl, hs⟩ := h
  rw [received, content_of_cutOff hs]
  rfl

theorem classified_received (hdecode : FailsToDecode decode) {e : Http.Ending}
    (he : ¬ BreaksOff e) : Classified decode e (received decode r e) where
  refused status body h hs := by
    rw [h, received, content_of_refusal hs]
    rfl
  complete status bs h hs := by
    rw [h, received, content_of_body hs]
    rfl
  decoding := hdecode
  incomplete h := by
    rcases h.resolve_right he with rfl | ⟨reason, rfl⟩
    · exact ⟨_, rfl⟩
    · exact ⟨reason, rfl⟩
  of_decode reason h := by
    rcases received_cases decode r e with
      ⟨-, _, heq⟩ | ⟨status, body, -, -, heq⟩ | ⟨status, hcut, hs, -⟩ | ⟨status, bs, hbody, hs, heq⟩
    · cases heq.symm.trans h
    · cases heq.symm.trans h
    · exact (he ⟨status, hcut, hs⟩).elim
    · exact ⟨status, bs, hbody, hs, heq.symm.trans h⟩
  of_ok a h := received_eq_ok.mp h

/-- A body that breaks off is what keeps an exchange from its class, and nothing else does. -/
theorem classified_received_iff (hdecode : FailsToDecode decode) {e : Http.Ending} :
    Classified decode e (received decode r e) ↔ ¬ BreaksOff e := by
  refine ⟨fun h he => ?_, classified_received hdecode⟩
  obtain ⟨message, hmessage⟩ := h.incomplete (.inr he)
  rw [received_breaksOff he] at hmessage
  cases hmessage

/--
**The ending of an exchange decides the class of what comes of it.**

For reviews and for health reports, and for every way an exchange can end: a status that
is no success is reported as it is, whatever its body and whether or not it came; a
complete body after a success is what it decodes to, and not to be a document is its only
failure; no answer is a failure of transport; and nothing but a complete body after a
success leads to a document or to a failure to decode.  There is one exception, a body that
breaks off after a success: that is a failure to decode and not one of transport.
-/
theorem exchange_classified (r : Http.Request) (e : Http.Ending) :
    (Classified decodeReview e (review r e) ↔ ¬ BreaksOff e) ∧
    (Classified decodeHealth e (health r e) ↔ ¬ BreaksOff e) ∧
    (BreaksOff e → review r e = .error cutOff ∧ health r e = .error cutOff) := by
  rw [review_eq, health_eq]
  exact ⟨classified_received_iff (failsToDecode_mapError Review.decode Review.Refusal.message),
    classified_received_iff (failsToDecode_mapError Health.ofBytes Json.Misread.message),
    fun he => ⟨received_breaksOff he, received_breaksOff he⟩⟩

/-- Code is handed in at a service on this machine, which answers with a success and breaks
off.  The exchange did not come to its end, and still it is no failure of transport. -/
theorem cut_off_is_no_transport_failure :
    let url : Url := ⟨.http, ⟨[], []⟩, .domain "localhost".toList, some 8000, ["review".toList]⟩
    let request := reviewRequest url ⟨"x", by decide⟩
    Http.Status.isSuccess 200 = true ∧
      review request (.answered 200 none) = .error (.decode "error decoding response body") ∧
      ¬ ∃ message, review request (.answered 200 none) = .error (.transport message) := by
  refine ⟨by decide, rfl, ?_⟩
  rintro ⟨message, h⟩
  cases h

end ReviewDesk.Service
