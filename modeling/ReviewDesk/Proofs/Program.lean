/-
What a run of the program comes to.

A run reads at most one input and makes at most one call, and after each there is one way
on.  So the runs fall into a few cases, told apart by what is asked of the world before the
call, and each case is one equation: the base cannot be used, there is no code to hand in,
or the call was made.  What the program reports at its end is then a matter of how the
call ended, and what was sent is a matter of the call.  What stands in the output is said
of the output itself, for either format.

That the format has no say in any of this is shown on the program itself and not on its
runs: with another format it is the same tree but for what is printed at the leaves.
-/
import ReviewDesk.Program
import ReviewDesk.Proofs.Session.Basic
import ReviewDesk.Proofs.Service.Exchange
import ReviewDesk.Proofs.Service.Endpoint
import ReviewDesk.Proofs.Http.Client
import ReviewDesk.Proofs.Display.Panel
import ReviewDesk.Proofs.Documents

namespace ReviewDesk

open Http.Status

namespace Program

variable {s : Settings} {w : World} {url : Url} {r : Request} {format : Format}

/-! ### The code that is handed in -/

/-- The input can be read, it is text, and the text is what the request hands in; that the
text is not blank is part of the request. -/
def Entered (s : Settings) (w : World) (r : Request) : Prop :=
  ∃ bs, w.input (source s) = .ok bs ∧ Text.ofBytes? bs = some r.code

theorem codeOf_eq_ok {input : Except ReadFault Bytes} {code : String} :
    codeOf input = .ok code ↔ ∃ bs, input = .ok bs ∧ Text.ofBytes? bs = some code := by
  cases input with
  | error e => simp [codeOf]
  | ok bs =>
    cases hcode : Text.ofBytes? bs with
    | none => simp [codeOf, hcode]
    | some c => simp [codeOf, hcode]

/-- The session a program opens, with the code in its input. -/
theorem edit_new (code : String) : (Session.new.edit code).1 = ⟨.idle code, 0⟩ := by
  rw [Session.edit_accepted rfl]
  rfl

theorem submit_blank {code : String} (h : Text.isBlank code = true) :
    submit format url code = fail .emptyCode := by
  have hnone : (⟨.idle code, 0⟩ : Session).submit = (⟨.idle code, 0⟩, none) :=
    Session.submit_blank h
  rw [submit, edit_new, hnone]

/-- The session takes the code, and waits for what comes of it. -/
theorem submit_request (format : Format) (url : Url) (r : Request) :
    submit format url r.code =
      .send (Service.reviewRequest url r) fun ending =>
        showPanel format (.ofState (Session.settled r.code
          (Service.review (Service.reviewRequest url r) ending))) := by
  have hsubmit : (⟨.idle r.code, 0⟩ : Session).submit
      = (⟨.submitting r.code, 0 + 1⟩, some ⟨0 + 1, r⟩) :=
    Session.submit_accepted (s := ⟨.idle r.code, 0⟩) rfl r.not_blank
  rw [submit, edit_new, hsubmit]
  rfl

theorem Entered.unique {r' : Request} (h : Entered s w r) (h' : Entered s w r') : r = r' := by
  obtain ⟨bs, hbs, hcode⟩ := h
  obtain ⟨bs', hbs', hcode'⟩ := h'
  rw [hbs] at hbs'
  cases hbs'
  rw [hcode] at hcode'
  cases r
  cases r'
  cases hcode'
  rfl

/-! ### What is printed -/

theorem shown_printed (format : Format) (p : Display.Panel) :
    Display.Panel.Shown format p (printed format p.toJson p.toText) where
  json h := by
    rw [h]
    rfl
  text h := by
    rw [h]
    rfl

/-- An output that shows how a session ended does not show one that has not. -/
theorem not_shown_of_shown {format : Format} {p : Display.Panel} {output : String}
    (h : Display.Panel.Shown format p output) (hname : p.name ∈ ["error", "review"]) :
    ¬ Display.Panel.Shown format .placeholder output ∧
      ¬ Display.Panel.Shown format .loading output := by
  constructor
  · intro h'
    rw [h.name_eq h'] at hname
    exact absurd hname (by decide)
  · intro h'
    rw [h.name_eq h'] at hname
    exact absurd hname (by decide)

/-! ### Runs that review -/

/-- A run that ended in a failure before anything was sent. -/
def gaveUp (inputs : List Source) (f : Failure) : Run :=
  ⟨⟨.failure, "", f.shown ++ "\n"⟩, inputs, []⟩

/-- A run that had code to hand in, sent this and ended with this panel. -/
def handedIn (s : Settings) (sent : List Http.Request) (status : Status) (p : Display.Panel) :
    Run :=
  ⟨⟨status, printed s.format p.toJson p.toText, ""⟩, [source s], sent⟩

theorem run_submit (format : Format) (url : Url) (r : Request) (w : World) :
    (submit format url r.code).run w =
      { (showPanel format (.ofState (Session.settled r.code
          (Service.review (Service.reviewRequest url r)
            (w.call (Service.reviewRequest url r)).ending)))).run w with
        requests := (w.call (Service.reviewRequest url r)).sent } := by
  rw [submit_request, run]
  simp only [showPanel, run, List.append_nil]

theorem run_review_of_error {f : Failure} (hcheck : s.check = false)
    (h : s.service.reviewUrl = .error f) : (ofSettings s).run w = gaveUp [] f := by
  simp only [ofSettings, hcheck, Bool.false_eq_true, if_false, review, h]
  rfl

theorem run_review_of_not_entered (hcheck : s.check = false)
    (hurl : s.service.reviewUrl = .ok url) (h : ¬ ∃ r, Entered s w r) :
    ∃ f, (ofSettings s).run w = gaveUp [source s] f := by
  simp only [ofSettings, hcheck, Bool.false_eq_true, if_false, review, hurl, run]
  cases hcode : codeOf (w.input (source s)) with
  | error f => exact ⟨f, rfl⟩
  | ok code =>
    cases hblank : Text.isBlank code with
    | true =>
      -- It was read, but the session does not take it.
      refine ⟨.emptyCode, ?_⟩
      simp only [submit_blank hblank]
      rfl
    | false => exact absurd ⟨⟨code, hblank⟩, codeOf_eq_ok.mp hcode⟩ h

section

variable (hcheck : s.check = false) (hurl : s.service.reviewUrl = .ok url) (hr : Entered s w r)
include hcheck hurl hr

theorem run_review_of_entered :
    (ofSettings s).run w = { (submit s.format url r.code).run w with inputs := [source s] } := by
  simp only [ofSettings, hcheck, Bool.false_eq_true, if_false, Program.review, hurl, run,
    codeOf_eq_ok.mpr hr, run_submit, showPanel]

theorem run_review_of_review {review : Review}
    (h : Service.review (Service.reviewRequest url r)
      (w.call (Service.reviewRequest url r)).ending = .ok review) :
    (ofSettings s).run w = handedIn s (w.call (Service.reviewRequest url r)).sent .success
      (.review (.ofReview review)) := by
  rw [run_review_of_entered hcheck hurl hr, run_submit, h]
  rfl

theorem run_review_of_failure {f : Failure}
    (h : Service.review (Service.reviewRequest url r)
      (w.call (Service.reviewRequest url r)).ending = .error f) :
    (ofSettings s).run w = handedIn s (w.call (Service.reviewRequest url r)).sent .failure
      (.error f.shown) := by
  rw [run_review_of_entered hcheck hurl hr, run_submit, h]
  rfl

end

/-- The call was made, and it ended with a success and this review. -/
def Brings (s : Settings) (w : World) (review : Review) : Prop :=
  ∃ url r status bs, s.service.reviewUrl = .ok url ∧ Entered s w r ∧
    (w.call (Service.reviewRequest url r)).ending = .answered status (some bs) ∧
    isSuccess status = true ∧ Review.decode bs = .ok review

theorem brings_iff (hurl : s.service.reviewUrl = .ok url) (hr : Entered s w r) {review : Review} :
    Brings s w review ↔ Service.review (Service.reviewRequest url r)
      (w.call (Service.reviewRequest url r)).ending = .ok review := by
  rw [Service.review_eq, Service.received_eq_ok]
  constructor
  · rintro ⟨url', r', status, bs, hurl', hr', hending, hsuccess, hdecode⟩
    rw [hurl] at hurl'
    cases hurl'
    obtain rfl := hr.unique hr'
    exact ⟨status, bs, hending, hsuccess, Service.mapError_eq_ok.mpr hdecode⟩
  · rintro ⟨status, bs, hending, hsuccess, hdecode⟩
    exact ⟨url, r, status, bs, hurl, hr, hending, hsuccess, Service.mapError_eq_ok.mp hdecode⟩

/-- The ways a run that reviews can go. -/
theorem run_review_cases (hcheck : s.check = false) (w : World) :
    (¬ ((∃ url, s.service.base = .ok url) ∧ ∃ r, Entered s w r) ∧
      ∃ inputs f, (ofSettings s).run w = gaveUp inputs f) ∨
    ∃ url r, s.service.reviewUrl = .ok url ∧ Entered s w r ∧
      let call := w.call (Service.reviewRequest url r)
      ((∃ review, Service.review (Service.reviewRequest url r) call.ending = .ok review ∧
          (ofSettings s).run w = handedIn s call.sent .success (.review (.ofReview review))) ∨
        ∃ f, Service.review (Service.reviewRequest url r) call.ending = .error f ∧
          (ofSettings s).run w = handedIn s call.sent .failure (.error f.shown)) := by
  by_cases hbase : ∃ url, s.service.base = .ok url
  · obtain ⟨url, hurl⟩ := (Service.exists_endpoint_iff "review").mpr hbase
    by_cases hentered : ∃ r, Entered s w r
    · obtain ⟨r, hr⟩ := hentered
      refine .inr ⟨url, r, hurl, hr, ?_⟩
      cases h : Service.review (Service.reviewRequest url r)
          (w.call (Service.reviewRequest url r)).ending with
      | ok review => exact .inl ⟨review, h, run_review_of_review hcheck hurl hr h⟩
      | error f => exact .inr ⟨f, h, run_review_of_failure hcheck hurl hr h⟩
    · obtain ⟨f, hrun⟩ := run_review_of_not_entered hcheck hurl hentered
      exact .inl ⟨fun h => hentered h.2, _, f, hrun⟩
  · obtain ⟨reason, hreason⟩ := Service.endpoint_error_of_not_base hbase
    exact .inl ⟨fun h => hbase h.1, _, _, run_review_of_error hcheck (hreason "review")⟩

/-- These requests are the call for this one: they are none if it cannot be sent, otherwise it
is the first of them, and it is the only one if no answer to it names another place. -/
structure Makes (w : World) (request : Http.Request) (sent : List Http.Request) : Prop where
  none_iff : sent = [] ↔ ¬ Http.isSendable request.url = true
  first : Http.isSendable request.url = true → ∃ others, sent = request :: others
  alone : Http.isSendable request.url = true → request.Stays (w.redirects request) →
    sent = [request]

theorem makes_call (w : World) (request : Http.Request) :
    Makes w request (w.call request).sent where
  none_iff := Http.Request.call_sent_eq_nil_iff
  first h := by
    rw [World.call, Http.Request.call_of_sendable h]
    exact Http.Request.exists_follow_sent ..
  alone h hstays := by
    rw [World.call, Http.Request.call_of_sendable h]
    exact hstays.follow_sent

/-- Whether anything is sent can be seen from the URL alone. -/
theorem call_sends_iff (path : String) (request : Http.Request)
    (hurl : s.service.endpoint path = .ok request.url) :
    (w.call request).sent ≠ [] ↔ (∃ url, s.service.base = .ok url) ∧
      ∀ url, s.service.endpoint path = .ok url → Http.isSendable url = true := by
  rw [Ne, (makes_call w request).none_iff, not_not]
  constructor
  · intro h
    refine ⟨(Service.exists_endpoint_iff path).mp ⟨_, hurl⟩, fun url hurl' => ?_⟩
    rw [← Except.ok.inj (hurl.symm.trans hurl')]
    exact h
  · exact fun h => h.2 _ hurl

/-- What a run comes to that is to have its input reviewed. -/
structure ReviewOutcome (s : Settings) (w : World) (run : Run) : Prop where
  /-- Something is sent exactly if the base can be used, what it leads to can be written into a
  request, and code was entered. -/
  sends_iff : run.requests ≠ [] ↔
    (∃ url, s.service.base = .ok url) ∧ (∃ r, Entered s w r) ∧
      ∀ url, s.service.reviewUrl = .ok url → Http.isSendable url = true
  /-- It is the call by which the code that was entered is handed in at the URL for reviews. -/
  sent : ∀ url r, s.service.reviewUrl = .ok url → Entered s w r →
    Makes w (Service.reviewRequest url r) run.requests
  /-- If the base cannot be used or no code was entered, nothing is sent, nothing is printed and
  the status is that of a failure. -/
  unsent : ¬ ((∃ url, s.service.base = .ok url) ∧ ∃ r, Entered s w r) →
    run.requests = [] ∧ run.result.output = "" ∧ run.result.status = .failure
  /-- The program succeeds exactly if a review came back. -/
  success_iff : run.result.status = .success ↔ ∃ review, Brings s w review
  /-- The review that came back is what is printed. -/
  review_shown : ∀ review, Brings s w review →
    Display.Panel.Shown s.format (.review (.ofReview review)) run.result.output
  /-- If none came back, what is said of the failure is printed as an error, and the status is
  that of a failure. -/
  error_shown : ∀ url r f, s.service.reviewUrl = .ok url → Entered s w r →
    Service.review (Service.reviewRequest url r)
      (w.call (Service.reviewRequest url r)).ending = .error f →
    run.result.status = .failure ∧
      Display.Panel.Shown s.format (.error f.shown) run.result.output
  /-- So it is never the panel of a session that has not started or has not ended. -/
  ended : (∃ url, s.service.base = .ok url) → (∃ r, Entered s w r) →
    ¬ Display.Panel.Shown s.format .placeholder run.result.output ∧
      ¬ Display.Panel.Shown s.format .loading run.result.output

theorem Brings.sent {review : Review} (h : Brings s w review) :
    (∃ url, s.service.base = .ok url) ∧ ∃ r, Entered s w r := by
  obtain ⟨url, r, -, -, hurl, hr, -⟩ := h
  exact ⟨(Service.exists_endpoint_iff "review").mp ⟨url, hurl⟩, r, hr⟩

theorem reviewOutcome_gaveUp {inputs : List Source} {f : Failure}
    (h : ¬ ((∃ url, s.service.base = .ok url) ∧ ∃ r, Entered s w r)) :
    ReviewOutcome s w (gaveUp inputs f) where
  sends_iff := iff_of_false (fun hne => hne rfl) fun hsent => h ⟨hsent.1, hsent.2.1⟩
  sent url r hurl hr :=
    absurd ⟨(Service.exists_endpoint_iff "review").mp ⟨url, hurl⟩, r, hr⟩ h
  unsent _ := ⟨rfl, rfl, rfl⟩
  success_iff := iff_of_false nofun fun ⟨_, hbrings⟩ => h hbrings.sent
  review_shown _ hbrings := absurd hbrings.sent h
  error_shown url r _ hurl hr :=
    absurd ⟨(Service.exists_endpoint_iff "review").mp ⟨url, hurl⟩, r, hr⟩ h
  ended hbase hr := absurd ⟨hbase, hr⟩ h

section

variable (hurl : s.service.reviewUrl = .ok url) (hr : Entered s w r)
include hurl hr

theorem same_entry {url' : Url} {r' : Request} (hurl' : s.service.reviewUrl = .ok url')
    (hr' : Entered s w r') : url' = url ∧ r' = r :=
  ⟨Except.ok.inj (hurl'.symm.trans hurl), hr'.unique hr⟩

theorem makes_handedIn (url' : Url) (r' : Request) (hurl' : s.service.reviewUrl = .ok url')
    (hr' : Entered s w r') :
    Makes w (Service.reviewRequest url' r') (w.call (Service.reviewRequest url r)).sent := by
  obtain ⟨rfl, rfl⟩ := same_entry hurl hr hurl' hr'
  exact makes_call w _

theorem sends_handedIn_iff : (w.call (Service.reviewRequest url r)).sent ≠ [] ↔
    (∃ url, s.service.base = .ok url) ∧ (∃ r, Entered s w r) ∧
      ∀ url, s.service.reviewUrl = .ok url → Http.isSendable url = true :=
  (call_sends_iff "review" (Service.reviewRequest url r) hurl).trans
    ⟨fun h => ⟨h.1, ⟨r, hr⟩, h.2⟩, fun h => ⟨h.1, h.2.2⟩⟩

theorem reviewOutcome_review {review : Review}
    (h : Service.review (Service.reviewRequest url r)
      (w.call (Service.reviewRequest url r)).ending = .ok review) :
    ReviewOutcome s w (handedIn s (w.call (Service.reviewRequest url r)).sent .success
      (.review (.ofReview review))) where
  sends_iff := sends_handedIn_iff hurl hr
  sent := makes_handedIn hurl hr
  unsent hnot := absurd ((brings_iff hurl hr).mpr h).sent hnot
  success_iff := iff_of_true rfl ⟨review, (brings_iff hurl hr).mpr h⟩
  review_shown review' h' := by
    cases h.symm.trans ((brings_iff hurl hr).mp h')
    exact shown_printed ..
  error_shown url' r' f hurl' hr' h' := by
    obtain ⟨rfl, rfl⟩ := same_entry hurl hr hurl' hr'
    cases h.symm.trans h'
  ended _ _ := not_shown_of_shown (shown_printed ..) (by simp [Display.Panel.name])

theorem reviewOutcome_error {f : Failure}
    (h : Service.review (Service.reviewRequest url r)
      (w.call (Service.reviewRequest url r)).ending = .error f) :
    ReviewOutcome s w (handedIn s (w.call (Service.reviewRequest url r)).sent .failure
      (.error f.shown)) where
  sends_iff := sends_handedIn_iff hurl hr
  sent := makes_handedIn hurl hr
  unsent hnot :=
    absurd ⟨(Service.exists_endpoint_iff "review").mp ⟨url, hurl⟩, r, hr⟩ hnot
  success_iff := by
    refine iff_of_false nofun ?_
    rintro ⟨review, hbrings⟩
    cases h.symm.trans ((brings_iff hurl hr).mp hbrings)
  review_shown review hbrings := by
    cases h.symm.trans ((brings_iff hurl hr).mp hbrings)
  error_shown url' r' f' hurl' hr' h' := by
    obtain ⟨rfl, rfl⟩ := same_entry hurl hr hurl' hr'
    cases h.symm.trans h'
    exact ⟨rfl, shown_printed ..⟩
  ended _ _ := not_shown_of_shown (shown_printed ..) (by simp [Display.Panel.name])

end

theorem reviewOutcome (hcheck : s.check = false) (w : World) :
    ReviewOutcome s w ((ofSettings s).run w) := by
  rcases run_review_cases hcheck w with
    ⟨hnot, inputs, f, hrun⟩ | ⟨url, r, hurl, hr, ⟨review, h, hrun⟩ | ⟨f, h, hrun⟩⟩
  · rw [hrun]
    exact reviewOutcome_gaveUp hnot
  · rw [hrun]
    exact reviewOutcome_review hurl hr h
  · rw [hrun]
    exact reviewOutcome_error hurl hr h

/-! ### Runs that check -/

/-- The service was asked how it is, and the call ended with a success and a report of good
health. -/
def FoundHealthy (s : Settings) (w : World) : Prop :=
  ∃ url status bs h, s.service.healthUrl = .ok url ∧
    (w.call (Service.healthRequest url)).ending = .answered status (some bs) ∧
    isSuccess status = true ∧ Health.ofBytes bs = .ok h ∧ h.isHealthy = true

/-- What a run comes to that is only to ask the service how it is. -/
structure CheckOutcome (s : Settings) (w : World) (run : Run) : Prop where
  /-- Nothing is read. -/
  inputs : run.inputs = []
  /-- Something is sent exactly if the base can be used and what it leads to can be written into
  a request. -/
  sends_iff : run.requests ≠ [] ↔ (∃ url, s.service.base = .ok url) ∧
    ∀ url, s.service.healthUrl = .ok url → Http.isSendable url = true
  /-- It is the call by which a report is asked for at the URL for that. -/
  sent : ∀ url, s.service.healthUrl = .ok url → Makes w (Service.healthRequest url) run.requests
  /-- If the base cannot be used, nothing is sent and nothing is printed. -/
  unsent : (¬ ∃ url, s.service.base = .ok url) → run.requests = [] ∧ run.result.output = ""
  /-- The program succeeds exactly if the service is found to be well; -/
  success_iff : run.result.status = .success ↔ FoundHealthy s w
  /-- in every other case the status is that of a failure. -/
  failure : ¬ FoundHealthy s w → run.result.status = .failure

theorem run_check_of_error {f : Failure} (hcheck : s.check = true)
    (h : s.service.healthUrl = .error f) : (ofSettings s).run w = gaveUp [] f := by
  simp only [ofSettings, hcheck, if_true, check, h]
  rfl

/-- The status that a report leads to. -/
def checkStatus : Except Failure Health → Status
  | .error _ => .failure
  | .ok h => if h.isHealthy then .success else .failure

theorem checkStatus_cases (report : Except Failure Health) :
    (checkStatus report = .success ∧ ∃ h, report = .ok h ∧ h.isHealthy = true) ∨
    (checkStatus report = .failure ∧ ¬ ∃ h, report = .ok h ∧ h.isHealthy = true) := by
  cases report with
  | error f => exact .inr ⟨rfl, nofun⟩
  | ok h =>
    cases hhealthy : h.isHealthy with
    | true => exact .inl ⟨by simp only [checkStatus, hhealthy, if_true], h, rfl, hhealthy⟩
    | false =>
      refine .inr ⟨by simp only [checkStatus, hhealthy, Bool.false_eq_true, if_false], ?_⟩
      rintro ⟨h', ⟨⟩, hhealthy'⟩
      exact Bool.false_ne_true (hhealthy.symm.trans hhealthy')

theorem run_check_of_ok (hcheck : s.check = true) (hurl : s.service.healthUrl = .ok url) :
    ∃ result : Result,
      (ofSettings s).run w = ⟨result, [], (w.call (Service.healthRequest url)).sent⟩ ∧
      result.status = checkStatus (Service.health (Service.healthRequest url)
        (w.call (Service.healthRequest url)).ending) := by
  simp only [ofSettings, hcheck, if_true, check, hurl, run]
  cases Service.health (Service.healthRequest url) (w.call (Service.healthRequest url)).ending with
  | error f =>
    simp only [fail, run, List.append_nil]
    exact ⟨_, rfl, rfl⟩
  | ok h =>
    simp only [showHealth, run, List.append_nil]
    exact ⟨_, rfl, rfl⟩

theorem foundHealthy_iff (hurl : s.service.healthUrl = .ok url) :
    FoundHealthy s w ↔ ∃ h, Service.health (Service.healthRequest url)
      (w.call (Service.healthRequest url)).ending = .ok h ∧ h.isHealthy = true := by
  simp only [Service.health_eq, Service.received_eq_ok]
  constructor
  · rintro ⟨url', status, bs, h, hurl', hending, hsuccess, hread, hhealthy⟩
    rw [hurl] at hurl'
    cases hurl'
    exact ⟨h, ⟨status, bs, hending, hsuccess, Service.mapError_eq_ok.mpr hread⟩, hhealthy⟩
  · rintro ⟨h, ⟨status, bs, hending, hsuccess, hread⟩, hhealthy⟩
    exact ⟨url, status, bs, h, hurl, hending, hsuccess, Service.mapError_eq_ok.mp hread, hhealthy⟩

theorem foundHealthy_of_status (hurl : s.service.healthUrl = .ok url) {status : Status}
    (hstatus : status = checkStatus (Service.health (Service.healthRequest url)
      (w.call (Service.healthRequest url)).ending)) :
    (status = .success ↔ FoundHealthy s w) ∧ (¬ FoundHealthy s w → status = .failure) := by
  rcases checkStatus_cases (Service.health (Service.healthRequest url)
      (w.call (Service.healthRequest url)).ending) with ⟨hresult, hfound⟩ | ⟨hresult, hnot⟩
  · rw [← foundHealthy_iff hurl] at hfound
    exact ⟨iff_of_true (hstatus.trans hresult) hfound, fun h => absurd hfound h⟩
  · rw [← foundHealthy_iff hurl] at hnot
    rw [hstatus, hresult]
    exact ⟨iff_of_false nofun hnot, fun _ => rfl⟩

theorem checkOutcome_of_ok (hcheck : s.check = true) (hurl : s.service.healthUrl = .ok url) :
    CheckOutcome s w ((ofSettings s).run w) := by
  obtain ⟨result, hrun, hstatus⟩ := run_check_of_ok (w := w) hcheck hurl
  obtain ⟨hsuccess, hfailure⟩ := foundHealthy_of_status hurl hstatus
  rw [hrun]
  exact {
    inputs := rfl
    sends_iff := call_sends_iff "health" (Service.healthRequest url) hurl
    sent := fun url' hurl' => by
      rw [Except.ok.inj (hurl'.symm.trans hurl)]
      exact makes_call w _
    unsent := fun h => absurd ((Service.exists_endpoint_iff "health").mp ⟨url, hurl⟩) h
    success_iff := hsuccess
    failure := hfailure }

theorem checkOutcome_of_not_base (hcheck : s.check = true)
    (hbase : ¬ ∃ url, s.service.base = .ok url) : CheckOutcome s w ((ofSettings s).run w) := by
  obtain ⟨reason, hreason⟩ := Service.endpoint_error_of_not_base hbase
  have hurl : ∀ url, s.service.healthUrl ≠ .ok url := fun url hurl =>
    hbase ((Service.exists_endpoint_iff "health").mp ⟨url, hurl⟩)
  rw [run_check_of_error hcheck (hreason "health")]
  exact {
    inputs := rfl
    sends_iff := iff_of_false (fun hne => hne rfl) fun h => hbase h.1
    sent := fun url h => absurd h (hurl url)
    unsent := fun _ => ⟨rfl, rfl⟩
    success_iff := iff_of_false nofun fun ⟨url, _, _, _, h, _⟩ => hurl url h
    failure := fun _ => rfl }

theorem checkOutcome (hcheck : s.check = true) (w : World) :
    CheckOutcome s w ((ofSettings s).run w) := by
  by_cases hbase : ∃ url, s.service.base = .ok url
  · obtain ⟨url, hurl⟩ := (Service.exists_endpoint_iff "health").mpr hbase
    exact checkOutcome_of_ok hcheck hurl
  · exact checkOutcome_of_not_base hcheck hbase

/-! ### Programs that differ in what they print -/

/-- Two programs that ask the world the same and end with the same status and complaint,
whatever they are answered. -/
inductive Alike : Program → Program → Prop
  | finish {r r' : Result} (hstatus : r.status = r'.status) (hcomplaint : r.complaint = r'.complaint) :
      Alike (.finish r) (.finish r')
  | read {source : Source} {next next' : Except ReadFault Bytes → Program}
      (h : ∀ input, Alike (next input) (next' input)) : Alike (.read source next) (.read source next')
  | send {request : Http.Request} {next next' : Http.Ending → Program}
      (h : ∀ ending, Alike (next ending) (next' ending)) :
      Alike (.send request next) (.send request next')

/-- Two runs that differ at most in what was printed. -/
structure SameBut (run run' : Run) : Prop where
  status : run.result.status = run'.result.status
  complaint : run.result.complaint = run'.result.complaint
  inputs : run.inputs = run'.inputs
  requests : run.requests = run'.requests

theorem Alike.run {p p' : Program} (h : Alike p p') (w : World) :
    SameBut (p.run w) (p'.run w) := by
  induction h with
  | finish hstatus hcomplaint => exact ⟨hstatus, hcomplaint, rfl, rfl⟩
  | @read source _ _ _ ih =>
    obtain ⟨hstatus, hcomplaint, hinputs, hrequests⟩ := ih (w.input source)
    exact ⟨hstatus, hcomplaint, congrArg (source :: ·) hinputs, hrequests⟩
  | @send request _ _ _ ih =>
    obtain ⟨hstatus, hcomplaint, hinputs, hrequests⟩ := ih (w.call request).ending
    exact ⟨hstatus, hcomplaint, hinputs, congrArg ((w.call request).sent ++ ·) hrequests⟩

theorem alike_refl : (p : Program) → Alike p p
  | .finish _ => .finish rfl rfl
  | .read _ next => .read fun input => alike_refl (next input)
  | .send _ next => .send fun ending => alike_refl (next ending)

/-- The service is not told the format. -/
theorem service_format (s : Settings) (format : Format) :
    { s with format }.service = s.service := rfl

theorem alike_check (s : Settings) (format : Format) :
    Alike (check { s with format }) (check s) := by
  rw [check, check, service_format]
  cases s.service.healthUrl with
  | error f => exact alike_refl _
  | ok url =>
    refine .send fun ending => ?_
    cases Service.health (Service.healthRequest url) ending with
    | error f => exact alike_refl _
    | ok h => exact .finish rfl rfl

theorem alike_submit (format format' : Format) (url : Url) (code : String) :
    Alike (submit format url code) (submit format' url code) := by
  cases hblank : Text.isBlank code with
  | true =>
    rw [submit_blank hblank, submit_blank hblank]
    exact alike_refl _
  | false =>
    have hsubmit := fun f => submit_request f url ⟨code, hblank⟩
    rw [hsubmit format, hsubmit format']
    exact .send fun _ => .finish rfl rfl

theorem alike_review (s : Settings) (format : Format) :
    Alike (review { s with format }) (review s) := by
  rw [review, review, service_format]
  cases s.service.reviewUrl with
  | error f => exact alike_refl _
  | ok url =>
    refine .read fun input => ?_
    cases codeOf input with
    | error f => exact alike_refl _
    | ok code => exact alike_submit format s.format url code

theorem alike_format (s : Settings) (format : Format) :
    Alike (ofSettings { s with format }) (ofSettings s) := by
  unfold ofSettings
  cases hcheck : s.check with
  | true => simpa [hcheck] using alike_check s format
  | false => simpa [hcheck] using alike_review s format

/-! ### All runs -/

/--
**A run ends as the call did.**

Whatever the settings, the input and the service: a run that is to review makes one call, to
hand in what was entered, if the base can be used and the input is text that is not blank;
in every other case it sends nothing, prints nothing and fails.  A call starts with the one
request and ends with it if no answer names another place; only a URL that cannot be
written into a request has nothing sent.  What is printed after a call is the review that
came back, and then the program succeeds, or what is said of the failure, and then it
fails.  A run that is to check reads nothing, makes one call if the base can be used, and
succeeds exactly if a success brought a report of good health.  The format has no part in
the status or in what is read and sent.
-/
theorem run_ends_as_exchange (s : Settings) (w : World) :
    (s.check = false → ReviewOutcome s w ((ofSettings s).run w)) ∧
    (s.check = true → CheckOutcome s w ((ofSettings s).run w)) ∧
    ∀ format, SameBut ((ofSettings { s with format }).run w) ((ofSettings s).run w) :=
  ⟨fun hcheck => reviewOutcome hcheck w, fun hcheck => checkOutcome hcheck w,
    fun format => (alike_format s format).run w⟩

/-- A world in which every input holds some code, and the service answers everything with a
success and this document. -/
def answering (document : Bytes) : World where
  input _ := .ok (Text.bytes " fn main() {}\n")
  service _ := .answered 201 (some document)

/-- The code in every input of that world. -/
def someCode : Request := ⟨" fn main() {}\n", by decide⟩

theorem entered_answering (s : Settings) (document : Bytes) :
    Entered s (answering document) someCode :=
  ⟨_, rfl, Text.ofBytes?_bytes _⟩

/-- The URL for reviews, if nothing is set up. -/
def defaultReviewUrl : Url :=
  ⟨.http, ⟨[], []⟩, .domain "localhost".toList, some 8000, ["review".toList]⟩

theorem isSendable_defaultReviewUrl : Http.isSendable defaultReviewUrl = true := by
  decide +kernel

theorem call_answering (document : Bytes) :
    (answering document).call (Service.reviewRequest defaultReviewUrl someCode)
      = ⟨[Service.reviewRequest defaultReviewUrl someCode], .answered 201 (some document)⟩ :=
  Http.Request.call_nil isSendable_defaultReviewUrl

theorem run_ends_as_exchange_answered :
    let review : Review := ⟨"Looks fine", ["\"\\"], none, some "rust", none, some 0⟩
    let document := Text.bytes review.toJson.compact
    (Settings.default.check = false ∧
      ((ofSettings Settings.default).run (answering document)).result.status = .success) ∧
    ({ Settings.default with check := true }.check = true ∧
      ((ofSettings { Settings.default with check := true }).run (answering document)).inputs = []) := by
  intro review document
  have hdecode : Review.decode document = .ok review :=
    (Review.readsBothForms rfl (by rintro m ⟨⟩)).1
  have hreview := (run_ends_as_exchange Settings.default (answering document)).1 rfl
  have hcheck := (run_ends_as_exchange { Settings.default with check := true } (answering document)).2.1 rfl
  have hbrings : Brings Settings.default (answering document) review :=
    ⟨defaultReviewUrl, someCode, 201, document, rfl, entered_answering _ _,
      congrArg Http.Call.ending (call_answering document),
      by decide, hdecode⟩
  exact ⟨⟨rfl, hreview.success_iff.mpr ⟨review, hbrings⟩⟩, rfl, hcheck.inputs⟩

/-- A URL for reviews of which no request can be made. -/
def unsendableReviewUrl : Url :=
  ⟨.http, ⟨[], []⟩, .domain "a`b".toList, none, ["review".toList]⟩

theorem not_isSendable_unsendableReviewUrl : ¬ Http.isSendable unsendableReviewUrl = true := by
  decide +kernel

/-- There are bases that can be used and of which no request can be made, so that code is
entered and nothing is sent; and an answer that names another place has the code handed in
once more. -/
theorem requests_none_and_two :
    let s : Settings := { Settings.default with apiUrl := "http://a`b" }
    let run := (ofSettings s).run (answering [])
    let elsewhere : Url := { defaultReviewUrl with port := some 8001 }
    let w : World := { answering [] with redirects := fun _ => [⟨307, some [], elsewhere⟩] }
    (s.check = false ∧ (∃ url, s.service.base = .ok url) ∧ (∃ r, Entered s (answering []) r) ∧
      run.requests = [] ∧ run.result = ⟨.failure,
        "Error\nbuilder error for url (http://a`b/review)\n", ""⟩) ∧
    (Settings.default.check = false ∧
      ((ofSettings Settings.default).run w).requests
        = [.post defaultReviewUrl someCode.body, .post elsewhere someCode.body]) := by
  intro s run elsewhere w
  constructor
  · have hurl : s.service.reviewUrl = .ok unsendableReviewUrl := by
      show (⟨"http://a`b"⟩ : Service).reviewUrl = _
      rfl
    have hcall : (answering []).call (Service.reviewRequest unsendableReviewUrl someCode)
        = ⟨[], _⟩ :=
      Http.Request.call_of_not_sendable not_isSendable_unsendableReviewUrl
    have hfailure : Service.review (Service.reviewRequest unsendableReviewUrl someCode)
        ((answering []).call (Service.reviewRequest unsendableReviewUrl someCode)).ending
          = .error (.transport "builder error for url (http://a`b/review)") := by
      rw [hcall]
      rfl
    have hrun : (ofSettings s).run (answering []) = _ :=
      run_review_of_failure rfl hurl (entered_answering s []) hfailure
    have hbase : ∃ url, s.service.base = .ok url :=
      (Service.exists_endpoint_iff "review").mp ⟨_, hurl⟩
    exact ⟨rfl, hbase, ⟨_, entered_answering s []⟩,
      (congrArg Run.requests hrun).trans (congrArg Http.Call.sent hcall),
      (congrArg Run.result hrun).trans rfl⟩
  · have hurl : Settings.default.service.reviewUrl = .ok defaultReviewUrl := rfl
    have hentered : Entered Settings.default w someCode := ⟨_, rfl, Text.ofBytes?_bytes _⟩
    have hcall : w.call (Service.reviewRequest defaultReviewUrl someCode) = _ :=
      Http.Request.call_of_sendable isSendable_defaultReviewUrl
    refine ⟨rfl, ?_⟩
    rw [run_review_of_entered rfl hurl hentered, run_submit, hcall]
    rfl

end Program

end ReviewDesk
