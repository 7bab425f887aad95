/-
What one call sends.

A call sends nothing or starts with its own request, and that is for the URL alone to
decide.  Whether there is more than the one request is for the first answer to decide: if
it does not send the client elsewhere, there is not.  The redirects in a call are taken one
by one, so all of this is by one case split on them, and only the bound on how many
requests there can be needs an induction.
-/
import ReviewDesk.Http.Client

namespace ReviewDesk.Http

variable {r : Request} {d : Redirect} {ds : List Redirect} {e : Ending} {left : Nat}

/-- The first of these answers, if there is one, does not send the client elsewhere. -/
def Request.Stays (r : Request) (ds : List Redirect) : Prop :=
  ∀ d ∈ ds.head?, r.redirected? d = none

instance (r : Request) (ds : List Redirect) : Decidable (r.Stays ds) :=
  inferInstanceAs (Decidable (∀ d ∈ ds.head?, r.redirected? d = none))

namespace Request

theorem follow_of_redirected_none (h : r.redirected? d = none) :
    r.follow e left (d :: ds) = ⟨[r], .answered d.status d.body⟩ := by
  simp only [follow, h]

theorem follow_of_redirected_zero {next : Request} (h : r.redirected? d = some next) :
    r.follow e 0 (d :: ds) = ⟨[r], .failed (Error.redirect r).text⟩ := by
  simp only [follow, h]

theorem follow_of_redirected_succ {next : Request} (h : r.redirected? d = some next) :
    r.follow e (left + 1) (d :: ds)
      = ⟨r :: (next.follow e left ds).sent, (next.follow e left ds).ending.reportedOf next⟩ := by
  simp only [follow, h]

theorem exists_follow_sent (r : Request) (e : Ending) (left : Nat) (ds : List Redirect) :
    ∃ others, (r.follow e left ds).sent = r :: others := by
  cases ds with
  | nil => exact ⟨[], rfl⟩
  | cons d ds =>
      cases h : r.redirected? d with
      | none => exact ⟨[], by rw [follow_of_redirected_none h]⟩
      | some next =>
          cases left with
          | zero => exact ⟨[], by rw [follow_of_redirected_zero h]⟩
          | succ left => exact ⟨_, by rw [follow_of_redirected_succ h]⟩

theorem Stays.follow_sent (h : r.Stays ds) : (r.follow e left ds).sent = [r] := by
  cases ds with
  | nil => rfl
  | cons d ds => rw [follow_of_redirected_none (h d rfl)]

/-- Nobody is sent elsewhere more often than is allowed. -/
theorem length_follow_sent_le (r : Request) (e : Ending) (left : Nat) (ds : List Redirect) :
    (r.follow e left ds).sent.length ≤ left + 1 := by
  induction ds generalizing r left with
  | nil => simp [follow]
  | cons d ds ih =>
      cases h : r.redirected? d with
      | none => simp [follow_of_redirected_none h]
      | some next =>
          cases left with
          | zero => simp [follow_of_redirected_zero h]
          | succ left =>
              rw [follow_of_redirected_succ h]
              exact Nat.succ_le_succ (ih next left)

theorem call_of_sendable (h : isSendable r.url = true) :
    r.call ds e = r.follow e maxRedirects ds := by
  rw [call, if_pos h]

theorem call_of_not_sendable (h : ¬ isSendable r.url = true) :
    r.call ds e = ⟨[], .failed (Error.builder r).text⟩ := by
  rw [call, if_neg h]

/-- If no answer names another place, the call is the one exchange. -/
theorem call_nil (h : isSendable r.url = true) : r.call [] e = ⟨[r], e⟩ := by
  rw [call_of_sendable h]
  rfl

theorem call_sent_eq_nil_iff : (r.call ds e).sent = [] ↔ ¬ isSendable r.url = true := by
  by_cases h : isSendable r.url = true
  · obtain ⟨others, hothers⟩ := exists_follow_sent r e maxRedirects ds
    simp [call_of_sendable h, hothers, h]
  · simp [call_of_not_sendable h, h]

/-- A call has no more requests than that. -/
theorem length_call_sent_le (r : Request) (ds : List Redirect) (e : Ending) :
    (r.call ds e).sent.length ≤ maxRedirects + 1 := by
  by_cases h : isSendable r.url = true
  · rw [call_of_sendable h]
    exact length_follow_sent_le r e maxRedirects ds
  · simp [call_of_not_sendable h]

/-- A document that is handed in with some statuses is handed in once more. -/
example (url url' : Url) (document : Bytes) (e : Ending) (h : isSendable url = true) :
    ((post url document).call [⟨307, some [], url'⟩] e).sent
      = [post url document, post url' document] := by
  rw [call_of_sendable (r := post url document) h]
  rfl

end Request

end ReviewDesk.Http
