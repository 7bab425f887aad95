/-
A failed session says something.

What is shown of a failure is never blank.  Most texts are fixed, or begin with fixed
words; the only one that is somebody else's is the message of a broken connection, and it
is shown as it is exactly if there is something in it besides blanks.

A session is in a failure after an answer that failed and was taken, with nothing changed
since, and then only.  One direction is what the state rests on (`History.justified`); the
other is `History.settled_of_tookAnswer`, where a second answer cannot be taken because the
session does not wait for one any more.

Failures that are `Masked` differ in what they carry and not in what is shown.  The desk
takes from an outcome only the state it leads to, so it does the same with either, from
then on as well.
-/
import ReviewDesk.Proofs.Desk.Shown
import ReviewDesk.Proofs.Display.Document

namespace ReviewDesk

open Json

/-- There is something in the text besides blanks. -/
def Text.Says (s : String) : Prop :=
  ∃ c ∈ s.toList, Text.isBlankChar c = false

/-! ### What is shown of a failure -/

namespace Text

theorem says_iff {s : String} : Says s ↔ isBlank s = false := by
  simp [Says, isBlank]

theorem says_append {s : String} (h : isBlank s = false) (s' : String) : Says (s ++ s') := by
  obtain ⟨c, hc, hblank⟩ := says_iff.mpr h
  exact ⟨c, by simp [hc], hblank⟩

end Text

namespace Failure

/-- Two failures that are shown alike, whatever each of them carries. -/
inductive Masked : Failure → Failure → Prop
  | response (status status' : Nat) : Masked (.response status) (.response status')
  | decode (reason reason' : String) : Masked (.decode reason) (.decode reason')
  | unknown : Masked .unknown .unknown
  | transport {message message' : String} (h : Text.isBlank message = true)
      (h' : Text.isBlank message' = true) : Masked (.transport message) (.transport message')

theorem shown_transport {message : String} (h : Text.Says message) :
    (transport message).shown = message := by
  have hblank : Text.isBlank message = false := Text.says_iff.mp h
  simp [shown, hblank]

theorem shown_transport_blank {message : String} (h : Text.isBlank message = true) :
    (transport message).shown = shown .unknown := by
  simp [shown, h]

theorem shown_masked {f f' : Failure} (h : f.Masked f') : f.shown = f'.shown := by
  cases h with
  | transport h h' => rw [shown_transport_blank h, shown_transport_blank h']
  | _ => rfl

theorem says_shown (f : Failure) : Text.Says f.shown := by
  cases f with
  | transport message =>
      by_cases hblank : Text.isBlank message = true
      · rw [shown_transport_blank hblank]
        exact Text.says_iff.mpr (by decide)
      · have hspoken : Text.Says message := Text.says_iff.mpr (by simpa using hblank)
        rwa [shown_transport hspoken]
  | io reason =>
      show Text.Says ("IO error: " ++ reason)
      exact Text.says_append (by decide) reason
  | json reason =>
      show Text.Says ("JSON serialization error: " ++ reason)
      exact Text.says_append (by decide) reason
  | config reason =>
      show Text.Says ("Configuration error: " ++ reason)
      exact Text.says_append (by decide) reason
  | response status =>
      show Text.Says "Something went wrong with the review request."
      exact Text.says_iff.mpr (by decide)
  | decode reason =>
      show Text.Says "The review service returned an invalid response."
      exact Text.says_iff.mpr (by decide)
  | emptyCode => exact Text.says_iff.mpr (by decide)
  | unknown => exact Text.says_iff.mpr (by decide)

end Failure

/-! ### The panel of an error -/

namespace Display.Panel

/-- The document of a panel that says this is of this tree. -/
def errorTree (message : String) : Tree :=
  .object [(some "panel", .text (some "error")), (some "message", .text (some message))]

/-- The panel is that of an error, and its message is this in every form it is put out in. -/
structure Carries (p : Panel) (message : String) : Prop where
  view : p = .error message
  text : p.toText = "Error\n" ++ message ++ "\n"
  compact : ∀ v, TreeDocument v (Text.bytes p.toJson.compact) ↔ v = errorTree message
  spread : ∀ v, TreeDocument v (Text.bytes p.toJson.spread) ↔ v = errorTree message

theorem carries_error (message : String) : (error message).Carries message := by
  have hprinted := (error message).isPrinted
  have htree : (error message).toJson.tree = errorTree message := by
    simp [toJson, members, name, tree, errorTree]
  have hcompact := treeDocument_compact hprinted
  have hspread := treeDocument_spread hprinted
  rw [htree] at hcompact hspread
  refine ⟨rfl, ?_, fun v => hcompact.eq_iff, fun v => hspread.eq_iff⟩
  rw [String.ext_iff]
  simp [toText, chars, line]

end Display.Panel

namespace Desk

open Text (Says)

/-! ### The answer a state comes from -/

variable {h : List Step} {d : Desk} {id : Nat} {o : Outcome}

/-- An answer that was taken is what the session shows for as long as all is quiet. -/
theorem History.settled_of_tookAnswer (past : History h d) (htook : TookAnswer id o h) :
    ∃ code, d.state = Session.settled code o := by
  induction past with
  | nil => exact absurd htook since_nil
  | @snoc h s past hm ih =>
      rcases since_snoc.mp htook with ⟨haction, hanswer⟩ | ⟨htook, hquiet⟩
      · cases hm with
        | @applied d id c o' hcall hexp =>
            cases haction
            exact ⟨d.state.code, rfl⟩
        | superseded => cases hanswer
        | settleGone => cases hanswer
        | _ => cases haction
      · obtain ⟨code, hstate⟩ := ih htook
        cases hm with
        | edit => cases hquiet
        | call => cases hquiet
        | clear => cases hquiet
        | @applied d id' c o' hcall hexp =>
            -- The session does not wait for an answer, so none is taken.
            have hbusy : d.state.isSubmitting = true := hexp.2
            rw [hstate, Session.settled_isSubmitting] at hbusy
            cases hbusy
        | _ => exact ⟨code, hstate⟩

theorem message_of_tookAnswer (as : List Action) {f : Failure}
    (htook : TookAnswer id (.error f) (new.steps as)) :
    (new.run as).1.state.message? = some f.shown := by
  obtain ⟨code, hstate⟩ := (history_steps as).settled_of_tookAnswer htook
  rw [hstate]
  rfl

theorem tookAnswer_of_failure {as : List Action} {code message : String}
    (hstate : (new.run as).1.state = .failure code message) :
    ∃ id f, TookAnswer id (.error f) (new.steps as) ∧ message = f.shown := by
  have hj := (history_steps as).justified
  rw [hstate] at hj
  obtain ⟨-, f, ⟨id, htook, -⟩, hmessage⟩ := hj
  exact ⟨id, f, htook, hmessage⟩

/-! ### What a failure carries and does not show -/

/-- The same action, or the same call answered with failures that are shown alike. -/
inductive Action.Masked : Action → Action → Prop
  | same (a : Action) : Action.Masked a a
  | settle (id : Nat) {f f' : Failure} (h : f.Masked f') :
      Action.Masked (.settle id (.error f)) (.settle id (.error f'))

theorem step_masked ⦃a a' : Action⦄ (h : a.Masked a') (d : Desk) : d.step a = d.step a' := by
  cases h with
  | same => rfl
  | settle id h =>
      apply settle_congr
      intro code
      exact congrArg (Session.State.failure code) (Failure.shown_masked h)

/--
**A failed session always says something.**

Whenever a session is in a failure, its message has a character that is not blank, and the
panel, its text and both its documents carry that message.  It is what is shown of the
failure that a call was answered with, where nothing has changed at the desk since.  A
connection that says why it broke is quoted word for word.  What a refused, an unreadable or
an unknown answer carries, and a connection that says nothing, makes no difference to
anything: two runs that differ in no more give the same answers and the same desk.
-/
theorem failure_says_something :
    (∀ (as : List Action) (code message : String),
      (new.run as).1.state = .failure code message →
        Says message ∧ (new.run as).1.display.Carries message ∧
          ∃ id f, TookAnswer id (.error f) (new.steps as) ∧ message = f.shown) ∧
    (∀ (as : List Action) (id : Nat) (message : String),
      TookAnswer id (.error (.transport message)) (new.steps as) → Says message →
        (new.run as).1.state.message? = some message) ∧
    (∀ (d : Desk) (as as' : List Action), List.Forall₂ Action.Masked as as' →
      d.run as = d.run as') := by
  refine ⟨?_, ?_, fun d as as' h => runOf_congr step_masked h d⟩
  · intro as code message hstate
    obtain ⟨id, f, htook, hmessage⟩ := tookAnswer_of_failure hstate
    have hpanel : (new.run as).1.display = .error message := by
      unfold display
      rw [hstate]
      rfl
    refine ⟨?_, ?_, id, f, htook, hmessage⟩
    · rw [hmessage]
      exact f.says_shown
    · rw [hpanel]
      exact Display.Panel.carries_error message
  · intro as id message htook hspoken
    rw [message_of_tookAnswer as htook, Failure.shown_transport hspoken]

/-- Code is entered and handed in, and the call for it fails. -/
def failing (f : Failure) : List Action :=
  [.setCode "x", .submit, .settle 0 (.error f)]

theorem tookAnswer_failing (f : Failure) : TookAnswer 0 (.error f) (new.steps (failing f)) := by
  have hsteps := steps_append new [.setCode "x", .submit] [.settle 0 (.error f)]
  rw [show failing f = [.setCode "x", .submit] ++ [.settle 0 (.error f)] from rfl, hsteps]
  exact since_snoc.mpr (.inl ⟨rfl, rfl⟩)

/-- A connection that broke without a word, one that says why, and two statuses. -/
theorem failure_says_something_each :
    (Says (Failure.shown .unknown) ∧
      (new.run (failing (.transport "\u2003\u0085"))).1.display.Carries (Failure.shown .unknown)) ∧
    (new.run (failing (.transport "\u200b"))).1.state.message? = some "\u200b" ∧
    new.run (failing (.response 418)) = new.run (failing (.response 503)) := by
  obtain ⟨hspeaks, hverbatim, hmasked⟩ := failure_says_something
  have hstate : (new.run (failing (.transport "\u2003\u0085"))).1.state
      = .failure "x" (Failure.shown .unknown) := rfl
  obtain ⟨hspoken, hcarries, -⟩ := hspeaks _ _ _ hstate
  refine ⟨⟨hspoken, hcarries⟩, ?_, ?_⟩
  · exact hverbatim _ 0 "\u200b" (tookAnswer_failing _) (Text.says_iff.mpr (by decide))
  · exact hmasked _ _ _ (.cons (.same _) (.cons (.same _) (.cons (.settle 0 (.response _ _)) .nil)))

end Desk

end ReviewDesk
