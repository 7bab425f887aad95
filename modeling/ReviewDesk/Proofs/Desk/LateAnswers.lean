/-
Late answers do not interfere.

An answer is late if the desk was cleared after its call was made.  Take two runs of the
same actions, but for the late answers: these may say something else in the other run,
come earlier or later or not at all, and may fall between any two steps.  Whoever does
not look at them cannot tell the runs apart.

Each run is compared with the run of what is left when its late answers are dropped.
The two desks then agree in all but the calls that were cleared away, which is `Agree`,
and a step that is no answer to such a call cannot see these.
-/
import ReviewDesk.Proofs.Desk.Calls
import ReviewDesk.Proofs.Desk.Overdue
import ReviewDesk.Proofs.Desk.Mirror

namespace ReviewDesk.Desk

/-- The step answers a call that was cleared away. -/
def Step.isLate (past : List Step) (s : Step) : Bool :=
  match s.action with
  | .settle id _ => cleared id past
  | _ => false

/-- The steps of a run less the late answers, given what was before it. -/
def timelySteps (past : List Step) : List Step → List Step
  | [] => []
  | s :: later =>
    if s.isLate past then timelySteps (past ++ [s]) later
    else s :: timelySteps (past ++ [s]) later

theorem timelySteps_append (past k l : List Step) :
    timelySteps past (k ++ l) = timelySteps past k ++ timelySteps (past ++ k) l := by
  induction k generalizing past with
  | nil => simp [timelySteps]
  | cons s k ih =>
      rw [List.cons_append, timelySteps, timelySteps, ih, List.append_assoc]
      cases s.isLate past <;> rfl

/-- What there is to see at a desk. -/
structure View where
  state : Session.State
  controls : Controls
  display : Display.Panel
  sent : List String

/-- All there is to see of a desk. -/
def view (d : Desk) : View :=
  ⟨d.state, d.controls, d.display, d.sent⟩

/-- What there is to see of a step.  Whoever walks away from a call gets no answer. -/
structure Step.Seen where
  action : Action
  answer : Option Answer
  view : View

/-- What there is to see of this step. -/
def Step.seen (s : Step) : Step.Seen where
  action := s.action
  answer :=
    match s.action with
    | .abandon _ => none
    | _ => some s.answer
  view := s.after.view

/-! ### Desks that agree but for the calls cleared away -/

/-- After the steps `h` at `d`, the desks agree in all but the calls cleared away. -/
def Agree (h : List Step) (d e : Desk) : Prop :=
  Mirrors 0 [] (fun id => cleared id h) d e

variable {h : List Step} {d e : Desk} {s : Step} {a : Action} {as : List Action}

theorem Agree.refl (h : List Step) (d : Desk) : Agree h d d :=
  Mirrors.zero_iff.mpr ⟨rfl, rfl, fun _ _ => rfl⟩

theorem Agree.snoc (hag : Agree h d e) (s : Step) : Agree (h ++ [s]) d e := by
  refine Mirrors.mono hag fun id hc => ?_
  rw [cleared_snoc, hc, Bool.true_or]

theorem Agree.view_eq (hag : Agree h d e) : d.view = e.view := by
  unfold view
  rw [hag.state_eq, hag.controls_eq, hag.display_eq, hag.sent, List.nil_append]

/-- A step that answers no call cleared away keeps the desks in agreement and looks the
same at both. -/
theorem Agree.step (hag : Agree h d e)
    (ha : ∀ id o, a = .settle id o → cleared id h = false) :
    Agree h (d.step a).1 (e.step a).1 ∧ (d.stepOf a).seen = (e.stepOf a).seen := by
  have hag' : Agree h (d.step a).1 (e.step a).1 := by
    have hstep := Mirrors.step hag ha
    rwa [List.length_nil, Action.later_zero] at hstep
  refine ⟨hag', ?_⟩
  -- Only walking away tells whether a call that was cleared away is still out.
  by_cases habandon : ∃ id, a = .abandon id
  · obtain ⟨id, rfl⟩ := habandon
    simp only [Step.seen, stepOf, ReviewDesk.stepOf, hag'.view_eq]
  · have hanswer : (d.step a).2 = (e.step a).2 := by
      have hold : ∀ id, a.call? = some id → cleared id h = false := by
        intro id hid
        cases a with
        | settle i o =>
            cases hid
            exact ha id o rfl
        | abandon i => exact absurd ⟨i, rfl⟩ habandon
        | _ => cases hid
      have hstep := Mirrors.step_answer hag hold
      rwa [List.length_nil, Action.later_zero, Answer.later_zero] at hstep
    simp only [Step.seen, stepOf, ReviewDesk.stepOf, hag'.view_eq, hanswer]

/-! ### Runs without their late answers -/

theorem Step.settle_of_isLate (hlate : s.isLate h = true) :
    ∃ id o, s.action = .settle id o ∧ cleared id h = true := by
  unfold isLate at hlate
  split at hlate
  · next id o ha => exact ⟨id, o, ha, hlate⟩
  · cases hlate

theorem not_cleared_of_not_isLate (hlate : (d.stepOf a).isLate h = false) (id : Nat)
    (o : Outcome) (ha : a = .settle id o) : cleared id h = false := by
  subst ha
  exact hlate

/-- A late answer leaves all as it was but for its own call. -/
theorem History.late_frame (past : History h s.before) (hm : Move s)
    (ht : Timely (h ++ [s])) (hlate : s.isLate h = true) :
    s.after.session = s.before.session ∧ s.after.sent = s.before.sent ∧
      ∀ j, cleared j h = false → s.after.call? j = s.before.call? j := by
  obtain ⟨id, o, ha, hc⟩ := Step.settle_of_isLate hlate
  have hcall : s.action.call? = some id := by rw [ha]; rfl
  obtain ⟨hsession, hsent, hcalls⟩ :=
    hm.frame hcall (past.not_applied hm ht hcall fun _ => hc)
  refine ⟨hsession, hsent, fun j hj => hcalls j ?_⟩
  rintro rfl
  rw [hc] at hj
  cases hj

theorem Agree.late (hag : Agree h d e) (past : History h d)
    (ht : Timely (h ++ [d.stepOf a])) (hlate : (d.stepOf a).isLate h = true) :
    Agree h (d.step a).1 e := by
  obtain ⟨hsession, hsent, hcalls⟩ := past.late_frame (move_step d a) ht hlate
  obtain ⟨hsession', hsent', hcalls'⟩ := Mirrors.zero_iff.mp hag
  exact Mirrors.zero_iff.mpr ⟨hsession.trans hsession', hsent.trans hsent',
    fun j hj => (hcalls j hj).trans (hcalls' j hj)⟩

/-- What is seen of a run but for its late answers is what is seen of the run that does
without them. -/
theorem Agree.timelySteps_seen (hag : Agree h d e) (past : History h d)
    (ht : Timely (h ++ d.steps as)) :
    (timelySteps h (d.steps as)).map Step.seen
        = (e.steps ((timelySteps h (d.steps as)).map Step.action)).map Step.seen ∧
      (d.run as).1.view
        = (e.run ((timelySteps h (d.steps as)).map Step.action)).1.view := by
  induction as generalizing h d e with
  | nil => exact ⟨rfl, hag.view_eq⟩
  | cons a as ih =>
      rw [steps_cons, List.append_cons] at ht
      have past' := past.snoc (move_step d a)
      rw [steps_cons, timelySteps]
      by_cases hlate : (d.stepOf a).isLate h = true
      · rw [if_pos hlate]
        exact ih ((hag.late past ht.of_append hlate).snoc _) past' ht
      · rw [if_neg hlate]
        obtain ⟨hag', hseen⟩ :=
          hag.step (not_cleared_of_not_isLate (Bool.eq_false_iff.mpr hlate))
        obtain ⟨hrest, hview⟩ := ih (hag'.snoc _) past' ht
        refine ⟨?_, hview⟩
        rw [List.map_cons, List.map_cons, hrest, hseen]
        rfl

/--
**Late answers do not interfere.**

Two runs of the same actions, but for the answers to calls that were cleared away, look
the same step by step and at their ends, and a late answer leaves what there is to see
as it was.  What the late answers say, where they come and whether they come at all has
no part in it.
-/
theorem late_answers_do_not_interfere (as bs : List Action)
    (ha : Timely (new.steps as)) (hb : Timely (new.steps bs))
    (hsame : (timelySteps [] (new.steps as)).map Step.action
      = (timelySteps [] (new.steps bs)).map Step.action) :
    (timelySteps [] (new.steps as)).map Step.seen
        = (timelySteps [] (new.steps bs)).map Step.seen ∧
      (new.run as).1.view = (new.run bs).1.view ∧
      (∀ older s later, new.steps as = older ++ s :: later → s.isLate older = true →
        s.after.view = s.before.view) := by
  obtain ⟨hseen, hview⟩ := (Agree.refl [] new).timelySteps_seen .nil ha
  obtain ⟨hseen', hview'⟩ := (Agree.refl [] new).timelySteps_seen .nil hb
  refine ⟨?_, ?_, ?_⟩
  · rw [hseen, hseen', hsame]
  · rw [hview, hview', hsame]
  · intro older s later hh hlate
    obtain ⟨past, hm⟩ := (history_steps as).before hh
    rw [hh, List.append_cons] at ha
    obtain ⟨hsession, hsent, -⟩ := past.late_frame hm ha.of_append hlate
    unfold view controls display state
    rw [hsession, hsent]

/-- The late answer comes before the same code is submitted again. -/
def answeredBefore : List Action :=
  [.setCode "x", .submit, .clear, .settle 0 (.error .unknown), .setCode "x", .submit]

/-- The late answer is another one and comes while the same code is out again. -/
def answeredDuring : List Action :=
  [.setCode "x", .submit, .clear, .setCode "x", .submit, .settle 0 (.error .emptyCode)]

theorem late_answers_do_not_interfere_same_code :
    Timely (new.steps answeredBefore) ∧ Timely (new.steps answeredDuring) ∧
      (timelySteps [] (new.steps answeredBefore)).map Step.action
        = (timelySteps [] (new.steps answeredDuring)).map Step.action ∧
      (new.run answeredBefore).1.view = (new.run answeredDuring).1.view := by
  have hbefore : Timely (new.steps answeredBefore) := timely_of_advances_lt (by decide)
  have hduring : Timely (new.steps answeredDuring) := timely_of_advances_lt (by decide)
  have hsame : (timelySteps [] (new.steps answeredBefore)).map Step.action
      = (timelySteps [] (new.steps answeredDuring)).map Step.action := rfl
  exact ⟨hbefore, hduring, hsame,
    (late_answers_do_not_interfere _ _ hbefore hduring hsame).2.1⟩

/-- An overdue run and the same with an answer to the call that was cleared away: the
answer is late, and still all can see that it came. -/
theorem overdue_answer_interferes :
    let as := overdue (UInt64.size - 2)
    let bs := as ++ [.settle 0 (.error .unknown)]
    (timelySteps [] (new.steps as)).map Step.action
        = (timelySteps [] (new.steps bs)).map Step.action ∧
      (new.run as).1.view ≠ (new.run bs).1.view := by
  intro as bs
  constructor
  · have hlate : ((new.run as).1.stepOf (.settle 0 (.error .unknown))).isLate (new.steps as)
        = true := cleared_overdue _
    rw [steps_append, timelySteps_append, steps_cons, timelySteps, List.nil_append, if_pos hlate]
    simp [timelySteps]
  · intro hview
    rw [run_snoc, overdue_applied, run_overdue] at hview
    cases congrArg View.state hview

end ReviewDesk.Desk
