/-
What becomes of tickets.

A ticket can be copied and brought back any number of times, and taking one does not
move the generation.  That each ticket is taken once at most, and only the latest at
all, rests on two things together: generations of tickets increase, and a session that
is submitting has not yet taken the ticket that made it so.  `Ledger` is the invariant
that holds them: it compares the session with the list of tickets it has handed out.

Both need the generation not to have started over, and both are about the session's own
tickets: of somebody else's tickets nothing is known.
-/
import ReviewDesk.Proofs.Session.Step

namespace ReviewDesk.Session

/-! ### What the record says -/

/-- The ticket that a step handed out. -/
def Step.issued? (st : Step) : Option Ticket :=
  match st.answer with
  | .submitted ticket => ticket
  | _ => none

/-- The ticket whose outcome became the state. -/
def Step.taken? (st : Step) : Option Ticket :=
  match st.action, st.answer with
  | .resolve t _, .resolved .applied => some t
  | _, _ => none

def Step.isClear (st : Step) : Bool :=
  match st.action with
  | .clear => true
  | _ => false

/-- The tickets handed out, one for each submission that was accepted, in order. -/
def issued (h : List Step) : List Ticket :=
  h.filterMap Step.issued?

/-- The tickets taken, in order. -/
def taken (h : List Step) : List Ticket :=
  h.filterMap Step.taken?

/-- How often the session was cleared. -/
def clears (h : List Step) : Nat :=
  h.countP Step.isClear

/-- Every ticket that was brought back had been handed out before. -/
def OwnTickets (h : List Step) : Prop :=
  ∀ older st later t o, h = older ++ st :: later → st.action = .resolve t o → t ∈ issued older

variable {h k : List Step} {s : Session} {st : Step} {t : Ticket}

theorem issued_snoc : issued (h ++ [st]) = issued h ++ st.issued?.toList := by
  unfold issued
  rw [List.filterMap_append]
  cases hst : st.issued? <;> simp [hst]

theorem taken_snoc : taken (h ++ [st]) = taken h ++ st.taken?.toList := by
  unfold taken
  rw [List.filterMap_append]
  cases hst : st.taken? <;> simp [hst]

theorem clears_snoc : clears (h ++ [st]) = clears h + if st.isClear then 1 else 0 := by
  unfold clears
  rw [List.countP_append, List.countP_singleton]

theorem OwnTickets.of_append (hown : OwnTickets (h ++ k)) : OwnTickets h := by
  intro older st later t o hh ha
  exact hown older st (later ++ k) t o (by simp [hh]) ha

theorem ownTickets_nil : OwnTickets [] := by
  intro older st later t o hh
  simp at hh

theorem OwnTickets.last (hown : OwnTickets (h ++ [st])) {o : Outcome}
    (ha : st.action = .resolve t o) : t ∈ issued h :=
  hown h st [] t o rfl ha

theorem OwnTickets.snoc (hown : OwnTickets h)
    (hst : ∀ t o, st.action = .resolve t o → t ∈ issued h) : OwnTickets (h ++ [st]) := by
  intro older x later t o hh ha
  rcases snoc_eq_iff.mp hh with ⟨rfl, rfl, -⟩ | ⟨later', -, rfl⟩
  · exact hst t o ha
  · exact hown older x later' t o rfl ha

/-- How far a step moves the generation. -/
def Step.moved (st : Step) : Nat :=
  st.issued?.toList.length + if st.isClear then 1 else 0

/-- How far the generation has moved. -/
def moved (h : List Step) : Nat :=
  (issued h).length + clears h

theorem moved_append : moved (h ++ k) = moved h + moved k := by
  unfold moved issued clears
  rw [List.filterMap_append, List.length_append, List.countP_append]
  omega

theorem moved_snoc : moved (h ++ [st]) = moved h + st.moved := by
  unfold moved Step.moved
  rw [issued_snoc, clears_snoc, List.length_append]
  omega

/-! ### One step -/

namespace Move

theorem generation (hm : Move st) :
    st.after.generation = st.before.generation + UInt64.ofNat st.moved := by
  cases hm <;> simp [Step.moved, Step.issued?, Step.isClear]

/-- A ticket that is handed out moves the generation to its own, and the session waits
for what it stands for. -/
theorem issued (hm : Move st) (hst : st.issued? = some t) :
    st.moved = 1 ∧ t.generation = st.after.generation ∧
      st.after.state = .submitting t.request.code ∧ st.taken? = none := by
  cases hm with
  | submit r hidle =>
      cases hst
      exact ⟨rfl, rfl, rfl, rfl⟩
  | _ => simp [Step.issued?] at hst

theorem taken (hm : Move st) (hst : st.taken? = some t) :
    (∃ o, st.action = .resolve t o) ∧ st.before.Expects t ∧ st.issued? = none ∧
      st.after.state.isSubmitting = false ∧
      st.after.state.code = st.before.state.code := by
  cases hm with
  | applied o hexp =>
      cases hst
      exact ⟨⟨o, rfl⟩, hexp, rfl, settled_isSubmitting _ o, settled_code _ o⟩
  | _ => simp [Step.taken?] at hst

/-- A session that goes on waiting is left as it was. -/
theorem quiet (hm : Move st) (hissued : st.issued? = none)
    (hbusy : st.after.state.isSubmitting = true) : st.after = st.before := by
  cases hm with
  | submit r hidle => cases hissued
  | edit code hidle => simp at hbusy
  | applied o hexp => simp at hbusy
  | clear => simp at hbusy
  | _ => rfl

end Move

/-! ### Generations of tickets -/

/-- What the generation of `s` has to do with its tickets after the steps `h`. -/
structure Numbered (h : List Step) (s : Session) : Prop where
  /-- The generation counts what moved it. -/
  generation : s.generation.toNat = moved h
  /-- A later ticket has a later generation. -/
  increasing : (issued h).Pairwise fun t u => t.generation < u.generation
  /-- No ticket is ahead of the session. -/
  le : ∀ t ∈ issued h, t.generation ≤ s.generation

theorem Numbered.generation_snoc (ok : Numbered h st.before) (hm : Move st)
    (hb : moved (h ++ [st]) < UInt64.size) :
    st.after.generation.toNat = moved (h ++ [st]) := by
  rw [moved_snoc] at hb ⊢
  have hmoved : (UInt64.ofNat st.moved).toNat = st.moved :=
    UInt64.toNat_ofNat_of_lt' (by omega)
  rw [hm.generation, UInt64.toNat_add, hmoved, ok.generation]
  exact Nat.mod_eq_of_lt hb

theorem Numbered.snoc (ok : Numbered h st.before) (hm : Move st)
    (hb : moved (h ++ [st]) < UInt64.size) : Numbered (h ++ [st]) st.after := by
  have hgen := ok.generation_snoc hm hb
  -- How far the tickets so far are behind is how far the step moves.
  have hbehind : ∀ t ∈ issued h, t.generation.toNat + st.moved ≤ st.after.generation.toNat := by
    intro t ht
    have hle := UInt64.le_iff_toNat_le.mp (ok.le t ht)
    rw [hgen, moved_snoc, ← ok.generation]
    omega
  refine ⟨hgen, ?_, ?_⟩
  · rw [issued_snoc, List.pairwise_append]
    refine ⟨ok.increasing, by cases st.issued? <;> simp, ?_⟩
    intro t ht u hu
    obtain ⟨hmoved, hu, -⟩ := hm.issued (Option.mem_toList.mp hu)
    have hlt := hbehind t ht
    rw [UInt64.lt_iff_toNat_lt, hu]
    omega
  · intro t ht
    rw [issued_snoc] at ht
    rcases List.mem_append.mp ht with ht | ht
    · have hle := hbehind t ht
      rw [UInt64.le_iff_toNat_le]
      omega
    · rw [(hm.issued (Option.mem_toList.mp ht)).2.1]
      exact UInt64.le_refl _

/-! ### Tickets that are taken -/

/-- What `s` has taken of its tickets after the steps `h`. -/
structure Ledger (h : List Step) (s : Session) : Prop where
  numbered : Numbered h s
  /-- Tickets are taken in the order in which they were handed out. -/
  taken : (taken h).Sublist (issued h)
  /-- A session that is submitting has not taken its last ticket, and holds its code. -/
  waiting : s.state.isSubmitting = true →
    ∃ earlier last, issued h = earlier ++ [last] ∧ (Session.taken h).Sublist earlier ∧
      last.generation = s.generation ∧ last.request.code = s.state.code

/-- Of its own tickets a session expects none but the last. -/
theorem Ledger.expected_is_last (ok : Ledger h s) (ht : t ∈ issued h) (hexp : s.Expects t) :
    ∃ earlier, issued h = earlier ++ [t] ∧ (Session.taken h).Sublist earlier ∧
      t.request.code = s.state.code := by
  obtain ⟨earlier, last, hissued, htaken, hgen, hcode⟩ := ok.waiting hexp.2
  have hlast : t = last := by
    have hincreasing := ok.numbered.increasing
    rw [hissued] at ht hincreasing
    rcases List.mem_append.mp ht with ht | ht
    · have hlt := (List.pairwise_append.mp hincreasing).2.2 t ht last (by simp)
      rw [hgen, hexp.1] at hlt
      exact absurd hlt (UInt64.lt_irrefl _)
    · exact List.mem_singleton.mp ht
  subst hlast
  exact ⟨earlier, hissued, htaken, hcode⟩

/-- A ticket that is taken is the last one handed out, and none before it is taken
later. -/
theorem Ledger.of_taken (ok : Ledger h st.before) (hm : Move st)
    (hown : OwnTickets (h ++ [st])) (hst : st.taken? = some t) :
    ∃ earlier, issued h = earlier ++ [t] ∧ (Session.taken h).Sublist earlier ∧
      st.after.state.code = t.request.code := by
  obtain ⟨⟨o, ha⟩, hexp, -, -, hafter⟩ := hm.taken hst
  obtain ⟨earlier, hlast, htaken, hcode⟩ := ok.expected_is_last (hown.last ha) hexp
  exact ⟨earlier, hlast, htaken, hafter.trans hcode.symm⟩

theorem Ledger.taken_snoc (ok : Ledger h st.before) (hm : Move st)
    (hown : OwnTickets (h ++ [st])) :
    (Session.taken (h ++ [st])).Sublist (issued (h ++ [st])) := by
  rw [Session.taken_snoc, issued_snoc]
  cases hst : st.taken? with
  | none =>
      rw [Option.toList_none, List.append_nil]
      exact ok.taken.trans (List.sublist_append_left _ _)
  | some t =>
      obtain ⟨earlier, hlast, htaken, -⟩ := ok.of_taken hm hown hst
      rw [(hm.taken hst).2.2.1, hlast, Option.toList_none, List.append_nil]
      exact htaken.append (List.Sublist.refl _)

theorem Ledger.waiting_snoc (ok : Ledger h st.before) (hm : Move st)
    (hbusy : st.after.state.isSubmitting = true) :
    ∃ earlier last, issued (h ++ [st]) = earlier ++ [last] ∧
      (Session.taken (h ++ [st])).Sublist earlier ∧
      last.generation = st.after.generation ∧ last.request.code = st.after.state.code := by
  rw [issued_snoc, Session.taken_snoc]
  cases hissued : st.issued? with
  | some t =>
      obtain ⟨-, hgen, hstate, htaken⟩ := hm.issued hissued
      refine ⟨issued h, t, rfl, ?_, hgen, by rw [hstate]; rfl⟩
      rw [htaken, Option.toList_none, List.append_nil]
      exact ok.taken
  | none =>
      have htaken : st.taken? = none := by
        refine Option.eq_none_iff_forall_ne_some.mpr fun t hst => ?_
        rw [(hm.taken hst).2.2.2.1] at hbusy
        cases hbusy
      have hafter := hm.quiet hissued hbusy
      rw [htaken, Option.toList_none, List.append_nil, List.append_nil, hafter]
      rw [hafter] at hbusy
      exact ok.waiting hbusy

theorem History.ledger (past : History h s) (hown : OwnTickets h)
    (hb : moved h < UInt64.size) : Ledger h s := by
  induction past with
  | nil => exact ⟨⟨rfl, .nil, by simp [issued]⟩, by simp [taken], by simp [new]⟩
  | @snoc h st past hm ih =>
      have hb' : moved h < UInt64.size := by
        rw [moved_append] at hb
        omega
      have ok := ih hown.of_append hb'
      exact ⟨ok.numbered.snoc hm hb, ok.taken_snoc hm hown, ok.waiting_snoc hm⟩

/--
**Each ticket is taken once at most, and only while it is the latest.**

The generation counts submissions that were accepted and clears; so tickets have
increasing generations, and no two have the same.  No ticket is among those taken more
than once, however often it is brought back.  A ticket that is taken is the one handed
out last, and the code beside its outcome is the code of its request.  The tickets must
be the session's own, and the generation must not have started over.
-/
theorem tickets_taken_once (as : List Action) (hown : OwnTickets (new.steps as))
    (hb : (issued (new.steps as)).length + clears (new.steps as) < UInt64.size) :
    (new.run as).1.generation.toNat
        = (issued (new.steps as)).length + clears (new.steps as) ∧
      ((issued (new.steps as)).map Ticket.generation).Pairwise (· < ·) ∧
      (taken (new.steps as)).Nodup ∧
      (∀ older st later t o, new.steps as = older ++ st :: later →
        st.action = .resolve t o → st.answer = .resolved .applied →
          (issued older).getLast? = some t ∧ st.after.state.code = t.request.code) := by
  have past := history_steps as
  have ok := past.ledger hown hb
  have hincreasing := ok.numbered.increasing
  refine ⟨ok.numbered.generation, List.pairwise_map.mpr hincreasing, ?_, ?_⟩
  · refine ok.taken.nodup (hincreasing.imp ?_)
    rintro t u hlt rfl
    exact UInt64.lt_irrefl _ hlt
  · intro older st later t o hh ha hanswer
    obtain ⟨past', hm⟩ := past.before hh
    have hst : st.taken? = some t := by simp [Step.taken?, ha, hanswer]
    have hle : moved older ≤ moved (new.steps as) := by
      rw [hh, moved_append]
      exact Nat.le_add_right _ _
    rw [hh, List.append_cons] at hown
    have hown' := hown.of_append
    have ok' := past'.ledger hown'.of_append (Nat.lt_of_le_of_lt hle hb)
    obtain ⟨earlier, hlast, -, hcode⟩ := ok'.of_taken hm hown' hst
    exact ⟨by simp [hlast], hcode⟩

theorem not_blank_x : Text.isBlank "x" = false := by decide

/-- The ticket of a submission of "x". -/
def ticketFor (generation : UInt64) : Ticket :=
  ⟨generation, "x", not_blank_x⟩

/-- The first ticket is brought back twice more, while the second is out and after the
second was taken. -/
def broughtBack : List Action :=
  [.edit "x", .submit, .resolve (ticketFor 1) (.error .unknown), .submit,
    .resolve (ticketFor 1) (.error .emptyCode), .resolve (ticketFor 2) (.error .unknown),
    .resolve (ticketFor 1) (.error .unknown)]

theorem ownTickets_broughtBack : OwnTickets (new.steps broughtBack) := by
  refine ((((((ownTickets_nil.snoc ?_).snoc ?_).snoc ?_).snoc ?_).snoc ?_).snoc ?_).snoc ?_ <;>
    intro t o ha <;> cases ha
  · exact List.mem_cons_self
  · exact List.mem_cons_self
  · exact List.mem_cons_of_mem _ List.mem_cons_self
  · exact List.mem_cons_self

theorem tickets_taken_once_brought_back :
    OwnTickets (new.steps broughtBack) ∧
      (issued (new.steps broughtBack)).length + clears (new.steps broughtBack)
        < UInt64.size ∧
      taken (new.steps broughtBack) = [ticketFor 1, ticketFor 2] ∧
      (taken (new.steps broughtBack)).Nodup := by
  have hown := ownTickets_broughtBack
  have hb : (issued (new.steps broughtBack)).length + clears (new.steps broughtBack)
      < UInt64.size := by decide
  exact ⟨hown, hb, rfl, (tickets_taken_once broughtBack hown hb).2.2.1⟩

end ReviewDesk.Session
