/-
What a record makes of a tree.

Each field comes with the meaning of its reader, and then a record has a meaning too: the
row of what its fields make of the items of a list in their order, or of the members of an
object by their keys.  Members are read one at a time into a draft; since no two fields have
one key, each field is filled on its own, and what it comes to is told by the values at its
key alone (`Row.ofMembers`).  That no order is in this, and no member with another key, is
what makes an object mean the same however it is laid out.
-/
import ReviewDesk.Proofs.Json.Members

namespace ReviewDesk.Json

open Reader

/-! ### What a record can be taken for -/

structure Field.Meaning (f : Field) where
  of : Tree → Option f.Value
  means : f.read.Means of

/-- A meaning for every field. -/
def Meanings : List Field → Type
  | [] => Unit
  | f :: fs => f.Meaning × Meanings fs

/-- The values of the members with this key. -/
def valuesAt (k : String) (ms : List Tree.Member) : List Tree :=
  ms.filterMap fun m => if m.1 = some k then some m.2 else none

/-- What a field comes to when these are the values at its key. -/
def Field.ofValues (f : Field) (g : f.Meaning) : List Tree → Option f.Value
  | [] => f.absent
  | [v] => g.of v
  | _ :: _ :: _ => none

/-- The row of an object.  A key that stands for no characters spoils it, whichever fields
there are. -/
def Row.ofMembers : (fs : List Field) → Meanings fs → List Tree.Member → Option (Row fs)
  | [], _, ms => if ms.all fun m => m.1.isSome then some () else none
  | f :: fs, (g, gs), ms =>
    (f.ofValues g (valuesAt f.key ms)).bind fun w =>
      (Row.ofMembers fs gs ms).map fun row => (w, row)

/-- The row of a list. -/
def Row.ofItems : (fs : List Field) → Meanings fs → List Tree → Option (Row fs)
  | [], _, [] => some ()
  | [], _, _ :: _ => none
  | f :: fs, (_, gs), [] =>
    f.omitted.bind fun w => (Row.ofItems fs gs []).map fun row => (w, row)
  | _ :: fs, (g, gs), v :: vs =>
    (g.of v).bind fun w => (Row.ofItems fs gs vs).map fun row => (w, row)

/-- The row of a tree, which is a list or an object. -/
def Tree.row? (fs : List Field) (gs : Meanings fs) : Tree → Option (Row fs)
  | .list vs => Row.ofItems fs gs vs
  | .object ms => Row.ofMembers fs gs ms
  | _ => none

theorem valuesAt_cons_self {k : String} {v : Tree} {ms : List Tree.Member} :
    valuesAt k ((some k, v) :: ms) = v :: valuesAt k ms := by
  simp [valuesAt]

theorem valuesAt_cons_ne {k : String} {m : Tree.Member} {ms : List Tree.Member}
    (h : m.1 ≠ some k) : valuesAt k (m :: ms) = valuesAt k ms := by
  simp [valuesAt, h]

/-! ### Filling a draft -/

/-- What a field is filled with when another member follows. -/
def Field.put (f : Field) (g : f.Meaning) (w : Option f.Value) (m : Tree.Member) :
    Option (Option f.Value) :=
  if m.1 = some f.key then
    match w with
    | some _ => none
    | none => (g.of m.2).map some
  else some w

/-- Every field on its own. -/
def Draft.put : (fs : List Field) → Meanings fs → Draft fs → Tree.Member → Option (Draft fs)
  | [], _, _, m => if m.1.isSome then some () else none
  | f :: fs, (g, gs), (w, rest), m =>
    (f.put g w m).bind fun w => (Draft.put fs gs rest m).map fun rest => (w, rest)

/-- A key that no field has leaves the draft as it is. -/
theorem Draft.put_of_not_mem {fs : List Field} (gs : Meanings fs) (d : Draft fs) {k : String}
    (v : Tree) (h : k ∉ fs.map Field.key) : Draft.put fs gs d (some k, v) = some d := by
  induction fs with
  | nil => rfl
  | cons f fs ih =>
      obtain ⟨g, gs⟩ := gs
      obtain ⟨w, rest⟩ := d
      obtain ⟨hf, hfs⟩ : k ≠ f.key ∧ k ∉ fs.map Field.key := by simpa using h
      have hput : f.put g w (some k, v) = some w := if_neg fun heq => hf (Option.some.inj heq)
      rw [Draft.put, hput, ih gs rest hfs]
      rfl

theorem Draft.put_unnamed {fs : List Field} (gs : Meanings fs) (d : Draft fs) (v : Tree) :
    Draft.put fs gs d (none, v) = none := by
  induction fs with
  | nil => rfl
  | cons f fs ih =>
      obtain ⟨g, gs⟩ := gs
      obtain ⟨w, rest⟩ := d
      rw [Draft.put, ih gs rest]
      cases f.put g w (none, v) <;> rfl

theorem Draft.member?_eq_none {fs : List Field} {k : String} {d : Draft fs} :
    Draft.member? fs k d = none ↔ k ∉ fs.map Field.key := by
  induction fs with
  | nil => simp [Draft.member?]
  | cons f fs ih =>
      obtain ⟨w, rest⟩ := d
      by_cases hk : k = f.key
      · cases w <;> simp [Draft.member?, hk]
      · simp [Draft.member?, hk, ih]

/-- A known key is read into its field. -/
theorem Draft.means_member? {fs : List Field} (gs : Meanings fs)
    (hfs : (fs.map Field.key).Nodup) {k : String} {d : Draft fs} {read : Reader (Draft fs)}
    (h : Draft.member? fs k d = some read) :
    read.MeansEntry fun v => Draft.put fs gs d (some k, v) := by
  induction fs with
  | nil => cases h
  | cons f fs ih =>
      obtain ⟨g, gs⟩ := gs
      obtain ⟨w, rest⟩ := d
      obtain ⟨hf, hfs⟩ := List.nodup_cons.mp hfs
      by_cases hk : k = f.key
      · subst hk
        have hrest : ∀ v, Draft.put fs gs rest (some f.key, v) = some rest :=
          fun v => Draft.put_of_not_mem gs rest v hf
        cases w with
        | some w =>
            -- The key is there already: the reader fails before it has looked at the value.
            simp only [Draft.member?, if_true, Option.some.injEq] at h
            subst h
            simp only [Draft.put, Field.put, if_true, Option.bind_none]
            exact ⟨fun _ _ _ _ _ _ _ _ _ => rfl, fun _ _ _ hrun => (never_fail _ hrun).elim⟩
        | none =>
            simp only [Draft.member?, if_true, Option.some.injEq] at h
            subst h
            have hput : ∀ v, Draft.put (f :: fs) (g, gs) (none, rest) (some f.key, v) =
                (g.of v).map fun w => (some w, rest) := by
              intro v
              simp only [Draft.put, Field.put, if_true, hrest]
              cases g.of v <;> rfl
            simp only [hput]
            exact (g.means.map _).entry
      · simp only [Draft.member?, if_neg hk, Option.map_eq_some_iff] at h
        obtain ⟨read', hread', rfl⟩ := h
        have hput : ∀ v, Draft.put (f :: fs) (g, gs) (w, rest) (some k, v) =
            (Draft.put fs gs rest (some k, v)).map fun rest => (w, rest) := by
          intro v
          have hne : (some k, v).1 ≠ some f.key := fun heq => hk (Option.some.inj heq)
          simp only [Draft.put, Field.put, if_neg hne, Option.bind_some]
          rfl
        simp only [hput]
        exact (ih gs hfs hread').map _

theorem Draft.adds {fs : List Field} (gs : Meanings fs) (hfs : (fs.map Field.key).Nodup) :
    Adds (Draft.member fs) (Draft.put fs gs) where
  named k d := by
    rw [Draft.member]
    cases hmember : Draft.member? fs k d with
    | some read => exact Draft.means_member? gs hfs hmember
    | none =>
        have hput : ∀ v, Draft.put fs gs d (some k, v) = some d := fun v =>
          Draft.put_of_not_mem gs d v (Draft.member?_eq_none.mp hmember)
        simp only [hput]
        exact (means_skipValue.map fun _ => d).entry
  unnamed d v := Draft.put_unnamed gs d v

/-! ### The finished draft -/

section

variable {f : Field} {fs : List Field} (g : f.Meaning) (gs : Meanings fs)

/-- Every field is filled on its own, also by all members together. -/
theorem Draft.foldlM_cons (ms : List Tree.Member) (w : Option f.Value) (rest : Draft fs) :
    ms.foldlM (Draft.put (f :: fs) (g, gs)) (w, rest) =
      (ms.foldlM (f.put g) w).bind fun w =>
        (ms.foldlM (Draft.put fs gs) rest).map fun rest => (w, rest) := by
  induction ms generalizing w rest with
  | nil => rfl
  | cons m ms ih =>
      show (((f.put g w m).bind fun w => (Draft.put fs gs rest m).map fun rest => (w, rest)).bind
          fun d => ms.foldlM (Draft.put (f :: fs) (g, gs)) d) =
        ((f.put g w m).bind fun w => ms.foldlM (f.put g) w).bind fun w =>
          ((Draft.put fs gs rest m).bind fun rest => ms.foldlM (Draft.put fs gs) rest).map
            fun rest => (w, rest)
      cases f.put g w m with
      | none => rfl
      | some w' =>
          cases Draft.put fs gs rest m with
          | some rest' => exact ih w' rest'
          | none =>
              -- The other fields refused this member, whatever comes of the first field.
              show none = (ms.foldlM (f.put g) w').bind fun _ => none
              cases ms.foldlM (f.put g) w' <;> rfl

/-- A field that is filled stays filled, and is not filled again. -/
theorem Field.foldlM_filled (ms : List Tree.Member) (w : f.Value) :
    ms.foldlM (f.put g) (some w) = if valuesAt f.key ms = [] then some (some w) else none := by
  induction ms with
  | nil => rfl
  | cons m ms ih =>
      obtain ⟨k, v⟩ := m
      rw [List.foldlM_cons]
      by_cases hk : k = some f.key
      · subst hk
        rw [valuesAt_cons_self, if_neg (List.cons_ne_nil _ _), Field.put, if_pos rfl]
        rfl
      · rw [valuesAt_cons_ne hk, Field.put, if_neg hk]
        exact ih

theorem Field.foldlM_values (ms : List Tree.Member) :
    ((ms.foldlM (f.put g) none).bind fun w => w <|> f.absent) =
      f.ofValues g (valuesAt f.key ms) := by
  induction ms with
  | nil => rfl
  | cons m ms ih =>
      obtain ⟨k, v⟩ := m
      rw [List.foldlM_cons]
      by_cases hk : k = some f.key
      · subst hk
        rw [valuesAt_cons_self, Field.put, if_pos rfl]
        cases hv : g.of v with
        | none =>
            cases valuesAt f.key ms with
            | nil => exact hv.symm
            | cons => rfl
        | some w =>
            show ((ms.foldlM (f.put g) (some w)).bind fun w => w <|> f.absent) = _
            rw [Field.foldlM_filled]
            cases valuesAt f.key ms with
            | nil => exact hv.symm
            | cons => rfl
      · rw [valuesAt_cons_ne hk, Field.put, if_neg hk]
        exact ih

end

theorem Draft.finish_cons {f : Field} {fs : List Field} (w : Option f.Value) (rest : Draft fs) :
    (Draft.finish (f :: fs) (w, rest)).toOption =
      (w <|> f.absent).bind fun w => (Draft.finish fs rest).toOption.map fun row => (w, row) := by
  rw [Draft.finish]
  cases w <|> f.absent with
  | none => rfl
  | some w => cases Draft.finish fs rest <;> rfl

/-- What an object comes to is told by the values at each key. -/
theorem Row.ofMembers_eq {fs : List Field} (gs : Meanings fs) (ms : List Tree.Member) :
    ((ms.foldlM (Draft.put fs gs) (Draft.empty fs)).bind fun d => (d.finish fs).toOption) =
      Row.ofMembers fs gs ms := by
  induction fs with
  | nil =>
      -- Without fields all that is left to see is whether each key is one.
      induction ms with
      | nil => rfl
      | cons m ms ih =>
          obtain ⟨k, v⟩ := m
          rw [List.foldlM_cons, Row.ofMembers]
          cases k with
          | none => simp [Draft.put]
          | some k => exact ih
  | cons f fs ih =>
      obtain ⟨g, gs⟩ := gs
      rw [Row.ofMembers, ← ih gs, ← Field.foldlM_values g, Draft.empty, Draft.foldlM_cons]
      cases ms.foldlM (f.put g) none with
      | none => rfl
      | some w =>
          cases ms.foldlM (Draft.put fs gs) (Draft.empty fs) with
          | none =>
              show none = (w <|> f.absent).bind fun _ => none
              cases w <|> f.absent <;> rfl
          | some rest => exact Draft.finish_cons w rest

/-! ### Items, one by one -/

theorem Row.omitted_eq (expected : String) (fs : List Field) (gs : Meanings fs) (seen : Nat) :
    (Row.omitted expected fs seen).toOption = Row.ofItems fs gs [] := by
  induction fs generalizing seen with
  | nil => rfl
  | cons f fs ih =>
      obtain ⟨g, gs⟩ := gs
      rw [Row.ofItems, ← ih gs (seen + 1), Row.omitted]
      cases f.omitted with
      | none => rfl
      | some w => cases Row.omitted expected fs (seen + 1) <;> rfl

section

variable {s t : Bytes} {vs : List Tree} {expected : String}

theorem Reader.answer_closeList (hvs : Further ']' TreeOf vs s t) :
    closeList.answer s = if vs = [] then some ((), t) else none := by
  cases hvs with
  | close hclose =>
      rw [answer, closeList, run_blanks hclose (by decide)]
      rfl
  | comma hcomma =>
      rw [answer, closeList, run_blanks hcomma (by decide), run_next_bind, if_neg (by decide),
        if_pos (beq_self_eq_true _), if_neg (List.cons_ne_nil _ _)]
      refine Never.answer (never_bind _ fun _ => never_bind _ fun c => ?_) _
      split <;> exact never_bind _ fun _ => never_fail _

theorem Reader.further_of_closeList (h : closeList.run s = .ok ((), t)) :
    Further ']' TreeOf [] s t := by
  obtain ⟨b, r, hs, h₁⟩ := next_after_blanks h
  split at h₁
  · next hclose =>
    cases h₁
    rw [eq_of_beq hclose] at hs
    exact .close hs
  split at h₁
  · refine (never_bind _ (fun _ => never_bind _ fun c => ?_) h₁).elim
    split <;> exact never_bind _ fun _ => never_fail _
  · cases h₁

theorem Row.answer_inOrder {fs : List Field} (gs : Meanings fs) (hvs : Further ']' TreeOf vs s t)
    (seen : Nat) :
    (Row.inOrder expected fs (seen + 1)).answer s = (Row.ofItems fs gs vs).map (·, t) := by
  induction fs generalizing vs s seen with
  | nil =>
      refine (answer_closeList hvs).trans ?_
      cases vs <;> rfl
  | cons f fs ih =>
      obtain ⟨g, gs⟩ := gs
      rw [Row.inOrder, if_neg (Nat.succ_ne_zero seen)]
      cases hvs with
      | close hclose =>
          rw [answer_bind_of_run (run_furtherItem hclose), if_neg Bool.false_ne_true,
            answer_ofExcept, Row.omitted_eq expected (f :: fs) (g, gs)]
      | @comma v vs _ s₁ s₂ s₃ _ hcomma hs hv hfurther =>
          have hanswer := g.means.answer .none hv (hfurther.ends (.inl rfl))
          obtain ⟨b, r, rfl, hb⟩ := hv.opens
          rw [answer_bind_of_run (run_furtherItem_value hcomma hs hb), if_pos rfl, answer_bind,
            hanswer, Row.ofItems]
          cases g.of v with
          | none => rfl
          | some w =>
              show (Row.inOrder expected fs (seen + 1 + 1) >>= fun row => pure (w, row)).answer s₃ = _
              rw [answer_bind, ih gs hfurther]
              cases Row.ofItems fs gs vs <;> rfl

theorem Row.further_of_inOrder {fs : List Field} (gs : Meanings fs) {seen : Nat} {row : Row fs}
    (h : (Row.inOrder expected fs (seen + 1)).run s = .ok (row, t)) :
    ∃ vs, Further ']' TreeOf vs s t := by
  induction fs generalizing s seen with
  | nil => exact ⟨[], further_of_closeList h⟩
  | cons f fs ih =>
      obtain ⟨g, gs⟩ := gs
      rw [Row.inOrder, if_neg (Nat.succ_ne_zero seen)] at h
      obtain ⟨more, r, hmore, hrest⟩ := run_bind_eq_ok.mp h
      rcases furtherItem_of_run hmore with ⟨rfl, hclose⟩ | ⟨rfl, s', hcomma, hs⟩
      · obtain ⟨-, rfl⟩ := run_ofExcept_eq_ok.mp hrest
        exact ⟨[], .close hclose⟩
      · obtain ⟨w, r₁, hw, hrow⟩ := run_bind_eq_ok.mp hrest
        obtain ⟨row', r₂, hrow', hpure⟩ := run_bind_eq_ok.mp hrow
        cases hpure
        obtain ⟨v, s'', hs', hv⟩ := g.means.tree hw
        obtain ⟨vs, hvs⟩ := ih gs hrow'
        exact ⟨v :: vs, .comma hcomma (hs.trans hs') hv hvs⟩

/-- The list of a record with at least one field, from after its opening bracket. -/
theorem Row.answer_inOrder_zero {fs : List Field} (hne : fs ≠ []) (gs : Meanings fs)
    (hvs : Bracketed ']' TreeOf vs s t) :
    (Row.inOrder expected fs 0).answer s = (Row.ofItems fs gs vs).map (·, t) := by
  obtain ⟨f, fs, rfl⟩ := List.exists_cons_of_ne_nil hne
  obtain ⟨g, gs⟩ := gs
  rw [Row.inOrder, if_pos rfl]
  cases hvs with
  | empty hclose =>
      rw [answer_bind_of_run (run_firstItem hclose), if_neg Bool.false_ne_true, answer_ofExcept,
        Row.omitted_eq expected (f :: fs) (g, gs)]
  | @first v vs _ s₁ s₂ _ hs hv hfurther =>
      have hanswer := g.means.answer .none hv (hfurther.ends (.inl rfl))
      obtain ⟨b, r, rfl, hb⟩ := hv.opens
      rw [answer_bind_of_run (run_firstItem_value hs hb), if_pos rfl, answer_bind, hanswer,
        Row.ofItems]
      cases g.of v with
      | none => rfl
      | some w =>
          show (Row.inOrder expected fs 1 >>= fun row => pure (w, row)).answer s₂ = _
          rw [answer_bind, Row.answer_inOrder gs hfurther 0]
          cases Row.ofItems fs gs vs <;> rfl

theorem Row.bracketed_of_inOrder {fs : List Field} (hne : fs ≠ []) (gs : Meanings fs)
    {row : Row fs} (h : (Row.inOrder expected fs 0).run s = .ok (row, t)) :
    ∃ vs, Bracketed ']' TreeOf vs s t := by
  obtain ⟨f, fs, rfl⟩ := List.exists_cons_of_ne_nil hne
  obtain ⟨g, gs⟩ := gs
  rw [Row.inOrder, if_pos rfl] at h
  obtain ⟨more, r, hmore, hrest⟩ := run_bind_eq_ok.mp h
  rcases firstItem_of_run hmore with ⟨rfl, hclose⟩ | ⟨rfl, hs⟩
  · obtain ⟨-, rfl⟩ := run_ofExcept_eq_ok.mp hrest
    exact ⟨[], .empty hclose⟩
  · obtain ⟨w, r₁, hw, hrow⟩ := run_bind_eq_ok.mp hrest
    obtain ⟨row', r₂, hrow', hpure⟩ := run_bind_eq_ok.mp hrow
    cases hpure
    obtain ⟨v, s', hs', hv⟩ := g.means.tree hw
    obtain ⟨vs, hvs⟩ := Row.further_of_inOrder gs hrow'
    exact ⟨v :: vs, .first (hs.trans hs') hv hvs⟩

end

/-! ### Records -/

section

variable {name : String} {fs : List Field} {s s' t : Bytes} (gs : Meanings fs) (hne : fs ≠ [])
  (hfs : (fs.map Field.key).Nodup)
include hne hfs

/-- A record means its row wherever it stands, since a list or an object is over where it is
closed and nothing else is a record. -/
theorem Reader.answer_record {v : Tree} (hs : Blanks s s') (hv : TreeOf v s' t) :
    (record name fs).answer s = (v.row? fs gs).map (·, t) := by
  obtain ⟨b, r, rfl, hb⟩ := hv.opens
  rw [answer, record, run_startingWith hs (not_blank_of_opens hb).1]
  split
  · next hopen =>
    obtain rfl := eq_of_beq hopen
    obtain ⟨vs, rfl⟩ := list_of_opens hb
    cases hv with
    | list hvs => exact Row.answer_inOrder_zero hne gs hvs
  split
  · next hopen =>
    obtain rfl := eq_of_beq hopen
    obtain ⟨ms, rfl⟩ := object_of_opens hb
    cases hv with
    | object hms =>
      have hrow : (Tree.object ms).row? fs gs = Row.ofMembers fs gs ms := rfl
      rw [run_skip_bind, ← answer, answer_bind, answer_members (Draft.adds gs hfs) hms, hrow,
        ← Row.ofMembers_eq]
      cases ms.foldlM (Draft.put fs gs) (Draft.empty fs) with
      | none => rfl
      | some d => exact answer_ofExcept _ t
  · next hlist hobject =>
    rw [← answer, (never_mismatch _).answer]
    cases v with
    | list => exact (hlist hb).elim
    | object => exact (hobject hb).elim
    | _ => rfl

theorem Reader.means_record : (record name fs).Means (Tree.row? fs gs) where
  answer _ _ _ _ hs hv _ := answer_record gs hne hfs hs hv
  tree s row t hrun := by
    obtain ⟨b, s', hs, h₁⟩ := peek_after_blanks (never_fail _) hrun
    dsimp only at h₁
    split at h₁
    · next hopen =>
      obtain ⟨vs, hvs⟩ := Row.bracketed_of_inOrder hne gs h₁
      rw [eq_of_beq hopen] at hs
      exact ⟨.list vs, _, hs, .list hvs⟩
    split at h₁
    · next hopen =>
      rw [run_skip_bind] at h₁
      obtain ⟨d, r, hmembers, hfinish⟩ := run_bind_eq_ok.mp h₁
      obtain ⟨-, rfl⟩ := run_ofExcept_eq_ok.mp hfinish
      obtain ⟨ms, hms⟩ := entries_of_members (Draft.adds gs hfs) hmembers
      rw [eq_of_beq hopen] at hs
      exact ⟨.object ms, _, hs, .object hms⟩
    · exact (never_mismatch _ h₁).elim

end

end ReviewDesk.Json
