/-
Known documents, read from an object.

The members of an object come one at a time and the reader keeps a draft of what it has
so far.  Given the row that the object is to come to, the draft after some members is
known from their keys alone: `Row.draft` has what the row has at those keys, and nothing
elsewhere.  A member adds its key (`Row.readsMember`), and the finished draft is the row
as soon as the fields that had no member fall back on what the row has
(`Row.finish_draft`).  The order of the members plays no part in this.
-/
import ReviewDesk.Json.Record
import ReviewDesk.Proofs.Json.Reads

namespace ReviewDesk.Json

namespace Reader

variable {α σ : Type} {s t : Bytes}

/-! ### Members -/

theorem run_colon (h : Blanks s (ascii ':' :: t)) : colon.run s = .ok ((), t) := by
  rw [colon, run_blanks h (by decide)]
  rfl

theorem run_key {k : String} {atEnd : Unfinished} {s' : Bytes}
    (h : Blanks s (ascii '"' :: s')) (hk : TextOf k s' t) :
    (key text atEnd).run s = .ok (k, t) := by
  rw [key, run_blanks h (by decide), run_next_bind, if_pos (beq_self_eq_true _)]
  exact run_text hk

/-- What follows the key of a member with the value `v` is read as `a`. -/
def ReadsMember (p : Reader α) (v : Json) (a : α) : Prop :=
  ∀ ⦃s s₁ s₂ t⦄, Blanks s (ascii ':' :: s₁) → Blanks s₁ s₂ → Value v s₂ t → Ends t →
    p.run s = .ok (a, t)

/-- The members, one after the other, take one state to another. -/
inductive Leads (member : String → σ → Reader σ) : σ → List (String × Json) → σ → Prop
  | nil {st : σ} : Leads member st [] st
  | cons {k : String} {v : Json} {ms : List (String × Json)} {st st' st'' : σ}
      (h : ReadsMember (member k st) v st') (rest : Leads member st' ms st'') :
      Leads member st ((k, v) :: ms) st''

/-! ### Objects -/

theorem run_firstMember (h : Blanks s (ascii '\x7d' :: t)) :
    firstMember.run s = .ok (false, t) := by
  rw [firstMember, run_blanks h (by decide)]
  rfl

theorem run_firstMember_key (h : Blanks s (ascii '"' :: t)) :
    firstMember.run s = .ok (true, ascii '"' :: t) := by
  rw [firstMember, run_blanks h (by decide)]
  rfl

theorem run_furtherMember (h : Blanks s (ascii '\x7d' :: t)) :
    furtherMember.run s = .ok (false, t) := by
  rw [furtherMember, run_blanks h (by decide)]
  rfl

theorem run_furtherMember_key {s' : Bytes} (hcomma : Blanks s (ascii ',' :: s'))
    (h : Blanks s' (ascii '"' :: t)) : furtherMember.run s = .ok (true, ascii '"' :: t) := by
  rw [furtherMember, run_blanks hcomma (by decide), run_next_bind, if_neg (by decide),
    if_pos (beq_self_eq_true _), run_blanks h (by decide)]
  rfl

variable {member : String → σ → Reader σ}

theorem run_furtherMembers {ms : List (String × Json)} {st st' : σ}
    {strict : ∀ st, (memberStep member st).Strict} (h : Further '\x7d' (Member Value) ms s t)
    (hleads : Leads member st ms st') :
    (iterate (memberStep member) strict st).run s = .ok (st', t) := by
  induction h generalizing st with
  | close hclose =>
      cases hleads
      exact run_iterate_inr (run_bind_ok (run_furtherMember hclose))
  | comma hcomma hs hx h ih =>
      cases hx with
      | mk hkey hcolon hs' hv =>
        cases hleads with
        | @cons _ _ _ _ st₁ _ hmember hrest =>
          have hrun := hmember hcolon hs' hv (h.ends (.inr rfl))
          have hstep : (memberStep member st).run _ = .ok (.inl st₁, _) :=
            (run_bind_ok (run_furtherMember_key hcomma hs)).trans
              ((run_bind_ok (run_key .none hkey)).trans (run_bind_ok hrun))
          rw [run_iterate_inl hstep]
          exact ih hrest

theorem run_members {ms : List (String × Json)} {st st' : σ}
    (h : Bracketed '\x7d' (Member Value) ms s t) (hleads : Leads member st ms st') :
    (members member st).run s = .ok (st', t) := by
  rw [members]
  cases h with
  | empty hclose =>
      cases hleads
      rw [run_bind_ok (run_firstMember hclose)]
      rfl
  | first hs hx h =>
      cases hx with
      | mk hkey hcolon hs' hv =>
        cases hleads with
        | cons hmember hrest =>
          rw [run_bind_ok (run_firstMember_key hs), if_pos rfl, run_bind_ok (run_key .none hkey),
            run_bind_ok (hmember hcolon hs' hv (h.ends (.inr rfl)))]
          exact run_furtherMembers h hrest

end Reader

open Reader

/-! ### Drafts of a row -/

/-- The draft that has what the row has at these keys. -/
def Row.draft : (fs : List Field) → Row fs → List String → Draft fs
  | [], _, _ => ()
  | f :: fs, (w, row), keys => (if f.key ∈ keys then some w else none, Row.draft fs row keys)

/-- The field with this key reads the value as what the row has there. -/
def Row.Takes : (fs : List Field) → Row fs → String → Json → Prop
  | [], _, _, _ => False
  | f :: fs, (w, row), k, v => if k = f.key then f.read.Reads v w else Row.Takes fs row k v

/-- Where there is none of these keys, what the row has stands in for a missing value. -/
def Row.FallsBack : (fs : List Field) → Row fs → List String → Prop
  | [], _, _ => True
  | f :: fs, (w, row), keys =>
    (f.key ∈ keys ∨ f.absent = some w) ∧ Row.FallsBack fs row keys

theorem Row.draft_nil (fs : List Field) (row : Row fs) : Row.draft fs row [] = Draft.empty fs := by
  induction fs with
  | nil => rfl
  | cons f fs ih =>
      obtain ⟨w, row⟩ := row
      simp only [Row.draft, Draft.empty, List.not_mem_nil, if_false, ih]
      rfl

/-- A key that no field has adds nothing. -/
theorem Row.draft_append_of_not_mem {fs : List Field} (row : Row fs) (keys : List String)
    {k : String} (h : k ∉ fs.map Field.key) :
    Row.draft fs row (keys ++ [k]) = Row.draft fs row keys := by
  induction fs with
  | nil => rfl
  | cons f fs ih =>
      obtain ⟨w, row⟩ := row
      obtain ⟨hf, hfs⟩ : k ≠ f.key ∧ k ∉ fs.map Field.key := by simpa using h
      have hmem : f.key ∈ keys ++ [k] ↔ f.key ∈ keys := by simp [hf.symm]
      simp only [Row.draft, hmem, ih row hfs]
      rfl

/-- A member whose key is new takes the draft to the one with that key. -/
theorem Row.readsMember? {fs : List Field} (hfs : (fs.map Field.key).Nodup) (row : Row fs)
    {keys : List String} {k : String} {v : Json} (hnew : k ∉ keys)
    (htakes : Row.Takes fs row k v) :
    ∃ read, Draft.member? fs k (Row.draft fs row keys) = some read ∧
      ReadsMember read v (Row.draft fs row (keys ++ [k])) := by
  induction fs with
  | nil => exact htakes.elim
  | cons f fs ih =>
      obtain ⟨w, row⟩ := row
      obtain ⟨hf, hfs⟩ := List.nodup_cons.mp hfs
      by_cases hk : k = f.key
      · subst hk
        have hread : f.read.Reads v w := by simpa only [Row.Takes, if_true] using htakes
        have hmem : f.key ∈ keys ++ [f.key] := by simp
        simp only [Draft.member?, Row.draft, if_true, if_neg hnew, if_pos hmem,
          Row.draft_append_of_not_mem row keys hf]
        refine ⟨_, rfl, ?_⟩
        intro s s₁ s₂ t hcolon hs hv ht
        rw [run_bind_ok (run_colon hcolon), run_bind_ok (hread hs hv ht)]
        rfl
      · have hrest : Row.Takes fs row k v := by simpa only [Row.Takes, if_neg hk] using htakes
        obtain ⟨read, hmember, hread⟩ := ih hfs row hrest
        have hmem : f.key ∈ keys ++ [k] ↔ f.key ∈ keys := by simp [Ne.symm hk]
        simp only [Draft.member?, Row.draft, if_neg hk, hmember, hmem]
        refine ⟨_, rfl, ?_⟩
        intro s s₁ s₂ t hcolon hs hv ht
        rw [run_bind_ok (hread hcolon hs hv ht)]
        rfl

theorem Row.readsMember {fs : List Field} (hfs : (fs.map Field.key).Nodup) (row : Row fs)
    {keys : List String} {k : String} {v : Json} (hnew : k ∉ keys)
    (htakes : Row.Takes fs row k v) :
    ReadsMember (Draft.member fs k (Row.draft fs row keys)) v
      (Row.draft fs row (keys ++ [k])) := by
  obtain ⟨read, hmember, hread⟩ := Row.readsMember? hfs row hnew htakes
  rw [Draft.member, hmember]
  exact hread

theorem Row.leads {fs : List Field} (hfs : (fs.map Field.key).Nodup) (row : Row fs)
    {ms : List (String × Json)} {keys : List String}
    (hnodup : (keys ++ ms.map Prod.fst).Nodup) (htakes : ∀ m ∈ ms, Row.Takes fs row m.1 m.2) :
    Leads (Draft.member fs) (Row.draft fs row keys) ms
      (Row.draft fs row (keys ++ ms.map Prod.fst)) := by
  induction ms generalizing keys with
  | nil =>
      rw [List.map_nil, List.append_nil]
      exact .nil
  | cons m ms ih =>
      have happend : keys ++ (m :: ms).map Prod.fst = (keys ++ [m.1]) ++ ms.map Prod.fst := by simp
      rw [happend] at hnodup ⊢
      have hnew : m.1 ∉ keys := by
        have hkeys := (List.nodup_append.mp hnodup).1
        exact fun hm => (List.nodup_append.mp hkeys).2.2 m.1 hm m.1 (List.mem_singleton_self _) rfl
      exact .cons (Row.readsMember hfs row hnew (htakes m (List.mem_cons_self ..)))
        (ih hnodup fun m' hm' => htakes m' (List.mem_cons_of_mem _ hm'))

theorem Row.finish_draft {fs : List Field} {row : Row fs} {keys : List String}
    (h : Row.FallsBack fs row keys) : Draft.finish fs (Row.draft fs row keys) = .ok row := by
  induction fs with
  | nil => rfl
  | cons f fs ih =>
      obtain ⟨w, row⟩ := row
      obtain ⟨hw, hrest⟩ := h
      have hvalue : ((if f.key ∈ keys then some w else none) <|> f.absent) = some w := by
        by_cases hf : f.key ∈ keys
        · rw [if_pos hf]
          rfl
        · rw [if_neg hf]
          exact hw.resolve_left hf
      simp only [Draft.finish, Row.draft, hvalue, ih hrest]

/-! ### Records -/

/-- An object with different keys, each that of a field that reads its value, is read as
the row of those values if missing ones fall back on it. -/
theorem Reader.reads_record (name : String) {fs : List Field} {row : Row fs}
    {ms : List (String × Json)} (hfs : (fs.map Field.key).Nodup)
    (hms : (ms.map Prod.fst).Nodup) (htakes : ∀ m ∈ ms, Row.Takes fs row m.1 m.2)
    (hrest : Row.FallsBack fs row (ms.map Prod.fst)) :
    (Reader.record name fs).Reads (.object ms) row := by
  refine reads_startingWith fun b s t _ hv _ => ?_
  cases hv with
  | object h =>
      have hleads : Leads (Draft.member fs) (Draft.empty fs) ms
          (Row.draft fs row (ms.map Prod.fst)) := by
        rw [← Row.draft_nil fs row]
        exact Row.leads hfs row hms htakes
      rw [if_neg (by decide), if_pos (beq_self_eq_true _), run_skip_bind,
        run_bind_ok (run_members h hleads)]
      exact run_ofExcept_eq_ok.mpr ⟨Row.finish_draft hrest, rfl⟩

/-! ### Members in the order of the fields -/

/-- The fields in their order, each with a member that it reads as what the row has or
with none and that to fall back on. -/
inductive Written : (fs : List Field) → List (String × Json) → Row fs → Prop
  | nil : Written [] [] ()
  | present {f : Field} {fs : List Field} {ms : List (String × Json)} {v : Json} {w : f.Value}
      {row : Row fs} (h : f.read.Reads v w) (rest : Written fs ms row) :
      Written (f :: fs) ((f.key, v) :: ms) (w, row)
  | absent {f : Field} {fs : List Field} {ms : List (String × Json)} {w : f.Value} {row : Row fs}
      (h : f.absent = some w) (rest : Written fs ms row) : Written (f :: fs) ms (w, row)

/-- A member that is written if there is something to write. -/
theorem Written.member? {α : Type} {key : String} {read : Reader α} {write : α → Json}
    {o : Option α} {fs : List Field} {ms : List (String × Json)} {row : Row fs}
    (h : ∀ a ∈ o, (Reader.optional read).Reads (write a) (some a)) (rest : Written fs ms row) :
    Written (.withDefault key (Reader.optional read) none :: fs)
      (Json.member? key write o ++ ms) (o, row) := by
  cases o with
  | none => exact .absent rfl rest
  | some a => exact .present (h a rfl) rest

section

variable {fs : List Field} {ms : List (String × Json)} {row : Row fs} (h : Written fs ms row)
include h

theorem Written.keys_sublist : (ms.map Prod.fst).Sublist (fs.map Field.key) := by
  induction h with
  | nil => exact .slnil
  | present _ _ ih => exact ih.cons_cons _
  | absent _ _ ih => exact ih.cons _

theorem Written.fallsBack {keys : List String} (hkeys : ∀ k ∈ ms.map Prod.fst, k ∈ keys) :
    Row.FallsBack fs row keys := by
  induction h with
  | nil => trivial
  | present _ _ ih =>
      rw [List.map_cons, List.forall_mem_cons] at hkeys
      exact ⟨.inl hkeys.1, ih hkeys.2⟩
  | absent h _ ih => exact ⟨.inr h, ih hkeys⟩

theorem Written.takes (hfs : (fs.map Field.key).Nodup) :
    ∀ m ∈ ms, Row.Takes fs row m.1 m.2 := by
  -- A member of a later field has another key than the first field.
  have later : ∀ {f : Field} {fs : List Field} {ms : List (String × Json)} {w : f.Value}
      {row : Row fs}, Written fs ms row → f.key ∉ fs.map Field.key →
      (∀ m ∈ ms, Row.Takes fs row m.1 m.2) → ∀ m ∈ ms, Row.Takes (f :: fs) (w, row) m.1 m.2 := by
    intro f fs ms w row hw hf ih m hm
    have hkey : m.1 ≠ f.key := by
      rintro heq
      exact hf (heq ▸ hw.keys_sublist.subset (List.mem_map_of_mem hm))
    simpa only [Row.Takes, if_neg hkey] using ih m hm
  induction h with
  | nil => exact fun m hm => nomatch hm
  | present h rest ih =>
      obtain ⟨hf, hfs⟩ := List.nodup_cons.mp hfs
      refine List.forall_mem_cons.mpr ⟨?_, later rest hf (ih hfs)⟩
      simpa only [Row.Takes, if_true] using h
  | absent _ rest ih =>
      obtain ⟨hf, hfs⟩ := List.nodup_cons.mp hfs
      exact later rest hf (ih hfs)

theorem Written.reads (name : String) (hfs : (fs.map Field.key).Nodup) :
    (Reader.record name fs).Reads (.object ms) row :=
  Reader.reads_record name hfs (hfs.sublist h.keys_sublist) (h.takes hfs)
    (h.fallsBack fun _ hk => hk)

end

end ReviewDesk.Json
