/-
The document of a session tells the session.

Members that may be missing are looked up by their keys (`lookup_member?`), and what a review
holds is read off its document key by key.  The keys that are there are some of those there
can be, in the same order, so that none occurs twice.

Of the numbers in a session only the lengths of lines are not whole, and only they have to be
told apart by their texts.
-/
import ReviewDesk.Session.State
import ReviewDesk.Proofs.Json.Lossless

namespace ReviewDesk

open Json

namespace Json

/-! ### Members that may be missing -/

section

variable {α : Type} (key : String) (write : α → Json) (o : Option α)

theorem lookup_member? (k : String) :
    (member? key write o).lookup k = if k = key then o.map write else none := by
  cases o with
  | none => simp [member?]
  | some a =>
      by_cases h : k = key
      · simp [member?, h]
      · simp [member?, h, List.lookup_cons, beq_eq_false_iff_ne.mpr h]

theorem keys_member? : ((member? key write o).map Prod.fst).Sublist [key] := by
  cases o with
  | none => exact List.nil_sublist _
  | some a => exact List.Sublist.refl _

variable {key write o}

theorem keysOnce_member? (h : ∀ a ∈ o, (write a).KeysOnce) :
    ∀ m ∈ member? key write o, m.2.KeysOnce := by
  cases o with
  | none => exact nofun
  | some a => exact List.forall_mem_singleton.mpr (h a rfl)

theorem numbers_member? :
    ((member? key write o).flatMap fun m => m.2.numbers)
      = o.toList.flatMap fun a => (write a).numbers := by
  cases o <;> simp [member?]

end

theorem keysOnce_texts (xs : List String) : (Json.list (xs.map .text)).KeysOnce :=
  .list (List.forall_mem_map.mpr fun x _ => .text x)

theorem map_text_inj {xs ys : List String} : xs.map Json.text = ys.map .text ↔ xs = ys :=
  List.map_inj_right fun _ _ => Json.text.inj

theorem ofNat_inj {m n : Nat} : Json.ofNat m = Json.ofNat n ↔ m = n := by
  simp only [Json.ofNat, Json.num.injEq, Number.int.injEq, Int.natCast_inj]

end Json

/-! ### Metrics -/

namespace Metrics

theorem toJson_inj {m m' : Metrics} (h : m.toJson = m'.toJson) : m = m' := by
  cases m
  cases m'
  simpa [toJson, ofNat_inj, UInt64.toNat_inj] using h

theorem keysOnce (m : Metrics) : m.toJson.KeysOnce := by
  refine .object (by simp) ?_
  simp only [List.forall_mem_cons, List.not_mem_nil, IsEmpty.forall_iff, implies_true, and_true]
  exact ⟨.num _, .num _, .num _, .num _, .num _, .num _⟩

/-- The lengths of lines among the metrics. -/
def lengths (m : Metrics) : List Float :=
  [m.maxLineLength, m.avgLineLength]

theorem mem_numbers {m : Metrics} {n : Number} (h : n ∈ m.toJson.numbers) :
    (∃ k : Nat, n = .int k) ∨ ∃ x ∈ m.lengths, n = .double x := by
  simp only [toJson, Json.ofNat, numbers, List.flatMap_cons, List.flatMap_nil, List.cons_append,
    List.nil_append, List.mem_cons, List.not_mem_nil, or_false] at h
  rcases h with rfl | rfl | rfl | rfl | rfl | rfl
  · exact .inl ⟨_, rfl⟩
  · exact .inl ⟨_, rfl⟩
  · exact .inl ⟨_, rfl⟩
  · exact .inl ⟨_, rfl⟩
  · exact .inr ⟨_, by simp [lengths], rfl⟩
  · exact .inr ⟨_, by simp [lengths], rfl⟩

end Metrics

/-! ### Reviews -/

namespace Review

theorem toJson_inj {r r' : Review} (h : r.toJson = r'.toJson) : r = r' := by
  have hmember := fun k => congrArg (List.lookup k) (Json.object.inj h)
  simp only [List.lookup_append, lookup_member?] at hmember
  have hreview : r.review = r'.review := by
    simpa [List.lookup_cons] using hmember "review"
  have hsuggestions : r.suggestions = r'.suggestions := by
    simpa [List.lookup_cons, map_text_inj] using hmember "suggestions"
  have hscore : r.qualityScore.map (fun n => Json.ofNat n.toNat)
      = r'.qualityScore.map fun n => Json.ofNat n.toNat := by
    simpa [List.lookup_cons] using hmember "quality_score"
  have hlanguage : r.language.map Json.text = r'.language.map .text := by
    simpa [List.lookup_cons] using hmember "language"
  have hmetrics : r.metrics.map Metrics.toJson = r'.metrics.map Metrics.toJson := by
    simpa [List.lookup_cons] using hmember "metrics"
  have hissues : r.issuesCount.map (fun n => Json.ofNat n.toNat)
      = r'.issuesCount.map fun n => Json.ofNat n.toNat := by
    simpa [List.lookup_cons] using hmember "issues_count"
  rw [Option.map_inj_right fun _ _ hn => UInt8.toNat_inj.mp (ofNat_inj.mp hn)] at hscore
  rw [Option.map_inj_right fun _ _ => Json.text.inj] at hlanguage
  rw [Option.map_inj_right fun _ _ => Metrics.toJson_inj] at hmetrics
  rw [Option.map_inj_right fun _ _ hn => UInt64.toNat_inj.mp (ofNat_inj.mp hn)] at hissues
  cases r
  cases r'
  rw [Review.mk.injEq]
  exact ⟨hreview, hsuggestions, hscore, hlanguage, hmetrics, hissues⟩

theorem keysOnce (r : Review) : r.toJson.KeysOnce := by
  refine .object ?_ ?_
  · simp only [List.map_append]
    have hkeys := ((((List.Sublist.refl ["review", "suggestions"]).append
      (keys_member? "quality_score" (fun n => Json.ofNat n.toNat) r.qualityScore)).append
      (keys_member? "language" .text r.language)).append
      (keys_member? "metrics" Metrics.toJson r.metrics)).append
      (keys_member? "issues_count" (fun n => Json.ofNat n.toNat) r.issuesCount)
    exact hkeys.nodup (by decide)
  · simp only [List.forall_mem_append]
    refine ⟨⟨⟨⟨?_, keysOnce_member? fun _ _ => .num _⟩, keysOnce_member? fun _ _ => .text _⟩,
      keysOnce_member? fun m _ => m.keysOnce⟩, keysOnce_member? fun _ _ => .num _⟩
    simpa using ⟨KeysOnce.text r.review, keysOnce_texts r.suggestions⟩

/-- The lengths of lines in a review. -/
def lengths (r : Review) : List Float :=
  r.metrics.toList.flatMap Metrics.lengths

theorem mem_numbers {r : Review} {n : Number} (h : n ∈ r.toJson.numbers) :
    (∃ k : Nat, n = .int k) ∨ ∃ x ∈ r.lengths, n = .double x := by
  simp only [toJson, numbers, List.flatMap_append, numbers_member?, List.mem_append] at h
  rcases h with (((h | h) | h) | h) | h
  · simp [numbers] at h
  · simp only [Json.ofNat, numbers, List.mem_flatMap, List.mem_singleton] at h
    obtain ⟨k, -, rfl⟩ := h
    exact .inl ⟨_, rfl⟩
  · simp at h
  · obtain ⟨m, hm, hn⟩ := List.mem_flatMap.mp h
    refine (Metrics.mem_numbers hn).imp id ?_
    rintro ⟨x, hx, rfl⟩
    exact ⟨x, List.mem_flatMap.mpr ⟨m, hm, hx⟩, rfl⟩
  · simp only [Json.ofNat, numbers, List.mem_flatMap, List.mem_singleton] at h
    obtain ⟨k, -, rfl⟩ := h
    exact .inl ⟨_, rfl⟩

end Review

/-! ### Sessions -/

namespace Session.State

theorem toJson_inj {s s' : State} (h : s.toJson = s'.toJson) : s = s' := by
  cases s with
  | idle code =>
      cases s' with
      | idle code' => simpa [toJson, name, members] using h
      | _ => simp [toJson, name] at h
  | submitting code =>
      cases s' with
      | submitting code' => simpa [toJson, name, members] using h
      | _ => simp [toJson, name] at h
  | success code review =>
      cases s' with
      | success code' review' =>
          obtain ⟨rfl, hreview⟩ : code = code' ∧ review.toJson = review'.toJson := by
            simpa [toJson, name, members] using h
          rw [Review.toJson_inj hreview]
      | _ => simp [toJson, name] at h
  | failure code message =>
      cases s' with
      | failure code' message' => simpa [toJson, name, members] using h
      | _ => simp [toJson, name] at h

theorem keysOnce (s : State) : s.toJson.KeysOnce := by
  refine .object (by cases s <;> simp [members]) ?_
  refine List.forall_mem_cons.mpr ⟨.text _, ?_⟩
  cases s with
  | idle code => simpa [members] using KeysOnce.text code
  | submitting code => simpa [members] using KeysOnce.text code
  | success code review => simpa [members] using ⟨KeysOnce.text code, review.keysOnce⟩
  | failure code message => simpa [members] using ⟨KeysOnce.text code, KeysOnce.text message⟩

/-- The lengths of lines in a session, if it has any. -/
def lengths (s : State) : List Float :=
  s.review?.toList.flatMap Review.lengths

theorem mem_numbers {s : State} {n : Number} (h : n ∈ s.toJson.numbers) :
    (∃ k : Nat, n = .int k) ∨ ∃ x ∈ s.lengths, n = .double x := by
  cases s with
  | success code review =>
      simp only [toJson, members, numbers, List.flatMap_cons, List.flatMap_nil, List.nil_append,
        List.append_nil] at h
      simpa [lengths, review?] using Review.mem_numbers h
  | _ => simp [toJson, members, numbers] at h

/-- All lengths of lines in a session are numbers. -/
def LengthsFinite (s : State) : Prop :=
  ∀ x ∈ s.lengths, x.isFinite = true

/-- No length of a line in one session is printed like another in the other. -/
def LengthsApart (s s' : State) : Prop :=
  ∀ x ∈ s.lengths, ∀ y ∈ s'.lengths, Decimal.ofFloat x = Decimal.ofFloat y → x = y

theorem isPrinted {s : State} (h : s.LengthsFinite) : s.toJson.IsPrinted := by
  intro n hn
  rcases mem_numbers hn with ⟨k, rfl⟩ | ⟨x, hx, rfl⟩
  · trivial
  · exact h x hx

theorem printedApart {s s' : State} (h : s.LengthsApart s') : s.toJson.PrintedApart s'.toJson := by
  intro n hn n' hn'
  rcases mem_numbers hn with ⟨k, rfl⟩ | ⟨x, hx, rfl⟩
  · trivial
  · rcases mem_numbers hn' with ⟨k', rfl⟩ | ⟨y, hy, rfl⟩
    · trivial
    · exact h x hx y hy

/-- Sessions with one document are the same session. -/
theorem compact_eq_iff {s s' : State} (h : s.LengthsFinite) (h' : s'.LengthsFinite)
    (happart : s.LengthsApart s') : s.toJson.compact = s'.toJson.compact ↔ s = s' := by
  rw [compact_inj (isPrinted h) (isPrinted h') (printedApart happart)]
  constructor
  · exact toJson_inj
  · rintro rfl
    rfl

end Session.State

end ReviewDesk
