/-
The documents that are put out.

What is put out of a session is a document, whatever the session: of one tree, and with no
key twice in an object.  From the document of a session the session can be told, and from the
document of what is shown of it, all that is shown and nothing else.

What is shown is the panel, and of a review the sheet on it.  Both are read off their
documents key by key; that a sheet keeps of a review just what two reviews that are
`ShownAlike` have in common is shown beside the sheet.
-/
import ReviewDesk.Display.Panel
import ReviewDesk.Proofs.Display.Sheet
import ReviewDesk.Proofs.Display.Rows
import ReviewDesk.Proofs.Session.Document

namespace ReviewDesk

open Json

namespace Display

/-! ### Parts of a sheet -/

theorem ScoreCard.toJson_inj {c c' : ScoreCard} (h : c.toJson = c'.toJson) : c = c' := by
  cases c
  cases c'
  simp only [toJson, Json.object.injEq, List.cons.injEq, Prod.mk.injEq, ofNat_inj, UInt8.toNat_inj,
    Json.text.injEq, true_and] at h
  rw [h.1, Bucket.name_inj h.2.1]

theorem Suggestion.toJson_inj {x x' : Suggestion} (h : x.toJson = x'.toJson) : x = x' := by
  cases x
  cases x'
  simpa [toJson, ofNat_inj] using h

theorem Grid.toJson_inj {g g' : Grid} (h : g.toJson = g'.toJson) : g = g' := by
  cases g
  cases g'
  simpa [toJson, rows, Cell.toJson, ofNat_inj, UInt64.toNat_inj] using h

theorem ScoreCard.keysOnce (c : ScoreCard) : c.toJson.KeysOnce := by
  refine .object (by simp) ?_
  simp only [List.forall_mem_cons, List.not_mem_nil, IsEmpty.forall_iff, implies_true, and_true]
  exact ⟨.num _, .text _, .text _, .text _⟩

theorem Suggestion.keysOnce (x : Suggestion) : x.toJson.KeysOnce :=
  .object (by simp) (by simpa using ⟨.num _, .text _⟩)

theorem Cell.keysOnce (c : Cell) : c.toJson.KeysOnce :=
  .object (by simp) (by simpa using ⟨.text _, .num _⟩)

theorem Grid.keysOnce (g : Grid) : g.toJson.KeysOnce :=
  .list (List.forall_mem_map.mpr fun c _ => c.keysOnce)

/-! ### Sheets -/

namespace Sheet

/-- The suggestions, if there are any to show. -/
def suggestions? (s : Sheet) : Option (List Suggestion) :=
  if s.suggestions.isEmpty then none else some s.suggestions

theorem suggestions?_inj {s s' : Sheet} (h : s.suggestions? = s'.suggestions?) :
    s.suggestions = s'.suggestions := by
  unfold suggestions? at h
  split at h <;> split at h <;> simp_all

theorem members_eq (s : Sheet) :
    s.members = [("review", .text s.review)]
      ++ member? "score" ScoreCard.toJson s.score
      ++ member? "language" .text s.language
      ++ member? "suggestions" (fun xs => .list (xs.map Suggestion.toJson)) s.suggestions?
      ++ member? "metrics" Grid.toJson s.grid := by
  unfold members suggestions?
  split <;> rfl

theorem members_inj {s s' : Sheet} (h : s.members = s'.members) : s = s' := by
  have hmember := fun k => congrArg (List.lookup k) h
  simp only [members_eq, List.lookup_append, lookup_member?] at hmember
  have hreview : s.review = s'.review := by
    simpa [List.lookup_cons] using hmember "review"
  have hscore : s.score.map ScoreCard.toJson = s'.score.map ScoreCard.toJson := by
    simpa [List.lookup_cons] using hmember "score"
  have hlanguage : s.language.map Json.text = s'.language.map .text := by
    simpa [List.lookup_cons] using hmember "language"
  have hsuggestions : s.suggestions?.map (fun xs => Json.list (xs.map Suggestion.toJson))
      = s'.suggestions?.map fun xs => .list (xs.map Suggestion.toJson) := by
    simpa [List.lookup_cons] using hmember "suggestions"
  have hgrid : s.grid.map Grid.toJson = s'.grid.map Grid.toJson := by
    simpa [List.lookup_cons] using hmember "metrics"
  rw [Option.map_inj_right fun _ _ => ScoreCard.toJson_inj] at hscore
  rw [Option.map_inj_right fun _ _ => Json.text.inj] at hlanguage
  rw [Option.map_inj_right fun _ _ hxs =>
    (List.map_inj_right fun _ _ => Suggestion.toJson_inj).mp (Json.list.inj hxs)] at hsuggestions
  rw [Option.map_inj_right fun _ _ => Grid.toJson_inj] at hgrid
  have hall := suggestions?_inj hsuggestions
  cases s
  cases s'
  rw [Sheet.mk.injEq]
  exact ⟨hreview, hscore, hlanguage, hall, hgrid⟩

/-- The keys of a sheet are some of these. -/
theorem keys_sublist (s : Sheet) :
    (s.members.map Prod.fst).Sublist ["review", "score", "language", "suggestions", "metrics"] := by
  rw [members_eq]
  simp only [List.map_append]
  exact ((((List.Sublist.refl ["review"]).append (keys_member? "score" ScoreCard.toJson s.score)).append
    (keys_member? "language" .text s.language)).append
    (keys_member? "suggestions" (fun xs => .list (xs.map Suggestion.toJson)) s.suggestions?)).append
    (keys_member? "metrics" Grid.toJson s.grid)

theorem keysOnce_members (s : Sheet) : ∀ m ∈ s.members, m.2.KeysOnce := by
  simp only [members_eq, List.forall_mem_append]
  refine ⟨⟨⟨⟨List.forall_mem_singleton.mpr (.text _), keysOnce_member? fun c _ => c.keysOnce⟩,
    keysOnce_member? fun _ _ => .text _⟩, keysOnce_member? fun xs _ => ?_⟩,
    keysOnce_member? fun g _ => g.keysOnce⟩
  exact .list (List.forall_mem_map.mpr fun x _ => x.keysOnce)

end Sheet

/-! ### Panels -/

namespace Panel

theorem toJson_inj {p p' : Panel} (h : p.toJson = p'.toJson) : p = p' := by
  obtain ⟨hname, hmembers⟩ : p.name = p'.name ∧ p.members = p'.members := by
    simpa [toJson] using h
  cases p with
  | placeholder =>
      cases p' with
      | placeholder => rfl
      | _ => simp [name] at hname
  | loading =>
      cases p' with
      | loading => rfl
      | _ => simp [name] at hname
  | error message =>
      cases p' with
      | error message' => simpa [members] using hmembers
      | _ => simp [name] at hname
  | review sheet =>
      cases p' with
      | review sheet' => rw [Sheet.members_inj hmembers]
      | _ => simp [name] at hname

theorem keysOnce (p : Panel) : p.toJson.KeysOnce := by
  have hkeys : (p.members.map Prod.fst).Nodup ∧ "panel" ∉ p.members.map Prod.fst := by
    cases p with
    | review s =>
        exact ⟨s.keys_sublist.nodup (by decide), fun hmem => absurd (s.keys_sublist.subset hmem) (by decide)⟩
    | _ => simp [members]
  have hmembers : ∀ m ∈ p.members, m.2.KeysOnce := by
    cases p with
    | placeholder => simpa [members] using ⟨KeysOnce.text prompt, keysOnce_texts features⟩
    | loading => simpa [members] using ⟨KeysOnce.text loadingMessage, KeysOnce.text loadingDetail⟩
    | error message => simpa [members] using KeysOnce.text message
    | review s => exact s.keysOnce_members
  exact .object (List.nodup_cons.mpr ⟨hkeys.2, hkeys.1⟩) (List.forall_mem_cons.mpr ⟨.text _, hmembers⟩)

/-- All numbers that are shown are whole. -/
theorem mem_numbers {p : Panel} {n : Number} (h : n ∈ p.toJson.numbers) :
    ∃ k : Nat, n = .int k := by
  cases p with
  | review s =>
      simp only [toJson, members, numbers, List.flatMap_cons, List.nil_append, Sheet.members_eq,
        List.flatMap_append, numbers_member?, List.mem_append] at h
      rcases h with (((h | h) | h) | h) | h
      · simp at h
      · obtain ⟨c, -, rfl⟩ : ∃ c, s.score = some c ∧ n = .int c.score.toNat := by
          simpa [ScoreCard.toJson, numbers, Json.ofNat] using h
        exact ⟨_, rfl⟩
      · simp at h
      · obtain ⟨xs, -, x, -, rfl⟩ : ∃ xs, s.suggestions? = some xs ∧ ∃ x ∈ xs, n = .int x.index := by
          simpa [Suggestion.toJson, numbers, Json.ofNat] using h
        exact ⟨_, rfl⟩
      · obtain ⟨g, -, rfl | rfl | rfl | rfl⟩ : ∃ g, s.grid = some g ∧
            (n = .int g.total.toNat ∨ n = .int g.code.toNat ∨ n = .int g.comment.toNat
              ∨ n = .int g.issues.toNat) := by
          simpa [Grid.toJson, Grid.rows, Cell.toJson, numbers, Json.ofNat] using h
        · exact ⟨_, rfl⟩
        · exact ⟨_, rfl⟩
        · exact ⟨_, rfl⟩
        · exact ⟨_, rfl⟩
  | _ => simp [toJson, members, numbers] at h

theorem isPrinted (p : Panel) : p.toJson.IsPrinted := by
  intro n hn
  obtain ⟨k, rfl⟩ := mem_numbers hn
  trivial

theorem printedApart (p p' : Panel) : p.toJson.PrintedApart p'.toJson := by
  intro n hn n' hn'
  obtain ⟨k, rfl⟩ := mem_numbers hn
  trivial

/-- Panels with one document are the same panel. -/
theorem spread_eq_iff {p p' : Panel} : p.toJson.spread = p'.toJson.spread ↔ p = p' := by
  rw [spread_inj p.isPrinted p'.isPrinted (printedApart p p')]
  constructor
  · exact toJson_inj
  · rintro rfl
    rfl

end Panel

end Display

/-! ### Sessions and what is shown of them -/

namespace Session.State

/-- Two sessions that do not differ in anything that is shown: the status is the same, and so
is the message or what is shown of the review.  The code plays no part. -/
inductive ShownAlike : State → State → Prop
  | idle (code code' : String) : ShownAlike (.idle code) (.idle code')
  | submitting (code code' : String) : ShownAlike (.submitting code) (.submitting code')
  | success (code code' : String) {r r' : Review} (h : r.ShownAlike r') :
      ShownAlike (.success code r) (.success code' r')
  | failure (code code' message : String) :
      ShownAlike (.failure code message) (.failure code' message)

theorem panel_eq_iff {s s' : State} :
    Display.Panel.ofState s = Display.Panel.ofState s' ↔ s.ShownAlike s' := by
  constructor
  · intro h
    cases s with
    | idle code =>
        cases s' with
        | idle code' => exact .idle code code'
        | _ => cases h
    | submitting code =>
        cases s' with
        | submitting code' => exact .submitting code code'
        | _ => cases h
    | success code r =>
        cases s' with
        | success code' r' =>
            exact .success code code' (Display.Sheet.ofReview_eq_iff.mp (Display.Panel.review.inj h))
        | _ => cases h
    | failure code message =>
        cases s' with
        | failure code' message' =>
            obtain rfl : message = message' := Display.Panel.error.inj h
            exact .failure code code' message
        | _ => cases h
  · intro h
    cases h with
    | idle => rfl
    | submitting => rfl
    | success code code' h =>
        exact congrArg Display.Panel.review (Display.Sheet.ofReview_eq_iff.mpr h)
    | failure => rfl

/-- The state with other code in it. -/
def withCode (code : String) : State → State
  | .idle _ => .idle code
  | .submitting _ => .submitting code
  | .success _ review => .success code review
  | .failure _ message => .failure code message

/-- What is put out of a session is one document each time, and loses nothing of what it is
a document of: the document of the session tells the session, provided that no two different
lengths of lines are printed alike, and the document of what is shown tells all that is shown.
The code is not shown. -/
theorem documents_tell_all :
    (∀ s : State, s.LengthsFinite →
      IsDocument (Text.bytes s.toJson.compact) ∧
      IsDocument (Text.bytes (Display.Panel.ofState s).toJson.spread)) ∧
    (∀ s s' : State, s.LengthsFinite → s'.LengthsFinite → s.LengthsApart s' →
      (s.toJson.compact = s'.toJson.compact ↔ s = s')) ∧
    (∀ s s' : State,
      (Display.Panel.ofState s).toJson.spread = (Display.Panel.ofState s').toJson.spread ↔
        s.ShownAlike s') ∧
    (∀ (s : State) (code : String),
      (Display.Panel.ofState (s.withCode code)).toJson.spread
        = (Display.Panel.ofState s).toJson.spread) := by
  refine ⟨?_, fun s s' => compact_eq_iff, ?_, ?_⟩
  · intro s h
    exact ⟨isDocument_of_treeDocument s.keysOnce (treeDocument_compact (isPrinted h)),
      isDocument_of_treeDocument (Display.Panel.keysOnce _)
        (treeDocument_spread (Display.Panel.isPrinted _))⟩
  · intro s s'
    rw [Display.Panel.spread_eq_iff, panel_eq_iff]
  · intro s code
    rw [Display.Panel.spread_eq_iff]
    cases s <;> rfl

/-- A session with a review whose longest line has the given length. -/
def measured (code : String) (blank : UInt64) (longest : Float) : State :=
  .success code ⟨"\"\x7d\n\x7b", ["", "b"], some 101, some "rust", some ⟨4, 3, 1, blank, longest, 23.5⟩, none⟩

/-- Lengths that are equal as numbers but not the same are told apart in the document of the
session, and neither they nor the code are shown. -/
theorem documents_tell_all_zeros :
    IsDocument (Text.bytes (measured "x" 0 0.0).toJson.compact) ∧
    (measured "x" 0 0.0).toJson.compact ≠ (measured "x" 0 (-0.0)).toJson.compact ∧
    (Display.Panel.ofState (measured "x" 0 0.0)).toJson.spread
      = (Display.Panel.ofState (measured "y" 7 (-0.0))).toJson.spread := by
  have hlengths (x : Float) : (measured "x" 0 x).lengths = [x, 23.5] := rfl
  have hfinite : (measured "x" 0 0.0).LengthsFinite ∧ (measured "x" 0 (-0.0)).LengthsFinite := by
    simp only [LengthsFinite, hlengths]
    decide +kernel
  have happart : (measured "x" 0 0.0).LengthsApart (measured "x" 0 (-0.0)) := by
    simp only [LengthsApart, hlengths]
    decide +kernel
  obtain ⟨hdocument, hsession, hshown, -⟩ := documents_tell_all
  refine ⟨(hdocument _ hfinite.1).1, ?_, (hshown _ _).mpr ?_⟩
  · rw [ne_eq, hsession _ _ hfinite.1 hfinite.2 happart]
    intro heq
    have hsame : [(0.0 : Float), 23.5] = [-0.0, 23.5] := congrArg lengths heq
    exact absurd (List.cons.inj hsame).1 (by decide +kernel)
  · exact .success "x" "y" ⟨rfl, rfl, rfl, rfl, .some ⟨rfl, rfl, rfl, rfl⟩⟩

end Session.State

end ReviewDesk
