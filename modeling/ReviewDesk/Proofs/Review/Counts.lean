/-
Whole numbers in a reply are exact.

There are six of them: the issues, the score, and four counts of lines that stand inside the
metrics (`Count`).  A reply that is laid out but for one of them (`Count.At`) and is accepted
with something in its place tells all about the rest, so it only has to be seen what the field
makes of a literal: the number that the digits spell, or nothing.  What a review has to keep
beyond that is about a score and about lengths of lines, and of the numbers here only the
score can break it.

The review differs in the one number, and is printed with it at its place.
-/
import ReviewDesk.Proofs.Json.Counts
import ReviewDesk.Proofs.Review.Bounds
import ReviewDesk.Proofs.Review.Listed
import ReviewDesk.Proofs.Session.Document

namespace ReviewDesk

open Json

/-- The counts of lines in the metrics. -/
inductive LineCount where
  | total
  | code
  | comment
  | blank

namespace LineCount

def key : LineCount → String
  | .total => "total_lines"
  | .code => "code_lines"
  | .comment => "comment_lines"
  | .blank => "blank_lines"

def get (m : Metrics) : LineCount → UInt64
  | .total => m.totalLines
  | .code => m.codeLines
  | .comment => m.commentLines
  | .blank => m.blankLines

def put (m : Metrics) (n : UInt64) : LineCount → Metrics
  | .total => { m with totalLines := n }
  | .code => { m with codeLines := n }
  | .comment => { m with commentLines := n }
  | .blank => { m with blankLines := n }

variable (which : LineCount) (m : Metrics) (n : UInt64)

@[simp] theorem get_put : which.get (which.put m n) = n := by
  cases which <;> rfl

@[simp] theorem maxLineLength_put : (which.put m n).maxLineLength = m.maxLineLength := by
  cases which <;> rfl

@[simp] theorem avgLineLength_put : (which.put m n).avgLineLength = m.avgLineLength := by
  cases which <;> rfl

end LineCount

/-- The whole numbers in a review. -/
inductive Count where
  | issues
  | score
  | lines (which : LineCount)

namespace Count

/-- The highest number that a reply may give. -/
def bound : Count → Nat
  | .score => 100
  | _ => UInt64.size - 1

/-- The number, if the review has it. -/
def get (r : Review) : Count → Option Nat
  | .issues => r.issuesCount.map UInt64.toNat
  | .score => r.qualityScore.map UInt8.toNat
  | .lines which => r.metrics.map fun m => (which.get m).toNat

/-- The review with another number. -/
def put (r : Review) (n : Nat) : Count → Review
  | .issues => { r with issuesCount := some n.toUInt64 }
  | .score => { r with qualityScore := some n.toUInt8 }
  | .lines which => { r with metrics := r.metrics.map fun m => which.put m n.toUInt64 }

/-- A reply laid out but for the number. -/
inductive At : Count → (Tree → Tree) → Prop
  | issues {place : Tree → Tree} (h : Place Review.names "issues_count" place) : At .issues place
  | score {place : Tree → Tree} (h : Place Review.names "quality_score" place) : At .score place
  | lines (which : LineCount) {outer inner : Tree → Tree}
      (houter : Place Review.names "metrics" outer) (hinner : Place Metrics.names which.key inner) :
      At (.lines which) fun v => outer (inner v)

end Count

/-! ### Reviews and their rows -/

theorem map_eq_some_of_inverse {α β : Type} {f : α → β} {g : β → α} (hfg : ∀ b, f (g b) = b)
    (hgf : ∀ a, g (f a) = a) {o : Option α} {b : β} : o.map f = some b ↔ o = some (g b) := by
  rw [Option.map_eq_some_iff]
  constructor
  · rintro ⟨a, ha, rfl⟩
    rw [hgf, ha]
  · intro h
    exact ⟨g b, h, hfg b⟩

section

variable {v x : Tree}

namespace Metrics

/-- The values of metrics, in the order of the fields. -/
def row (m : Metrics) : Row fields :=
  (m.totalLines, m.codeLines, m.commentLines, m.blankLines, m.maxLineLength, m.avgLineLength, ())

theorem ofTree_eq_some {m : Metrics} :
    ofTree v = some m ↔ v.row? fields meanings = some m.row :=
  map_eq_some_of_inverse (fun _ => rfl) fun _ => rfl

/-- Other metrics with one count in place of another. -/
theorem ofTree_place {place : Tree → Tree} {m m₀ : Metrics} (which : LineCount)
    (hplace : Place keys which.key place) (h : ofTree (place x) = some m₀) :
    ofTree (place v) = some m ↔ ∃ w, Tree.uint64? v = some w ∧ m = which.put m₀ w := by
  rw [ofTree_eq_some, Tree.row?_place meanings hplace (by decide) (ofTree_eq_some.mp h)]
  cases m
  cases m₀
  cases which <;>
    simp [Row.Sets, fields, meanings, row, Field.required, LineCount.key, LineCount.put,
      and_assoc, and_left_comm, and_comm]

end Metrics

namespace Review

/-- The values of a review, in the order of the fields. -/
def row (r : Review) : Row fields :=
  (r.review, r.suggestions, r.qualityScore, r.language, r.metrics, r.issuesCount, ())

theorem ofTree_eq_some {r : Review} :
    ofTree v = some r ↔ v.row? fields meanings = some r.row :=
  map_eq_some_of_inverse (fun _ => rfl) fun _ => rfl

variable {place : Tree → Tree} {r r₀ : Review}

theorem ofTree_place {k : String} (hplace : Place keys k place)
    (h : ofTree (place x) = some r₀) :
    ofTree (place v) = some r ↔ Row.Sets fields meanings k v r₀.row r.row := by
  rw [ofTree_eq_some]
  exact Tree.row?_place meanings hplace (by decide) (ofTree_eq_some.mp h)

theorem sets_issues : Row.Sets fields meanings "issues_count" v r₀.row r.row ↔
    ∃ w, Tree.optional? Tree.uint64? v = some w ∧ r = { r₀ with issuesCount := w } := by
  cases r
  cases r₀
  simp [Row.Sets, fields, meanings, row, Field.required, Field.withDefault, and_assoc,
    and_left_comm, and_comm]

theorem sets_score : Row.Sets fields meanings "quality_score" v r₀.row r.row ↔
    ∃ w, Tree.optional? Tree.uint8? v = some w ∧ r = { r₀ with qualityScore := w } := by
  cases r
  cases r₀
  simp [Row.Sets, fields, meanings, row, Field.required, Field.withDefault, and_assoc,
    and_left_comm, and_comm]

theorem sets_metrics : Row.Sets fields meanings "metrics" v r₀.row r.row ↔
    ∃ m, Tree.optional? Metrics.ofTree v = some m ∧ r = { r₀ with metrics := m } := by
  cases r
  cases r₀
  simp [Row.Sets, fields, meanings, row, Field.required, Field.withDefault, and_assoc,
    and_left_comm, and_comm]

end Review

end

/-! ### What the fields make of a literal -/

namespace Count

section

variable {c : Count} {place : Tree → Tree} {x : Tree} {l : Literal} {t : Bytes} {r r₀ : Review}

/-- The highest number that the field has room for. -/
def room : Count → Nat
  | .score => UInt8.size - 1
  | _ => UInt64.size - 1

theorem bound_le_room (c : Count) : c.bound ≤ c.room := by
  cases c with
  | score => decide
  | issues => exact Nat.le_refl _
  | lines which => exact Nat.le_refl _

theorem metrics_of_place {outer inner : Tree → Tree} {which : LineCount}
    (houter : Place Review.names "metrics" outer) (hinner : Place Metrics.names which.key inner)
    (h : Review.ofTree (outer (inner x)) = some r₀) :
    ∃ m₀, Metrics.ofTree (inner x) = some m₀ ∧ r₀.metrics = some m₀ := by
  obtain ⟨m?, hm?, hr₀⟩ := Review.sets_metrics.mp ((Review.ofTree_place houter h).mp h)
  rw [Tree.optional?_place hinner, Option.map_eq_some_iff] at hm?
  obtain ⟨m₀, hm₀, rfl⟩ := hm?
  exact ⟨m₀, hm₀, congrArg Review.metrics hr₀⟩

/-- With a literal for the number, a reply has the form of a review exactly if the digits
spell a number that there is room for. -/
theorem ofTree_at (hat : c.At place) (h : Review.ofTree (place x) = some r₀)
    (hl : LiteralOf l t []) :
    Review.ofTree (place (.num l)) = some r ↔
      ∃ n, Spells t n ∧ n ≤ c.room ∧ r = c.put r₀ n := by
  have hoptional {α : Type} (g : Tree → Option α) :
      Tree.optional? g (.num l) = (g (.num l)).map some := rfl
  cases hat with
  | issues hplace =>
      rw [Review.ofTree_place hplace h, Review.sets_issues, hoptional]
      simp [uint64?_num hl, room, put, and_assoc]
  | score hplace =>
      rw [Review.ofTree_place hplace h, Review.sets_score, hoptional]
      simp [uint8?_num hl, room, put, and_assoc]
  | @lines which outer inner houter hinner =>
      obtain ⟨m₀, hm₀, hmetrics⟩ := metrics_of_place houter hinner h
      rw [Review.ofTree_place houter h, Review.sets_metrics, Tree.optional?_place hinner]
      simp [Metrics.ofTree_place which hinner hm₀, uint64?_num hl, room, put, hmetrics, and_assoc]

/-! ### Bounds -/

/-- Of the numbers only the score is kept in bounds beyond its room. -/
theorem inBounds_put {n : Nat} (h : r₀.InBounds) (hn : n ≤ c.room) :
    (c.put r₀ n).InBounds ↔ n ≤ c.bound := by
  cases c with
  | issues => exact iff_of_true ⟨h.score, h.maxLength, h.avgLength⟩ hn
  | score =>
      have hnat : n.toUInt8.toNat = n :=
        UInt8.toNat_ofNat_of_lt' (Nat.lt_of_le_of_lt hn (by decide))
      constructor
      · intro hbounds
        rw [← hnat]
        exact hbounds.score _ rfl
      · intro hle
        refine ⟨?_, h.maxLength, h.avgLength⟩
        rintro w ⟨⟩
        rw [hnat]
        exact hle
  | lines which =>
      refine iff_of_true ⟨h.score, ?_, ?_⟩ hn
      · intro m hm
        obtain ⟨m₀, hm₀, rfl⟩ := Option.map_eq_some_iff.mp hm
        rw [LineCount.maxLineLength_put]
        exact h.maxLength m₀ hm₀
      · intro m hm
        obtain ⟨m₀, hm₀, rfl⟩ := Option.map_eq_some_iff.mp hm
        rw [LineCount.avgLineLength_put]
        exact h.avgLength m₀ hm₀

/-- A number that was put is the number that is there. -/
theorem get_put {n : Nat} (hat : c.At place) (h : Review.ofTree (place x) = some r₀)
    (hn : n ≤ c.room) : c.get (c.put r₀ n) = some n := by
  have hnat : n < UInt64.size → n.toUInt64.toNat = n := UInt64.toNat_ofNat_of_lt'
  cases hat with
  | issues =>
      exact congrArg some (hnat (Nat.lt_of_le_of_lt hn (by decide)))
  | score =>
      exact congrArg some (UInt8.toNat_ofNat_of_lt' (Nat.lt_of_le_of_lt hn (by decide)))
  | @lines which outer inner houter hinner =>
      obtain ⟨m₀, -, hmetrics⟩ := metrics_of_place houter hinner h
      have hlt : n < UInt64.size :=
        Nat.lt_of_le_of_lt hn (by decide : UInt64.size - 1 < UInt64.size)
      simp only [get, put, hmetrics, Option.map_some, LineCount.get_put, hnat hlt]

end

/-! ### Printed again -/

/-- An object is laid out but for any one of its members. -/
theorem exists_place_tree (keys : List String) (k : String) (ms ms' : List (String × Json)) :
    ∃ place, Place keys k place ∧
      ∀ v : Json, (Json.object (ms ++ (k, v) :: ms')).tree = place v.tree := by
  refine ⟨_, .member (ms.map fun m => (some m.1, m.2.tree))
    (ms'.map fun m => (some m.1, m.2.tree)), fun v => ?_⟩
  simp [tree]

theorem exists_place_metrics (which : LineCount) (m : Metrics) :
    ∃ place, Place Metrics.names which.key place ∧
      m.toJson.tree = place (Json.ofNat (which.get m).toNat).tree := by
  obtain ⟨ms, ms', hms⟩ : ∃ ms ms', m.toJson =
      .object (ms ++ (which.key, Json.ofNat (which.get m).toNat) :: ms') := by
    cases which with
    | total => exact ⟨[], _, rfl⟩
    | code => exact ⟨[_], _, rfl⟩
    | comment => exact ⟨[_, _], _, rfl⟩
    | blank => exact ⟨[_, _, _], _, rfl⟩
  obtain ⟨place, hplace, htree⟩ := exists_place_tree Metrics.names which.key ms ms'
  exact ⟨place, hplace, hms ▸ htree _⟩

/-- The number is printed in its place. -/
theorem exists_at {c : Count} {r : Review} {n : Nat} (h : c.get r = some n) :
    ∃ place, c.At place ∧ r.toJson.tree = place (.num (Number.int n).literal) := by
  have hnumber : (Json.ofNat n).tree = .num (Number.int n).literal := by
    simp [Json.ofNat, tree]
  rw [← hnumber]
  cases c with
  | issues =>
      obtain ⟨w, hw, rfl⟩ := Option.map_eq_some_iff.mp h
      obtain ⟨place, hplace, htree⟩ := exists_place_tree Review.names "issues_count" _ []
      refine ⟨place, .issues hplace, ?_⟩
      rw [Review.toJson, hw]
      exact htree _
  | score =>
      obtain ⟨w, hw, rfl⟩ := Option.map_eq_some_iff.mp h
      obtain ⟨place, hplace, htree⟩ := exists_place_tree Review.names "quality_score" _ _
      refine ⟨place, .score hplace, ?_⟩
      rw [Review.toJson, hw]
      simp only [List.append_assoc]
      exact htree _
  | lines which =>
      obtain ⟨m, hm, rfl⟩ := Option.map_eq_some_iff.mp h
      obtain ⟨outer, houter, htree⟩ := exists_place_tree Review.names "metrics" _ _
      obtain ⟨inner, hinner, hmetrics⟩ := exists_place_metrics which m
      refine ⟨_, .lines which houter hinner, ?_⟩
      rw [← hmetrics, Review.toJson, hm,
        List.append_assoc _ (member? "metrics" Metrics.toJson (some m))]
      exact htree _

end Count

/-- A review that keeps its bounds is printed with numbers. -/
theorem Review.isPrinted {r : Review} (h : r.InBounds) : r.toJson.IsPrinted := by
  intro n hn
  rcases Review.mem_numbers hn with ⟨k, rfl⟩ | ⟨y, hy, rfl⟩
  · trivial
  · obtain ⟨m, hm, hlength⟩ := List.mem_flatMap.mp hy
    have hmetrics : m ∈ r.metrics := Option.mem_toList.mp hm
    rcases List.mem_pair.mp hlength with rfl | rfl
    · exact (h.maxLength m hmetrics).1
    · exact (h.avgLength m hmetrics).1

/--
**Whole numbers in a reply are exact.**

Take a reply that is accepted, as the review `r₀`, and put any number literal in the place of
one of its whole numbers.  The new reply is accepted exactly if the literal is made of digits
alone, without a zero in front of others, and they spell a number up to the bound, which is
100 for a score and the largest number of 64 bits for all others; and then it is accepted as
the review `r₀` with that number.  In both texts of the review the literal stands at the same
field again, and it is written in one way only.
-/
theorem Review.counts_exact {c : Count} {place : Tree → Tree} {x : Tree} {bs₀ bs : Bytes}
    {r₀ : Review} {l : Literal} {t : Bytes} (hat : c.At place)
    (hdoc₀ : TreeDocument (place x) bs₀) (h₀ : Review.decode bs₀ = .ok r₀)
    (hl : LiteralOf l t []) (hdoc : TreeDocument (place (.num l)) bs) :
    (∀ r : Review, Review.decode bs = .ok r ↔
      ∃ n, Spells t n ∧ n ≤ c.bound ∧ r = c.put r₀ n) ∧
    (∀ (r : Review) (n : Nat), Review.decode bs = .ok r → Spells t n →
      c.get r = some n ∧
      (∃ place', c.At place' ∧ TreeDocument (place' (.num l)) (Text.bytes r.toJson.compact) ∧
        TreeDocument (place' (.num l)) (Text.bytes r.toJson.spread)) ∧
      ∀ t', LiteralOf l t' [] → t' = t) := by
  obtain ⟨hr₀, hproblem₀⟩ := (Review.decode_document hdoc₀).mp h₀
  have hbounds₀ : r₀.InBounds := Review.problem?_eq_none_iff.mp hproblem₀
  have haccepted (r : Review) : Review.decode bs = .ok r ↔
      ∃ n, Spells t n ∧ n ≤ c.bound ∧ r = c.put r₀ n := by
    rw [Review.decode_document hdoc, Count.ofTree_at hat hr₀ hl, Review.problem?_eq_none_iff]
    constructor
    · rintro ⟨⟨n, hspells, hroom, rfl⟩, hbounds⟩
      exact ⟨n, hspells, (Count.inBounds_put hbounds₀ hroom).mp hbounds, rfl⟩
    · rintro ⟨n, hspells, hbound, rfl⟩
      have hroom := Nat.le_trans hbound c.bound_le_room
      exact ⟨⟨n, hspells, hroom, rfl⟩, (Count.inBounds_put hbounds₀ hroom).mpr hbound⟩
  refine ⟨haccepted, fun r n hr hspells => ?_⟩
  obtain ⟨m, hspells', hbound, rfl⟩ := (haccepted r).mp hr
  obtain rfl : m = n := hspells'.value.symm.trans hspells.value
  have hroom := Nat.le_trans hbound c.bound_le_room
  have hget := Count.get_put hat hr₀ hroom
  obtain ⟨place', hat', htree⟩ := Count.exists_at hget
  have hprinted : (c.put r₀ m).toJson.IsPrinted :=
    Review.isPrinted ((Count.inBounds_put hbounds₀ hroom).mpr hbound)
  have hcompact := treeDocument_compact hprinted
  have hspread := treeDocument_spread hprinted
  rw [htree, hspells.literal_int hl] at hcompact hspread
  exact ⟨hget, ⟨place', hat', hcompact, hspread⟩, fun _ hl' => hspells.text_unique hl hl'⟩

/-! ### Replies at the bounds -/

theorem treeDocument_num {l : Literal} {t : Bytes} (hl : LiteralOf l t []) :
    TreeDocument (.num l) t :=
  ⟨t, [], .none, .num hl, .none⟩

/-- A reply laid out but for the number of issues. -/
def issuesPlace (v : Tree) : Tree :=
  .object ([(some "review", .text (some "a"))] ++ (some "issues_count", v) :: [])

def issuesBody (t : Bytes) : Bytes :=
  objectText ["review", "issues_count"] [Text.bytes "\"a\"", t]

/-- A reply that lists its values, laid out but for the number of blank lines. -/
def blankPlace (v : Tree) : Tree :=
  .list (fourValues ++ .list (sixCounts.take 3 ++ v :: sixCounts.drop 4) :: [])

def blankBody (t : Bytes) : Bytes :=
  listText (fiveTexts (listText (sixTexts.take 3 ++ t :: sixTexts.drop 4)))

theorem document_issuesBody {v : Tree} {t : Bytes} (h : TreeDocument v t) :
    TreeDocument (issuesPlace v) (issuesBody t) := by
  have htext : TreeDocument (.text (some "a")) (Text.bytes "\"a\"") :=
    ⟨_, [], .none, treeOf_a [], .none⟩
  have hkeys : ∀ k ∈ ["review", "issues_count"], ∀ b ∈ Text.bytes k, Plain b :=
    fun k hk => plain_of_mem_names
      ((by decide : ["review", "issues_count"] ⊆ Review.names ++ Metrics.names) hk)
  exact treeDocument_objectText hkeys (.cons htext (.cons h .nil))

theorem document_blankBody {v : Tree} {t : Bytes} (h : TreeDocument v t) :
    TreeDocument (blankPlace v) (blankBody t) := by
  have hmetrics := List.rel_append (List.forall₂_take 3 forall₂_sixTexts)
    (.cons h (List.forall₂_drop 4 forall₂_sixTexts))
  exact treeDocument_listText (forall₂_fiveTexts (treeDocument_listText hmetrics))

/-- The largest number of 64 bits is accepted as it is and printed again, and one more is
refused; zero is accepted, and refused with a sign. -/
theorem Review.counts_exact_limits :
    let most := Text.bytes "18446744073709551615"
    (∃ r, Review.decode (issuesBody most) = .ok r ∧ Count.issues.get r = some 18446744073709551615 ∧
      ∃ place', Count.issues.At place' ∧
        TreeDocument (place' (.num ⟨false, most, [], none⟩)) (Text.bytes r.toJson.compact)) ∧
    (∀ r, Review.decode (issuesBody (Text.bytes "18446744073709551616")) ≠ .ok r) ∧
    (∃ r, Review.decode (blankBody (Text.bytes "0")) = .ok r ∧
      (Count.lines .blank).get r = some 0) ∧
    ∀ r, Review.decode (blankBody (Text.bytes "-0")) ≠ .ok r := by
  intro most
  have hissues : Count.issues.At issuesPlace := .issues (.member [(some "review", _)] [])
  have hinner : Place Metrics.names "blank_lines"
      fun v => .list (sixCounts.take 3 ++ v :: sixCounts.drop 4) :=
    @Place.item _ _ (sixCounts.take 3) rfl _
  have houter : Place Review.names "metrics" fun v => .list (fourValues ++ v :: []) :=
    @Place.item _ _ fourValues rfl []
  have hblank : (Count.lines .blank).At blankPlace := (Count.At.lines .blank houter hinner :)
  have hnull : TreeDocument .null (Text.bytes "null") := ⟨_, [], .none, .null, .none⟩
  have hempty : Review.decode (issuesBody (Text.bytes "null")) = .ok listedReview :=
    (Review.decode_document (document_issuesBody hnull)).mpr ⟨rfl, rfl⟩
  have hdigit : TreeDocument (digit '1') [ascii '1'] :=
    ⟨_, [], .none, treeOf_digit (by decide) [], .none⟩
  have hone : Review.decode (blankBody [ascii '1']) = .ok fivefoldReview :=
    (Review.decode_document (document_blankBody hdigit)).mpr
      ⟨rfl, Option.isNone_iff_eq_none.mp (by decide +kernel)⟩
  have hmost : Spells most 18446744073709551615 :=
    ⟨by decide, List.all_eq_true.mp (by decide), by decide, by decide⟩
  have hmore : Spells (Text.bytes "18446744073709551616") 18446744073709551616 :=
    ⟨by decide, List.all_eq_true.mp (by decide), by decide, by decide⟩
  have hzero : Spells (Text.bytes "0") 0 :=
    ⟨by decide, List.all_eq_true.mp (by decide), by decide, by decide⟩
  have hminus : LiteralOf ⟨true, [ascii '0'], [], none⟩ (Text.bytes "-0") [] :=
    .mk .minus ⟨⟨by decide, List.all_eq_true.mp (by decide), rfl⟩, fun _ => rfl⟩ .none .none
  refine ⟨?_, ?_, ?_, ?_⟩
  · obtain ⟨haccepted, hprinted⟩ := Review.counts_exact hissues (document_issuesBody hnull) hempty
      hmost.literalOf (document_issuesBody (treeDocument_num hmost.literalOf))
    have hr := (haccepted _).mpr ⟨_, hmost, by decide, rfl⟩
    obtain ⟨hget, ⟨place', hat', hcompact, -⟩, -⟩ := hprinted _ _ hr hmost
    exact ⟨_, hr, hget, place', hat', hcompact⟩
  · intro r hr
    obtain ⟨haccepted, -⟩ := Review.counts_exact hissues (document_issuesBody hnull) hempty
      hmore.literalOf (document_issuesBody (treeDocument_num hmore.literalOf))
    obtain ⟨n, hspells, hbound, -⟩ := (haccepted r).mp hr
    obtain rfl : 18446744073709551616 = n := hmore.value.symm.trans hspells.value
    exact absurd hbound (by decide)
  · obtain ⟨haccepted, hprinted⟩ := Review.counts_exact hblank (document_blankBody hdigit) hone
      hzero.literalOf (document_blankBody (treeDocument_num hzero.literalOf))
    have hr := (haccepted _).mpr ⟨_, hzero, by decide, rfl⟩
    exact ⟨_, hr, (hprinted _ _ hr hzero).1⟩
  · intro r hr
    obtain ⟨haccepted, -⟩ := Review.counts_exact hblank (document_blankBody hdigit) hone
      hminus (document_blankBody (treeDocument_num hminus))
    obtain ⟨n, hspells, -⟩ := (haccepted r).mp hr
    exact absurd (hspells.digits (ascii '-') (by decide)) (by decide)

end ReviewDesk
