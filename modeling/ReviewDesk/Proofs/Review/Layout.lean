/-
A reply means the same however it is laid out.

White space and the way of escaping are not in the tree of a reply, so two documents of one
tree are the same reply from the start.  What is left to the sender beyond that is the order
of the members and what else it puts among them, in the reply and in the metrics it may hold
(`SameReply`).  Neither changes what a tree is taken for, and a known key that comes twice in
one object, in whatever way it is written, is never taken for anything.
-/
import ReviewDesk.Proofs.Json.Escapes
import ReviewDesk.Proofs.Json.Layout
import ReviewDesk.Proofs.Review.Body

namespace ReviewDesk

open Json

def Metrics.keys : List String :=
  Metrics.fields.map Field.key

def Review.keys : List String :=
  Review.fields.map Field.key

/-! ### Layouts of a reply -/

/-- One member for another: the same one, or the same metrics laid out in another way. -/
inductive SameMember : Tree.Member → Tree.Member → Prop
  | same (m : Tree.Member) : SameMember m m
  | metrics {ms ms' : List Tree.Member} (h : Rearranged Metrics.keys ms ms') :
      SameMember (some "metrics", .object ms) (some "metrics", .object ms')

/-- The same reply laid out in another way: its members in any order, and any others with keys
that a review does not have among them. -/
def SameReply (ms ms' : List Tree.Member) : Prop :=
  ∃ same, List.Forall₂ SameMember ms same ∧ Rearranged Review.keys same ms'

/-- A key of a review comes twice in a reply, or one of the metrics in the metrics of a reply,
which have the fifth place in a reply that is a list. -/
inductive RepeatsKey : Tree → Prop
  | reply {ms : List Tree.Member} (h : Repeats Review.keys ms) : RepeatsKey (.object ms)
  | metrics {ms xs : List Tree.Member} (hmem : (some "metrics", .object xs) ∈ ms)
      (h : Repeats Metrics.keys xs) : RepeatsKey (.object ms)
  | listed {before after : List Tree} {xs : List Tree.Member} (hbefore : before.length = 4)
      (h : Repeats Metrics.keys xs) : RepeatsKey (.list (before ++ .object xs :: after))

/-! ### What layouts come to -/

theorem Metrics.ofTree_rearranged {ms ms' : List Tree.Member}
    (h : Rearranged Metrics.keys ms ms') :
    Metrics.ofTree (.object ms') = Metrics.ofTree (.object ms) :=
  congrArg (Option.map Metrics.ofRow) <|
    Row.ofMembers_rearranged Metrics.meanings h fun _ => List.mem_map_of_mem

/-- Metrics with a key that comes twice are none. -/
theorem Metrics.ofTree_repeats {ms : List Tree.Member} (h : Repeats Metrics.keys ms) :
    Tree.optional? Metrics.ofTree (.object ms) = none :=
  congrArg (Option.map some ∘ Option.map Metrics.ofRow)
    (Row.ofMembers_repeats Metrics.meanings h)

/-- Only the metrics look at the values at their key. -/
theorem Review.agree_metrics {v v' : Tree}
    (h : Tree.optional? Metrics.ofTree v' = Tree.optional? Metrics.ofTree v) :
    Meanings.Agree Review.fields Review.meanings (some "metrics") v v' := by
  have other : ∀ k : String, k ≠ "metrics" → ∀ p : Prop, some "metrics" = some k → p :=
    fun k hk p heq => absurd (Option.some.inj heq).symm hk
  exact ⟨other _ (by decide) _, other _ (by decide) _, other _ (by decide) _,
    other _ (by decide) _, fun _ => h, other _ (by decide) _, trivial⟩

theorem SameMember.alike {m m' : Tree.Member} (h : SameMember m m') :
    Review.meanings.Alike m m' := by
  cases h with
  | same => exact ⟨rfl, Meanings.agree_refl _ _ _⟩
  | metrics h =>
      exact ⟨rfl, Review.agree_metrics (congrArg (Option.map some) (Metrics.ofTree_rearranged h))⟩

theorem Review.ofTree_sameReply {ms ms' : List Tree.Member} (h : SameReply ms ms') :
    Review.ofTree (.object ms') = Review.ofTree (.object ms) := by
  obtain ⟨same, hsame, hrearranged⟩ := h
  have hrow : Row.ofMembers Review.fields Review.meanings ms' =
      Row.ofMembers Review.fields Review.meanings ms :=
    (Row.ofMembers_rearranged Review.meanings hrearranged fun _ => List.mem_map_of_mem).trans
      (Row.ofMembers_congr Review.meanings (hsame.imp fun _ _ => SameMember.alike))
  exact congrArg (Option.map Review.ofRow) hrow

theorem Review.ofTree_repeatsKey {v : Tree} (h : RepeatsKey v) : Review.ofTree v = none := by
  cases h with
  | reply h => exact congrArg (Option.map Review.ofRow) (Row.ofMembers_repeats Review.meanings h)
  | metrics hmem h =>
      have hrow := Row.ofMembers_refused Review.meanings hmem
        (.inr (.inr (.inr (.inr (.inl ⟨rfl, Metrics.ofTree_repeats h⟩)))))
      exact congrArg (Option.map Review.ofRow) hrow
  | @listed before after xs hbefore h =>
      have hrefuse : Meanings.RefuseAt Review.fields Review.meanings before.length (.object xs) := by
        rw [hbefore]
        exact Metrics.ofTree_repeats h
      exact congrArg (Option.map Review.ofRow) (Row.ofItems_refused Review.meanings hrefuse)

/--
**A reply means the same however it is laid out.**

Every reply that is accepted is a document of a tree, which has nothing of its white space and
escapes in it.  If that is an object, then any document of the same object laid out in another
way is accepted as the same review: with its members and those of its metrics in any order,
and any others among them that a review does not know, whatever they hold.  And a reply with
a known key twice in one object is never accepted.
-/
theorem Review.decode_ignores_layout :
    (∀ (bs : Bytes) (r : Review), Review.decode bs = .ok r → ∃ v, TreeDocument v bs) ∧
    (∀ (ms ms' : List Tree.Member) (bs bs' : Bytes), SameReply ms ms' →
      TreeDocument (.object ms) bs → TreeDocument (.object ms') bs' →
      ∀ r : Review, Review.decode bs = .ok r ↔ Review.decode bs' = .ok r) ∧
    (∀ (v : Tree) (bs : Bytes), RepeatsKey v → TreeDocument v bs →
      ∀ r : Review, Review.decode bs ≠ .ok r) := by
  refine ⟨fun bs r => Review.document_of_decode, ?_, ?_⟩
  · intro ms ms' bs bs' hsame hdoc hdoc' r
    rw [Review.decode_document hdoc, Review.decode_document hdoc', Review.ofTree_sameReply hsame]
  · intro v bs hrepeats hdoc r h
    obtain ⟨hr, -⟩ := (Review.decode_document hdoc).mp h
    rw [Review.ofTree_repeatsKey hrepeats] at hr
    cases hr

/-! ### A reply laid out in two ways -/

/-- Whether a text can be written without escapes. -/
def isPlain (x : String) : Bool :=
  (Text.bytes x).all fun b => decide (Plain b)

theorem content_plain {x : String} (hx : isPlain x = true) (t : Bytes) :
    Content (Text.bytes x) (Text.bytes x ++ ascii '"' :: t) t := by
  have hplain : ∀ b ∈ Text.bytes x, Plain b := fun b hb =>
    of_decide_eq_true (List.all_eq_true.mp hx b hb)
  have hcontent := Content.plain_append (.close (t := t)) hplain
  rwa [List.append_nil] at hcontent

/-- A member with a key that needs no escapes and no white space around it. -/
theorem entry_plain {k : String} {v : Tree} {s t : Bytes} (hk : isPlain k = true)
    (hv : TreeOf v s t) :
    Entry TreeOf (some k, v) (ascii '"' :: (Text.bytes k ++ ascii '"' :: ascii ':' :: s)) t := by
  have hkey : TextOf? (some k) _ (ascii ':' :: s) := content_plain hk _
  exact .mk hkey .none .none hv

/-- A number of one digit. -/
def digit (c : Char) : Tree :=
  .num ⟨false, [ascii c], [], none⟩

theorem treeOf_digit {c : Char} (hc : isDigit (ascii c) = true) (t : Bytes) :
    TreeOf (digit c) (ascii c :: t) t := by
  refine .num (.mk .plus ⟨⟨List.cons_ne_nil _ _, List.forall_mem_singleton.mpr hc, rfl⟩, ?_⟩
    .none .none)
  intro hzero
  rw [Option.some.inj hzero]

/-- The key `review` with its first letter written as an escape. -/
theorem textOf_escapedKey (t : Bytes) : TextOf "review" (Text.bytes "\\u0072eview\"" ++ t) t := by
  have hletter : Hex 0x72 (Text.bytes "0072eview\"" ++ t) (Text.bytes "eview\"" ++ t) :=
    .mk (x := 0) (y := 0) (z := 7) (w := 2) rfl rfl rfl rfl
  exact Content.unit hletter rfl rfl (content_plain (x := "eview") (by decide) t)

theorem treeOf_a (t : Bytes) : TreeOf (.text (some "a")) (Text.bytes "\"a\"" ++ t) t :=
  .text (x := some "a") (content_plain (x := "a") (by decide) t)

def shortMetrics : List Tree.Member :=
  [(some "total_lines", digit '5'), (some "code_lines", digit '3'),
    (some "comment_lines", digit '1'), (some "blank_lines", digit '1'),
    (some "max_line_length", digit '9'), (some "avg_line_length", digit '4')]

/-- A reply with metrics and without anything that may be left out. -/
def shortReply : List Tree.Member :=
  [(some "review", .text (some "a")), (some "metrics", .object shortMetrics)]

/-- The text of that reply. -/
def shortBody : Bytes :=
  Text.bytes ("\x7b\"review\":\"a\",\"metrics\":\x7b\"total_lines\":5,\"code_lines\":3," ++
    "\"comment_lines\":1,\"blank_lines\":1,\"max_line_length\":9,\"avg_line_length\":4\x7d\x7d")

theorem document_shortBody : TreeDocument (.object shortReply) shortBody := by
  refine ⟨_, [], .none, .object ?_, .none⟩
  refine .first .none (entry_plain (by decide) (treeOf_a _)) ?_
  refine .comma .none .none (entry_plain (by decide) (.object ?_)) (.close .none)
  refine .first .none (entry_plain (by decide) (treeOf_digit (by decide) _)) ?_
  refine .comma .none .none (entry_plain (by decide) (treeOf_digit (by decide) _)) ?_
  refine .comma .none .none (entry_plain (by decide) (treeOf_digit (by decide) _)) ?_
  refine .comma .none .none (entry_plain (by decide) (treeOf_digit (by decide) _)) ?_
  refine .comma .none .none (entry_plain (by decide) (treeOf_digit (by decide) _)) ?_
  exact .comma .none .none (entry_plain (by decide) (treeOf_digit (by decide) _)) (.close .none)

/-- A number that has no value. -/
def hugeLiteral : Literal :=
  ⟨false, [ascii '1'], [], some ⟨false, [ascii '9', ascii '9', ascii '9']⟩⟩

theorem literalOf_huge (t : Bytes) : LiteralOf hugeLiteral (Text.bytes "1e999" ++ t) t := by
  have hwhole : Whole [ascii '1'] (Text.bytes "1e999" ++ t) (Text.bytes "e999" ++ t) :=
    ⟨⟨List.cons_ne_nil _ _, List.all_eq_true.mp (by decide), rfl⟩, by decide⟩
  have hexponent : Digits [ascii '9', ascii '9', ascii '9'] (Text.bytes "999" ++ t) t :=
    ⟨List.cons_ne_nil _ _, List.all_eq_true.mp (by decide), rfl⟩
  exact .mk .plus hwhole .none (.some (.inl rfl) .none hexponent)

/-- The same metrics the other way round, with one member more. -/
def relaidMetrics : List Tree.Member :=
  ((some "unit", .null) :: shortMetrics).reverse

/-- A member that no review has, with one inside that a review has. -/
def seen : Tree.Member :=
  (some "seen", .list [.object [(some "review", .num hugeLiteral)]])

/-- The same reply the other way round, with that member. -/
def relaidReply : List Tree.Member :=
  [seen, (some "review", .text (some "a")), (some "metrics", .object relaidMetrics)].reverse

def relaidMetricsText : String :=
  "\"avg_line_length\":4,\"max_line_length\":9, \"blank_lines\":1,\"comment_lines\":1," ++
    "\"code_lines\":3,\"total_lines\":5,\"unit\":null\x7d"

/-- The text of that reply, with white space and an escape in a key. -/
def relaidBody : Bytes :=
  Text.bytes (" \x7b\"metrics\":\x7b" ++ relaidMetricsText ++
    ",\"\\u0072eview\":\"a\", \"seen\":[\x7b\"review\":1e999\x7d]\x7d\n")

theorem bracketed_relaidMetrics (t : Bytes) :
    Bracketed '\x7d' (Entry TreeOf) relaidMetrics (Text.bytes relaidMetricsText ++ t) t := by
  refine .first .none (entry_plain (by decide) (treeOf_digit (by decide) _)) ?_
  refine .comma .none .none (entry_plain (by decide) (treeOf_digit (by decide) _)) ?_
  refine .comma .none (.more rfl .none) (entry_plain (by decide) (treeOf_digit (by decide) _)) ?_
  refine .comma .none .none (entry_plain (by decide) (treeOf_digit (by decide) _)) ?_
  refine .comma .none .none (entry_plain (by decide) (treeOf_digit (by decide) _)) ?_
  refine .comma .none .none (entry_plain (by decide) (treeOf_digit (by decide) _)) ?_
  exact .comma .none .none (entry_plain (by decide) .null) (.close .none)

theorem document_relaidBody : TreeDocument (.object relaidReply) relaidBody := by
  refine ⟨_, [ascii '\n'], .more rfl .none, .object ?_, .more rfl .none⟩
  refine .first .none (entry_plain (by decide) (.object (bracketed_relaidMetrics _))) ?_
  refine .comma .none .none (.mk (k := some "review") (textOf_escapedKey _) .none .none (treeOf_a _)) ?_
  refine .comma .none (.more rfl .none) (entry_plain (by decide) (.list ?_)) (.close .none)
  refine .first .none (.object ?_) (.close .none)
  exact .first .none (entry_plain (by decide) (.num (literalOf_huge _))) (.close .none)

theorem sameReply_relaid : SameReply shortReply relaidReply := by
  have hmetrics : Rearranged Metrics.keys shortMetrics relaidMetrics := by
    refine ⟨[(some "unit", .null)], List.forall_mem_singleton.mpr ⟨_, rfl, ?_⟩, List.reverse_perm _⟩
    decide
  refine ⟨[(some "review", .text (some "a")), (some "metrics", .object relaidMetrics)],
    .cons (.same _) (.cons (.metrics hmetrics) .nil), [seen],
    List.forall_mem_singleton.mpr ⟨_, rfl, ?_⟩, List.reverse_perm _⟩
  decide

def shortReview : Review where
  review := "a"
  suggestions := []
  qualityScore := none
  language := none
  metrics := some ⟨5, 3, 1, 1, 9, 4⟩
  issuesCount := none

/-- A reply that gives its text twice, once with an escape in the key. -/
def twiceReply : List Tree.Member :=
  [(some "review", .text (some "a")), (some "review", .text (some "a"))]

def twiceBody : Bytes :=
  Text.bytes "\x7b\"review\":\"a\",\"\\u0072eview\":\"a\"\x7d"

theorem document_twiceBody : TreeDocument (.object twiceReply) twiceBody := by
  refine ⟨_, [], .none, .object ?_, .none⟩
  refine .first .none (entry_plain (by decide) (treeOf_a _)) ?_
  exact .comma .none .none
    (.mk (k := some "review") (textOf_escapedKey _) .none .none (treeOf_a _)) (.close .none)

theorem Review.decode_ignores_layout_relaid :
    (Review.decode shortBody = .ok shortReview ∧ ∃ v, TreeDocument v shortBody) ∧
    (SameReply shortReply relaidReply ∧ TreeDocument (.object shortReply) shortBody ∧
      TreeDocument (.object relaidReply) relaidBody ∧
      Review.decode relaidBody = .ok shortReview) ∧
    (RepeatsKey (.object twiceReply) ∧ TreeDocument (.object twiceReply) twiceBody ∧
      ∀ r : Review, Review.decode twiceBody ≠ .ok r) := by
  have hproblem : shortReview.problem? = none :=
    Option.isNone_iff_eq_none.mp (by decide +kernel)
  have hshort : Review.decode shortBody = .ok shortReview :=
    (Review.decode_document document_shortBody).mpr ⟨rfl, hproblem⟩
  have hrelaid : Review.decode relaidBody = .ok shortReview :=
    (Review.decode_ignores_layout.2.1 shortReply relaidReply shortBody relaidBody sameReply_relaid
      document_shortBody document_relaidBody shortReview).mp hshort
  have hrepeats : RepeatsKey (.object twiceReply) := .reply ⟨"review", by decide, by decide⟩
  exact ⟨⟨hshort, Review.decode_ignores_layout.1 _ _ hshort⟩,
    ⟨sameReply_relaid, document_shortBody, document_relaidBody, hrelaid⟩,
    hrepeats, document_twiceBody,
    Review.decode_ignores_layout.2.2 _ _ hrepeats document_twiceBody⟩

end ReviewDesk
