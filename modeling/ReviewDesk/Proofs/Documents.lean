/-
Documents read back as what was written.

Each kind of document is written as a JSON value and read from text.  Two facts about a
kind are enough: its reader reads the value (`Reads`), and there is nothing in the value
that would be written as something else (`Exact`).  They meet in the grammar: the text
that is written is one of the texts of the value, and the reader takes them all.

What is absent is left out of a review and of a health report, and written as null in
settings.  Suggestions are always written although they may be left out.  None of this
matters beyond the step for the one field.

Settings and health reports hold no doubles.  A review does, in its metrics, and then it
reads back if those doubles do.
-/
import ReviewDesk.Settings
import ReviewDesk.Health
import ReviewDesk.Proofs.Json.Records
import ReviewDesk.Proofs.Json.Written

namespace ReviewDesk

open Json

/-! ### Reading back in general -/

/-- What is read from either form of the document is what was written. -/
def ReadsBothForms {α ε : Type} (decode : Bytes → Except ε α) (toJson : α → Json) (a : α) : Prop :=
  decode (Text.bytes (toJson a).compact) = .ok a ∧ decode (Text.bytes (toJson a).spread) = .ok a

theorem readsBothForms {α : Type} {p : Reader α} {toJson : α → Json} {a : α}
    (hread : p.Reads (toJson a) a) (hexact : (toJson a).Exact) :
    ReadsBothForms p.document toJson a :=
  ⟨hread.document (document_compact hexact), hread.document (document_spread hexact)⟩

theorem exact_ofNat {n : Nat} (h : n < UInt64.size) : (ofNat n).Exact :=
  .num ⟨n, rfl, h⟩

/-- Members that are there or not. -/
theorem exact_member? {α : Type} {key : String} {write : α → Json} {o : Option α}
    (h : ∀ a ∈ o, (write a).Exact) : ∀ m ∈ member? key write o, m.2.Exact := by
  cases o with
  | none => exact fun m hm => nomatch hm
  | some a => exact List.forall_mem_singleton.mpr (h a rfl)

theorem reads_optionalText (expected x : String) :
    (Reader.optional (Reader.textValue expected)).Reads (.text x) (some x) :=
  (Reader.reads_textValue expected x).optional nofun

/-! ### Reviews -/

/-- The lengths of lines among the metrics read back. -/
def Metrics.LengthsReadBack (m : Metrics) : Prop :=
  ReadsBack m.maxLineLength ∧ ReadsBack m.avgLineLength

/-- The line lengths of a review, if it has any, read back. -/
def Review.LengthsReadBack (r : Review) : Prop :=
  ∀ m ∈ r.metrics, m.LengthsReadBack

theorem Metrics.reads (m : Metrics) : Metrics.reader.Reads m.toJson m := by
  have hwritten : Written Metrics.fields _
      (m.totalLines, m.codeLines, m.commentLines, m.blankLines, m.maxLineLength, m.avgLineLength, ()) :=
    .present (Reader.reads_uint64 m.totalLines) <|
    .present (Reader.reads_uint64 m.codeLines) <|
    .present (Reader.reads_uint64 m.commentLines) <|
    .present (Reader.reads_uint64 m.blankLines) <|
    .present (Reader.reads_double (.double m.maxLineLength)) <|
    .present (Reader.reads_double (.double m.avgLineLength)) .nil
  exact (hwritten.reads "Metrics" (by decide)).map Metrics.ofRow

theorem Review.reads (r : Review) : Review.reader.Reads r.toJson r := by
  have hsuggestions : (Reader.listValue (Reader.textValue "a string")).Reads
      (.list (r.suggestions.map .text)) r.suggestions := by
    refine Reader.reads_listValue ?_
    rw [Reader.ReadsAll, List.forall₂_map_left_iff, List.forall₂_same]
    exact fun x _ => Reader.reads_textValue "a string" x
  have hwritten : Written Review.fields _
      (r.review, r.suggestions, r.qualityScore, r.language, r.metrics, r.issuesCount, ()) :=
    .present (Reader.reads_textValue "a string" r.review) <|
    .present hsuggestions <|
    .member? (fun n _ => (Reader.reads_uint8 n).optional nofun) <|
    .member? (fun x _ => reads_optionalText "a string" x) <|
    .member? (fun m _ => m.reads.optional nofun) <|
    .member? (fun n _ => (Reader.reads_uint64 n).optional nofun) .nil
  have hread := (hwritten.reads "ReviewResult" (by decide)).map Review.ofRow
  rw [List.append_nil] at hread
  simp only [Review.toJson, List.append_assoc, List.cons_append, List.nil_append]
  exact hread

theorem isFinite_of_isLength {x : Float} (h : isLength x = true) : x.isFinite = true := by
  rw [isLength, Bool.and_eq_true] at h
  exact h.1

theorem Metrics.finite_of_problem? {m : Metrics} (h : m.problem? = none) :
    m.maxLineLength.isFinite = true ∧ m.avgLineLength.isFinite = true := by
  unfold Metrics.problem? at h
  split at h
  · cases h
  · next hmax =>
    split at h
    · cases h
    · next havg =>
      simp only [Bool.not_eq_true', Bool.not_eq_false] at hmax havg
      exact ⟨isFinite_of_isLength hmax, isFinite_of_isLength havg⟩

theorem Review.metrics_of_problem? {r : Review} (h : r.problem? = none) :
    ∀ m ∈ r.metrics, m.problem? = none := by
  have hmetrics : r.metrics.bind Metrics.problem? = none := by
    unfold Review.problem? at h
    split at h
    · split at h
      · cases h
      · exact h
    · exact h
  exact Option.bind_eq_none_iff.mp hmetrics

theorem Metrics.exact {m : Metrics} (hproblem : m.problem? = none)
    (hback : m.LengthsReadBack) : m.toJson.Exact := by
  obtain ⟨hmax, havg⟩ := m.finite_of_problem? hproblem
  refine .object ?_
  simp only [List.forall_mem_cons, List.not_mem_nil, IsEmpty.forall_iff, implies_true, and_true]
  exact ⟨exact_ofNat m.totalLines.toNat_lt, exact_ofNat m.codeLines.toNat_lt,
    exact_ofNat m.commentLines.toNat_lt, exact_ofNat m.blankLines.toNat_lt,
    .num ⟨hmax, hback.1⟩, .num ⟨havg, hback.2⟩⟩

/-- Only the metrics of a review can hold what would be written as something else. -/
theorem Review.exact_of_metrics {r : Review} (hmetrics : ∀ m ∈ r.metrics, m.toJson.Exact) :
    r.toJson.Exact := by
  have hscore : ∀ n ∈ r.qualityScore, (ofNat n.toNat).Exact := fun n _ =>
    exact_ofNat (Nat.lt_trans n.toNat_lt (by decide))
  have hissues : ∀ n ∈ r.issuesCount, (ofNat n.toNat).Exact := fun n _ => exact_ofNat n.toNat_lt
  have hsuggestions : (Json.list (r.suggestions.map .text)).Exact := by
    refine .list fun v hv => ?_
    obtain ⟨x, -, rfl⟩ := List.mem_map.mp hv
    exact .text x
  refine .object ?_
  simp only [List.forall_mem_append]
  refine ⟨⟨⟨⟨?_, exact_member? hscore⟩, exact_member? fun x _ => .text x⟩,
    exact_member? hmetrics⟩, exact_member? hissues⟩
  simpa using ⟨Exact.text r.review, hsuggestions⟩

theorem Review.exact {r : Review} (hproblem : r.problem? = none) (hback : r.LengthsReadBack) :
    r.toJson.Exact :=
  exact_of_metrics fun m hm => m.exact (metrics_of_problem? hproblem m hm) (hback m hm)

/-- A review that keeps its bounds reads back. -/
theorem Review.readsBothForms {r : Review} (hproblem : r.problem? = none)
    (hback : r.LengthsReadBack) : ReadsBothForms Review.decode Review.toJson r := by
  have hdecode : ∀ bs, Review.ofBytes bs = .ok r → Review.decode bs = .ok r := by
    intro bs hbs
    simp only [Review.decode, hbs, hproblem]
  obtain ⟨hcompact, hspread⟩ := ReviewDesk.readsBothForms r.reads (Review.exact hproblem hback)
  exact ⟨hdecode _ hcompact, hdecode _ hspread⟩

theorem Review.problem?_of_decode {bs : Bytes} {r : Review} (h : Review.decode bs = .ok r) :
    r.problem? = none := by
  unfold Review.decode at h
  split at h
  · cases h
  · split at h
    · cases h
    · next hnone =>
      cases h
      exact hnone

/-! ### Health reports -/

theorem Health.reads (h : Health) : Health.reader.Reads h.toJson h := by
  have hwritten : Written Health.fields _ (h.status, h.service, ()) :=
    .present (Reader.reads_textValue "a string" h.status) <|
    .member? (fun x _ => reads_optionalText "a string" x) .nil
  have hread := (hwritten.reads "HealthStatus" (by decide)).map Health.ofRow
  rw [List.append_nil] at hread
  exact hread

theorem Health.exact (h : Health) : h.toJson.Exact := by
  refine .object (List.forall_mem_cons.mpr ⟨.text h.status, ?_⟩)
  exact exact_member? fun x _ => .text x

/-! ### Settings -/

theorem Format.reads (f : Format) : Format.reader.Reads f.toJson f := by
  refine Reader.reads_startingWith fun b s t _ hv _ => ?_
  cases hv with
  | text hname =>
      have hword : Format.ofWord f.name = .ok f := by
        simp only [Format.ofWord, Format.ofName?_name]
      rw [if_pos (beq_self_eq_true _), Reader.run_skip_bind, Reader.run_bind_ok (Reader.run_text hname)]
      exact Reader.run_ofExcept_eq_ok.mpr ⟨hword, rfl⟩

theorem Service.reads (s : Service) : Service.reader.Reads s.toJson s := by
  have hwritten : Written Service.fields _ (s.apiUrl, ()) :=
    .present (Reader.reads_textValue "a string" s.apiUrl) .nil
  exact (hwritten.reads "ClientConfig" (by decide)).map Service.ofRow

theorem Service.exact (s : Service) : s.toJson.Exact :=
  .object (List.forall_mem_singleton.mpr (.text s.apiUrl))

theorem Settings.reads (s : Settings) : Settings.reader.Reads s.toJson s := by
  have hfile : (Reader.optional (Reader.textValue "path string")).Reads
      ((s.file.map .text).getD .null) s.file := by
    cases s.file with
    | none => exact Reader.reads_optional_null _
    | some x => exact reads_optionalText "path string" x
  have hwritten : Written Settings.fields _ (s.file, s.apiUrl, s.format, s.debug, s.check, ()) :=
    .present hfile <|
    .present (Reader.reads_textValue "a string" s.apiUrl) <|
    .present s.format.reads <|
    .present (Reader.reads_boolValue s.debug) <|
    .present (Reader.reads_boolValue s.check) .nil
  exact (hwritten.reads "Config" (by decide)).map Settings.ofRow

theorem Settings.exact (s : Settings) : s.toJson.Exact := by
  have hfile : ((s.file.map Json.text).getD .null).Exact := by
    cases s.file with
    | none => exact .null
    | some x => exact .text x
  refine .object ?_
  simp only [List.forall_mem_cons, List.not_mem_nil, IsEmpty.forall_iff, implies_true, and_true]
  exact ⟨hfile, .text s.apiUrl, .text s.format.name, .bool s.debug, .bool s.check⟩

/-! ### All documents -/

/--
**Decoding undoes encoding.**

A document of any kind, written in either form, is read as what it was: a review or its
metrics if they keep their bounds and their line lengths read back, a health report,
settings, a service and a format whatever they hold.  So a review that was read from
some text is read again from what is written for it, and writing that again gives the
same text.
-/
theorem decoding_undoes_encoding :
    (∀ r : Review, r.problem? = none → r.LengthsReadBack →
      ReadsBothForms Review.decode Review.toJson r) ∧
    (∀ m : Metrics, m.problem? = none → m.LengthsReadBack →
      ReadsBothForms Metrics.reader.document Metrics.toJson m) ∧
    (∀ h : Health, ReadsBothForms Health.ofBytes Health.toJson h) ∧
    (∀ s : Settings, ReadsBothForms Settings.ofBytes Settings.toJson s) ∧
    (∀ s : Service, ReadsBothForms Service.ofBytes Service.toJson s) ∧
    (∀ f : Format, ReadsBothForms Format.ofBytes Format.toJson f) ∧
    (∀ (bs : Bytes) (r : Review), Review.decode bs = .ok r → r.LengthsReadBack →
      ReadsBothForms Review.decode Review.toJson r ∧
      (Review.decode (Text.bytes r.toJson.compact)).map (·.toJson.compact) = .ok r.toJson.compact ∧
      (Review.decode (Text.bytes r.toJson.spread)).map (·.toJson.spread) = .ok r.toJson.spread) := by
  refine ⟨fun r => Review.readsBothForms,
    fun m hproblem hback => readsBothForms m.reads (m.exact hproblem hback),
    fun h => readsBothForms h.reads h.exact,
    fun s => readsBothForms s.reads s.exact, fun s => readsBothForms s.reads s.exact,
    fun f => readsBothForms f.reads (.text f.name), ?_⟩
  intro bs r hr hback
  obtain ⟨hcompact, hspread⟩ := Review.readsBothForms (Review.problem?_of_decode hr) hback
  exact ⟨⟨hcompact, hspread⟩, by rw [hcompact]; rfl, by rw [hspread]; rfl⟩

/-- A review with the highest score and counts, a line length that is a negative zero, and
characters that are escaped, that are not ASCII and that are outside the basic plane. -/
def edgeReview : Review where
  review := "a\x00b \"quoted\" \\ é \n 🦀"
  suggestions := ["", "use `?`"]
  qualityScore := some 100
  language := none
  metrics := some ⟨UInt64.ofNat (UInt64.size - 1), 3, 0, 1, 23.5, -0.0⟩
  issuesCount := some (UInt64.ofNat (UInt64.size - 1))

theorem decoding_undoes_encoding_edge :
    (edgeReview.problem? = none ∧ edgeReview.LengthsReadBack ∧
      ReadsBothForms Review.decode Review.toJson edgeReview) ∧
    (∀ m ∈ edgeReview.metrics, ReadsBothForms Metrics.reader.document Metrics.toJson m) ∧
    (Review.decode (Text.bytes edgeReview.toJson.compact) = .ok edgeReview ∧
      (Review.decode (Text.bytes edgeReview.toJson.spread)).map (·.toJson.spread)
        = .ok edgeReview.toJson.spread) := by
  have hproblem : edgeReview.problem? = none :=
    Option.isNone_iff_eq_none.mp (by decide +kernel)
  have hback : edgeReview.LengthsReadBack := by
    rintro m ⟨⟩
    exact ⟨by decide +kernel, by decide +kernel⟩
  have hboth := decoding_undoes_encoding.1 edgeReview hproblem hback
  have hagain := decoding_undoes_encoding.2.2.2.2.2.2 _ edgeReview hboth.1 hback
  have hmetrics := Review.metrics_of_problem? hproblem
  exact ⟨⟨hproblem, hback, hboth⟩,
    fun m hm => decoding_undoes_encoding.2.1 m (hmetrics m hm) (hback m hm), hboth.1, hagain.2.2⟩

end ReviewDesk
