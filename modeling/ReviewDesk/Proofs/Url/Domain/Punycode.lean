/-
An encoded label is read back.

Encoder and decoder walk the same way.  Both count through the pairs of a code point and a
place in the label, code points first, and what is written is how many pairs lie between
one character and the next.  So it is enough to keep the two in step: whenever the encoder
is at code point `m` and has passed some of the label, the decoder has all of the label
that is below `m`, and of the part that was passed what is not above it, and it lacks just
the pairs that the encoder has counted since.

The counter of the decoder has 32 bits.  A label that is short enough never takes it that
far, but the weights of the digits could still outgrow it: they grow fastest while the
thresholds are small, and this lasts the longer the larger the bias is.  Because numbers
are bounded the bias is, and with it the weights.
-/
import Mathlib.Algebra.Group.Nat.Defs
import ReviewDesk.Url.Domain.Punycode

namespace ReviewDesk.Url.Domain.Punycode

/-! ### Digits -/

/-- The characters of an encoding behind its ASCII part. -/
def IsDigit (c : Char) : Prop :=
  ∃ d < 36, c = digit d

theorem digit?_digit {d : Nat} (h : d < 36) : digit? (digit d) = some d := by
  have all : ∀ e ∈ List.range 36, digit? (digit e) = some e := by decide
  exact all d (List.mem_range.mpr h)

theorem IsDigit.of_all {p : Char → Prop} (h : ∀ d ∈ List.range 36, p (digit d)) {c : Char}
    (hc : IsDigit c) : p c := by
  obtain ⟨d, hd, rfl⟩ := hc
  exact h d (List.mem_range.mpr hd)

variable {bias k q : Nat}

theorem numberDigits_of_lt (h : q < threshold k bias) : numberDigits bias k q = [digit q] := by
  rw [numberDigits, if_pos h]

theorem numberDigits_of_le (h : threshold k bias ≤ q) :
    numberDigits bias k q =
      digit (threshold k bias + (q - threshold k bias) % (36 - threshold k bias))
        :: numberDigits bias (k + 36) ((q - threshold k bias) / (36 - threshold k bias)) := by
  rw [numberDigits, if_neg (Nat.not_lt.mpr h)]

/-- What is left to be written becomes less. -/
theorem rest_lt (h : threshold k bias ≤ q) :
    (q - threshold k bias) / (36 - threshold k bias) < q := by
  have hpos := threshold_pos k bias
  have hle := Nat.div_le_self (q - threshold k bias) (36 - threshold k bias)
  omega

theorem lowDigit_lt (k bias q : Nat) :
    threshold k bias + (q - threshold k bias) % (36 - threshold k bias) < 36 := by
  have hle := threshold_le k bias
  have hmod := Nat.mod_lt (q - threshold k bias) (show 36 - threshold k bias > 0 by omega)
  omega

/-- A number is the sum of its last digit and the rest, each times its weight. -/
theorem number_eq (h : threshold k bias ≤ q) (w : Nat) :
    (threshold k bias + (q - threshold k bias) % (36 - threshold k bias)) * w
      + (q - threshold k bias) / (36 - threshold k bias) * (w * (36 - threshold k bias))
      = q * w := by
  have hparts := Nat.mod_add_div' (q - threshold k bias) (36 - threshold k bias)
  have hcomm : (q - threshold k bias) / (36 - threshold k bias) * (w * (36 - threshold k bias))
      = (q - threshold k bias) / (36 - threshold k bias) * (36 - threshold k bias) * w := by
    rw [Nat.mul_comm w, Nat.mul_assoc]
  rw [hcomm, ← Nat.add_mul]
  congr 1
  omega

theorem isDigit_of_mem_numberDigits {c : Char} (hc : c ∈ numberDigits bias k q) : IsDigit c := by
  induction q using Nat.strongRecOn generalizing k with
  | ind q ih =>
      by_cases h : q < threshold k bias
      · rw [numberDigits_of_lt h, List.mem_singleton] at hc
        exact ⟨q, Nat.lt_of_lt_of_le h (Nat.le_trans (threshold_le k bias) (by decide)), hc⟩
      · have hle := Nat.not_lt.mp h
        rw [numberDigits_of_le hle, List.mem_cons] at hc
        rcases hc with rfl | hc
        · exact ⟨_, lowDigit_lt k bias q, rfl⟩
        · exact ih _ (rest_lt hle) hc

/-! ### The bias -/

/-- No number is larger than this in a label that is short enough. -/
def maxNumber : Nat := 0x10FFFF * 1001 + 1000

/-- No bias is larger than this if no number is larger than that. -/
def maxBias : Nat := 213

theorem settle_le (n : Nat) {delta : Nat} (h : delta < 456 * 35 ^ n) (k : Nat) :
    settle delta k ≤ k + 36 * n + 33 := by
  induction n generalizing delta k with
  | zero =>
      rw [Nat.pow_zero, Nat.mul_one] at h
      rw [settle, if_neg (by omega)]
      have hdiv : 36 * delta / (delta + 38) ≤ 33 := by
        rw [Nat.div_le_iff_le_mul_add_pred (by omega)]
        omega
      omega
  | succ n ih =>
      by_cases hlarge : 455 < delta
      · rw [settle, if_pos hlarge]
        have hdiv : delta / 35 < 456 * 35 ^ n := by
          rw [Nat.div_lt_iff_lt_mul (by decide), Nat.mul_assoc, ← Nat.pow_succ]
          exact h
        have := ih hdiv (k + 36)
        omega
      · rw [settle, if_neg hlarge]
        have hdiv : 36 * delta / (delta + 38) ≤ 33 := by
          rw [Nat.div_le_iff_le_mul_add_pred (by omega)]
          omega
        omega

theorem adapt_le {delta : Nat} (h : delta ≤ maxNumber) (size : Nat) (first : Bool) :
    adapt delta size first ≤ maxBias := by
  unfold adapt
  have hhalf : (if first = true then delta / 700 else delta / 2) ≤ delta / 2 := by
    split
    · omega
    · exact Nat.le_refl _
  have hmore := Nat.div_le_self (if first = true then delta / 700 else delta / 2) size
  refine settle_le 5 ?_ 0
  unfold maxNumber at h
  have hbound : 456 * 35 ^ 5 = 23949975000 := by decide
  omega

/-! ### Reading a number -/

/-- The weight that a digit has is not above what it can have at its position. -/
def Bounded (k weight : Nat) : Prop :=
  ∃ j, k = 36 * (j + 1) ∧ weight ≤ 35 ^ j

/-- Where a digit does not end a number, the next one still has a weight for the counter. -/
theorem weight_lt {weight : Nat} (hbias : bias ≤ maxBias) (hw : Bounded k weight)
    (hq : q * weight ≤ maxNumber) (h : threshold k bias ≤ q) :
    weight * (36 - threshold k bias) < counterLimit := by
  have hlimit : counterLimit = 4294967296 := rfl
  unfold maxNumber at hq
  unfold maxBias at hbias
  by_cases hsmall : 9 ≤ threshold k bias
  · -- The number is at least nine weights, and at most 27 are asked for.
    have hnine : weight * 9 ≤ q * weight := by
      rw [Nat.mul_comm q]
      exact Nat.mul_le_mul_left _ (Nat.le_trans hsmall h)
    have hmany : weight * (36 - threshold k bias) ≤ weight * 27 :=
      Nat.mul_le_mul_left _ (by omega)
    omega
  · -- The threshold is small at the first six positions only.
    obtain ⟨j, hk, hj⟩ := hw
    have hpos : j ≤ 5 := by
      unfold threshold at hsmall
      split at hsmall
      · omega
      · split at hsmall <;> omega
    have hpow : 35 ^ j ≤ 35 ^ 5 := Nat.pow_le_pow_right (by decide) hpos
    have hbound : (35 : Nat) ^ 5 = 52521875 := by decide
    have hthreshold := threshold_pos k bias
    have hmany : weight * (36 - threshold k bias) ≤ weight * 35 :=
      Nat.mul_le_mul_left _ (by omega)
    omega

theorem Bounded.next {weight : Nat} (h : Bounded k weight) :
    Bounded (k + 36) (weight * (36 - threshold k bias)) := by
  obtain ⟨j, hk, hj⟩ := h
  have hpos := threshold_pos k bias
  refine ⟨j + 1, by omega, ?_⟩
  rw [Nat.pow_succ]
  exact Nat.mul_le_mul hj (by omega)

theorem step_of_lt {s : Decoder} {d : Nat} (hd : d < threshold s.k s.bias)
    (hi : s.i + d * s.weight < counterLimit) :
    s.step (digit d) = s.insert (s.i + d * s.weight) := by
  have hlt : d < 36 := Nat.lt_of_lt_of_le hd (Nat.le_trans (threshold_le ..) (by decide))
  rw [Decoder.step, digit?_digit hlt]
  simp only [if_neg (Nat.not_le.mpr hi), if_pos hd]

theorem step_of_le {s : Decoder} {d : Nat} (hlt : d < 36) (hd : threshold s.k s.bias ≤ d)
    (hi : s.i + d * s.weight < counterLimit)
    (hw : s.weight * (36 - threshold s.k s.bias) < counterLimit) :
    s.step (digit d) = some { s with
      i := s.i + d * s.weight
      weight := s.weight * (36 - threshold s.k s.bias)
      k := s.k + 36 } := by
  rw [Decoder.step, digit?_digit hlt]
  simp only [if_neg (Nat.not_le.mpr hi), if_neg (Nat.not_lt.mpr hd), if_neg (Nat.not_le.mpr hw)]

/-- A number that was written takes the counter on by itself. -/
theorem foldlM_numberDigits {s : Decoder} (hbias : s.bias ≤ maxBias) (hw : Bounded s.k s.weight)
    (hq : q * s.weight ≤ maxNumber) (hi : s.i + q * s.weight < counterLimit) :
    (numberDigits s.bias s.k q).foldlM Decoder.step s = s.insert (s.i + q * s.weight) := by
  induction q using Nat.strongRecOn generalizing s with
  | ind q ih =>
      by_cases h : q < threshold s.k s.bias
      · rw [numberDigits_of_lt h, List.foldlM_cons, step_of_lt h hi]
        cases s.insert (s.i + q * s.weight) <;> rfl
      · have hle := Nat.not_lt.mp h
        have hsum := number_eq hle s.weight
        have hrest := ih _ (rest_lt hle) (s := { s with
          i := s.i + (threshold s.k s.bias
            + (q - threshold s.k s.bias) % (36 - threshold s.k s.bias)) * s.weight
          weight := s.weight * (36 - threshold s.k s.bias)
          k := s.k + 36 }) hbias hw.next (by dsimp only; omega) (by dsimp only; omega)
        rw [numberDigits_of_le hle, List.foldlM_cons,
          step_of_le (lowDigit_lt ..) (Nat.le_add_right ..) (by omega)
            (weight_lt hbias hw hq hle), Option.bind_eq_bind, Option.bind_some, hrest]
        show s.insert _ = _
        congr 1
        dsimp only
        omega

/-! ### Code points in order -/

theorem mem_insertSorted {n m : Nat} {ms : List Nat} :
    m ∈ insertSorted n ms ↔ m = n ∨ m ∈ ms := by
  induction ms with
  | nil => simp [insertSorted]
  | cons a ms ih =>
      unfold insertSorted
      split
      · simp
      · split
        · next heq => simp [heq]
        · rw [List.mem_cons, ih, List.mem_cons]
          exact or_left_comm

theorem pairwise_insertSorted {n : Nat} {ms : List Nat} (h : ms.Pairwise (· < ·)) :
    (insertSorted n ms).Pairwise (· < ·) := by
  induction ms with
  | nil => exact List.pairwise_singleton ..
  | cons a ms ih =>
      obtain ⟨ha, hms⟩ := List.pairwise_cons.mp h
      unfold insertSorted
      split
      · next hlt =>
          refine List.pairwise_cons.mpr ⟨fun b hb => ?_, h⟩
          rcases List.mem_cons.mp hb with rfl | hb
          · exact hlt
          · exact Nat.lt_trans hlt (ha b hb)
      · split
        · exact h
        · refine List.pairwise_cons.mpr ⟨fun b hb => ?_, ih hms⟩
          rcases mem_insertSorted.mp hb with rfl | hb
          · omega
          · exact ha b hb

/-- The code points of these characters, in ascending order. -/
theorem foldl_insertSorted (cs : List Char) (ns : List Nat) (h : ns.Pairwise (· < ·)) :
    (cs.foldl (fun ns c => insertSorted c.toNat ns) ns).Pairwise (· < ·) ∧
      ∀ m, m ∈ cs.foldl (fun ns c => insertSorted c.toNat ns) ns ↔
        m ∈ ns ∨ ∃ c ∈ cs, c.toNat = m := by
  induction cs generalizing ns with
  | nil => simpa using h
  | cons c cs ih =>
      obtain ⟨hsorted, hmem⟩ := ih _ (pairwise_insertSorted (n := c.toNat) h)
      refine ⟨hsorted, fun m => ?_⟩
      rw [List.foldl_cons, hmem, mem_insertSorted]
      simp only [List.mem_cons, exists_eq_or_imp, eq_comm (a := m)]
      exact (or_congr_left or_comm).trans or_assoc

/-! ### Encoder and decoder in step -/

/-- The encoder is at code point `m` and has passed this many characters that are not above
it; the decoder lacks as many pairs as the encoder has counted. -/
structure InStep (basic m place : Nat) (e : Encoder) (d : Decoder) : Prop where
  bias : d.bias = e.bias
  bias_le : d.bias ≤ maxBias
  count : e.count = d.label.length
  first : e.count = basic ↔ d.start = 0
  basic_le : basic ≤ e.count
  /-- The decoder is between two numbers. -/
  fresh : d.start = d.i ∧ d.weight = 1 ∧ d.k = 36
  code : d.n ≤ m
  counted : d.i + e.delta = (m - d.n) * (d.label.length + 1) + place

/-- What one encoder has written more than the other takes one decoder to the other. -/
def Reads (e : Encoder) (d : Decoder) (e' : Encoder) (d' : Decoder) : Prop :=
  ∃ ds, e'.written = e.written ++ ds ∧ (∀ c ∈ ds, IsDigit c) ∧ ds.foldlM Decoder.step d = some d'

section

variable {e e' e'' : Encoder} {d d' d'' : Decoder} {basic m place : Nat}

theorem Reads.of_eq (h : e'.written = e.written) : Reads e d e' d :=
  ⟨[], by rw [h, List.append_nil], fun c hc => absurd hc List.not_mem_nil, rfl⟩

theorem Reads.trans (h : Reads e d e' d') (h' : Reads e' d' e'' d'') : Reads e d e'' d'' := by
  obtain ⟨ds, hds, hdigits, hread⟩ := h
  obtain ⟨ds', hds', hdigits', hread'⟩ := h'
  refine ⟨ds ++ ds', by rw [hds', hds, List.append_assoc], fun c hc => ?_, ?_⟩
  · exact (List.mem_append.mp hc).elim (hdigits c) (hdigits' c)
  · rw [List.foldlM_append, hread]
    exact hread'

theorem insert_counted (hcode : d.n ≤ m) (hplace : place ≤ d.label.length)
    (hvalid : m.isValidChar) :
    d.insert ((m - d.n) * (d.label.length + 1) + place) = some {
      label := d.label.take place ++ Char.ofNat m :: d.label.drop place
      n := m
      i := place + 1
      bias := adapt ((m - d.n) * (d.label.length + 1) + place - d.start) (d.label.length + 1)
        (d.start = 0)
      start := place + 1
      weight := 1
      k := 36 } := by
  have hdiv : ((m - d.n) * (d.label.length + 1) + place) / (d.label.length + 1) = m - d.n := by
    rw [Nat.add_comm, Nat.add_mul_div_right _ _ (Nat.succ_pos _),
      Nat.div_eq_of_lt (Nat.lt_succ_of_le hplace), Nat.zero_add]
  have hmod : ((m - d.n) * (d.label.length + 1) + place) % (d.label.length + 1) = place := by
    rw [Nat.add_comm, Nat.add_mul_mod_self_right, Nat.mod_eq_of_lt (Nat.lt_succ_of_le hplace)]
  have hn : d.n + (m - d.n) = m := by omega
  unfold Decoder.insert
  simp only [hdiv, hmod, hn, if_pos hvalid]

/-- The counter has not come further than the last code point and the last place. -/
theorem InStep.number_le {c : Char} (h : InStep basic c.toNat place e d)
    (hplace : place ≤ d.label.length) (hsize : d.label.length ≤ 1000) :
    d.i + e.delta ≤ maxNumber := by
  have hcode : c.toNat < 0x110000 := by
    rcases c.valid with hlow | ⟨-, hhigh⟩
    · exact Nat.lt_trans hlow (by decide)
    · exact hhigh
  have hmul : (c.toNat - d.n) * (d.label.length + 1) ≤ 0x10FFFF * 1001 :=
    Nat.mul_le_mul (by omega) (by omega)
  rw [h.counted, maxNumber]
  omega

/-- The number that is written takes the decoder to the character. -/
theorem InStep.read (h : InStep basic m place e d) (hnumber : d.i + e.delta ≤ maxNumber) :
    (numberDigits e.bias 36 e.delta).foldlM Decoder.step d = d.insert (d.i + e.delta) := by
  obtain ⟨-, hweight, hk⟩ := h.fresh
  have hlimit : maxNumber < counterLimit := by decide
  have hdigits := foldlM_numberDigits (q := e.delta) h.bias_le
    ⟨0, hk, Nat.le_of_eq hweight⟩ (by rw [hweight]; omega) (by rw [hweight]; omega)
  rwa [hweight, hk, h.bias, Nat.mul_one] at hdigits

/-- Where the encoder writes a character, the decoder puts it in. -/
theorem InStep.insert {c : Char} (h : InStep basic c.toNat place e d)
    (hplace : place ≤ d.label.length) (hsize : d.label.length ≤ 1000) :
    ∃ d', Reads e d ⟨e.written ++ numberDigits e.bias 36 e.delta, 0,
        adapt e.delta (e.count + 1) (e.count = basic), e.count + 1⟩ d' ∧
      InStep basic c.toNat (place + 1) ⟨e.written ++ numberDigits e.bias 36 e.delta, 0,
        adapt e.delta (e.count + 1) (e.count = basic), e.count + 1⟩ d' ∧
      d'.label = d.label.take place ++ c :: d.label.drop place := by
  have hnumber := h.number_le hplace hsize
  have hread := h.read hnumber
  have hdelta : (c.toNat - d.n) * (d.label.length + 1) + place - d.start = e.delta := by
    rw [← h.counted, h.fresh.1]
    omega
  rw [h.counted, insert_counted h.code hplace c.valid, hdelta, Char.ofNat_toNat] at hread
  refine ⟨_, ⟨_, rfl, fun a ha => isDigit_of_mem_numberDigits ha, hread⟩, ?_, rfl⟩
  have hlength : (d.label.take place ++ c :: d.label.drop place).length = d.label.length + 1 := by
    rw [List.length_append, List.length_cons, List.length_take, List.length_drop]
    omega
  exact {
    bias := by
      dsimp only
      rw [h.count, show decide (d.start = 0) = decide (d.label.length = basic) from
        decide_eq_decide.mpr (h.count ▸ h.first.symm)]
    bias_le := adapt_le (Nat.le_trans (Nat.le_add_left ..) hnumber) _ _
    count := by
      dsimp only
      rw [hlength, h.count]
    first := by
      have := h.basic_le
      dsimp only
      omega
    basic_le := Nat.le_succ_of_le h.basic_le
    fresh := ⟨rfl, rfl, rfl⟩
    code := Nat.le_refl _
    counted := by simp }

theorem InStep.skip (h : InStep basic m place e d) :
    InStep basic m (place + 1) { e with delta := e.delta + 1 } d :=
  ⟨h.bias, h.bias_le, h.count, h.first, h.basic_le, h.fresh, h.code, by
    have := h.counted
    dsimp only
    omega⟩

theorem pass_of_lt {c : Char} (h : c.toNat < m) :
    Encoder.pass basic m e c = { e with delta := e.delta + 1 } :=
  if_pos h

theorem pass_self (c : Char) :
    Encoder.pass basic c.toNat e c = ⟨e.written ++ numberDigits e.bias 36 e.delta, 0,
      adapt e.delta (e.count + 1) (e.count = basic), e.count + 1⟩ := by
  rw [Encoder.pass, if_neg (Nat.lt_irrefl _), if_pos rfl]

theorem pass_of_gt {c : Char} (h : m < c.toNat) : Encoder.pass basic m e c = e := by
  rw [Encoder.pass, if_neg (Nat.lt_asymm h), if_neg (Nat.ne_of_gt h)]

/-- Passing one character of the label at one code point.  What was passed already and is not
above the code point stands in front of what is still to be passed and is below it. -/
theorem InStep.pass {pre post : List Char} {c : Char}
    (h : InStep basic m (pre.filter (·.toNat ≤ m)).length e d)
    (hlabel : d.label = pre.filter (·.toNat ≤ m) ++ (c :: post).filter (·.toNat < m))
    (hsize : pre.length + (c :: post).length ≤ 1000) :
    ∃ d', Reads e d (Encoder.pass basic m e c) d' ∧
      InStep basic m ((pre ++ [c]).filter (·.toNat ≤ m)).length (Encoder.pass basic m e c) d' ∧
      d'.label = (pre ++ [c]).filter (·.toNat ≤ m) ++ post.filter (·.toNat < m) := by
  rcases Nat.lt_trichotomy c.toNat m with hlt | rfl | hgt
  · -- It is in the label already, and the counter goes past it.
    have hpre : (pre ++ [c]).filter (·.toNat ≤ m) = pre.filter (·.toNat ≤ m) ++ [c] := by
      simp [List.filter_append, Nat.le_of_lt hlt]
    have hpost : (c :: post).filter (·.toNat < m) = c :: post.filter (·.toNat < m) :=
      List.filter_cons_of_pos (decide_eq_true hlt)
    rw [pass_of_lt hlt, hpre, List.length_append, List.append_assoc]
    exact ⟨d, .of_eq rfl, h.skip, hlabel.trans (congrArg _ hpost)⟩
  · -- It is put in behind what was passed.
    have hpre : (pre ++ [c]).filter (·.toNat ≤ c.toNat)
        = pre.filter (·.toNat ≤ c.toNat) ++ [c] := by simp [List.filter_append]
    have hpost : (c :: post).filter (·.toNat < c.toNat) = post.filter (·.toNat < c.toNat) :=
      List.filter_cons_of_neg (by simp)
    rw [hpost] at hlabel
    have hlength := congrArg List.length hlabel
    rw [List.length_append] at hlength
    have hfront := List.length_filter_le (fun a : Char => a.toNat ≤ c.toNat) pre
    have hback := List.length_filter_le (fun a : Char => a.toNat < c.toNat) post
    rw [List.length_cons] at hsize
    obtain ⟨d', hread, hstep, hinserted⟩ := h.insert (by omega) (by omega)
    rw [hlabel, List.take_left, List.drop_left] at hinserted
    rw [pass_self, hpre, List.length_append, List.append_assoc]
    exact ⟨d', hread, hstep, hinserted⟩
  · -- Its turn is still to come.
    have hpre : (pre ++ [c]).filter (·.toNat ≤ m) = pre.filter (·.toNat ≤ m) := by
      simp [List.filter_append, hgt]
    have hpost : (c :: post).filter (·.toNat < m) = post.filter (·.toNat < m) :=
      List.filter_cons_of_neg (by simpa using Nat.le_of_lt hgt)
    rw [pass_of_gt hgt, hpre]
    exact ⟨d, .of_eq rfl, h, hlabel.trans (congrArg _ hpost)⟩

/-- Passing the rest of the label at one code point. -/
theorem InStep.passAll (pre post : List Char)
    (h : InStep basic m (pre.filter (·.toNat ≤ m)).length e d)
    (hlabel : d.label = pre.filter (·.toNat ≤ m) ++ post.filter (·.toNat < m))
    (hsize : pre.length + post.length ≤ 1000) :
    ∃ d', Reads e d (post.foldl (Encoder.pass basic m) e) d' ∧
      InStep basic m d'.label.length (post.foldl (Encoder.pass basic m) e) d' ∧
      d'.label = (pre ++ post).filter (·.toNat ≤ m) := by
  induction post generalizing pre e d with
  | nil =>
      rw [List.filter_nil, List.append_nil] at hlabel
      refine ⟨d, .of_eq rfl, ?_, by rw [hlabel, List.append_nil]⟩
      rw [hlabel]
      exact h
  | cons c post ih =>
      obtain ⟨d', hread, hstep, hlabel'⟩ := h.pass hlabel hsize
      have hsize' : (pre ++ [c]).length + post.length ≤ 1000 := by
        rw [List.length_append, List.length_singleton, Nat.add_assoc, Nat.add_comm 1]
        exact hsize
      obtain ⟨d'', hread', hrest⟩ := ih (pre ++ [c]) hstep hlabel' hsize'
      rw [List.append_cons]
      exact ⟨d'', hread.trans hread', hrest⟩

/-- Going on to a later code point counts every place of the label for every one between. -/
theorem InStep.advance {n : Nat} (h : InStep basic n 0 e d) (hle : n ≤ m) :
    InStep basic m 0 { e with delta := e.delta + (m - n) * (e.count + 1) } d :=
  ⟨h.bias, h.bias_le, h.count, h.first, h.basic_le, h.fresh, Nat.le_trans h.code hle, by
    have hcode := h.code
    have hsum : (n - d.n) * (d.label.length + 1) + (m - n) * (d.label.length + 1)
        = (m - d.n) * (d.label.length + 1) := by
      rw [← Nat.add_mul]
      congr 1
      omega
    have := h.counted
    dsimp only
    rw [h.count]
    omega⟩

/-- At the end of the label it is the turn of the next code point. -/
theorem InStep.turn (h : InStep basic m d.label.length e d) :
    InStep basic (m + 1) 0 { e with delta := e.delta + 1 } d :=
  ⟨h.bias, h.bias_le, h.count, h.first, h.basic_le, h.fresh, Nat.le_succ_of_le h.code, by
    have hnext : m + 1 - d.n = m - d.n + 1 := Nat.succ_sub h.code
    have := h.counted
    dsimp only
    rw [hnext, Nat.succ_mul]
    omega⟩

/-- Nothing in the label is between the counter and the next of the code points. -/
theorem filter_lt_eq {label : List Char} {ms : List Nat} {n : Nat}
    (hm : ∀ a ∈ ms, m < a) (hle : n ≤ m) (hall : ∀ c ∈ label, n ≤ c.toNat → c.toNat ∈ m :: ms) :
    label.filter (·.toNat < n) = label.filter (·.toNat < m) := by
  refine List.filter_congr fun c hc => decide_eq_decide.mpr ⟨fun h => Nat.lt_of_lt_of_le h hle, ?_⟩
  intro hlt
  refine Nat.not_le.mp fun hn => ?_
  rcases List.mem_cons.mp (hall c hc hn) with heq | hlater
  · exact Nat.ne_of_lt hlt heq
  · exact Nat.lt_asymm hlt (hm _ hlater)

/-- When the encoder is through with the code points, the decoder has the label. -/
theorem InStep.pending {label : List Char} {ms : List Nat} {n : Nat} (h : InStep basic n 0 e d)
    (hlabel : d.label = label.filter (·.toNat < n)) (hsize : label.length ≤ 1000)
    (hsorted : ms.Pairwise (· < ·)) (hle : ∀ m ∈ ms, n ≤ m)
    (hall : ∀ c ∈ label, n ≤ c.toNat → c.toNat ∈ ms) :
    ∃ d', Reads e d (Encoder.pending label basic ms n e) d' ∧ d'.k = 36 ∧ d'.label = label := by
  induction ms generalizing n e d with
  | nil =>
      refine ⟨d, .of_eq rfl, h.fresh.2.2, ?_⟩
      rw [hlabel, List.filter_eq_self]
      intro c hc
      have : ¬ n ≤ c.toNat := fun hn => List.not_mem_nil (hall c hc hn)
      simpa using this
  | cons m ms ih =>
      obtain ⟨hm, hms⟩ := List.pairwise_cons.mp hsorted
      have hnm := hle m (List.mem_cons_self ..)
      obtain ⟨d', hread, hstep, hlabel'⟩ := (h.advance hnm).passAll [] label
        (hlabel.trans (filter_lt_eq hm hnm hall)) (by simpa using hsize)
      have hupTo : label.filter (·.toNat ≤ m) = label.filter (·.toNat < m + 1) :=
        List.filter_congr fun c _ => decide_eq_decide.mpr (Nat.lt_succ_iff.symm)
      obtain ⟨d'', hread', hrest⟩ := ih hstep.turn (hlabel'.trans hupTo) hms
        (fun a ha => hm a ha) fun c hc hn => by
          rcases List.mem_cons.mp (hall c hc (by omega)) with heq | hlater
          · omega
          · exact hlater
      refine ⟨d'', ?_, hrest⟩
      exact (Reads.of_eq (d := d) rfl).trans (hread.trans ((Reads.of_eq rfl).trans hread'))

end

/-! ### Labels -/

/-- What an encoding is made of: the ASCII characters of the label, a hyphen behind them if
there are any, and digits. -/
theorem encode_eq (label : List Char) (hsize : label.length ≤ 1000) :
    let basic := label.filter (·.toNat < 0x80)
    ∃ ds d, encode label = (if basic.isEmpty then [] else basic ++ ['-']) ++ ds ∧
      (∀ c ∈ ds, IsDigit c) ∧
      ds.foldlM Decoder.step ⟨basic, 0x80, 0, 72, 0, 1, 36⟩ = some d ∧ d.k = 36 ∧ d.label = label := by
  intro basic
  obtain ⟨hsorted, hmem⟩ :=
    foldl_insertSorted (label.filter (0x80 ≤ ·.toNat)) [] List.Pairwise.nil
  have hstep : InStep basic.length 0x80 0
      ⟨if basic.isEmpty then [] else basic ++ ['-'], 0, 72, basic.length⟩
      ⟨basic, 0x80, 0, 72, 0, 1, 36⟩ := by
    constructor <;> simp [maxBias]
  obtain ⟨d, ⟨ds, hwritten, hdigits, hread⟩, hk, hlabel⟩ := hstep.pending rfl hsize hsorted
    (fun m hm => by
      obtain ⟨c, hc, rfl⟩ := ((hmem m).mp hm).resolve_left List.not_mem_nil
      simpa using (List.mem_filter.mp hc).2)
    fun c hc hn => (hmem _).mpr (.inr ⟨c, List.mem_filter.mpr ⟨hc, by simpa using hn⟩, rfl⟩)
  exact ⟨ds, d, hwritten, hdigits, hread, hk, hlabel⟩

/-- Every character of an encoding is one of the label, a hyphen or a digit. -/
theorem mem_encode {label : List Char} (hsize : label.length ≤ 1000) {c : Char}
    (hc : c ∈ encode label) : (c ∈ label ∧ c.toNat < 0x80) ∨ c = '-' ∨ IsDigit c := by
  obtain ⟨ds, -, hencode, hdigits, -⟩ := encode_eq label hsize
  rw [hencode] at hc
  rcases List.mem_append.mp hc with hc | hc
  · split at hc
    · contradiction
    · rcases List.mem_append.mp hc with hc | hc
      · obtain ⟨hmem, hascii⟩ := List.mem_filter.mp hc
        exact .inl ⟨hmem, of_decide_eq_true hascii⟩
      · exact .inr (.inl (List.mem_singleton.mp hc))
  · exact .inr (.inr (hdigits c hc))

theorem reverse_no_hyphen {ds : List Char} (h : ∀ c ∈ ds, IsDigit c) :
    ∀ c ∈ ds.reverse, decide (c ≠ '-') = true := by
  intro c hc
  have all : ∀ d ∈ List.range 36, digit d ≠ '-' := by decide
  exact decide_eq_true (IsDigit.of_all (p := (· ≠ '-')) all (h c (List.mem_reverse.mp hc)))

theorem divide_digits {ds : List Char} (h : ∀ c ∈ ds, IsDigit c) : divide ds = ([], ds) := by
  have hdrop : (ds.reverse ++ []).dropWhile (· ≠ '-') = [] :=
    List.dropWhile_append_of_pos (reverse_no_hyphen h)
  rw [List.append_nil] at hdrop
  simp only [divide, hdrop]

theorem divide_append {basic ds : List Char} (hbasic : basic ≠ []) (h : ∀ c ∈ ds, IsDigit c) :
    divide (basic ++ ['-'] ++ ds) = (basic, ds) := by
  have hreverse : (basic ++ ['-'] ++ ds).reverse = ds.reverse ++ '-' :: basic.reverse := by simp
  obtain ⟨c, cs, hcs⟩ := List.exists_cons_of_ne_nil (mt List.reverse_eq_nil_iff.mp hbasic)
  have hdrop : (ds.reverse ++ '-' :: basic.reverse).dropWhile (· ≠ '-') = '-' :: c :: cs := by
    rw [List.dropWhile_append_of_pos (reverse_no_hyphen h), hcs]
    rfl
  have htake : (ds.reverse ++ '-' :: basic.reverse).takeWhile (· ≠ '-') = ds.reverse := by
    rw [List.takeWhile_append_of_pos (reverse_no_hyphen h)]
    simp
  rw [divide, hreverse]
  simp only [hdrop, htake, List.reverse_reverse]
  rw [← hcs, List.reverse_reverse]

/-- A label that is short enough is read back. -/
theorem decode?_encode {label : List Char} (hsize : label.length ≤ 1000) :
    decode? (encode label) = some label := by
  obtain ⟨ds, d, hencode, hdigits, hread, hk, hlabel⟩ := encode_eq label hsize
  have hdivide : divide (encode label) = (label.filter (·.toNat < 0x80), ds) := by
    rw [hencode]
    split
    · next hempty => rw [List.nil_append, divide_digits hdigits, List.isEmpty_iff.mp hempty]
    · next hne => exact divide_append (by simpa using hne) hdigits
  simp only [decode?, hdivide, hread, Option.bind_eq_bind, Option.bind_some, hk, if_pos, hlabel]

end ReviewDesk.Url.Domain.Punycode
