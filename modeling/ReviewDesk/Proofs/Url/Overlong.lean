/-
URLs that are not read again.

The number written for a character says how far the counter has to go, and that is the gap
to the character before it, times the characters written so far.  With a gap of 23 code
points a number has three digits or more from the fortieth character on.  So a label of 707
to 1000 such characters is encoded, and has an encoding of more than 2000 digits, which is
not decoded.

Han characters are close to 21000 in a row, and nothing is done to them: they stay when
mapped, are made of no others, and are neither marks nor letters from right to left.
-/
import ReviewDesk.Proofs.Url.ReadBack

namespace ReviewDesk.Url

open Text

namespace Domain

/-! ### How long an encoding is -/

namespace Punycode

variable {bias k q basic m : Nat} {e : Encoder} {cs : List Char}

theorem three_le_length_numberDigits (h : 936 ≤ q) : 3 ≤ (numberDigits bias k q).length := by
  have hfirst := threshold_le k bias
  have hpos := threshold_pos k bias
  have hsecond := threshold_le (k + 36) bias
  have hrest : 26 ≤ (q - threshold k bias) / (36 - threshold k bias) := by
    rw [Nat.le_div_iff_mul_le (by omega)]
    omega
  rw [numberDigits_of_le (by omega), numberDigits_of_le (Nat.le_trans hsecond hrest),
    List.length_cons, List.length_cons, numberDigits]
  split <;> simp

/-- The code points of a label, each at least 23 above the one before it. -/
def Spaced (label : List Char) : Prop :=
  label.Pairwise fun a b => a.toNat + 23 ≤ b.toNat

theorem foldl_pass_of_lt (h : ∀ c ∈ cs, c.toNat < m) :
    cs.foldl (Encoder.pass basic m) e = { e with delta := e.delta + cs.length } := by
  induction cs generalizing e with
  | nil => rfl
  | cons c cs ih =>
      obtain ⟨hc, hcs⟩ := List.forall_mem_cons.mp h
      rw [List.foldl_cons, pass_of_lt hc, ih hcs, List.length_cons, Nat.add_assoc,
        Nat.add_comm 1]

theorem foldl_pass_of_gt (h : ∀ c ∈ cs, m < c.toNat) :
    cs.foldl (Encoder.pass basic m) e = e := by
  induction cs with
  | nil => rfl
  | cons c cs ih =>
      obtain ⟨hc, hcs⟩ := List.forall_mem_cons.mp h
      rw [List.foldl_cons, pass_of_gt hc, ih hcs]

/-- Of a label in ascending order one character is written in a pass, and those before it
are counted. -/
theorem foldl_pass_ascending (basic : Nat) {before after : List Char} {c : Char}
    (hbefore : ∀ b ∈ before, b.toNat < c.toNat) (hafter : ∀ b ∈ after, c.toNat < b.toNat) :
    (before ++ c :: after).foldl (Encoder.pass basic c.toNat) e =
      ⟨e.written ++ numberDigits e.bias 36 (e.delta + before.length), 0,
        adapt (e.delta + before.length) (e.count + 1) (e.count = basic), e.count + 1⟩ := by
  rw [List.foldl_append, foldl_pass_of_lt hbefore, List.foldl_cons, pass_self,
    foldl_pass_of_gt hafter]

/-- From the fortieth character on, three digits or more are written for each. -/
theorem length_pending (basic : Nat) (before rest : List Char) (n : Nat)
    (hspaced : Spaced (before ++ rest)) (hcount : e.count = before.length)
    (hn : ∀ c ∈ rest.head?, n + 22 ≤ c.toNat) :
    e.written.length + 3 * (rest.length - (40 - before.length)) ≤
      (Encoder.pending (before ++ rest) basic (rest.map Char.toNat) n e).written.length := by
  induction rest generalizing before n e with
  | nil => simp [Encoder.pending]
  | cons c cs ih =>
      obtain ⟨-, hrest, hbefore⟩ := List.pairwise_append.mp hspaced
      have hafter : ∀ b ∈ cs, c.toNat + 23 ≤ b.toNat := (List.pairwise_cons.mp hrest).1
      have hpass := foldl_pass_ascending basic
        (e := { e with delta := e.delta + (c.toNat - n) * (e.count + 1) })
        (fun b hb => Nat.lt_of_lt_of_le (Nat.lt_add_of_pos_right (by decide))
          (hbefore b hb c (List.mem_cons_self ..)))
        (fun b hb => Nat.lt_of_lt_of_le (Nat.lt_add_of_pos_right (by decide)) (hafter b hb))
      rw [List.map_cons, Encoder.pending, hpass, List.append_cons]
      -- The counter went over the gap once for each place there was.
      have hdigits : 40 ≤ before.length →
          3 ≤ (numberDigits e.bias 36
            (e.delta + (c.toNat - n) * (e.count + 1) + before.length)).length := by
        intro hmany
        have hgap : n + 22 ≤ c.toNat := hn c rfl
        have hsteps : 22 * 41 ≤ (c.toNat - n) * (e.count + 1) :=
          Nat.mul_le_mul (by omega) (by omega)
        exact three_le_length_numberDigits (by omega)
      refine Nat.le_trans ?_ (ih (before ++ [c]) (c.toNat + 1) (List.append_cons .. ▸ hspaced)
        (by simp [hcount]) fun b hb => hafter b (List.mem_of_mem_head? hb))
      simp only [List.length_append, List.length_cons, List.length_nil]
      omega

theorem foldl_insertSorted_eq {label : List Char} (h : Spaced label) :
    label.foldl (fun ns c => insertSorted c.toNat ns) [] = label.map Char.toNat := by
  obtain ⟨hsorted, hmem⟩ := foldl_insertSorted label [] List.Pairwise.nil
  have hown : (label.map Char.toNat).Pairwise (· < ·) :=
    List.pairwise_map.mpr <| h.imp fun hab =>
      Nat.lt_of_lt_of_le (Nat.lt_add_of_pos_right (by decide)) hab
  refine List.Perm.eq_of_pairwise (fun a b _ _ hab hba => absurd hab (Nat.lt_asymm hba))
    hsorted hown ?_
  refine (List.perm_ext_iff_of_nodup (hsorted.imp Nat.ne_of_lt) (hown.imp Nat.ne_of_lt)).mpr ?_
  intro m
  rw [hmem, List.mem_map]
  simp

/-- Without ASCII characters, and with wide gaps between the others. -/
theorem length_encode {label : List Char} (h : Spaced label) (hhigh : ∀ c ∈ label, 0x100 ≤ c.toNat) :
    3 * (label.length - 40) ≤ (encode label).length := by
  have hbasic : label.filter (·.toNat < 0x80) = [] :=
    List.filter_eq_nil_iff.mpr fun c hc => by
      have := hhigh c hc
      simp only [decide_eq_true_eq]
      omega
  have hothers : label.filter (0x80 ≤ ·.toNat) = label :=
    List.filter_eq_self.mpr fun c hc => decide_eq_true (Nat.le_trans (by decide) (hhigh c hc))
  have hlength := length_pending 0 (e := ⟨[], 0, 72, 0⟩) [] label 0x80 h rfl fun c hc =>
    Nat.le_trans (by decide) (hhigh c (List.mem_of_mem_head? hc))
  unfold encode
  simp only [hbasic, hothers, foldl_insertSorted_eq h]
  simpa using hlength

end Punycode

/-! ### Han characters -/

/-- One of the Han characters that are in a row. -/
def IsHan (c : Char) : Prop :=
  0x4E00 ≤ c.toNat ∧ c.toNat ≤ 0x9FFF

/-- A code point that is no Han character. -/
def isOther (n : Nat) : Bool :=
  n < 0x4E00 || 0x9FFF < n

variable {c : Char} {cs : List Char}

theorem IsHan.not_other (h : IsHan c) : isOther c.toNat = false := by
  simp only [isOther, Bool.or_eq_false_iff, decide_eq_false_iff_not, Nat.not_lt]
  exact h

theorem IsHan.ne (h : IsHan c) {d : Char} (hd : d.toNat < 0x4E00) : c ≠ d := by
  rintro rfl
  exact absurd h.1 (Nat.not_le.mpr hd)

/-- Whether a set is clear of Han characters can be seen from its ranges. -/
theorem IsHan.not_contains (h : IsHan c) {rs : Ranges}
    (hclear : (rs.all fun r => r.2 < 0x4E00 || 0x9FFF < r.1) = true) : rs.contains c = false := by
  refine List.any_eq_false.mpr fun r hr => ?_
  have hr := List.all_eq_true.mp hclear r hr
  simp only [Bool.or_eq_true, Bool.and_eq_true, decide_eq_true_eq] at hr ⊢
  obtain ⟨hlow, hhigh⟩ := h
  omega

theorem IsHan.isValid (h : IsHan c) : validRanges.contains c = true := by
  have hrange : (0x3400, 0xA48C) ∈ validRanges := by decide +kernel
  refine List.any_eq_true.mpr ⟨_, hrange, ?_⟩
  obtain ⟨hlow, hhigh⟩ := h
  simp only [Bool.and_eq_true, decide_eq_true_eq]
  omega

theorem IsHan.mapChar? (h : IsHan c) : mapChar? c = some [c] := by
  rw [Domain.mapChar?, if_neg (Nat.not_lt.mpr (Nat.le_trans (by decide) h.1)), if_pos h.isValid]

/-- No Han character is made of others, and none is a part of another character. -/
theorem pairs_other : (pairEntries.all fun e => e.all isOther) = true := by
  decide +kernel

theorem IsHan.not_mem_pair (h : IsHan c) {e : List Nat} (he : e ∈ pairEntries) : c.toNat ∉ e := by
  intro hmem
  have hother := List.all_eq_true.mp (List.all_eq_true.mp pairs_other e he) _ hmem
  rw [h.not_other] at hother
  contradiction

theorem IsHan.partsOf (h : IsHan c) (depth : Nat) : partsOf depth c = [c] := by
  have hsyllable : syllable? c.toNat = none :=
    if_neg fun hrange => absurd (Nat.le_trans hrange.1 h.2) (by decide)
  have hpair : pairEntries.find? (·.head? = some c.toNat) = none := by
    refine List.find?_eq_none.mpr fun e he hhead => h.not_mem_pair he ?_
    exact List.mem_of_head? (of_decide_eq_true hhead)
  cases depth with
  | zero => rfl
  | succ depth => simp only [Domain.partsOf, hsyllable, hpair]

theorem IsHan.combiningClass (h : IsHan c) : combiningClass c = 0 := by
  have hclear : (classEntries.all fun e =>
      decide (e.getD 1 0 < 0x4E00) || decide (0x9FFF < e.getD 0 0)) = true := by decide +kernel
  unfold Domain.combiningClass
  dsimp only
  rw [List.findSome?_eq_none_iff.mpr fun e he => ?_]
  · rfl
  · have hentry := List.all_eq_true.mp hclear e he
    obtain ⟨hlow, hhigh⟩ := h
    split
    · simp only [List.getD_cons_succ, List.getD_cons_zero, Bool.or_eq_true, decide_eq_true_eq]
        at hentry
      exact if_neg (by omega)
    · rfl

theorem IsHan.join? (h : IsHan c) (a : Char) : join? a c = none := by
  have hsyllable : joinSyllable? a.toNat c.toNat = none := by
    obtain ⟨hlow, hhigh⟩ := h
    rw [joinSyllable?, if_neg (by omega), if_neg (by omega)]
  have hpair : pairEntries.find? (·.tail = [a.toNat, c.toNat]) = none := by
    refine List.find?_eq_none.mpr fun e he htail => h.not_mem_pair he ?_
    refine List.mem_of_mem_tail ?_
    rw [of_decide_eq_true htail]
    simp
  simp only [Domain.join?, hsyllable, hpair, Option.bind_none]

theorem IsHan.not_rightToLeft (h : IsHan c) : isRightToLeft c = false := by
  have hascii : ¬ c.toNat < 0x80 := Nat.not_lt.mpr (Nat.le_trans (by decide) h.1)
  have hletter : rightToLeftRanges.contains c = false := h.not_contains (by decide +kernel)
  have hnumber : arabicNumberRanges.contains c = false := h.not_contains (by decide +kernel)
  rw [isRightToLeft, Direction.of, if_neg hascii, hletter, hnumber]
  cases europeanNumberRanges.contains c <;> cases neutralRanges.contains c <;>
    cases nonspacingRanges.contains c <;> rfl

/-! ### Labels of Han characters -/

theorem ordered_of_isHan (h : ∀ c ∈ cs, IsHan c) : ordered cs = cs := by
  have hinsert : ∀ (before : List Char), ∀ c ∈ cs, insertMark c before = c :: before := by
    intro before c hc
    cases before with
    | nil => rfl
    | cons d ds => exact if_neg fun hmark => hmark.1 (h c hc).combiningClass
  have hfold : ∀ before, cs.foldl (fun before c => insertMark c before) before
      = cs.reverse ++ before := by
    clear h
    induction cs with
    | nil => exact fun before => rfl
    | cons c cs ih =>
        intro before
        rw [List.foldl_cons, hinsert before c (List.mem_cons_self ..),
          ih fun before d hd => hinsert before d (List.mem_cons_of_mem _ hd)]
        simp
  rw [ordered, hfold, List.append_nil, List.reverse_reverse]

/-- Each character ends the sequence before it. -/
theorem foldl_push_of_isHan (h : ∀ c ∈ cs, IsHan c) {j : Joining} (hmarks : j.marks = []) :
    (cs.foldl Joining.push j).flush = cs.reverse ++ j.flush := by
  induction cs generalizing j with
  | nil => rfl
  | cons c cs ih =>
      obtain ⟨hc, hcs⟩ := List.forall_mem_cons.mp h
      have hpush : j.push c = ⟨j.flush, some c, []⟩ := by
        have hjoin : (j.starter.bind fun s => join? s c) = none := by
          cases j.starter with
          | none => rfl
          | some s => exact hc.join? s
        simp [Joining.push, hc.combiningClass, hjoin]
      rw [List.foldl_cons, hpush, ih hcs rfl]
      simp [Joining.flush]

theorem compose_of_isHan (h : ∀ c ∈ cs, IsHan c) : compose cs = cs := by
  have hparts : cs.flatMap (partsOf 4) = cs := by
    rw [List.flatMap_def, List.map_congr_left fun c hc => (h c hc).partsOf 4,
      ← List.flatMap_def, List.flatMap_singleton']
  unfold compose
  split
  · rfl
  · rw [hparts, ordered_of_isHan h, foldl_push_of_isHan h rfl]
    simp [Joining.flush]

theorem isProper_of_isHan (h : ∀ c ∈ cs, IsHan c) : isProper cs = true := by
  have hvalid : cs.all isValid = true :=
    List.all_eq_true.mpr fun c hc => Bool.or_eq_true _ _ ▸ .inr (h c hc).isValid
  have hmark : (cs.head?.map isMark).getD false = false := by
    cases cs with
    | nil => rfl
    | cons c cs =>
        have hc := h c (List.mem_cons_self ..)
        have hspace : nonspacingRanges.contains c = false := hc.not_contains (by decide +kernel)
        have hspacing : spacingRanges.contains c = false := hc.not_contains (by decide +kernel)
        simp [isMark, hspace, hspacing]
  have hjoiners : ∀ before, keepsJoiners before cs = true := by
    clear hvalid hmark
    induction cs with
    | nil => exact fun before => rfl
    | cons c cs ih =>
        intro before
        obtain ⟨hc, hcs⟩ := List.forall_mem_cons.mp h
        have hjoiner : c ≠ '\u200d' ∧ c ≠ '\u200c' := ⟨hc.ne (by decide), hc.ne (by decide)⟩
        simp [keepsJoiners, hjoiner.1, hjoiner.2, ih hcs]
  simp [isProper, hvalid, compose_of_isHan h, hmark, hjoiners]

theorem isAscii_of_isHan (h : ∀ c ∈ cs, IsHan c) (hne : cs ≠ []) : isAscii cs = false := by
  obtain ⟨c, cs, rfl⟩ := List.exists_cons_of_ne_nil hne
  have hlow := (h c (List.mem_cons_self ..)).1
  refine List.all_eq_false.mpr ⟨c, List.mem_cons_self .., ?_⟩
  simp only [decide_eq_true_eq]
  omega

theorem label?_of_isHan (h : ∀ c ∈ cs, IsHan c) (hne : cs ≠ []) (hsize : cs.length ≤ maxEncoded) :
    label? cs = some ⟨marker ++ Punycode.encode cs, cs⟩ := by
  have hmarker : marker.isPrefixOf cs = false := by
    obtain ⟨c, cs, rfl⟩ := List.exists_cons_of_ne_nil hne
    have hx : c ≠ 'x' := (h c (List.mem_cons_self ..)).ne (by decide)
    simp [marker, List.isPrefixOf, hx.symm]
  simp [label?, hmarker, isAscii_of_isHan h hne, hsize, isProper_of_isHan h]

/-- Han characters are a name, and its ASCII form is their encoding. -/
theorem ofChars?_of_isHan (h : ∀ c ∈ cs, IsHan c) (hne : cs ≠ []) (hsize : cs.length ≤ maxEncoded) :
    ofChars? cs = some (marker ++ Punycode.encode cs) := by
  have hmapped : cs.mapM Domain.mapChar? = some (cs.map fun c => [c]) :=
    mapM_eq_map fun c hc => (h c hc).mapChar?
  have hcomposed : compose (cs.map fun c => [c]).flatten = cs := by
    rw [← List.flatMap_def, List.flatMap_singleton', compose_of_isHan h]
  have hlabels : (split '.' cs).mapM label? = some [⟨marker ++ Punycode.encode cs, cs⟩] := by
    rw [split_of_not_mem fun hdot => (h _ hdot).ne (by decide) rfl, List.mapM_cons,
      label?_of_isHan h hne hsize]
    rfl
  have hdirections : keepsDirections [⟨marker ++ Punycode.encode cs, cs⟩] = true := by
    have hleft : cs.any isRightToLeft = false :=
      List.any_eq_false.mpr fun c hc => Bool.not_eq_true _ ▸ (h c hc).not_rightToLeft
    simp [keepsDirections, hleft]
  have hforbidden : (marker ++ Punycode.encode cs).any isForbidden = false := by
    refine List.any_eq_false.mpr fun c hc => Bool.not_eq_true _ ▸ ?_
    exact forall_mem_encoded (p := fun c => isForbidden c = false) hsize
      (fun c hc hascii => absurd (h c hc).1 (by omega)) (Decimal.forall_of_all (by decide))
      (by decide) c hc
  rw [ofChars?, hmapped, Option.bind_eq_bind, Option.bind_some, hcomposed]
  exact ofLabels?_eq_some.mpr ⟨_, hlabels, hdirections, hforbidden, by simp⟩

/-- The encoding is one label. -/
theorem split_encoded (h : ∀ c ∈ cs, IsHan c) (hsize : cs.length ≤ maxEncoded) :
    split '.' (marker ++ Punycode.encode cs) = [marker ++ Punycode.encode cs] := by
  have hdot : ∀ c ∈ marker ++ Punycode.encode cs, c ≠ '.' :=
    forall_mem_encoded hsize (fun c hc _ => (h c hc).ne (by decide))
      (Decimal.forall_of_all (by decide)) (by decide)
  exact split_of_not_mem fun hmem => hdot _ hmem rfl

/-- The encoding of many Han characters that are far apart is not decoded. -/
theorem not_isReadable_of_isHan (h : ∀ c ∈ cs, IsHan c) (hspaced : Punycode.Spaced cs)
    (hsize : cs.length ≤ maxEncoded) (hmany : 707 ≤ cs.length) :
    ¬ IsReadable (marker ++ Punycode.encode cs) := by
  intro hreadable
  have hdecodable : IsDecodable (marker ++ Punycode.encode cs) :=
    hreadable _ (split_encoded h hsize ▸ List.mem_singleton_self _)
  have hshort := hdecodable (List.isPrefixOf_iff_prefix.mpr (List.prefix_append ..))
  have hlong := Punycode.length_encode hspaced fun c hc => Nat.le_trans (by decide) (h c hc).1
  have hlimit : maxDecoded = 2000 := rfl
  rw [List.drop_left, hlimit] at hshort
  omega

end Domain

/-! ### URLs with such a host -/

open Domain

variable {cs : List Char}

theorem Domain.IsHan.not_forbidden {c : Char} (h : IsHan c) : isForbidden c = false := by
  have hset : "#/:<>?@[\\]^|%".toList.contains c = false := by
    rw [List.contains_eq_mem, decide_eq_false_iff_not]
    have all : ∀ d ∈ "#/:<>?@[\\]^|%".toList, d.toNat < 0x4E00 :=
      Decimal.forall_of_all (by decide)
    exact fun hmem => h.ne (all c hmem) rfl
  have hlow : 0x4E00 ≤ c.toNat := h.1
  simp only [isForbidden, hset, Bool.or_false, Bool.or_eq_false_iff, decide_eq_false_iff_not,
    beq_eq_false_iff_ne]
  omega

theorem Host.parse_of_isHan (h : ∀ c ∈ cs, IsHan c) (hne : cs ≠ [])
    (hsize : cs.length ≤ maxEncoded) :
    Host.parse cs = .ok (.domain (marker ++ Punycode.encode cs)) := by
  have hnumber : IPv4.endsInNumber (marker ++ Punycode.encode cs) = false := by
    rw [IPv4.endsInNumber, IPv4.parts, split_encoded h hsize]
    rfl
  rw [parse_of_clear fun c hc => (h c hc).not_forbidden, ofChars?_of_isHan h hne hsize]
  rw [Option.elim_some, named, hnumber]
  rfl

section

variable (h : ∀ c ∈ cs, IsHan c) (hne : cs ≠ []) (hsize : cs.length ≤ maxEncoded)
include h

theorem bare_of_isHan : ∀ c ∈ cs, Host.Bare c ∧ c ≠ ':' ∧ c ≠ '[' ∧ c ≠ ']' ∧ c ≠ '%' :=
  fun c hc => Host.of_not_forbidden (h c hc).not_forbidden

theorem Authority.parse_of_isHan : Authority.parse cs [] = .ok ⟨[], cs, []⟩ := by
  have hbare := bare_of_isHan h
  have hport : splitPort false (cs ++ []) = (cs, []) :=
    splitPort_bare (fun c hc => ⟨(hbare c hc).2.1, (hbare c hc).2.2.1, (hbare c hc).2.2.2.1⟩)
      (by simp)
  rw [List.append_nil] at hport
  have hat : '@' ∉ cs := fun hmem => (hbare _ hmem).1.2.2.2.2.2 rfl
  simp [Authority.parse, splitUser?_of_not_mem hat, hport]

include hne hsize

theorem parseWeb_of_isHan : parseWeb .http cs =
    .ok (.web ⟨.http, ⟨[], []⟩, .domain (marker ++ Punycode.encode cs), none, [[]]⟩ false) := by
  have hauthority : ∀ c ∈ cs, (!endsAuthority true c) = true := fun c hc => by
    simp [(bare_of_isHan h c hc).1.counts.2]
  refine parseWeb_eq_ok.mpr ?_
  rw [List.takeWhile_eq_self_iff.mpr hauthority, List.dropWhile_eq_nil_iff.mpr hauthority]
  exact ⟨_, _, none, Authority.parse_of_isHan h, hne, Host.parse_of_isHan h hne hsize, rfl, rfl⟩

/-- The URL that has just this host. -/
theorem parse_of_isHan : parse ("http://".toList ++ cs) =
    .ok (.web ⟨.http, ⟨[], []⟩, .domain (marker ++ Punycode.encode cs), none, [[]]⟩ false) := by
  have hbare := bare_of_isHan h
  have hcount : ∀ c ∈ "http://".toList ++ cs, 0x20 < c.toNat := by
    intro c hc
    rcases List.mem_append.mp hc with hc | hc
    · have all : ∀ d ∈ "http://".toList, 0x20 < d.toNat := Decimal.forall_of_all (by decide)
      exact all c hc
    · exact (hbare c hc).1.1
  have hscheme : scheme? ("http://".toList ++ cs) = some ("http".toList, '/' :: '/' :: cs) := rfl
  have hslashes : afterSlashes ('/' :: '/' :: cs) = cs := by
    obtain ⟨c, cs, rfl⟩ := List.exists_cons_of_ne_nil hne
    have hc := (hbare c (List.mem_cons_self ..)).1
    simp [afterSlashes, hc.2.1, hc.2.2.1]
  unfold parse
  simp only [counting_eq_self hcount, hscheme, hslashes]
  exact (if_pos trivial).trans (parseWeb_of_isHan h hne hsize)

end

/-! ### One of them -/

/-- Nine hundred Han characters, far apart. -/
def farApart : List Char :=
  (List.range 900).map fun i => Char.ofNat (0x4E00 + 23 * i)

theorem toNat_han {i : Nat} (h : i < 900) : (Char.ofNat (0x4E00 + 23 * i)).toNat = 0x4E00 + 23 * i := by
  have hvalid : (0x4E00 + 23 * i).isValidChar := .inl (by omega)
  rw [Char.ofNat, dif_pos hvalid]
  rfl

theorem length_farApart : farApart.length = 900 := by
  rw [farApart, List.length_map, List.length_range]

theorem isHan_farApart : ∀ c ∈ farApart, IsHan c := by
  rw [farApart]
  refine List.forall_mem_map.mpr fun i hi => ?_
  have hi := List.mem_range.mp hi
  rw [IsHan, toNat_han hi]
  omega

theorem spaced_farApart : Punycode.Spaced farApart := by
  rw [farApart]
  refine List.pairwise_map.mpr (List.pairwise_lt_range.imp_of_mem fun hi hj hij => ?_)
  rw [toNat_han (List.mem_range.mp hi), toNat_han (List.mem_range.mp hj)]
  omega

end ReviewDesk.Url
