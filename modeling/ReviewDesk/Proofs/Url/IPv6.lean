/-
IPv6 addresses that are read and written.

A piece is written without leading zeros and so in at most four digits, which is as many
as a piece is read from.  The two colons stand for a run of zeros that is longer than one
piece; reading them makes one zero at once, and the others when the pieces behind them
have been counted.
-/
import Mathlib.Tactic.SplitIfs
import ReviewDesk.Url.IPv6
import ReviewDesk.Proofs.Url.IPv4

namespace ReviewDesk.Url.IPv6

open Text

variable {p : Progress} {n : Nat} {ns front back : List Nat}

/-! ### Pieces -/

theorem hexValue?_digitChar (h : n < 16) : hexValue? (Nat.digitChar n) = some n := by
  have all : ∀ m < 16, hexValue? (Nat.digitChar m) = some m := by decide
  exact all n h

theorem isHex_of_mem_hex {c : Char} (h : c ∈ hex n) : isHex c = true := by
  induction n using Nat.strongRecOn with
  | _ n ih =>
      rw [hex, Nat.toDigits_eq_if (by decide)] at h
      split at h
      · next hn =>
          rw [List.mem_singleton] at h
          rw [h, isHex, hexValue?_digitChar hn]
          rfl
      · rcases List.mem_append.mp h with h | h
        · exact ih (n / 16) (by omega) h
        · rw [List.mem_singleton] at h
          rw [h, isHex, hexValue?_digitChar (Nat.mod_lt n (by decide))]
          rfl

theorem hexNumber_hex (n : Nat) : hexNumber (hex n) = n := by
  induction n using Nat.strongRecOn with
  | _ n ih =>
      rw [hex, Nat.toDigits_eq_if (by decide)]
      split
      · next hn => simp [hexNumber, hexValue?_digitChar hn]
      · have hfront : hexNumber (Nat.toDigits 16 (n / 16)) = n / 16 := ih (n / 16) (by omega)
        rw [hexNumber] at hfront
        simp only [hexNumber, List.foldl_append, hfront, List.foldl_cons, List.foldl_nil,
          hexValue?_digitChar (Nat.mod_lt n (show 0 < 16 by decide)), Option.getD_some]
        omega

theorem hex_eq_cons (n : Nat) : ∃ c cs, hex n = c :: cs ∧ isHex c = true := by
  obtain ⟨c, cs, hcs⟩ := List.exists_cons_of_ne_nil (show hex n ≠ [] from Nat.toDigits_ne_nil)
  exact ⟨c, cs, hcs, isHex_of_mem_hex (hcs ▸ List.mem_cons_self ..)⟩

/-- A piece is read as a whole, and nothing more, whatever else follows. -/
theorem pieceDigits_hex (h : n < 0x10000) {rest : List Char}
    (hrest : ∀ c ∈ rest.head?, isHex c = false) : pieceDigits (hex n ++ rest) = hex n := by
  have hlength : (hex n).length ≤ 4 := (Nat.length_toDigits_le_iff (by decide) (by decide)).mpr h
  have hstops : (rest.take (4 - (hex n).length)).takeWhile isHex = [] := by
    cases rest with
    | nil => simp
    | cons c cs =>
        have hc := hrest c rfl
        cases 4 - (hex n).length with
        | zero => rfl
        | succ k => simp [hc]
  rw [pieceDigits, List.take_append, List.take_of_length_le hlength,
    List.takeWhile_append_of_pos fun c hc => isHex_of_mem_hex hc, hstops, List.append_nil]

theorem ne_colon_of_isHex {c : Char} (h : isHex c = true) : c ≠ ':' := by
  rintro rfl
  revert h
  decide

/-- The progress with one more piece. -/
def Progress.add (p : Progress) (n : Nat) : Progress :=
  { p with pieces := p.pieces ++ [n] }

/-- What may stand behind a piece, and what is read next. -/
inductive Follows : List Char → List Char → Prop
  | nil : Follows [] []
  | colon (d : Char) (r : List Char) : Follows (':' :: d :: r) (d :: r)

theorem piecesFrom_nil (p : Progress) : piecesFrom p [] = some p := by
  rw [piecesFrom]

/-- One piece is read from its digits. -/
theorem piecesFrom_hex {rest next : List Char} (hrest : Follows rest next)
    (hp : p.pieces.length < 8) (h : n < 0x10000) :
    piecesFrom p (hex n ++ rest) = piecesFrom (p.add n) next := by
  obtain ⟨c, cs, hcs, hc⟩ := hex_eq_cons n
  have hdigits : pieceDigits (hex n ++ rest) = hex n := by
    refine pieceDigits_hex h ?_
    cases hrest with
    | nil => simp
    | colon d r =>
        rintro e ⟨⟩
        decide
  have hdrop : (hex n ++ rest).drop (pieceDigits (hex n ++ rest)).length = rest := by
    rw [hdigits, List.drop_left]
  rw [hcs, List.cons_append] at hdigits hdrop ⊢
  rw [piecesFrom, if_neg (by omega), if_neg (ne_colon_of_isHex hc)]
  dsimp only
  -- What is left behind the digits is `rest`, and that rules out all other branches.
  cases hrest with
  | nil =>
      split
      · rw [hdigits, ← hcs, hexNumber_hex, piecesFrom_nil, Progress.add]
      · next heq => exact absurd (hdrop.symm.trans heq) (List.cons_ne_nil _ _).symm
      · next heq => exact absurd (hdrop.symm.trans heq) (List.cons_ne_nil _ _).symm
      · next hends _ _ => exact absurd hdrop hends
  | colon d r =>
      split
      · next heq => exact absurd (hdrop.symm.trans heq) (List.cons_ne_nil _ _)
      · next heq => exact absurd (hdrop.symm.trans heq) (by simp)
      · next heq =>
          obtain ⟨rfl, rfl⟩ : d = _ ∧ r = _ := by simpa using hdrop.symm.trans heq
          rw [hdigits, ← hcs, hexNumber_hex, Progress.add]
      · next hcolon => exact absurd hdrop (hcolon d r)

theorem hexPieces_cons_cons (n m : Nat) (ns : List Nat) :
    hexPieces (n :: m :: ns) = hex n ++ ':' :: hexPieces (m :: ns) := by
  simp only [hexPieces, List.map_cons, List.intercalate_cons_cons, List.append_assoc,
    List.singleton_append]

theorem hexPieces_singleton (n : Nat) : hexPieces [n] = hex n :=
  List.intercalate_singleton

/-- Rows of pieces start with a digit. -/
theorem hexPieces_eq_cons (hne : ns ≠ []) : ∃ c cs, hexPieces ns = c :: cs ∧ isHex c = true := by
  cases ns with
  | nil => exact absurd rfl hne
  | cons n ns =>
      obtain ⟨c, cs, hcs, hc⟩ := hex_eq_cons n
      cases ns with
      | nil => exact ⟨c, cs, by rw [hexPieces_singleton, hcs], hc⟩
      | cons m ms => exact ⟨c, _, by rw [hexPieces_cons_cons, hcs, List.cons_append], hc⟩

/-- The progress with more pieces. -/
def Progress.addAll (p : Progress) (ns : List Nat) : Progress :=
  { p with pieces := p.pieces ++ ns }

theorem Progress.add_addAll (p : Progress) (n : Nat) (ns : List Nat) :
    (p.add n).addAll ns = p.addAll (n :: ns) := by
  simp [add, addAll]

/-- A row of pieces is read as far as it goes. -/
theorem piecesFrom_hexPieces {rest next : List Char} (hrest : Follows rest next) (hne : ns ≠ [])
    (hp : p.pieces.length + ns.length ≤ 8) (h : ∀ n ∈ ns, n < 0x10000) :
    piecesFrom p (hexPieces ns ++ rest) = piecesFrom (p.addAll ns) next := by
  induction ns generalizing p with
  | nil => exact absurd rfl hne
  | cons n ns ih =>
      have hn := h n (List.mem_cons_self ..)
      rw [List.length_cons] at hp
      cases ns with
      | nil =>
          rw [hexPieces_singleton, piecesFrom_hex hrest (by omega) hn]
          rfl
      | cons m ms =>
          -- The row that is left starts with a digit, so the colon is followed by a piece.
          obtain ⟨d, r, hrow, -⟩ := hexPieces_eq_cons (List.cons_ne_nil m ms)
          have hadd : (p.add n).pieces.length = p.pieces.length + 1 := List.length_append
          have hread : piecesFrom (p.add n) (hexPieces (m :: ms) ++ rest)
              = piecesFrom ((p.add n).addAll (m :: ms)) next :=
            ih (List.cons_ne_nil _ _) (by omega) fun k hk => h k (List.mem_cons_of_mem _ hk)
          rw [hrow, List.cons_append, Progress.add_addAll] at hread
          rw [hexPieces_cons_cons, hrow, List.append_assoc, List.cons_append, List.cons_append,
            piecesFrom_hex (.colon d _) (by omega) hn, hread]

/-- A row of pieces is read to its end. -/
theorem piecesFrom_row (hp : p.pieces.length + ns.length ≤ 8) (h : ∀ n ∈ ns, n < 0x10000) :
    piecesFrom p (hexPieces ns) = some (p.addAll ns) := by
  cases ns with
  | nil => simp [hexPieces, piecesFrom_nil, Progress.addAll]
  | cons n ns =>
      rw [← List.append_nil (hexPieces _), piecesFrom_hexPieces .nil (List.cons_ne_nil _ _) hp h,
        piecesFrom_nil]

/-! ### Addresses -/

/-- The zeros that are left out are there, as many as are counted. -/
theorem zeros_of_longestZeros {i start size : Nat} (h : longestZeros i ns = (start, size))
    (hsize : 0 < size) :
    ∃ front back, ns = front ++ List.replicate size 0 ++ back ∧ start = i + front.length := by
  induction ns generalizing i with
  | nil =>
      obtain ⟨rfl, rfl⟩ : 0 = start ∧ 0 = size := by simpa [longestZeros] using h
      contradiction
  | cons n ns ih =>
      rw [longestZeros] at h
      split at h
      · obtain ⟨front, back, hns, hstart⟩ := ih h
        exact ⟨n :: front, back, by simp [hns], by simp [hstart]; omega⟩
      · obtain ⟨rfl, rfl⟩ := Prod.mk.inj h
        have hzeros : (n :: ns).takeWhile (· = 0)
            = List.replicate ((n :: ns).takeWhile (· = 0)).length 0 :=
          List.eq_replicate_iff.mpr
            ⟨rfl, fun b hb => of_decide_eq_true (List.all_eq_true.mp List.all_takeWhile b hb)⟩
        refine ⟨[], (n :: ns).dropWhile (· = 0), ?_, rfl⟩
        rw [List.nil_append, ← hzeros, List.takeWhile_append_dropWhile]

/-- An address is written without a gap, or with one for at least two zeros. -/
theorem chars_cases (ps : List Nat) :
    chars ps = hexPieces ps ∨
    ∃ front size back, 2 ≤ size ∧ ps = front ++ List.replicate size 0 ++ back ∧
      chars ps = hexPieces front ++ ':' :: ':' :: hexPieces back := by
  unfold chars
  cases hlongest : longestZeros 0 ps with
  | mk start size =>
      by_cases hsize : size < 2
      · exact .inl (if_pos hsize)
      · obtain ⟨front, back, rfl, hstart⟩ := zeros_of_longestZeros hlongest (by omega)
        obtain rfl : start = front.length := by omega
        refine .inr ⟨front, size, back, Nat.le_of_not_lt hsize, rfl, ?_⟩
        have hfront : (front ++ List.replicate size 0 ++ back).take front.length = front := by
          simp
        have hback : (front ++ List.replicate size 0 ++ back).drop (front.length + size) = back :=
          List.drop_left' (by simp)
        dsimp only
        rw [if_neg hsize, hfront, hback, List.append_assoc]
        rfl

theorem mem_hexPieces {c : Char} (h : c ∈ hexPieces ns) : c = ':' ∨ isHex c = true := by
  refine (mem_intercalate h).imp_right ?_
  rintro ⟨p, hp, hc⟩
  obtain ⟨n, -, rfl⟩ := List.mem_map.mp hp
  exact isHex_of_mem_hex hc

theorem mem_chars {ps : List Nat} {c : Char} (h : c ∈ chars ps) : c = ':' ∨ isHex c = true := by
  rcases chars_cases ps with heq | ⟨front, size, back, -, -, heq⟩
  · exact mem_hexPieces (heq ▸ h)
  · rw [heq] at h
    simp only [List.mem_append, List.mem_cons] at h
    rcases h with h | rfl | rfl | h
    · exact mem_hexPieces h
    · exact .inl rfl
    · exact .inl rfl
    · exact mem_hexPieces h

/-- Anything but a colon in front is read piece by piece. -/
theorem parse?_eq {c d : Char} {r : List Char} (hc : c ≠ ':') :
    parse? (c :: d :: r) = (piecesFrom ⟨[], none⟩ (c :: d :: r)).bind fill? := by
  unfold parse?
  split
  · next heq => exact absurd (List.cons.inj heq).1 hc
  · next heq => exact absurd (List.cons.inj heq).1 hc
  · contradiction
  · next heq => simp at heq
  · rfl

/-- A second colon makes the first of the zeros. -/
theorem piecesFrom_colon (hns : ns.length < 8) (r : List Char) :
    piecesFrom ⟨ns, none⟩ (':' :: r) = piecesFrom ⟨ns ++ [0], some (ns.length + 1)⟩ r := by
  rw [piecesFrom, if_neg (show ¬ ns.length = 8 by omega), if_pos rfl]

/-- The other zeros are as many as are missing. -/
theorem fill?_gap {size : Nat} (hsize : 1 ≤ size) (h : front.length + size + back.length = 8) :
    fill? ⟨front ++ [0] ++ back, some (front.length + 1)⟩
      = some (front ++ List.replicate size 0 ++ back) := by
  have htake : (front ++ [0] ++ back).take (front.length + 1) = front ++ [0] :=
    List.take_left' (by simp)
  have hdrop : (front ++ [0] ++ back).drop (front.length + 1) = back :=
    List.drop_left' (by simp)
  have hmissing : size = 1 + (8 - (front ++ [0] ++ back).length) := by
    simp only [List.length_append, List.length_singleton]
    omega
  have hzeros : List.replicate size 0
      = [0] ++ List.replicate (8 - (front ++ [0] ++ back).length) 0 := by
    rw [hmissing, ← List.replicate_append_replicate, List.replicate_one]
  simp only [fill?, htake, hdrop]
  rw [hzeros, List.append_assoc front]

/-- What follows two colons fills the address. -/
theorem parse?_gap {size : Nat} (hsize : 1 ≤ size) (hlength : front.length + size + back.length = 8)
    (hfront : ∀ n ∈ front, n < 0x10000) (hback : ∀ n ∈ back, n < 0x10000) :
    parse? (hexPieces front ++ ':' :: ':' :: hexPieces back)
      = some (front ++ List.replicate size 0 ++ back) := by
  have hpieces : piecesFrom ⟨front ++ [0], some (front.length + 1)⟩ (hexPieces back)
      = some ⟨front ++ [0] ++ back, some (front.length + 1)⟩ :=
    piecesFrom_row (by simp; omega) hback
  have hfill := fill?_gap hsize hlength
  by_cases hne : front = []
  · subst hne
    show (piecesFrom ⟨[0], some 1⟩ (hexPieces back)).bind fill? = _
    simp only [List.nil_append, List.length_nil, Nat.zero_add] at hpieces hfill ⊢
    rw [hpieces, Option.bind_some, hfill]
  · obtain ⟨c, cs, hcs, hc⟩ := hexPieces_eq_cons hne
    have hread : piecesFrom ⟨[], none⟩ (hexPieces front ++ ':' :: ':' :: hexPieces back)
        = some ⟨front ++ [0] ++ back, some (front.length + 1)⟩ := by
      rw [piecesFrom_hexPieces (.colon _ _) hne (by simp; omega) hfront]
      show piecesFrom ⟨front, none⟩ (':' :: hexPieces back) = _
      rw [piecesFrom_colon (by omega), hpieces]
    have hstart : parse? (hexPieces front ++ ':' :: ':' :: hexPieces back)
        = (piecesFrom ⟨[], none⟩ (hexPieces front ++ ':' :: ':' :: hexPieces back)).bind fill? := by
      rw [hcs, List.cons_append]
      cases cs <;> exact parse?_eq (ne_colon_of_isHex hc)
    rw [hstart, hread, Option.bind_some, hfill]

/-- An address is read back from its text. -/
theorem parse?_chars {ps : List Nat} (hlength : ps.length = 8) (h : ∀ n ∈ ps, n < 0x10000) :
    parse? (chars ps) = some ps := by
  rcases chars_cases ps with heq | ⟨front, size, back, hsize, rfl, heq⟩
  · have hread : piecesFrom ⟨[], none⟩ (hexPieces ps) = some ⟨ps, none⟩ :=
      piecesFrom_row (by simp; omega) h
    have hfill : fill? ⟨ps, none⟩ = some ps := if_pos hlength
    have hstart : parse? (hexPieces ps) = (piecesFrom ⟨[], none⟩ (hexPieces ps)).bind fill? := by
      match ps, hlength with
      | n :: m :: ns, _ =>
        obtain ⟨c, cs, hcs, hc⟩ := hex_eq_cons n
        rw [hexPieces_cons_cons, hcs, List.cons_append]
        cases cs <;> exact parse?_eq (ne_colon_of_isHex hc)
    rw [heq, hstart, hread, Option.bind_some, hfill]
  · rw [heq]
    simp only [List.length_append, List.length_replicate] at hlength
    exact parse?_gap (by omega) hlength (fun n hn => h n (by simp [hn])) fun n hn => h n (by simp [hn])

/-! ### What is read -/

theorem hexValue?_lt {c : Char} : (hexValue? c).getD 0 < 16 := by
  unfold hexValue?
  dsimp only
  split_ifs <;> simp only [Option.getD_some, Option.getD_none] <;> omega

theorem hexNumber_pieceDigits_lt (s : List Char) : hexNumber (pieceDigits s) < 0x10000 := by
  have hlength : (pieceDigits s).length ≤ 4 :=
    Nat.le_trans (List.takeWhile_prefix _).length_le (List.length_take_le _ _)
  calc hexNumber (pieceDigits s)
    _ < (0 + 1) * 16 ^ (pieceDigits s).length := foldl_base_lt (fun _ _ => hexValue?_lt) 0
    _ ≤ 0x10000 := by
        rw [Nat.zero_add, Nat.one_mul]
        exact Nat.pow_le_pow_right (by decide) hlength

theorem byte?_lt {s : List Char} (h : byte? s = some n) : n < 256 := by
  unfold byte? at h
  split at h
  · contradiction
  · obtain rfl := Option.some.inj h
    decide
  · contradiction
  · simp only [Option.ite_none_right_eq_some, Bool.and_eq_true, decide_eq_true_eq,
      Option.some.injEq] at h
    omega

theorem dotted?_eq_some {s : List Char} (h : dotted? s = some ns) :
    ns.length = 2 ∧ ∀ n ∈ ns, n < 0x10000 := by
  unfold dotted? at h
  split at h
  · next a b c d hbytes =>
      obtain rfl := Option.some.inj h
      have hread : ∀ n ∈ [a, b, c, d], n < 256 := by
        intro n hn
        obtain ⟨part, -, hpart⟩ := (mapM_eq_some hbytes).2 n hn
        exact byte?_lt hpart
      simp only [List.forall_mem_cons] at hread ⊢
      refine ⟨rfl, by omega, by omega, by simp⟩
  · contradiction

/-- Pieces and gap are in bounds. -/
structure Progress.InBounds (p : Progress) : Prop where
  count : p.pieces.length ≤ 8
  pieces : ∀ n ∈ p.pieces, n < 0x10000
  gap : ∀ k ∈ p.gap, k ≤ p.pieces.length

theorem Progress.inBounds_start : Progress.InBounds ⟨[], none⟩ :=
  ⟨by simp, by simp, by simp⟩

theorem Progress.InBounds.addAll (h : p.InBounds) (hcount : p.pieces.length + ns.length ≤ 8)
    (hns : ∀ n ∈ ns, n < 0x10000) : (p.addAll ns).InBounds where
  count := by simpa [Progress.addAll] using hcount
  pieces := List.forall_mem_append.mpr ⟨h.pieces, hns⟩
  gap := fun k hk => Nat.le_trans (h.gap k hk) (by simp [Progress.addAll])

theorem Progress.InBounds.add (h : p.InBounds) (hcount : p.pieces.length < 8) (hn : n < 0x10000) :
    (p.add n).InBounds :=
  h.addAll (Nat.succ_le_of_lt hcount) (by simpa using hn)

/-- The first of the zeros, with the gap behind it. -/
theorem Progress.InBounds.gapped (h : p.InBounds) (hcount : p.pieces.length < 8) :
    Progress.InBounds ⟨p.pieces ++ [0], some (p.pieces.length + 1)⟩ where
  count := by
    rw [List.length_append]
    exact Nat.succ_le_of_lt hcount
  pieces := List.forall_mem_append.mpr ⟨h.pieces, by simp⟩
  gap := by
    rintro k ⟨⟩
    simp

/-- Reading on keeps the bounds. -/
theorem inBounds_piecesFrom {s : List Char} {q : Progress} (hp : p.InBounds)
    (h : piecesFrom p s = some q) : q.InBounds := by
  fun_induction piecesFrom p s with
  | case1 p => exact Option.some.inj h ▸ hp
  | case2 => contradiction
  | case3 => contradiction
  | case4 p r hfull _ ih =>
      exact ih (hp.gapped (Nat.lt_of_le_of_ne hp.count hfull)) h
  | case5 p c r hfull =>
      exact Option.some.inj h ▸ hp.add (Nat.lt_of_le_of_ne hp.count hfull) (hexNumber_pieceDigits_lt _)
  | case6 => contradiction
  | case7 p c r hfull _ _ tail _ hroom =>
      obtain ⟨two, htwo, rfl⟩ := Option.map_eq_some_iff.mp h
      obtain ⟨hlength, hpieces⟩ := dotted?_eq_some htwo
      simp only [Bool.or_eq_true, decide_eq_true_eq, not_or] at hroom
      exact hp.addAll (by omega) hpieces
  | case8 p c r hfull _ _ _ _ _ _ ih =>
      exact ih (hp.add (Nat.lt_of_le_of_ne hp.count hfull) (hexNumber_pieceDigits_lt _)) h
  | case9 => contradiction

theorem fill?_eq_some {ps : List Nat} (hp : p.InBounds) (h : fill? p = some ps) :
    ps.length = 8 ∧ ∀ n ∈ ps, n < 0x10000 := by
  have hcount := hp.count
  unfold fill? at h
  split at h
  · obtain ⟨hlength, hps⟩ := Option.ite_none_right_eq_some.mp h
    exact Option.some.inj hps ▸ ⟨hlength, hp.pieces⟩
  · next k hk =>
      obtain rfl := Option.some.inj h
      have hgap := hp.gap k hk
      refine ⟨by simp; omega, ?_⟩
      simp only [List.forall_mem_append]
      refine ⟨⟨fun n hn => hp.pieces n (List.mem_of_mem_take hn), fun n hn => ?_⟩,
        fun n hn => hp.pieces n (List.mem_of_mem_drop hn)⟩
      rw [List.eq_of_mem_replicate hn]
      decide

/-- What is read are eight pieces of sixteen bits. -/
theorem parse?_eq_some {s : List Char} {ps : List Nat} (h : parse? s = some ps) :
    ps.length = 8 ∧ ∀ n ∈ ps, n < 0x10000 := by
  obtain ⟨q, hq, hfill⟩ := Option.bind_eq_some_iff.mp h
  refine fill?_eq_some ?_ hfill
  split at hq
  · exact inBounds_piecesFrom (Progress.inBounds_start.gapped (by decide)) hq
  · contradiction
  · contradiction
  · contradiction
  · exact inBounds_piecesFrom Progress.inBounds_start hq

end ReviewDesk.Url.IPv6
