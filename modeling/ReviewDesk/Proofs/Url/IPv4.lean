/-
IPv4 addresses that are read and written.

An address is written as its four bytes in decimal, and of the old notations that is the
plainest: no part starts with a zero that would give it another base, there are as many
parts as bytes, and the last part fills just one of them.
-/
import Mathlib.Algebra.Group.Nat.Defs
import ReviewDesk.Url.IPv4
import ReviewDesk.Proofs.Decimal.Text
import ReviewDesk.Proofs.Text.Split

namespace ReviewDesk.Url

/-- What a list is read as has as many members, each read from one of the list. -/
theorem mapM_eq_some {α β : Type} {f : α → Option β} {xs : List α} {ys : List β}
    (h : xs.mapM f = some ys) : ys.length = xs.length ∧ ∀ y ∈ ys, ∃ x ∈ xs, f x = some y := by
  induction xs generalizing ys with
  | nil =>
      obtain rfl : [] = ys := by simpa using h
      simp
  | cons x xs ih =>
      simp only [List.mapM_cons, Option.pure_def, Option.bind_eq_bind, Option.bind_eq_some_iff,
        Option.some.injEq] at h
      obtain ⟨y, hy, zs, hzs, rfl⟩ := h
      obtain ⟨hlength, hread⟩ := ih hzs
      refine ⟨by simp [hlength], List.forall_mem_cons.mpr ⟨⟨x, List.mem_cons_self .., hy⟩, ?_⟩⟩
      intro z hz
      obtain ⟨w, hw, hwz⟩ := hread z hz
      exact ⟨w, List.mem_cons_of_mem _ hw, hwz⟩

theorem mapM_eq_map {α β : Type} {f : α → Option β} {g : α → β} {xs : List α}
    (h : ∀ x ∈ xs, f x = some (g x)) : xs.mapM f = some (xs.map g) := by
  induction xs with
  | nil => rfl
  | cons x xs ih =>
      rw [List.mapM_cons, h x (List.mem_cons_self ..),
        ih fun y hy => h y (List.mem_cons_of_mem _ hy)]
      rfl

/-- One member that is not read is enough. -/
theorem mapM_eq_none {α β : Type} {f : α → Option β} {xs : List α} {x : α} (hx : x ∈ xs)
    (h : f x = none) : xs.mapM f = none := by
  induction xs with
  | nil => contradiction
  | cons y ys ih =>
      rw [List.mapM_cons]
      rcases List.mem_cons.mp hx with rfl | hx
      · rw [h]
        rfl
      · rw [ih hx]
        cases f y <;> rfl

/-- Digits of a base fill no more than as many of its powers. -/
theorem foldl_base_lt {α : Type} {digit : α → Nat} {b : Nat} {ds : List α}
    (h : ∀ d ∈ ds, digit d < b) (n : Nat) :
    ds.foldl (fun n d => n * b + digit d) n < (n + 1) * b ^ ds.length := by
  induction ds generalizing n with
  | nil => simp
  | cons d ds ih =>
      have hd := h d (List.mem_cons_self ..)
      calc (d :: ds).foldl (fun n d => n * b + digit d) n
        _ < (n * b + digit d + 1) * b ^ ds.length :=
            ih (fun e he => h e (List.mem_cons_of_mem _ he)) _
        _ ≤ ((n + 1) * b) * b ^ ds.length := by
            refine Nat.mul_le_mul_right _ ?_
            rw [Nat.add_one_mul]
            omega
        _ = (n + 1) * b ^ (d :: ds).length := by
            rw [List.length_cons, Nat.pow_succ', Nat.mul_assoc]

namespace IPv4

open Text Decimal

variable {a : Nat}

/-! ### Numbers -/

theorem isDigit_of_mem {c : Char} (h : c ∈ digitChars) : isDigit c = true := by
  have all : ∀ d ∈ digitChars, isDigit d = true := forall_of_all (by decide)
  exact all c h

theorem digitValue_lt_of_mem {c : Char} (h : c ∈ digitChars) : digitValue c < 10 := by
  have all : ∀ d ∈ digitChars, digitValue d < 10 := forall_of_all (by decide)
  exact all c h

theorem hexValue?_of_mem {c : Char} (h : c ∈ digitChars) : hexValue? c = some (digitValue c) := by
  have all : ∀ d ∈ digitChars, hexValue? d = some (digitValue d) :=
    forall_of_all (by decide)
  exact all c h

theorem all_isDigit_digits (n : Nat) : (digits n).all isDigit = true :=
  List.all_eq_true.mpr fun _ hc => isDigit_of_mem (mem_digitChars_of_mem_digits hc)

theorem digits_ne_zero_cons (n : Nat) (d : Char) (ds : List Char) : digits n ≠ '0' :: d :: ds := by
  intro heq
  have hzero : digits n = ['0'] := digits_of_head_zero (by rw [heq]; rfl)
  rw [hzero] at heq
  simp at heq

/-- A number is not written in a way that gives it another base. -/
theorem base_digits (n : Nat) : base (digits n) = (10, digits n) := by
  unfold base
  split
  · next heq => exact absurd heq (digits_ne_zero_cons n _ _)
  · next heq => exact absurd heq (digits_ne_zero_cons n _ _)
  · next heq => exact absurd heq (digits_ne_zero_cons n _ _)
  · rfl

/-- One more digit of a number in the given base. -/
def digit? (b n : Nat) (d : Char) : Option Nat :=
  match hexValue? d with
  | some v => if v < b then some (n * b + v) else none
  | none => none

theorem number?_eq (part : List Char) :
    number? part =
      if part.isEmpty then none else (base part).2.foldlM (digit? (base part).1) 0 :=
  rfl

theorem foldlM_digits {ds : List Char} (h : ∀ d ∈ ds, d ∈ digitChars) (n : Nat) :
    ds.foldlM (digit? 10) n = some (ds.foldl (fun n d => 10 * n + digitValue d) n) := by
  induction ds generalizing n with
  | nil => rfl
  | cons d ds ih =>
      have hd := h d (List.mem_cons_self ..)
      have hdigit : digit? 10 n d = some (10 * n + digitValue d) := by
        simp only [digit?, hexValue?_of_mem hd, if_pos (digitValue_lt_of_mem hd), Nat.mul_comm n 10]
      rw [List.foldlM_cons, hdigit, List.foldl_cons]
      exact ih (fun e he => h e (List.mem_cons_of_mem _ he)) _

theorem number?_digits (n : Nat) : number? (digits n) = some n := by
  have hne : (digits n).isEmpty = false := List.isEmpty_eq_false_iff.mpr (digits_ne_nil n)
  rw [number?_eq, hne, base_digits, if_neg Bool.false_ne_true,
    foldlM_digits fun d hd => mem_digitChars_of_mem_digits hd]
  exact congrArg some (value_digits n)

/-! ### Addresses -/

/-- The bytes of an address, the highest first. -/
def bytes (a : Nat) : List Nat :=
  [a / 0x1000000 % 256, a / 0x10000 % 256, a / 0x100 % 256, a / 1 % 256]

theorem chars_eq (a : Nat) : chars a = List.intercalate ['.'] ((bytes a).map digits) :=
  rfl

theorem mem_chars {c : Char} (h : c ∈ chars a) : c ∈ '.' :: digitChars := by
  refine List.mem_cons.mpr ((mem_intercalate (chars_eq a ▸ h)).imp_right ?_)
  rintro ⟨p, hp, hc⟩
  obtain ⟨n, -, rfl⟩ := List.mem_map.mp hp
  exact mem_digitChars_of_mem_digits hc

theorem split_chars (a : Nat) : split '.' (chars a) = (bytes a).map digits := by
  rw [chars_eq]
  refine split_intercalate (by simp [bytes]) (List.forall_mem_map.mpr fun n _ hmem => ?_)
  have hdot := mem_digitChars_of_mem_digits hmem
  revert hdot
  decide

theorem parts_chars (a : Nat) : parts (chars a) = (bytes a).map digits := by
  rw [parts, split_chars]
  simp [bytes, digits_ne_nil]

theorem endsInNumber_chars (a : Nat) : endsInNumber (chars a) = true := by
  simp [endsInNumber, parts_chars, bytes, digits_ne_nil, all_isDigit_digits]

theorem bytes_lt {n : Nat} (h : n ∈ bytes a) : n < 256 := by
  simp only [bytes, List.mem_cons, List.not_mem_nil, or_false] at h
  rcases h with rfl | rfl | rfl | rfl <;> exact Nat.mod_lt _ (by decide)

/-- When numbers make an address, and which. -/
theorem assemble_eq_some {leading : List Nat} {last : Nat} :
    assemble leading last = some a ↔
      (∀ b ∈ leading, b ≤ 255) ∧ last < 256 ^ (4 - leading.length) ∧
        leading.foldl (fun n b => n * 256 + b) 0 * 256 ^ (4 - leading.length) + last = a := by
  simp only [assemble, Nat.pow_eq, Option.ite_none_left_eq_some, Bool.or_eq_true, List.any_eq_true,
    decide_eq_true_eq, not_or, not_exists, not_and, Nat.not_lt, Nat.not_le, Option.some.injEq,
    and_assoc]

theorem assemble_bytes (h : a < 2 ^ 32) : assemble (bytes a).dropLast (a / 1 % 256) = some a := by
  refine assemble_eq_some.mpr ⟨fun b hb => ?_, Nat.mod_lt _ (by decide), ?_⟩
  · exact Nat.le_of_lt_succ (bytes_lt (List.dropLast_subset _ hb))
  · simp only [bytes, List.dropLast, List.foldl_cons, List.foldl_nil, List.length_cons,
      List.length_nil]
    omega

/-- An address is read back from its text. -/
theorem parse?_chars (h : a < 2 ^ 32) : parse? (chars a) = some a := by
  have hnumbers : ((bytes a).map digits).mapM number? = some (bytes a) := by
    simp [bytes, number?_digits]
  have hassemble := assemble_bytes h
  simp only [parse?, parts_chars, hnumbers]
  simpa [bytes] using hassemble

theorem assemble_lt {leading : List Nat} {last : Nat} (hlength : leading.length ≤ 4)
    (h : assemble leading last = some a) : a < 2 ^ 32 := by
  obtain ⟨hleading, hlast, rfl⟩ := assemble_eq_some.mp h
  have hbytes : leading.foldl (fun n b => n * 256 + b) 0 < (0 + 1) * 256 ^ leading.length :=
    foldl_base_lt (fun b hb => Nat.lt_succ_of_le (hleading b hb)) 0
  calc leading.foldl (fun n b => n * 256 + b) 0 * 256 ^ (4 - leading.length) + last
    _ < (leading.foldl (fun n b => n * 256 + b) 0 + 1) * 256 ^ (4 - leading.length) := by
        rw [Nat.add_one_mul]
        omega
    _ ≤ 256 ^ leading.length * 256 ^ (4 - leading.length) :=
        Nat.mul_le_mul_right _ (by omega)
    _ = 2 ^ 32 := by
        have hbits : 256 ^ 4 = 2 ^ 32 := by decide
        rw [← Nat.pow_add, Nat.add_sub_cancel' hlength, hbits]

/-- What is read fills no more than the four bytes. -/
theorem parse?_lt {host : List Char} (h : parse? host = some a) : a < 2 ^ 32 := by
  simp only [parse?, Option.ite_none_left_eq_some, Option.bind_eq_bind,
    Option.bind_eq_some_iff] at h
  obtain ⟨hlength, ns, hns, last, -, hassemble⟩ := h
  have hsame := (mapM_eq_some hns).1
  refine assemble_lt ?_ hassemble
  rw [List.length_dropLast]
  omega

end IPv4

end ReviewDesk.Url
