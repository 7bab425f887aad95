/-
Whole numbers in decimal.

`digits` writes a natural number without leading zeros and `value` reads any row of
digits back, so `value_digits` says that writing loses nothing.
-/

namespace ReviewDesk.Decimal

/-- The digit for a number below ten. -/
def digitChar (d : Nat) : Char :=
  Char.ofNat (0x30 + d)

def isDigit (c : Char) : Bool :=
  '0' ≤ c && c ≤ '9'

/-- What a digit counts. -/
def digitValue (c : Char) : Nat :=
  c.toNat - 0x30

/-- Most significant digit first; zero is the single digit `0`. -/
def digits (n : Nat) : List Char :=
  if n < 10 then [digitChar n] else digits (n / 10) ++ [digitChar (n % 10)]
termination_by n
decreasing_by omega

/-- What a row of digits counts, leading zeros or not. -/
def value (ds : List Char) : Nat :=
  ds.foldl (fun n d => 10 * n + digitValue d) 0

theorem digitValue_digitChar {d : Nat} (h : d < 10) : digitValue (digitChar d) = d := by
  have all : ∀ e ∈ List.range 10, digitValue (digitChar e) = e := by decide
  exact all d (List.mem_range.mpr h)

theorem value_append_digit (ds : List Char) (d : Char) :
    value (ds ++ [d]) = 10 * value ds + digitValue d := by
  simp [value]

theorem value_digits (n : Nat) : value (digits n) = n := by
  induction n using Nat.strongRecOn with
  | _ n ih =>
    rw [digits]
    split
    · next h => simp [value, digitValue_digitChar h]
    · next h =>
      rw [value_append_digit, ih (n / 10) (by omega), digitValue_digitChar (by omega)]
      omega

def ofNat (n : Nat) : String :=
  String.ofList (digits n)

def ofInt (n : Int) : String :=
  match n with
  | .ofNat m => ofNat m
  | .negSucc m => "-" ++ ofNat (m + 1)

end ReviewDesk.Decimal
