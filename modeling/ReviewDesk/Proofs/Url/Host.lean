/-
Hosts that are read and written.

A host is a domain name in ASCII or an address within its bounds.  An address is read back
from its text, and so is a name, unless one of its labels is too long to be decoded.  The
text of an IPv4 address is a domain name first: digits and dots are not changed by anything
that is done to a name, so it is found to end in a number and read as the address.
-/
import ReviewDesk.Url.Host
import ReviewDesk.Proofs.Text.Utf8
import ReviewDesk.Proofs.Url.Percent
import ReviewDesk.Proofs.Url.IPv6
import ReviewDesk.Proofs.Url.Domain.Name

namespace ReviewDesk.Url

open Text

/-! ### Digits and dots -/

namespace Domain

variable {cs : List Char}

/-- A label of digits is sent as it is. -/
theorem label?_of_digits {label : List Char} (h : ∀ c ∈ label, c ∈ Decimal.digitChars) :
    label? label = some ⟨label, label⟩ := by
  have hmarker : marker.isPrefixOf label = false := by
    cases label with
    | nil => rfl
    | cons c cs =>
        have all : ∀ d ∈ Decimal.digitChars, ('x' == d) = false := Decimal.forall_of_all (by decide)
        simp [marker, List.isPrefixOf, all c (h c (List.mem_cons_self ..))]
  have hascii : isAscii label = true := by
    have all : ∀ d ∈ Decimal.digitChars, IsPlain d := Decimal.forall_of_all (by decide)
    exact isAscii_of_isPlain fun c hc => all c (h c hc)
  rw [label?, hmarker, hascii]
  rfl

theorem digits_not_forbidden {c : Char} (h : c ∈ '.' :: Decimal.digitChars) :
    isForbidden c = false := by
  have all : ∀ d ∈ '.' :: Decimal.digitChars, isForbidden d = false :=
    Decimal.forall_of_all (by decide)
  exact all c h

/-- Digits and dots are a name as they are. -/
theorem ofChars?_of_digits (h : ∀ c ∈ cs, c ∈ '.' :: Decimal.digitChars) :
    ofChars? cs = some cs := by
  have hplain : ∀ d ∈ '.' :: Decimal.digitChars, IsPlain d := Decimal.forall_of_all (by decide)
  have hdigits : ∀ l ∈ split '.' cs, ∀ c ∈ l, c ∈ Decimal.digitChars := by
    intro l hl c hc
    refine (List.mem_cons.mp (h c (mem_of_mem_split hl hc))).resolve_left ?_
    rintro rfl
    exact sep_not_mem hl hc
  have hlabels : (split '.' cs).mapM label? = some ((split '.' cs).map fun l => ⟨l, l⟩) :=
    mapM_eq_map fun l hl => label?_of_digits (hdigits l hl)
  have hdirections : keepsDirections ((split '.' cs).map fun l => ⟨l, l⟩) = true := by
    have all : ∀ d ∈ Decimal.digitChars, isRightToLeft d = false :=
      Decimal.forall_of_all (by decide)
    rw [keepsDirections, Bool.or_eq_true, Bool.not_eq_true', List.any_eq_false]
    refine .inl (List.forall_mem_map.mpr fun l hl => ?_)
    rw [Bool.not_eq_true, List.any_eq_false]
    exact fun c hc => Bool.not_eq_true _ ▸ all c (hdigits l hl c hc)
  have hname : List.intercalate ['.'] (((split '.' cs).map fun l => Label.mk l l).map Label.ascii)
      = cs := by
    rw [List.map_map]
    exact (congrArg _ (List.map_id _)).trans (intercalate_split '.' cs)
  have hforbidden : cs.any isForbidden = false :=
    List.any_eq_false.mpr fun c hc => Bool.not_eq_true _ ▸ digits_not_forbidden (h c hc)
  rw [ofChars?_of_isPlain fun c hc => hplain c (h c hc)]
  exact ofLabels?_eq_some.mpr ⟨_, hlabels, hdirections, hforbidden, hname⟩

end Domain

namespace Host

/-- A host that can have been read. -/
def IsHost : Host → Prop
  | .domain name =>
    name ≠ [] ∧ IPv4.endsInNumber name = false ∧ ∃ cs, Domain.ofChars? cs = some name
  | .ipv4 address => address < 2 ^ 32
  | .ipv6 pieces => pieces.length = 8 ∧ ∀ n ∈ pieces, n < 0x10000

theorem isHost_named {cs name : List Char} {h : Host} (hname : Domain.ofChars? cs = some name)
    (hread : named name = .ok h) : h.IsHost := by
  unfold named at hread
  split at hread
  · contradiction
  · next hne =>
      split at hread
      · split at hread
        · next address haddress =>
            obtain rfl := Except.ok.inj hread
            exact IPv4.parse?_lt haddress
        · contradiction
      · next hnumber =>
          obtain rfl := Except.ok.inj hread
          exact ⟨by simpa using hne, Bool.eq_false_iff.mpr hnumber, cs, hname⟩

theorem isHost_bracketed {inside : List Char} {h : Host} (hread : bracketed inside = .ok h) :
    h.IsHost := by
  unfold bracketed at hread
  split at hread
  · split at hread
    · next pieces hpieces =>
        obtain rfl := Except.ok.inj hread
        exact IPv6.parse?_eq_some hpieces
    · contradiction
  · contradiction

theorem isHost_parse {s : List Char} {h : Host} (hread : Host.parse s = .ok h) : h.IsHost := by
  unfold Host.parse at hread
  split at hread
  · exact isHost_bracketed hread
  · split at hread
    · contradiction
    · next name hname =>
        obtain ⟨d, -, hd⟩ := Option.bind_eq_some_iff.mp hname
        exact isHost_named hd hread

/-! ### The text of a host -/

/-- What may stand in a host: nothing that does not count, and nothing that would end it
or make it part of a user. -/
def Bare (c : Char) : Prop :=
  0x20 < c.toNat ∧ c ≠ '/' ∧ c ≠ '\\' ∧ c ≠ '?' ∧ c ≠ '#' ∧ c ≠ '@'

instance (c : Char) : Decidable (Bare c) :=
  inferInstanceAs (Decidable (_ ∧ _))

/-- Colons and brackets aside, what is not forbidden may stand in a host. -/
theorem of_not_forbidden {c : Char} (h : Domain.isForbidden c = false) :
    Bare c ∧ c ≠ ':' ∧ c ≠ '[' ∧ c ≠ ']' ∧ c ≠ '%' := by
  have hlow : 0x20 < c.toNat := by
    simp only [Domain.isForbidden, Bool.or_eq_false_iff, decide_eq_false_iff_not, Nat.not_le] at h
    exact h.1.1
  refine ⟨⟨hlow, ?_, ?_, ?_, ?_, ?_⟩, ?_, ?_, ?_, ?_⟩ <;> exact ne_of_set h (by decide)

/-- A host is free of colons and brackets, or it stands between brackets. -/
theorem chars_cases {h : Host} (hh : h.IsHost) :
    (∀ c ∈ h.chars, Domain.isForbidden c = false) ∨
    ∃ inside, h.chars = '[' :: inside ++ [']'] ∧
      ∀ c ∈ inside, c = ':' ∨ IPv6.isHex c = true := by
  cases h with
  | domain name =>
      obtain ⟨-, -, cs, hname⟩ := hh
      exact .inl (Domain.not_forbidden_of_ofChars? hname)
  | ipv4 address => exact .inl fun c hc => Domain.digits_not_forbidden (IPv4.mem_chars hc)
  | ipv6 pieces => exact .inr ⟨IPv6.chars pieces, rfl, fun c hc => IPv6.mem_chars hc⟩

theorem chars_ne_nil {h : Host} (hh : h.IsHost) : h.chars ≠ [] := by
  cases h with
  | domain name => exact hh.1
  | ipv4 address =>
      intro hnil
      have hends := IPv4.endsInNumber_chars address
      rw [show IPv4.chars address = [] from hnil] at hends
      contradiction
  | ipv6 pieces => exact List.cons_ne_nil _ _

theorem isHex_bare {c : Char} (h : IPv6.isHex c = true) : Bare c ∧ c ≠ '[' ∧ c ≠ ']' := by
  have hlow : 0x20 < c.toNat := by
    rw [IPv6.isHex, hexValue?] at h
    refine Nat.lt_of_not_le fun hle => ?_
    simp only [if_neg (show ¬ (0x30 ≤ c.toNat ∧ c.toNat ≤ 0x39) by omega),
      if_neg (show ¬ (0x41 ≤ c.toNat ∧ c.toNat ≤ 0x46) by omega),
      if_neg (show ¬ (0x61 ≤ c.toNat ∧ c.toNat ≤ 0x66) by omega), Option.isSome_none,
      Bool.false_eq_true] at h
  refine ⟨⟨hlow, ?_, ?_, ?_, ?_, ?_⟩, ?_, ?_⟩ <;> exact (ne_of_set (by decide) h).symm

theorem bare_chars {h : Host} (hh : h.IsHost) : ∀ c ∈ h.chars, Bare c := by
  intro c hc
  rcases chars_cases hh with hclear | ⟨inside, heq, hinside⟩
  · exact (of_not_forbidden (hclear c hc)).1
  · rw [heq] at hc
    simp only [List.cons_append, List.mem_cons, List.mem_append, List.not_mem_nil, or_false] at hc
    rcases hc with rfl | hc | rfl
    · decide
    · rcases hinside c hc with rfl | hhex
      · decide
      · exact (isHex_bare hhex).1
    · decide

/-! ### Reading again -/

/-- Not a domain name, or one that is read again. -/
def IsReadable : Host → Prop
  | .domain name => Domain.IsReadable name
  | .ipv4 _ => True
  | .ipv6 _ => True

instance (h : Host) : Decidable h.IsReadable :=
  match h with
  | .domain name => inferInstanceAs (Decidable (Domain.IsReadable name))
  | .ipv4 _ => inferInstanceAs (Decidable True)
  | .ipv6 _ => inferInstanceAs (Decidable True)

/-- Without brackets and percent signs a host is looked at as a name right away. -/
theorem parse_of_clear {name : List Char} (h : ∀ c ∈ name, Domain.isForbidden c = false) :
    Host.parse name = (Domain.ofChars? name).elim (.error .invalidDomain) named := by
  have hclear := fun c hc => of_not_forbidden (h c hc)
  have hdecoded : percentDecode name = encode name :=
    percentDecode_of_not_mem fun hmem => (hclear _ hmem).2.2.2.2 rfl
  have htext : ofBytes? (percentDecode name) = some (String.ofList name) := by
    rw [hdecoded, ← bytes_ofList, ofBytes?_bytes]
  unfold Host.parse
  split
  · exact absurd rfl (hclear '[' (List.mem_cons_self ..)).2.2.1
  · rw [htext, Option.bind_some, String.toList_ofList]
    cases Domain.ofChars? name <;> rfl

/-- A host is read back from its text, unless it is a name that is not read again: then
there is no host in the text. -/
theorem parse_chars {h : Host} (hh : h.IsHost) :
    Host.parse h.chars = if h.IsReadable then .ok h else .error .invalidDomain := by
  cases h with
  | domain name =>
      obtain ⟨hne, hnumber, cs, hname⟩ := hh
      rw [chars, parse_of_clear (Domain.not_forbidden_of_ofChars? hname),
        Domain.ofChars?_again hname]
      by_cases hreadable : Domain.IsReadable name
      · rw [if_pos hreadable, if_pos (show IsReadable (.domain name) from hreadable)]
        simp [named, hne, hnumber]
      · rw [if_neg hreadable, if_neg (show ¬ IsReadable (.domain name) from hreadable)]
        rfl
  | ipv4 address =>
      have hname : Domain.ofChars? (IPv4.chars address) = some (IPv4.chars address) :=
        Domain.ofChars?_of_digits fun c hc => IPv4.mem_chars hc
      have hne : IPv4.chars address ≠ [] := chars_ne_nil hh
      rw [chars, parse_of_clear fun c hc => Domain.digits_not_forbidden (IPv4.mem_chars hc), hname,
        if_pos (show IsReadable (.ipv4 address) from trivial)]
      simp [named, hne, IPv4.endsInNumber_chars, IPv4.parse?_chars hh]
  | ipv6 pieces =>
      have hread := IPv6.parse?_chars hh.1 hh.2
      rw [if_pos (show IsReadable (.ipv6 pieces) from trivial)]
      show bracketed (IPv6.chars pieces ++ [']']) = _
      rw [bracketed, if_pos List.getLast?_concat, List.dropLast_concat, hread]

end Host

end ReviewDesk.Url
