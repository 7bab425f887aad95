/-
URLs are read back from their text.

Whatever a URL was read from, each of its parts is in the one form in which it is
written, and has none of the characters by which the next part is found.  So reading cuts
the text of a URL where writing put it together, and leaves every part as it is.

Only the host can be in the way: a domain name with a label that is too long to be decoded
is no host, and the text is no URL.
-/
import Mathlib.Data.List.TakeWhile
import Mathlib.Tactic.SplitIfs
import ReviewDesk.Url.Basic
import ReviewDesk.Proofs.Url.Path
import ReviewDesk.Proofs.Url.Host

namespace ReviewDesk.Url

open Text

/-! ### Users -/

theorem userinfoSet_eq_false {c : Char} (h : userinfoSet c = false) : Host.Bare c ∧ c ≠ ':' := by
  have hpath : pathSet c = false := by
    simp only [userinfoSet, Bool.or_eq_false_iff] at h
    exact h.1.1.1.1.1.1.1.1.1.1
  refine ⟨⟨(pathSet_eq_false hpath).1, ?_, ?_, ?_, ?_, ?_⟩, ?_⟩ <;> exact ne_of_set h (by decide)

namespace User

/-- User name and password are encoded. -/
structure IsUser (u : User) : Prop where
  name : Clear userinfoSet u.name
  password : Clear userinfoSet u.password

theorem isUser_parse (s : List Char) : (parse s).IsUser :=
  ⟨clear_percentEncode (by decide) _, clear_percentEncode (by decide) _⟩

/-- What is written in front of the at sign. -/
def written (u : User) : List Char :=
  u.name ++ if u.password.isEmpty then [] else ':' :: u.password

theorem chars_eq (u : User) :
    u.chars = if u.written = [] then [] else u.written ++ ['@'] := by
  obtain ⟨name, password⟩ := u
  cases name <;> cases password <;> simp [chars, written]

theorem IsUser.bare_written {u : User} (h : u.IsUser) : ∀ c ∈ u.written, Host.Bare c := by
  intro c hc
  rcases List.mem_append.mp hc with hc | hc
  · exact (userinfoSet_eq_false (h.name c hc)).1
  · split at hc
    · contradiction
    · rcases List.mem_cons.mp hc with rfl | hc
      · decide
      · exact (userinfoSet_eq_false (h.password c hc)).1

theorem parse_written {u : User} (h : u.IsUser) : parse u.written = u := by
  have hname : ∀ c ∈ u.name, decide (c ≠ ':') = true := fun c hc =>
    decide_eq_true (userinfoSet_eq_false (h.name c hc)).2
  have hcut : (u.written.takeWhile (· ≠ ':')) = u.name ∧
      (u.written.dropWhile (· ≠ ':')).drop 1 = u.password := by
    rw [written, List.takeWhile_append_of_pos hname, List.dropWhile_append_of_pos hname]
    split
    · next hempty => simp [List.isEmpty_iff.mp hempty]
    · simp
  rw [parse, hcut.1, hcut.2, percentEncode_of_clear h.name, percentEncode_of_clear h.password]

end User

/-! ### Ports -/

theorem port?_portChars {port : Option Nat} (h : ∀ n ∈ port, n ≤ 65535) :
    port? (portChars port) = .ok port := by
  cases port with
  | none => rfl
  | some n =>
      have hn : ¬ 65535 < n := Nat.not_lt_of_le (h n rfl)
      simp [port?, portChars, IPv4.all_isDigit_digits, Decimal.value_digits, Decimal.digits_ne_nil, hn]

theorem le_of_port? {s : List Char} {port : Option Nat} (h : port? s = .ok port) :
    ∀ n ∈ port, n ≤ 65535 := by
  unfold port? at h
  dsimp only at h
  split_ifs at h with hdigits hlarge hempty
  · obtain rfl := Except.ok.inj h
    simp
  · obtain rfl := Except.ok.inj h
    rintro n ⟨⟩
    omega

theorem bare_portChars (port : Option Nat) : ∀ c ∈ portChars port, Host.Bare c := by
  cases port with
  | none => simp [portChars]
  | some n =>
      intro c hc
      rcases List.mem_cons.mp hc with rfl | hc
      · decide
      · have all : ∀ d ∈ Decimal.digitChars, Host.Bare d := Decimal.forall_of_all (by decide)
        exact all c (Decimal.mem_digitChars_of_mem_digits hc)

/-! ### User, host and port -/

theorem splitPort_port {port : List Char} (hport : ∀ c ∈ port.head?, c = ':') :
    splitPort false port = ([], port) := by
  cases port with
  | nil => rfl
  | cons c cs =>
      obtain rfl := hport c rfl
      simp [splitPort]

theorem splitPort_bare {s port : List Char} (h : ∀ c ∈ s, c ≠ ':' ∧ c ≠ '[' ∧ c ≠ ']')
    (hport : ∀ c ∈ port.head?, c = ':') : splitPort false (s ++ port) = (s, port) := by
  induction s with
  | nil => exact splitPort_port hport
  | cons c cs ih =>
      obtain ⟨hcolon, hopen, hclose⟩ := h c (List.mem_cons_self ..)
      have hrest := ih fun d hd => h d (List.mem_cons_of_mem _ hd)
      simp [splitPort, hcolon, hopen, hclose, hrest]

theorem splitPort_inside {s port : List Char} (h : ∀ c ∈ s, c ≠ '[' ∧ c ≠ ']')
    (hport : ∀ c ∈ port.head?, c = ':') :
    splitPort true (s ++ ']' :: port) = (s ++ [']'], port) := by
  induction s with
  | nil => simp [splitPort, splitPort_port hport]
  | cons c cs ih =>
      obtain ⟨hopen, hclose⟩ := h c (List.mem_cons_self ..)
      have hrest := ih fun d hd => h d (List.mem_cons_of_mem _ hd)
      simp [splitPort, hopen, hclose, hrest]

theorem splitPort_host {h : Host} (hh : h.IsHost) (port : Option Nat) :
    splitPort false (h.chars ++ portChars port) = (h.chars, portChars port) := by
  have hport : ∀ c ∈ (portChars port).head?, c = ':' := by
    cases port <;> simp [portChars]
  rcases Host.chars_cases hh with hclear | ⟨inside, heq, hinside⟩
  · refine splitPort_bare (fun c hc => ?_) hport
    have hne := Host.of_not_forbidden (hclear c hc)
    exact ⟨hne.2.1, hne.2.2.1, hne.2.2.2.1⟩
  · have hne : ∀ c ∈ inside, c ≠ '[' ∧ c ≠ ']' := by
      intro c hc
      rcases hinside c hc with rfl | hhex
      · decide
      · exact (Host.isHex_bare hhex).2
    have hrest := splitPort_inside hne hport
    rw [heq]
    simp [splitPort, hrest]

theorem reverse_free {s : List Char} (h : '@' ∉ s) :
    ∀ c ∈ s.reverse, decide (c ≠ '@') = true := by
  intro c hc
  refine decide_eq_true ?_
  rintro rfl
  exact h (List.mem_reverse.mp hc)

theorem splitUser?_of_not_mem {s : List Char} (h : '@' ∉ s) : splitUser? s = none := by
  rw [splitUser?, List.dropWhile_eq_nil_iff.mpr (reverse_free h)]

theorem splitUser?_append {user s : List Char} (h : '@' ∉ s) :
    splitUser? (user ++ '@' :: s) = some (user, s) := by
  have hreverse : (user ++ '@' :: s).reverse = s.reverse ++ '@' :: user.reverse := by simp
  rw [splitUser?, hreverse]
  simp only [List.dropWhile_append_of_pos (reverse_free h),
    List.takeWhile_append_of_pos (reverse_free h)]
  simp

/-- What stands between the slashes and the path is cut where it was put together. -/
theorem Authority.parse_chars {h : Host} (hh : h.IsHost) (user : User)
    (port : Option Nat) (rest : List Char) :
    Authority.parse (user.chars ++ h.chars ++ portChars port) rest
      = .ok ⟨user.written, h.chars, portChars port⟩ := by
  -- The last at sign is the one that was written behind the user, if there is one.
  have hat : '@' ∉ h.chars ++ portChars port := by
    intro hmem
    have hbare : Host.Bare '@' :=
      (List.mem_append.mp hmem).elim (Host.bare_chars hh _) (bare_portChars port _)
    revert hbare
    decide
  have hcut : (splitUser? (user.chars ++ h.chars ++ portChars port)).getD
      ([], user.chars ++ h.chars ++ portChars port)
        = (user.written, h.chars ++ portChars port) := by
    rw [User.chars_eq, List.append_assoc]
    split
    · next hnone =>
        rw [List.nil_append, splitUser?_of_not_mem hat, hnone]
        rfl
    · rw [List.append_assoc, List.singleton_append, splitUser?_append hat]
      rfl
  have hnotAlone : user.chars ++ h.chars ++ portChars port ≠ ['@'] := by
    intro heq
    rw [List.append_assoc, List.append_eq_singleton_iff] at heq
    rcases heq with ⟨-, heq⟩ | ⟨-, heq⟩
    · exact hat (heq ▸ List.mem_singleton.mpr rfl)
    · exact Host.chars_ne_nil hh (List.append_eq_nil_iff.mp heq).1
  rw [Authority.parse, hcut]
  simp only [hnotAlone, false_and, if_false, splitPort_host hh]

/-! ### URLs -/

/-- A URL that can have been read. -/
structure IsUrl (u : Url) : Prop where
  user : u.user.IsUser
  host : u.host.IsHost
  port : ∀ n ∈ u.port, n ≤ 65535 ∧ n ≠ u.scheme.defaultPort
  path : Path.IsPath u.path

theorem bind_eq_ok {ε α β : Type} {x : Except ε α} {f : α → Except ε β} {b : β} :
    (x >>= f) = .ok b ↔ ∃ a, x = .ok a ∧ f a = .ok b := by
  cases x <;> simp [bind, Except.bind]

/-- When there is a URL after the slashes, and which. -/
theorem parseWeb_eq_ok {scheme : Scheme} {s : List Char} {p : Parsed} :
    parseWeb scheme s = .ok p ↔
      let rest := s.dropWhile (!endsAuthority true ·)
      let isSuffix (c : Char) := c == '?' || c == '#'
      ∃ a host port,
        Authority.parse (s.takeWhile (!endsAuthority true ·)) rest = .ok a ∧ a.host ≠ [] ∧
        Host.parse a.host = .ok host ∧ port? a.port = .ok port ∧
        .web {
          scheme
          user := .parse a.user
          host
          port := if port = some scheme.defaultPort then none else port
          path := Path.parse (rest.takeWhile (!isSuffix ·)) } (rest.any isSuffix) = p := by
  unfold parseWeb
  constructor
  · intro h
    obtain ⟨a, ha, h⟩ := bind_eq_ok.mp h
    dsimp only at h
    split at h
    · contradiction
    · next hne =>
        obtain ⟨host, hhost, h⟩ := bind_eq_ok.mp h
        obtain ⟨port, hport, h⟩ := bind_eq_ok.mp h
        exact ⟨a, host, port, ha, by simpa using hne, hhost, hport, Except.ok.inj h⟩
  · rintro ⟨a, host, port, ha, hne, hhost, hport, rfl⟩
    refine bind_eq_ok.mpr ⟨a, ha, ?_⟩
    dsimp only
    rw [if_neg (by simpa using hne)]
    exact bind_eq_ok.mpr ⟨host, hhost, bind_eq_ok.mpr ⟨port, hport, rfl⟩⟩

theorem isUrl_parseWeb {scheme : Scheme} {s : List Char} {u : Url} {suffix : Bool}
    (h : parseWeb scheme s = .ok (.web u suffix)) : u.IsUrl := by
  obtain ⟨a, host, port, -, -, hhost, hport, heq⟩ := parseWeb_eq_ok.mp h
  obtain ⟨rfl, -⟩ := Parsed.web.inj heq
  refine ⟨User.isUser_parse _, Host.isHost_parse hhost, ?_, Path.isPath_parse _⟩
  dsimp only
  split
  · simp
  · next hdefault =>
      intro n hn
      refine ⟨le_of_port? hport n hn, ?_⟩
      rintro rfl
      exact hdefault hn

/-- What is read is a URL. -/
theorem isUrl_parse {s : List Char} {u : Url} {suffix : Bool}
    (h : parse s = .ok (.web u suffix)) : u.IsUrl := by
  unfold parse at h
  dsimp only at h
  split at h
  · contradiction
  · split_ifs at h
    · exact isUrl_parseWeb h
    · exact isUrl_parseWeb h
    · obtain ⟨-, -, h⟩ := bind_eq_ok.mp h
      cases h
    · obtain ⟨-, -, h⟩ := bind_eq_ok.mp h
      cases h
    · split at h
      · obtain ⟨-, -, h⟩ := bind_eq_ok.mp h
        cases h
      · cases h

/-! ### URLs in writing -/

/-- User, host, port and path in writing. -/
def afterScheme (u : Url) : List Char :=
  u.user.chars ++ u.host.chars ++ portChars u.port ++ Path.chars u.path

theorem chars_eq (u : Url) : u.chars = u.scheme.name ++ ':' :: '/' :: '/' :: u.afterScheme := by
  simp [chars, afterScheme, List.append_assoc]

variable {u : Url}

theorem Host.Bare.counts {c : Char} (h : Host.Bare c) :
    0x20 < c.toNat ∧ endsAuthority true c = false := by
  obtain ⟨hlow, hslash, hback, hquery, hhash, -⟩ := h
  exact ⟨hlow, by simp [endsAuthority, hslash, hback, hquery, hhash]⟩

/-- Nothing in front of the path ends what stands in front of the path. -/
theorem IsUrl.authority (h : u.IsUrl) :
    ∀ c ∈ u.user.chars ++ u.host.chars ++ portChars u.port,
      0x20 < c.toNat ∧ endsAuthority true c = false := by
  intro c hc
  rcases List.mem_append.mp hc with hc | hc
  · rcases List.mem_append.mp hc with hc | hc
    · rw [User.chars_eq] at hc
      split at hc
      · contradiction
      · rcases List.mem_append.mp hc with hc | hc
        · exact (h.user.bare_written c hc).counts
        · rw [List.mem_singleton] at hc
          subst hc
          decide
    · exact (Host.bare_chars h.host c hc).counts
  · exact (bare_portChars u.port c hc).counts

/-- Every character in the text of a URL counts, and none starts a query or fragment. -/
theorem IsUrl.clear_chars (h : u.IsUrl) :
    ∀ c ∈ u.chars, 0x20 < c.toNat ∧ c ≠ '?' ∧ c ≠ '#' := by
  intro c hc
  rw [chars_eq, afterScheme, List.mem_append] at hc
  rcases hc with hc | hc
  · have all : ∀ d ∈ u.scheme.name, 0x20 < d.toNat ∧ d ≠ '?' ∧ d ≠ '#' := by
      cases u.scheme <;> exact Decimal.forall_of_all (by decide)
    exact all c hc
  · rw [List.mem_cons, List.mem_cons, List.mem_cons, List.mem_append] at hc
    rcases hc with rfl | rfl | rfl | hc | hc
    · decide
    · decide
    · decide
    · obtain ⟨hlow, hends⟩ := h.authority c hc
      simp only [endsAuthority, Bool.or_eq_false_iff, beq_eq_false_iff_ne] at hends
      exact ⟨hlow, hends.1.1.2, hends.1.2⟩
    · exact pathSet_eq_false (h.path.clear_chars c hc).1

/-- The path is found again behind what stands in front of it. -/
theorem cut_afterScheme (h : u.IsUrl) :
    u.afterScheme.takeWhile (!endsAuthority true ·)
        = u.user.chars ++ u.host.chars ++ portChars u.port ∧
      u.afterScheme.dropWhile (!endsAuthority true ·) = Path.chars u.path := by
  obtain ⟨s, ss, hpath⟩ := List.exists_cons_of_ne_nil h.path.ne_nil
  have hrest : Path.chars u.path = '/' :: (s ++ Path.chars ss) := by
    rw [hpath]
    rfl
  have hauthority : ∀ c ∈ u.user.chars ++ u.host.chars ++ portChars u.port,
      (!endsAuthority true c) = true := fun c hc => by simp [(h.authority c hc).2]
  rw [afterScheme, List.takeWhile_append_of_pos hauthority,
    List.dropWhile_append_of_pos hauthority, hrest]
  simp [endsAuthority]

/-- No query and no fragment follows the path. -/
theorem path_whole (h : u.IsUrl) :
    (Path.chars u.path).takeWhile (fun c => !(c == '?' || c == '#')) = Path.chars u.path ∧
      ((Path.chars u.path).any fun c => c == '?' || c == '#') = false := by
  have hplain : ∀ c ∈ Path.chars u.path, (c == '?' || c == '#') = false := by
    intro c hc
    obtain ⟨-, hquery, hhash⟩ := pathSet_eq_false (h.path.clear_chars c hc).1
    simp [hquery, hhash]
  exact ⟨List.takeWhile_eq_self_iff.mpr fun c hc => by simp [hplain c hc],
    List.any_eq_false.mpr fun c hc => by simp [hplain c hc]⟩

/-- All but the host is read back. -/
theorem parseWeb_afterScheme (h : u.IsUrl) :
    parseWeb u.scheme u.afterScheme =
      (Host.parse u.host.chars).map fun host => .web { u with host } false := by
  obtain ⟨htake, hdrop⟩ := cut_afterScheme h
  obtain ⟨hwhole, hsuffix⟩ := path_whole h
  have hport : (if u.port = some u.scheme.defaultPort then none else u.port) = u.port :=
    if_neg fun heq => (h.port _ heq).2 rfl
  have hnumber : port? (portChars u.port) = .ok u.port :=
    port?_portChars fun n hn => (h.port n hn).1
  have hhost : u.host.chars.isEmpty = false :=
    List.isEmpty_eq_false_iff.mpr (Host.chars_ne_nil h.host)
  unfold parseWeb
  simp only [htake, hdrop, Authority.parse_chars h.host, hhost, bind, Except.bind]
  cases Host.parse u.host.chars with
  | error e => rfl
  | ok host =>
      simp only [hnumber, User.parse_written h.user, hport, hwhole, hsuffix,
        Path.parse_chars h.path]
      rfl

theorem trim_eq_self {s : List Char} (h : ∀ c ∈ s, 0x20 < c.toNat) : trim s = s := by
  have hcounts : ∀ c ∈ s, ¬ decide (c.toNat ≤ 0x20) = true := fun c hc => by
    simpa using h c hc
  have hfront : s.dropWhile (·.toNat ≤ 0x20) = s :=
    List.dropWhile_eq_self_iff.mpr fun _ => hcounts _ (List.getElem_mem _)
  have hback : s.reverse.dropWhile (·.toNat ≤ 0x20) = s.reverse :=
    List.dropWhile_eq_self_iff.mpr fun _ => hcounts _ (List.mem_reverse.mp (List.getElem_mem _))
  simp only [trim, hfront, hback, List.reverse_reverse]

theorem afterSlashes_afterScheme (h : u.IsUrl) :
    afterSlashes ('/' :: '/' :: u.afterScheme) = u.afterScheme := by
  obtain ⟨c, cs, hcs⟩ : ∃ c cs, u.user.chars ++ u.host.chars ++ portChars u.port = c :: cs := by
    refine List.exists_cons_of_ne_nil fun hnil => Host.chars_ne_nil h.host ?_
    exact (List.append_eq_nil_iff.mp (List.append_eq_nil_iff.mp hnil).1).2
  have hends := (h.authority c (hcs ▸ List.mem_cons_self ..)).2
  simp only [endsAuthority, Bool.or_eq_false_iff, Bool.true_and] at hends
  have hslash : ¬ (c == '/' || c == '\\') = true := by simp [hends.1.1.1, hends.2]
  rw [afterSlashes, afterScheme, hcs]
  simpa using hslash

theorem not_dropped {c : Char} (h : 0x20 < c.toNat) : Path.isDropped c = false := by
  have hne : ∀ d : Char, d.toNat ≤ 0x20 → (c == d) = false := by
    intro d hd
    refine beq_false_of_ne ?_
    rintro rfl
    omega
  rw [Path.isDropped, hne '\t' (by decide), hne '\n' (by decide), hne '\r' (by decide)]
  rfl

/-- Without blanks and controls every character of a text counts. -/
theorem counting_eq_self {s : List Char} (h : ∀ c ∈ s, 0x20 < c.toNat) :
    (trim s).filter (!Path.isDropped ·) = s := by
  rw [trim_eq_self h]
  exact List.filter_eq_self.mpr fun c hc => by simp [not_dropped (h c hc)]

theorem scheme?_chars (u : Url) :
    scheme? u.chars = some (u.scheme.name, '/' :: '/' :: u.afterScheme) := by
  rw [chars_eq]
  cases u.scheme <;> rfl

/-- A URL is read back from its text, unless its host is not read again. -/
theorem parse_chars (h : u.IsUrl) :
    parse u.chars = if u.host.IsReadable then .ok (.web u false) else .error .invalidDomain := by
  have hcounts := counting_eq_self fun c hc => (h.clear_chars c hc).1
  have hread : parseWeb u.scheme u.afterScheme =
      if u.host.IsReadable then .ok (.web u false) else .error .invalidDomain := by
    rw [parseWeb_afterScheme h, Host.parse_chars h.host]
    split <;> rfl
  unfold parse
  simp only [hcounts, scheme?_chars, afterSlashes_afterScheme h]
  cases hscheme : u.scheme with
  | http =>
      rw [hscheme] at hread
      exact (if_pos rfl).trans hread
  | https =>
      rw [hscheme] at hread
      exact (if_neg (by decide)).trans ((if_pos rfl).trans hread)

end ReviewDesk.Url
