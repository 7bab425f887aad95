/-
Domain names that are read again.

In ASCII a name has no character that mapping would change, so what matters is how its
labels are read.  A label that was ASCII is read as it was before.  One that was encoded is
decoded, and decoding undoes encoding: what comes out was found proper already.

The exception is a matter of length.  A label of at most a thousand characters is encoded,
and its encoding may have three thousand digits and more.  Those are too many to be decoded,
so the name is refused by what produced it.
-/
import ReviewDesk.Proofs.Url.Domain.Mapping
import ReviewDesk.Proofs.Url.Domain.Punycode
import ReviewDesk.Url.Domain.Basic

namespace ReviewDesk.Url.Domain

open Text

variable {l : List Char} {L : Label}

/-! ### Characters of a name in ASCII -/

/-- In ASCII, and left as it is. -/
def IsPlain (c : Char) : Prop :=
  c.toNat < 0x80 ∧ stays 0 c.toNat = true

instance (c : Char) : Decidable (IsPlain c) :=
  inferInstanceAs (Decidable (_ ∧ _))

theorem IsPlain.mapChar? {c : Char} (h : IsPlain c) : mapChar? c = some [c] := by
  refine mapChar?_of_stays ?_
  have hstays := h.2
  rw [stays, if_pos h.1] at hstays ⊢
  exact hstays

theorem isAscii_of_isPlain (h : ∀ c ∈ l, IsPlain c) : isAscii l = true :=
  List.all_eq_true.mpr fun c hc => decide_eq_true (h c hc).1

/-- Neither mapping nor composing changes such a name. -/
theorem ofChars?_of_isPlain {name : List Char} (h : ∀ c ∈ name, IsPlain c) :
    ofChars? name = ofLabels? name := by
  have hmapped : name.mapM mapChar? = some (name.map fun c => [c]) :=
    mapM_eq_map fun c hc => (h c hc).mapChar?
  have hcomposed : compose (name.map fun c => [c]).flatten = name := by
    rw [← List.flatMap_def, List.flatMap_singleton']
    exact if_pos (isAscii_of_isPlain h)
  rw [ofChars?, hmapped, Option.bind_eq_bind, Option.bind_some, hcomposed]

/-! ### Labels -/

/-- Not an encoding, or one that is short enough to be decoded. -/
def IsDecodable (label : List Char) : Prop :=
  marker.isPrefixOf label = true → (label.drop marker.length).length ≤ maxDecoded

instance (label : List Char) : Decidable (IsDecodable label) :=
  inferInstanceAs (Decidable (_ → _))

theorem encoded?_eq_some (h : encoded? l = some L) :
    L.ascii = l ∧ isAscii l = true ∧ (l.drop marker.length).length ≤ maxDecoded := by
  unfold encoded? at h
  obtain ⟨hsize, h⟩ := Option.ite_none_left_eq_some.mp h
  obtain ⟨decoded, -, h⟩ := Option.bind_eq_some_iff.mp h
  obtain ⟨hproper, h⟩ := Option.ite_none_right_eq_some.mp h
  obtain rfl := Option.some.inj h
  simp only [Bool.and_eq_true] at hproper
  exact ⟨rfl, hproper.1.1, Nat.le_of_not_lt hsize⟩

/-- What was in ASCII is sent as it is; what was not is encoded. -/
theorem label?_cases (h : label? l = some L) :
    (L.ascii = l ∧ isAscii l = true ∧ IsDecodable l) ∨
    (L = ⟨marker ++ Punycode.encode l, l⟩ ∧ isAscii l = false ∧ isProper l = true ∧
      l.length ≤ 1000) := by
  unfold label? at h
  split at h
  · obtain ⟨hsame, hascii, hsize⟩ := encoded?_eq_some h
    exact .inl ⟨hsame, hascii, fun _ => hsize⟩
  · next hmarker =>
      split at h
      · next hascii =>
          obtain rfl := Option.some.inj h
          exact .inl ⟨rfl, hascii, fun hprefix => absurd hprefix hmarker⟩
      · next hascii =>
          obtain ⟨hkept, h⟩ := Option.ite_none_right_eq_some.mp h
          simp only [Bool.and_eq_true, decide_eq_true_eq] at hkept
          exact .inr ⟨(Option.some.inj h).symm, by simpa using hascii, hkept.2, hkept.1⟩

/-- What holds of the ASCII characters of a label and of what is added to them, holds of all
characters of its encoding. -/
theorem forall_mem_encoded {p : Char → Prop} (hsize : l.length ≤ 1000)
    (hown : ∀ c ∈ l, c.toNat < 0x80 → p c) (hadded : ∀ c ∈ '-' :: marker, p c)
    (hdigit : ∀ d ∈ List.range 36, p (Punycode.digit d)) :
    ∀ c ∈ marker ++ Punycode.encode l, p c := by
  intro c hc
  rcases List.mem_append.mp hc with hc | hc
  · exact hadded c (List.mem_cons_of_mem _ hc)
  · rcases Punycode.mem_encode hsize hc with ⟨hc, hascii⟩ | rfl | hd
    · exact hown c hc hascii
    · exact hadded _ (List.mem_cons_self ..)
    · exact Punycode.IsDigit.of_all hdigit hd

/-- A label in ASCII has plain characters, and no dot if it had none. -/
theorem isPlain_ascii (h : label? l = some L) (hlower : ∀ c ∈ l, IsLower c) (hdot : '.' ∉ l) :
    ∀ c ∈ L.ascii, IsPlain c ∧ c ≠ '.' := by
  have hown : ∀ c ∈ l, c.toNat < 0x80 → IsPlain c ∧ c ≠ '.' := fun c hc hascii =>
    ⟨⟨hascii, hlower c hc hascii⟩, fun heq => hdot (heq ▸ hc)⟩
  rcases label?_cases h with ⟨hsame, hascii, -⟩ | ⟨rfl, -, -, hsize⟩
  · rw [hsame]
    exact fun c hc => hown c hc (of_decide_eq_true (List.all_eq_true.mp hascii c hc))
  · exact forall_mem_encoded hsize hown (Decimal.forall_of_all (by decide)) (by decide)

/-- A label in ASCII is read again as what it stands for, unless it is too long. -/
theorem label?_ascii (h : label? l = some L) :
    label? L.ascii = if IsDecodable L.ascii then some L else none := by
  rcases label?_cases h with ⟨hsame, -, hdecodable⟩ | ⟨rfl, hascii, hproper, hsize⟩
  · rw [hsame, if_pos hdecodable, h]
  · have hmarker : marker.isPrefixOf (marker ++ Punycode.encode l) = true :=
      List.isPrefixOf_iff_prefix.mpr (List.prefix_append ..)
    have hencoded : isAscii (marker ++ Punycode.encode l) = true :=
      List.all_eq_true.mpr (forall_mem_encoded hsize (fun _ _ => decide_eq_true)
        (Decimal.forall_of_all (by decide)) (by decide))
    have hdrop : (marker ++ Punycode.encode l).drop marker.length = Punycode.encode l :=
      List.drop_left
    have hdecodable : IsDecodable (marker ++ Punycode.encode l) ↔
        ¬ maxDecoded < (Punycode.encode l).length := by
      rw [IsDecodable, hdrop, Nat.not_lt]
      exact ⟨fun h => h hmarker, fun h _ => h⟩
    rw [label?, if_pos hmarker, encoded?, hdrop]
    by_cases hlong : maxDecoded < (Punycode.encode l).length
    · rw [if_pos hlong, if_neg fun h => hdecodable.mp h hlong]
    · rw [if_neg hlong, if_pos (hdecodable.mpr hlong), Punycode.decode?_encode hsize]
      simp [hencoded, hascii, hproper]

/-! ### Names -/

/-- No label is too long to be decoded. -/
def IsReadable (name : List Char) : Prop :=
  ∀ label ∈ split '.' name, IsDecodable label

instance (name : List Char) : Decidable (IsReadable name) :=
  inferInstanceAs (Decidable (∀ _ ∈ _, _))

section

variable {cs name : List Char}

/-- What a name was read as. -/
theorem ofLabels?_eq_some :
    ofLabels? cs = some name ↔ ∃ labels, (split '.' cs).mapM label? = some labels ∧
      keepsDirections labels = true ∧ name.any isForbidden = false ∧
      List.intercalate ['.'] (labels.map Label.ascii) = name := by
  simp only [ofLabels?, Option.bind_eq_bind, Option.bind_eq_some_iff,
    Option.ite_none_right_eq_some, Option.some.injEq, Bool.and_eq_true, Bool.not_eq_true']
  refine exists_congr fun labels => and_congr_right fun _ => ?_
  constructor
  · rintro ⟨⟨hdirections, hforbidden⟩, rfl⟩
    exact ⟨hdirections, hforbidden, rfl⟩
  · rintro ⟨hdirections, hforbidden, rfl⟩
    exact ⟨⟨hdirections, hforbidden⟩, rfl⟩

/-- A name has none of the characters that a host must not have. -/
theorem not_forbidden_of_ofChars? (h : ofChars? cs = some name) :
    ∀ c ∈ name, isForbidden c = false := by
  obtain ⟨mapped, -, h⟩ := Option.bind_eq_some_iff.mp h
  obtain ⟨labels, -, -, hforbidden, -⟩ := ofLabels?_eq_some.mp h
  exact fun c hc => Bool.not_eq_true _ ▸ List.any_eq_false.mp hforbidden c hc

variable {mapped : List (List Char)} {labels : List Label}

/-- The labels of a name in ASCII have plain characters and no dots. -/
theorem isPlain_of_labels (hmapped : cs.mapM mapChar? = some mapped)
    (hlabels : (split '.' (compose mapped.flatten)).mapM label? = some labels) :
    ∀ a ∈ labels.map Label.ascii, ∀ c ∈ a, IsPlain c ∧ c ≠ '.' := by
  refine List.forall_mem_map.mpr fun L hL => ?_
  obtain ⟨l, hl, hL⟩ := (mapM_eq_some hlabels).2 L hL
  exact isPlain_ascii hL (fun c hc => isLower_of_mapped hmapped c (mem_of_mem_split hl hc))
    (sep_not_mem hl)

/-- So a dot is where one label ends and the next begins. -/
theorem split_labels (hlabels : (split '.' cs).mapM label? = some labels)
    (hplain : ∀ a ∈ labels.map Label.ascii, ∀ c ∈ a, IsPlain c ∧ c ≠ '.') :
    split '.' (List.intercalate ['.'] (labels.map Label.ascii)) = labels.map Label.ascii := by
  have hne : labels.map Label.ascii ≠ [] := by
    rw [ne_eq, List.map_eq_nil_iff, ← List.length_eq_zero_iff, (mapM_eq_some hlabels).1,
      List.length_eq_zero_iff]
    exact split_ne_nil _ _
  exact split_intercalate hne fun a ha hdot => (hplain a ha _ hdot).2 rfl

/-- The labels are read again unless one of them is too long. -/
theorem mapM_label?_ascii (hlabels : (split '.' cs).mapM label? = some labels) :
    (labels.map Label.ascii).mapM label?
      = if ∀ a ∈ labels.map Label.ascii, IsDecodable a then some labels else none := by
  have hagain : ∀ L ∈ labels, label? L.ascii = if IsDecodable L.ascii then some L else none := by
    intro L hL
    obtain ⟨l, -, hL⟩ := (mapM_eq_some hlabels).2 L hL
    exact label?_ascii hL
  by_cases hall : ∀ a ∈ labels.map Label.ascii, IsDecodable a
  · rw [if_pos hall, List.mapM_map]
    refine (mapM_eq_map fun L hL => (hagain L hL).trans (if_pos ?_)).trans
      (congrArg some labels.map_id)
    exact hall _ (List.mem_map_of_mem hL)
  · obtain ⟨a, ha, hlong⟩ : ∃ a ∈ labels.map Label.ascii, ¬ IsDecodable a := by
      simpa only [Classical.not_forall, exists_prop] using hall
    obtain ⟨L, hL, rfl⟩ := List.mem_map.mp ha
    rw [if_neg hall, mapM_eq_none ha ((hagain L hL).trans (if_neg hlong))]

/-- In ASCII a name is read again as itself, unless a label is too long. -/
theorem ofChars?_again (h : ofChars? cs = some name) :
    ofChars? name = if IsReadable name then some name else none := by
  obtain ⟨mapped, hmapped, h⟩ := Option.bind_eq_some_iff.mp h
  obtain ⟨labels, hlabels, hdirections, hforbidden, rfl⟩ := ofLabels?_eq_some.mp h
  have hplain := isPlain_of_labels hmapped hlabels
  have hname : ∀ c ∈ List.intercalate ['.'] (labels.map Label.ascii), IsPlain c := by
    intro c hc
    rcases mem_intercalate hc with rfl | ⟨a, ha, hc⟩
    · decide
    · exact (hplain a ha c hc).1
  have hsplit := split_labels hlabels hplain
  have hagain := mapM_label?_ascii hlabels
  rw [ofChars?_of_isPlain hname]
  by_cases hreadable : IsReadable (List.intercalate ['.'] (labels.map Label.ascii))
  · rw [if_pos hreadable]
    rw [IsReadable, hsplit] at hreadable
    rw [if_pos hreadable, ← hsplit] at hagain
    exact ofLabels?_eq_some.mpr ⟨labels, hagain, hdirections, hforbidden, rfl⟩
  · rw [if_neg hreadable]
    rw [IsReadable, hsplit] at hreadable
    rw [if_neg hreadable] at hagain
    rw [ofLabels?, hsplit, hagain]
    rfl

end

end ReviewDesk.Url.Domain
