/-
Where requests go.

Appending takes the base apart, puts the path together and leaves all else alone, so what
is known of paths is known of endpoints.  Because a URL is read back from its text, an
endpoint can serve as the base of another one, and it does not matter how a base was
spelled.  Where the host is a name that is not read again, no endpoint can: its text is
refused, and so is that of the base.

What appending should never do is touch the path that the base already has.  It does so in
one case: when the first piece of what is appended turns out to mean "one up" once tabs
and line ends are dropped from it.
-/
import ReviewDesk.Service.Endpoint
import ReviewDesk.Proofs.Url.Append
import ReviewDesk.Proofs.Url.Overlong

namespace ReviewDesk

/-! ### Appending to a URL -/

namespace Url

theorem isUrl_join {u : Url} (h : u.IsUrl) (path : List Char) :
    IsUrl { u with path := Path.join u.path path } :=
  ⟨h.user, h.host, h.port, Path.isPath_join h.path path⟩

theorem chars_slashed (u : Url) : chars { u with path := u.path ++ [[]] } = u.chars ++ ['/'] := by
  simp only [chars, Path.chars_snoc, List.append_assoc]

/-- A URL that this was appended to the path of.  Its text has neither a query nor a
fragment, and is read as that URL if the host is read again. -/
structure Extends (base : Url) (added : List Char) (u : Url) : Prop where
  scheme : u.scheme = base.scheme
  user : u.user = base.user
  host : u.host = base.host
  port : u.port = base.port
  plain : '?' ∉ u.chars ∧ '#' ∉ u.chars
  readBack : parse u.chars =
    if base.host.IsReadable then .ok (.web u false) else .error .invalidDomain
  /-- Behind the path of the base, less a slash, stand the pieces, each encoded. -/
  text : Path.chars u.path =
    let text := Path.keptChars (Path.chars base.path)
      ++ (Path.pieces added).flatMap fun p => '/' :: percentEncode segmentSet p
    if text = [] then ['/'] else text
  segments : Path.pieces added ≠ [] →
    u.path = Path.stem base.path ++ (Path.pieces added).map (percentEncode segmentSet)
  /-- Decoding gives each piece back. -/
  decoded : ∀ p ∈ Path.pieces added,
    Text.ofBytes? (percentDecode (percentEncode segmentSet p)) = some (String.ofList p)

theorem extends_join {base : Url} (h : base.IsUrl) {added : List Char}
    (hadded : ∀ c ∈ added, Path.isDropped c = false) :
    base.Extends added { base with path := Path.join base.path added } := by
  have hjoined := isUrl_join h added
  refine ⟨rfl, rfl, rfl, rfl, ?_, parse_chars hjoined, Path.chars_join h.path hadded,
    Path.join_of_pieces hadded, ?_⟩
  · exact ⟨fun hmem => (hjoined.clear_chars _ hmem).2.1 rfl,
      fun hmem => (hjoined.clear_chars _ hmem).2.2 rfl⟩
  · intro p _
    rw [Path.percentDecode_segment, ← Text.bytes_ofList, Text.ofBytes?_bytes]

/-! ### A base to try things on -/

/-- A plain base with the given path. -/
def trial (path : List Segment) : Url :=
  ⟨.http, ⟨[], []⟩, .domain ['h'], none, path⟩

theorem isUrl_trial {path : List Segment} (h : Path.IsPath path) : (trial path).IsUrl where
  user := ⟨by simp [trial, Clear], by simp [trial, Clear]⟩
  host := ⟨by decide, by decide, ['h'], by decide⟩
  port := by simp [trial]
  path := h

theorem parse_trial {path : List Segment} (h : Path.IsPath path) {text : String}
    (htext : text.toList = (trial path).chars) :
    parse text.toList = .ok (.web (trial path) false) := by
  have hreadable : (trial path).host.IsReadable := by
    show Domain.IsReadable ['h']
    decide
  rw [htext, parse_chars (isUrl_trial h), if_pos hreadable]

theorem toText_trial {path : List Segment} {text : String}
    (htext : text.toList = (trial path).chars) : (trial path).toText = text := by
  rw [toText, ← htext, String.ofList_toList]

end Url

namespace Service

open Url

variable {s : Service} {b : Url}

/-! ### Bases -/

/-- A base is a plain web address, with neither a query nor a fragment. -/
theorem base_eq_ok : s.base = .ok b ↔ Url.parse s.apiUrl.toList = .ok (.web b false) := by
  unfold base
  split
  · next heq => simp [heq]
  · next heq => simp [heq]
  · next url hasSuffix heq =>
      rw [heq]
      cases hasSuffix <;> simp

/-- Whether a path of the service can be found depends on the base and not on the path. -/
theorem endpoint_of_error {e : Unusable} (h : s.base = .error e) (path : String) :
    s.endpoint path = .error (.config (e.message s.apiUrl)) := by
  simp only [endpoint, h]

theorem endpoint_of_ok (h : s.base = .ok b) (path : String) :
    s.endpoint path = .ok { b with path := Url.Path.join b.path path.toList } := by
  simp only [endpoint, h]

theorem exists_endpoint_iff (path : String) :
    (∃ url, s.endpoint path = .ok url) ↔ ∃ url, s.base = .ok url := by
  cases h : s.base with
  | error e => simp [endpoint_of_error h]
  | ok url => simp [endpoint_of_ok h]

theorem endpoint_error_of_not_base (h : ¬ ∃ url, s.base = .ok url) :
    ∃ reason, ∀ path, s.endpoint path = .error (.config reason) := by
  cases hbase : s.base with
  | error e => exact ⟨_, fun path => endpoint_of_error hbase path⟩
  | ok url => exact absurd ⟨url, hbase⟩ h

theorem endpoint_of_parse (h : Url.parse s.apiUrl.toList = .ok (.web b false)) (path : String) :
    s.endpoint path = .ok { b with path := Path.join b.path path.toList } :=
  endpoint_of_ok (base_eq_ok.mpr h) path

/-! ### Appending once -/

/-- Appending succeeds exactly on a plain web address, whatever the path; otherwise the
reason has nothing to do with the path.  What it gives is the base with the pieces of the
path behind its own. -/
theorem endpoint_exact (s : Service) :
    (∀ path : String,
      (∃ u, s.endpoint path = .ok u) ↔ ∃ b, Url.parse s.apiUrl.toList = .ok (.web b false)) ∧
    ((∀ b, Url.parse s.apiUrl.toList ≠ .ok (.web b false)) →
      ∃ reason, ∀ path, s.endpoint path = .error (.config reason)) ∧
    (∀ (path : String) (b u : Url), (∀ c ∈ path.toList, Path.isDropped c = false) →
      Url.parse s.apiUrl.toList = .ok (.web b false) → s.endpoint path = .ok u →
      b.Extends path.toList u) := by
  refine ⟨fun path => ?_, fun h => ?_, fun path b u hpath hb hu => ?_⟩
  · exact (exists_endpoint_iff path).trans (exists_congr fun b => base_eq_ok)
  · exact endpoint_error_of_not_base fun ⟨b, hb⟩ => h b (base_eq_ok.mp hb)
  · rw [endpoint_of_parse hb, Except.ok.injEq] at hu
    exact hu ▸ extends_join (isUrl_parse hb) hpath

/-- Nothing in a path is taken for a query, an encoded character or a way up; what is no
URL is refused for one reason. -/
theorem endpoint_exact_marks :
    (∃ u, Service.endpoint ⟨"http://h/api/"⟩ "a%2F//../b?c\\" = .ok u ∧
      Path.chars u.path = "/api/a%252F/b%3Fc%5C".toList) ∧
    ∃ reason, ∀ path, Service.endpoint ⟨"h/api"⟩ path = .error (.config reason) := by
  have hb : Url.parse "http://h/api/".toList = .ok (.web (trial ["api".toList, []]) false) :=
    parse_trial (by decide) (by decide)
  obtain ⟨hiff, -, hextends⟩ := endpoint_exact ⟨"http://h/api/"⟩
  obtain ⟨u, hu⟩ := (hiff "a%2F//../b?c\\").mpr ⟨_, hb⟩
  have htext := (hextends "a%2F//../b?c\\" _ u (Decimal.forall_of_all (by decide)) hb hu).text
  have hrelative : Url.parse "h/api".toList = .error .relativeWithoutBase := rfl
  refine ⟨⟨u, hu, htext.trans (by decide)⟩, (endpoint_exact ⟨"h/api"⟩).2.1 ?_⟩
  intro b hb
  rw [hrelative] at hb
  contradiction

/-! ### Appending again -/

/-- The text of a URL as a base. -/
theorem endpoint_toText {u : Url} (h : u.IsUrl) (hreadable : u.host.IsReadable) (path : String) :
    Service.endpoint ⟨u.toText⟩ path = .ok { u with path := Path.join u.path path.toList } := by
  refine endpoint_of_parse ?_ path
  rw [Url.toText, String.toList_ofList, Url.parse_chars h, if_pos hreadable]

/-- The text of a URL that is not read again, as a base. -/
theorem endpoint_toText_refused {u : Url} (h : u.IsUrl) (hreadable : ¬ u.host.IsReadable) :
    ∃ reason, ∀ path, Service.endpoint ⟨u.toText⟩ path = .error (.config reason) := by
  refine endpoint_error_of_not_base fun ⟨b, hb⟩ => ?_
  have hparse := base_eq_ok.mp hb
  rw [Url.toText, String.toList_ofList, Url.parse_chars h, if_neg hreadable] at hparse
  contradiction

/-- A text without a slash at its end is that of a URL whose path ends in a segment. -/
theorem getLast?_path_ne (h : b.toText.toList.getLast? ≠ some '/') :
    b.path.getLast? ≠ some [] := by
  intro hnil
  obtain ⟨done, hdone⟩ := List.getLast?_eq_some_iff.mp hnil
  refine h ?_
  rw [Url.toText, String.toList_ofList, Url.chars, hdone, Path.chars_snoc, ← List.append_assoc,
    List.getLast?_concat]

/-- With a slash behind its text a URL has one more segment, an empty one. -/
theorem toText_slashed (b : Url) : b.toText ++ "/" = Url.toText { b with path := b.path ++ [[]] } := by
  rw [Url.toText, Url.toText, chars_slashed, String.ofList_append]

theorem isUrl_slashed (h : b.IsUrl) : IsUrl { b with path := b.path ++ [[]] } :=
  ⟨h.user, h.host, h.port, Path.isPath_snoc h.path.segments Path.isSegment_nil⟩

/-- Appending goes on where it stopped, if it appended anything; neither the spelling of a
base nor a slash at the end of its text matters.  All of that is so if the host of the base
is read again.  If it is not, nothing can be appended to the text of the base or of an
endpoint. -/
theorem endpoint_composes (hb : Url.parse s.apiUrl.toList = .ok (.web b false)) :
    (b.host.IsReadable →
      (∀ p : String, (∀ c ∈ p.toList, Path.isDropped c = false) → Path.pieces p.toList ≠ [] →
        ∃ u, s.endpoint p = .ok u ∧
          ∀ q, Service.endpoint ⟨u.toText⟩ q = s.endpoint (p ++ "/" ++ q)) ∧
      (∀ p, Service.endpoint ⟨b.toText⟩ p = s.endpoint p) ∧
      (b.toText.toList.getLast? ≠ some '/' →
        ∀ p, Service.endpoint ⟨b.toText ++ "/"⟩ p = Service.endpoint ⟨b.toText⟩ p)) ∧
    (¬ b.host.IsReadable →
      (∃ reason, ∀ p, Service.endpoint ⟨b.toText⟩ p = .error (.config reason)) ∧
      ∀ p, ∃ u reason, s.endpoint p = .ok u ∧
        ∀ q, Service.endpoint ⟨u.toText⟩ q = .error (.config reason)) := by
  have hurl := Url.isUrl_parse hb
  refine ⟨fun hread => ⟨fun p hp hpieces => ⟨_, endpoint_of_parse hb p, fun q => ?_⟩,
    fun p => ?_, ?_⟩, fun hread => ⟨endpoint_toText_refused hurl hread, fun p => ?_⟩⟩
  · have hjoin : Path.join b.path (p ++ "/" ++ q).toList
        = Path.join (Path.join b.path p.toList) q.toList := by
      rw [← Path.join_append hp hpieces]
      simp
    rw [endpoint_toText (isUrl_join hurl p.toList) hread, endpoint_of_parse hb, hjoin]
  · rw [endpoint_toText hurl hread, endpoint_of_parse hb]
  · intro hends p
    rw [toText_slashed, endpoint_toText (isUrl_slashed hurl) hread, endpoint_toText hurl hread,
      Path.join_snoc_nil hurl.path.ne_nil (getLast?_path_ne hends)]
  · obtain ⟨reason, hrefused⟩ := endpoint_toText_refused (isUrl_join hurl p.toList) hread
    exact ⟨_, reason, endpoint_of_parse hb p, hrefused⟩

/-- A base whose host is nine hundred Han characters. -/
def farApartBase : String :=
  String.ofList ("http://".toList ++ farApart)

/-- Its URL. -/
def farApartUrl : Url :=
  ⟨.http, ⟨[], []⟩, .domain (Domain.marker ++ Domain.Punycode.encode farApart), none, [[]]⟩

theorem parse_farApart : Url.parse farApartBase.toList = .ok (.web farApartUrl false) := by
  have htext : farApartBase.toList = "http://".toList ++ farApart := String.toList_ofList
  have hne : farApart ≠ [] := List.ne_nil_of_length_pos (by rw [length_farApart]; decide)
  rw [htext]
  exact parse_of_isHan isHan_farApart hne (by rw [length_farApart]; decide)

theorem not_isReadable_farApart : ¬ farApartUrl.host.IsReadable :=
  Domain.not_isReadable_of_isHan isHan_farApart spaced_farApart
    (by rw [length_farApart]; decide) (by rw [length_farApart]; decide)

/-- What would mean something in a URL is appended the same in one go and in two; and there
is a base whose text is refused. -/
theorem endpoint_composes_marks :
    ((∃ u, Service.endpoint ⟨"http://h/api"⟩ "a?b/./" = .ok u ∧
      Service.endpoint ⟨u.toText⟩ "/%2e/c" = Service.endpoint ⟨"http://h/api"⟩ "a?b/.///%2e/c") ∧
    Service.endpoint ⟨"http://h/api/"⟩ "a?b" = Service.endpoint ⟨"http://h/api"⟩ "a?b") ∧
    ∃ reason, ∀ p, Service.endpoint ⟨farApartUrl.toText⟩ p = .error (.config reason) := by
  have htext : "http://h/api".toList = (trial ["api".toList]).chars := by decide
  have hb : Url.parse "http://h/api".toList = .ok (.web (trial ["api".toList]) false) :=
    parse_trial (by decide) htext
  have hreadable : (trial ["api".toList]).host.IsReadable := by decide
  obtain ⟨hgoesOn, -, hslash⟩ := (endpoint_composes (s := ⟨"http://h/api"⟩) hb).1 hreadable
  obtain ⟨u, hu, hagain⟩ := hgoesOn "a?b/./" (Decimal.forall_of_all (by decide)) (by decide)
  rw [toText_trial htext] at hslash
  have hrefused := endpoint_composes (s := ⟨farApartBase⟩) parse_farApart
  exact ⟨⟨⟨u, hu, hagain "/%2e/c"⟩, hslash (by decide) "a?b"⟩,
    (hrefused.2 not_isReadable_farApart).1⟩

/-- A base can be appended to and the text of its URL cannot: the encoding of its host is
too long to be decoded. -/
theorem endpoint_refuses_text :
    ∃ b u, Url.parse farApartBase.toList = .ok (.web b false) ∧
      Service.endpoint ⟨farApartBase⟩ "x" = .ok u ∧
      Service.endpoint ⟨b.toText⟩ "x" ≠ Service.endpoint ⟨farApartBase⟩ "x" := by
  obtain ⟨reason, hrefused⟩ :=
    endpoint_toText_refused (Url.isUrl_parse parse_farApart) not_isReadable_farApart
  have haccepted := fun p => endpoint_of_parse (s := ⟨farApartBase⟩) parse_farApart p
  refine ⟨farApartUrl, _, parse_farApart, haccepted "x", ?_⟩
  rw [hrefused, haccepted]
  exact fun heq => nomatch heq

/-! ### What stays of the base -/

/-- The path of the base stays in front, unless the first piece turns out to mean "one up",
which takes a tab or an end of line in it.  Then the last segment of the base goes, and no
other. -/
theorem endpoint_keeps_base (hb : Url.parse s.apiUrl.toList = .ok (.web b false))
    (path : String) :
    ∃ u, s.endpoint path = .ok u ∧
      ((∀ p ∈ (Path.pieces path.toList).head?, ¬ Path.Climbs p) →
        Path.lessSlash (Path.chars b.path) <+: Path.chars u.path ∧
        Path.stem b.path <+: u.path) ∧
      (∀ p ps, Path.pieces path.toList = p :: ps → Path.Climbs p →
        (∃ c ∈ p, Path.isDropped c = true) ∧
        u.path = ps.foldl Path.append (Path.up (Path.stem b.path) ++ [[]])) ∧
      Path.up (Path.stem b.path) <+: u.path := by
  refine ⟨_, endpoint_of_parse hb path, ?_, ?_, Path.up_stem_prefix_join _ _⟩
  · intro h
    exact ⟨Path.lessSlash_prefix_join (Url.isUrl_parse hb).path h, Path.stem_prefix_join h⟩
  · intro p ps hpieces hclimbs
    have hp : p ∈ Path.pieces path.toList := hpieces ▸ List.mem_cons_self ..
    exact ⟨hclimbs.exists_dropped hp, Path.join_climbing hpieces hclimbs⟩

/-- Behind another piece, two dots with a tab between them take nothing of the base. -/
theorem endpoint_keeps_base_tabs :
    ∃ u, Service.endpoint ⟨"http://h/api"⟩ "a/.\t./.\n./x" = .ok u ∧
      ["api".toList] <+: u.path := by
  have hb : Url.parse "http://h/api".toList = .ok (.web (trial ["api".toList]) false) :=
    parse_trial (by decide) (by decide)
  obtain ⟨u, hu, hkept, -⟩ :=
    endpoint_keeps_base (s := ⟨"http://h/api"⟩) hb "a/.\t./.\n./x"
  exact ⟨u, hu, (hkept (by decide)).2⟩

/-- Two dots with a tab between them are a piece that names something, and then mean "one
up". -/
theorem endpoint_leaves_base :
    ∃ b u, Url.parse "http://h/api".toList = .ok (.web b false) ∧
      Service.endpoint ⟨"http://h/api"⟩ ".\t./x" = .ok u ∧
      Path.chars b.path = "/api".toList ∧ Path.chars u.path = "/x".toList ∧
      ¬ Path.lessSlash (Path.chars b.path) <+: Path.chars u.path := by
  have hb : Url.parse "http://h/api".toList = .ok (.web (trial ["api".toList]) false) :=
    parse_trial (by decide) (by decide)
  exact ⟨_, _, hb, endpoint_of_parse hb ".\t./x", by decide, by decide, by decide⟩

end Service

end ReviewDesk
