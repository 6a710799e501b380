import BandCatalog.Url.Endpoint
import Mathlib.Data.List.TakeWhile

/-!
# Endpoints beneath a base

A base URL of http or https has a path of segments, whatever text it was read from. The URL of an endpoint
is the base with the endpoint's own names at the end of its path, and without query and fragment; and it is
one of those that carry no token exactly where the endpoint is open.
-/
namespace BandCatalog

namespace Url

theorem isSpecial_of_http {scheme : String} (h : scheme = "http" ∨ scheme = "https") :
    isSpecial scheme = true := by
  rcases h with rfl | rfl <;> decide

theorem ne_file_of_http {scheme : String} (h : scheme = "http" ∨ scheme = "https") : scheme ≠ "file" := by
  rcases h with rfl | rfl <;> decide

theorem exists_pathAfterAuthority (scheme : String) (cs : List Char) :
    ∃ ss, pathAfterAuthority scheme cs = .segments ss := by
  unfold pathAfterAuthority
  split
  · exact ⟨_, rfl⟩
  · split <;> exact ⟨_, rfl⟩

theorem readAuthority_ok {scheme : String} {r : Reference} {u : Url}
    (h : readAuthority scheme r = .ok u) :
    ∃ a cs, u = r.finish scheme (some a) (pathAfterAuthority scheme cs) := by
  simp only [readAuthority, bind, Except.bind, pure, Except.pure, throw, throwThe,
    MonadExceptOf.throw] at h
  -- every branch that is not given up ends in the same way
  repeat' split at h
  all_goals cases h
  all_goals exact ⟨_, _, rfl⟩

theorem readFile_ok {r : Reference} {u : Url} (h : readFile none r = .ok u) :
    ∃ a ss, u = r.finish "file" a (.segments ss) := by
  simp only [readFile, bind, Except.bind, pure, Except.pure] at h
  repeat' split at h
  all_goals cases h
  all_goals exact ⟨_, _, rfl⟩

/-- A special URL read alone is a file or has an authority with a path after it. -/
theorem parse_special {s : String} {u : Url} (h : parse s = .ok u) (hspecial : isSpecial u.scheme = true) :
    (∃ r a ss, u = Reference.finish r "file" a (.segments ss)) ∨
      ∃ r scheme a cs, u = Reference.finish r scheme (some a) (pathAfterAuthority scheme cs) := by
  simp only [parse, read] at h
  split at h
  case h_2 => cases h
  rename_i scheme rest _
  simp only [readScheme] at h
  split at h
  · obtain ⟨a, ss, rfl⟩ := readFile_ok h
    exact .inl ⟨_, a, ss, rfl⟩
  · split at h
    · simp only [Option.filter_none] at h
      obtain ⟨a, cs, rfl⟩ := readAuthority_ok h
      exact .inr ⟨_, scheme, a, cs, rfl⟩
    · next hother =>
      -- the scheme that was read is that of the URL
      split at h
      · obtain ⟨a, cs, rfl⟩ := readAuthority_ok h
        exact absurd hspecial hother
      · cases h
        exact absurd hspecial hother
      · cases h
        exact absurd hspecial hother

/-- A special URL read alone has a path of segments. -/
theorem exists_segments {s : String} {u : Url} (h : parse s = .ok u)
    (hspecial : isSpecial u.scheme = true) : ∃ ss, u.path = .segments ss := by
  obtain ⟨r, a, ss, rfl⟩ | ⟨r, scheme, a, cs, rfl⟩ := parse_special h hspecial
  · exact ⟨ss, rfl⟩
  · exact exists_pathAfterAuthority scheme cs

/-- A URL whose requests can be sent, with a path that ends in a slash. -/
structure IsBase (u : Url) : Prop where
  scheme : u.scheme = "http" ∨ u.scheme = "https"
  path : ∃ ss, u.path = .segments (ss ++ [""])

theorem isBase_of_base {raw : String} {u : Url} (h : base raw = .ok u)
    (hscheme : u.scheme = "http" ∨ u.scheme = "https") : u.IsBase := by
  refine ⟨hscheme, ?_⟩
  unfold base at h
  split at h
  case h_2 => cases h
  rename_i v hv
  cases h
  obtain ⟨ss, hss⟩ := exists_segments hv (isSpecial_of_http hscheme)
  by_cases hlast : ss.getLast? = some ""
  · obtain ⟨front, rfl⟩ := List.getLast?_eq_some_iff.mp hlast
    exact ⟨front, by simp [withSlash, hss, Path.withSlash]⟩
  · exact ⟨ss, by simp [withSlash, hss, Path.withSlash, hlast]⟩

/-- Letters, digits and hyphens. -/
def isPlain (c : Char) : Bool := c.isAlphanum || c == '-'

theorem ne_of_plain {c d : Char} (hc : isPlain c = true) (hd : isPlain d = false) : c ≠ d := by
  rintro rfl
  exact Bool.noConfusion (hc.symm.trans hd)

theorem toNat_of_plain {c : Char} (h : isPlain c = true) : 0x20 < c.toNat ∧ c.toNat ≤ 0x7A := by
  have hranges : (decide ('A'.val ≤ c.val ∧ c.val ≤ 'Z'.val) ||
      ('a'.val ≤ c.val && c.val ≤ 'z'.val) || ('0'.val ≤ c.val && c.val ≤ '9'.val) ||
      c == '-') = true := h
  simp only [Bool.or_eq_true, Bool.and_eq_true, decide_eq_true_eq, beq_iff_eq,
    UInt32.le_iff_toNat_le] at hranges
  rcases hranges with ((⟨h, k⟩ | ⟨h, k⟩) | ⟨h, k⟩) | rfl
  · exact ⟨Nat.lt_of_lt_of_le (by decide) h, Nat.le_trans k (by decide)⟩
  · exact ⟨Nat.lt_of_lt_of_le (by decide) h, k⟩
  · exact ⟨Nat.lt_of_lt_of_le (by decide) h, Nat.le_trans k (by decide)⟩
  · decide

theorem not_mem_of_plain {c : Char} (hc : isPlain c = true) {ds : List Char}
    (hds : ds.all (fun d => !isPlain d) = true) : c ∉ ds := by
  intro hin
  have hplain := List.all_eq_true.mp hds c hin
  simp [hc] at hplain

theorem inPath_of_plain {c : Char} (h : isPlain c = true) : inPath c = false := by
  obtain ⟨hlow, hhigh⟩ := toNat_of_plain h
  have hcontrol : isControl c = false := by
    simp only [isControl, Bool.or_eq_false_iff, decide_eq_false_iff_not]
    omega
  have hfragment : c ∉ [' ', '"', '<', '>', '`'] := not_mem_of_plain h rfl
  have hmarks : c ∉ ['#', '?', '\x7b', '\x7d'] := not_mem_of_plain h rfl
  rw [inPath, inFragment, hcontrol, decide_eq_false hfragment, decide_eq_false hmarks]
  rfl

theorem isSlash_of_plain {c : Char} (h : isPlain c = true) : isSlash true c = false := by
  have hslash : c ≠ '/' := ne_of_plain h rfl
  have hback : c ≠ '\\' := ne_of_plain h rfl
  simp [isSlash, hslash, hback]

/-- A name that is a segment as it stands. -/
def PlainName (n : List Char) : Prop := n ≠ [] ∧ ∀ c ∈ n, isPlain c = true

theorem plainName_of_all {n : List Char} (h : (!n.isEmpty && n.all isPlain) = true) : PlainName n := by
  obtain ⟨hne, hall⟩ := Bool.and_eq_true_iff.mp h
  exact ⟨by simpa using hne, List.all_eq_true.mp hall⟩

theorem plainNames_of_all {names : List (List Char)}
    (h : names.all (fun n => !n.isEmpty && n.all isPlain) = true) : ∀ n ∈ names, PlainName n :=
  fun n hn => plainName_of_all (List.all_eq_true.mp h n hn)

/-- A segment as it stands in a path: reading it adds just it. -/
structure IsSegment (n : List Char) : Prop where
  undotted : dotsOf n = .none
  kept : ∀ c ∈ n, inPath c = false
  slashless : ∀ c ∈ n, isSlash true c = false

theorem PlainName.isSegment {n : List Char} (h : PlainName n) : IsSegment n where
  undotted := by
    obtain ⟨hne, hplain⟩ := h
    cases n with
    | nil => exact absurd rfl hne
    | cons c r =>
      have hdot : c ≠ '.' := ne_of_plain (hplain c List.mem_cons_self) rfl
      have hpercent : c ≠ '%' := ne_of_plain (hplain c List.mem_cons_self) rfl
      have hcount : dotCount? (c :: r) = none := by
        unfold dotCount?
        split <;> simp_all
      rw [dotsOf, hcount]
  kept := fun c hc => inPath_of_plain (h.2 c hc)
  slashless := fun c hc => isSlash_of_plain (h.2 c hc)

theorem addSegment_of_segment {n : List Char} (hn : IsSegment n) (last : Bool) (ss : List String) :
    addSegment false last ss n = ss ++ [String.ofList n] := by
  simp [addSegment, hn.undotted, percentEncode_eq_self hn.kept]

theorem addSegments_of_segments {names : List (List Char)} (h : ∀ n ∈ names, IsSegment n)
    (ss : List String) : addSegments false ss names = ss ++ names.map String.ofList := by
  induction names generalizing ss with
  | nil => simp [addSegments]
  | cons n names ih =>
    have hn : IsSegment n := h n List.mem_cons_self
    cases names with
    | nil => simp [addSegments, addSegment_of_segment hn]
    | cons m names =>
      rw [addSegments, addSegment_of_segment hn, ih fun k hk => h k (List.mem_cons_of_mem _ hk)]
      · simp
      · simp

theorem splitSlashes_of_segments {names : List (List Char)} (h : ∀ n ∈ names, IsSegment n)
    (hne : names ≠ []) : splitSlashes true (['/'].intercalate names) = names := by
  induction names with
  | nil => exact absurd rfl hne
  | cons n names ih =>
    have hn : ∀ c ∈ n, isSlash true c = false := (h n List.mem_cons_self).slashless
    cases names with
    | nil => simp [splitSlashes, List.splitOnP_eq_singleton hn]
    | cons m names =>
      have hrest := ih (fun k hk => h k (List.mem_cons_of_mem _ hk)) (by simp)
      rw [List.intercalate_cons_cons, List.append_assoc]
      exact (List.splitOnP_append_cons_of_forall_mem hn '/' rfl _).trans (congrArg (n :: ·) hrest)

/-- Segments with slashes between them are added to a path. -/
theorem extend_of_segments {scheme : String} {ss : List String} {names : List (List Char)}
    (hscheme : scheme = "http" ∨ scheme = "https") (h : ∀ n ∈ names, IsSegment n) (hne : names ≠ []) :
    extend scheme ss (['/'].intercalate names) = ss ++ names.map String.ofList := by
  rw [extend, isSpecial_of_http hscheme, beq_false_of_ne (ne_file_of_http hscheme),
    splitSlashes_of_segments h hne]
  exact addSegments_of_segments h ss

theorem exists_cons_intercalate {names : List (List Char)} (h : ∀ n ∈ names, PlainName n)
    (hne : names ≠ []) :
    ∃ c rest, ['/'].intercalate names = c :: rest ∧ isPlain c = true := by
  obtain ⟨n, more, rfl⟩ := List.exists_cons_of_ne_nil hne
  obtain ⟨hn, hplain⟩ := h n List.mem_cons_self
  obtain ⟨c, r, rfl⟩ := List.exists_cons_of_ne_nil hn
  refine ⟨c, ?_⟩
  cases more with
  | nil => exact ⟨r, by simp, hplain c List.mem_cons_self⟩
  | cons m more => exact ⟨_, by rw [List.intercalate_cons_cons]; rfl, hplain c List.mem_cons_self⟩

/-- The characters of a path of plain names. -/
theorem mem_intercalate {names : List (List Char)} (h : ∀ n ∈ names, PlainName n) {c : Char}
    (hc : c ∈ ['/'].intercalate names) : c = '/' ∨ isPlain c = true := by
  induction names with
  | nil => simp at hc
  | cons n names ih =>
    have hn : PlainName n := h n List.mem_cons_self
    cases names with
    | nil =>
      rw [List.intercalate_singleton] at hc
      exact .inr (hn.2 c hc)
    | cons m names =>
      rw [List.intercalate_cons_cons, List.append_assoc] at hc
      rcases List.mem_append.mp hc with hc | hc
      · exact .inr (hn.2 c hc)
      · rcases List.mem_cons.mp hc with rfl | hc
        · exact .inl rfl
        · exact ih (fun k hk => h k (List.mem_cons_of_mem _ hk)) hc

section reference

variable {cs : List Char}

theorem scheme?_eq_none (h : ':' ∉ cs) : scheme? cs = none := by
  simp only [scheme?]
  split
  · next heq =>
    have hin : ':' ∈ cs.dropWhile isSchemeChar := by
      rw [heq]
      exact List.mem_cons_self
    exact absurd ((List.dropWhile_suffix _).subset hin) h
  · rfl

theorem cut_eq_self {mark : Char} (h : mark ∉ cs) : cut mark cs = (cs, none) := by
  have hne : ∀ c ∈ cs, (c != mark) = true := by
    intro c hc
    simpa using fun heq : c = mark => h (heq ▸ hc)
  rw [cut, List.takeWhile_eq_self_iff.mpr hne, List.dropWhile_eq_nil_iff.mpr hne]

theorem cleaned_eq_self {s : String} (h : ∀ c ∈ s.toList, 0x20 < c.toNat) : cleaned s = s.toList := by
  have hdrop : ∀ l : List Char, (∀ c ∈ l, 0x20 < c.toNat) →
      l.dropWhile (fun c => decide (c.toNat ≤ 0x20)) = l := by
    intro l hl
    rw [List.dropWhile_eq_self_iff]
    intro hlt
    have hfirst := hl l[0] (List.getElem_mem hlt)
    simpa using hfirst
  have hback : ∀ c ∈ s.toList.reverse, 0x20 < c.toNat := fun c hc => h c (List.mem_reverse.mp hc)
  simp only [cleaned, hdrop _ h, hdrop _ hback, List.reverse_reverse, List.filter_eq_self,
    decide_eq_true_eq]
  intro c hc
  have hlow := h c hc
  refine ⟨?_, ?_, ?_⟩ <;>
  · rintro rfl
    exact absurd hlow (by decide)

section plain

variable {names : List (List Char)} {text : String} (hnames : ∀ n ∈ names, PlainName n)
  (htext : text.toList = ['/'].intercalate names)
include hnames htext

theorem not_mem_path_of_plain {d : Char} (hslash : d ≠ '/') (hplain : isPlain d = false) :
    d ∉ text.toList := by
  rw [htext]
  intro hin
  rcases mem_intercalate hnames hin with rfl | h
  · exact hslash rfl
  · exact Bool.noConfusion (h.symm.trans hplain)

theorem cleaned_of_plain : cleaned text = text.toList := by
  refine cleaned_eq_self fun c hc => ?_
  rw [htext] at hc
  rcases mem_intercalate hnames hc with rfl | h
  · decide
  · exact (toNat_of_plain h).1

end plain

end reference

/-- A path of plain names is added to that of a base. -/
theorem join_of_plain {b : Url} {ss : List String} {names : List (List Char)} {text : String}
    (hscheme : b.scheme = "http" ∨ b.scheme = "https") (hpath : b.path = .segments (ss ++ [""]))
    (hnames : ∀ n ∈ names, PlainName n) (hne : names ≠ [])
    (htext : text.toList = ['/'].intercalate names) :
    b.join text = .ok { b with
      path := .segments (ss ++ names.map String.ofList), query := none, fragment := none } := by
  have hfile : b.scheme ≠ "file" := ne_file_of_http hscheme
  have habsent : ∀ d : Char, d ≠ '/' → isPlain d = false → d ∉ text.toList :=
    fun d => not_mem_path_of_plain hnames htext
  have hclean : cleaned text = text.toList := cleaned_of_plain hnames htext
  have hnoscheme : scheme? text.toList = none := scheme?_eq_none (habsent ':' (by decide) rfl)
  have hreference : Reference.of text.toList = ⟨text.toList, none, none⟩ := by
    simp only [Reference.of, cut_eq_self (habsent '#' (by decide) rfl),
      cut_eq_self (habsent '?' (by decide) rfl)]
  obtain ⟨c, rest, hfront, hplain⟩ : ∃ c rest, text.toList = c :: rest ∧ isPlain c = true := by
    rw [htext]
    exact exists_cons_intercalate hnames hne
  have hflat : b.isFlat = false := by simp [isFlat, hpath]
  have hfirst : isSlash true c = false := isSlash_of_plain hplain
  have hextend : extend b.scheme ss text.toList = ss ++ names.map String.ofList := by
    rw [htext, extend_of_segments hscheme (fun n hn => (hnames n hn).isSegment) hne]
  simp only [join, read, hclean, hnoscheme, hreference, hflat, hfile]
  simp only [resolve, hfront, hfirst, hpath, Bool.false_eq_true, if_false]
  rw [← hfront]
  simp [hextend, Reference.finish]

@[simp] theorem scheme_finish (r : Reference) (scheme : String) (a : Option Authority) (p : Path) :
    (r.finish scheme a p).scheme = scheme := rfl

theorem scheme_resolve {b u : Url} {r : Reference} (h : resolve b r = .ok u) : u.scheme = b.scheme := by
  simp only [resolve] at h
  repeat' split at h
  all_goals first
    | cases h; rfl
    | obtain ⟨a, cs, rfl⟩ := readAuthority_ok h; rfl

theorem scheme_readFile {b u : Url} {r : Reference} (hb : b.scheme = "file")
    (h : readFile (some b) r = .ok u) : u.scheme = "file" := by
  simp only [readFile, bind, Except.bind, pure, Except.pure] at h
  repeat' split at h
  all_goals first
    | cases h; done
    | cases h; rfl
    | exact (scheme_resolve h).trans hb

/-- A reference without a scheme has that of its base. -/
theorem scheme_join {b u : Url} {text : String} (htext : scheme? (cleaned text) = none)
    (h : b.join text = .ok u) : u.scheme = b.scheme := by
  simp only [join, read, htext] at h
  split at h
  · split at h
    · cases h
      rfl
    · cases h
  · split at h
    next hfile => rw [scheme_readFile hfile h, hfile]
    · exact scheme_resolve h

end Url

namespace Endpoint

/-- The endpoints that are used without a token. -/
def isOpen : Endpoint → Bool
  | login => true
  | register => true
  | refresh => true
  | _ => false

/-- The segments of an endpoint's path. -/
def names : Endpoint → List String
  | login => ["auth", "login"]
  | register => ["auth", "register"]
  | refresh => ["auth", "refresh"]
  | logout => ["auth", "logout"]
  | validate => ["auth", "validate"]
  | currentUser => ["users", "me"]
  | permissions => ["users", "permissions"]
  | bands => ["music-bands"]
  | band id => ["music-bands", toString id]

/-- A number is written with a hyphen at most, and its last character is a digit. -/
theorem exists_digit_toString (id : Int) :
    ∃ front d, (toString id).toList = front ++ [d] ∧ d.isDigit = true ∧
      ∀ c ∈ front, Url.isPlain c = true := by
  have hnat : ∀ n : Nat, ∃ front d, n.repr.toList = front ++ [d] ∧ d.isDigit = true ∧
      ∀ c ∈ front, Url.isPlain c = true := by
    intro n
    have hdigit : ∀ c ∈ n.repr.toList, c.isDigit = true := by
      rw [Nat.toList_repr]
      exact fun c hc => Nat.isDigit_of_mem_toDigits (by decide) (by decide) hc
    have hne : n.repr.toList ≠ [] := by
      rw [Nat.toList_repr]
      exact Nat.toDigits_ne_nil
    obtain ⟨front, d, h⟩ := (List.eq_nil_or_concat _).resolve_left hne
    rw [List.concat_eq_append] at h
    refine ⟨front, d, h, hdigit d (by simp [h]), fun c hc => ?_⟩
    have hc' := hdigit c (by simp [h, hc])
    simp [Url.isPlain, Char.isAlphanum, hc']
  rw [Int.toString_eq_repr, Int.repr_eq_if]
  split
  · exact hnat _
  · obtain ⟨front, d, h, hd, hfront⟩ := hnat (-id).toNat
    refine ⟨'-' :: front, d, by simp [h], hd, fun c hc => ?_⟩
    rcases List.mem_cons.mp hc with rfl | hc
    · rfl
    · exact hfront c hc

theorem plainName_of_mem_names {e : Endpoint} : ∀ n ∈ e.names.map String.toList, Url.PlainName n := by
  cases e with
  | band id =>
    obtain ⟨front, d, h, hd, hfront⟩ := exists_digit_toString id
    have hplain : Url.isPlain d = true := by simp [Url.isPlain, Char.isAlphanum, hd]
    intro n hn
    simp only [names, List.map_cons, List.map_nil, List.mem_cons, List.not_mem_nil, or_false] at hn
    rcases hn with rfl | rfl
    · exact Url.plainName_of_all rfl
    · rw [h]
      refine ⟨by simp, fun c hc => ?_⟩
      rcases List.mem_append.mp hc with hc | hc
      · exact hfront c hc
      · rwa [List.mem_singleton.mp hc]
  | _ => exact Url.plainNames_of_all rfl

theorem path_eq (e : Endpoint) : e.path.toList = ['/'].intercalate (e.names.map String.toList) := by
  cases e with
  | band id => simp [path, names]
  | _ => simp [path, names]

theorem names_ne_nil (e : Endpoint) : e.names ≠ [] := by cases e <;> simp [names]

theorem path_dropSlashes (e : Endpoint) :
    String.ofList (e.path.toList.dropWhile (· == '/')) = e.path := by
  have hne : e.names.map String.toList ≠ [] := by simpa using e.names_ne_nil
  obtain ⟨c, rest, hc, hplain⟩ := Url.exists_cons_intercalate e.plainName_of_mem_names hne
  have hfirst : (c == '/') = false := beq_false_of_ne (Url.ne_of_plain hplain rfl)
  rw [e.path_eq, hc, List.dropWhile_cons, hfirst, ← hc, ← e.path_eq]
  simp

end Endpoint

namespace Url

/-- Every endpoint has a URL. -/
theorem endpoint_eq {b : Url} (h : b.IsBase) :
    ∃ ss, b.path = .segments (ss ++ [""]) ∧ ∀ e, b.endpoint e = .ok { b with
      path := .segments (ss ++ e.names), query := none, fragment := none } := by
  obtain ⟨ss, hpath⟩ := h.path
  refine ⟨ss, hpath, fun e => ?_⟩
  have hne : e.names.map String.toList ≠ [] := by simpa using e.names_ne_nil
  have hkept : b.path.withSlash = b.path := by simp [hpath, Path.withSlash]
  have hslash : b.withSlash = b := by rw [withSlash, hkept]
  rw [endpoint, beneath, hslash, e.path_dropSlashes,
    join_of_plain h.scheme hpath e.plainName_of_mem_names hne e.path_eq]
  simp

/-- Whatever the base is, its endpoints have its scheme. -/
theorem scheme_endpoint {b u : Url} {e : Endpoint} (h : b.endpoint e = .ok u) : u.scheme = b.scheme := by
  have hnoscheme : scheme? (cleaned e.path) = none := by
    rw [cleaned_of_plain e.plainName_of_mem_names e.path_eq]
    exact scheme?_eq_none (not_mem_path_of_plain e.plainName_of_mem_names e.path_eq (by decide) rfl)
  rw [endpoint, beneath, e.path_dropSlashes] at h
  split at h
  next hjoin =>
    cases h
    rw [scheme_join hnoscheme hjoin, withSlash]
  · cases h

/-- Endpoints with different names have different paths. -/
theorem path_endpoint_ne {b u v : Url} (hb : b.IsBase) {d e : Endpoint} (hne : d.names ≠ e.names)
    (hu : b.endpoint d = .ok u) (hv : b.endpoint e = .ok v) : u.path ≠ v.path := by
  obtain ⟨ss, -, hendpoint⟩ := endpoint_eq hb
  cases (hendpoint d).symm.trans hu
  cases (hendpoint e).symm.trans hv
  exact fun heq => hne (List.append_cancel_left (Path.segments.inj heq))

/-- Open endpoints are those that carry no token, whatever the base, the band and the query. -/
theorem isUnauthenticated_endpoint {b u : Url} (hb : b.IsBase) {e : Endpoint}
    (h : b.endpoint e = .ok u) (q : Option String) :
    ({ u with query := q } : Url).isUnauthenticated = e.isOpen := by
  obtain ⟨ss, -, hendpoint⟩ := endpoint_eq hb
  cases (hendpoint e).symm.trans h
  cases e with
  | band id =>
    -- the last character is a digit, those of the other paths are letters
    obtain ⟨front, d, hid, hd, -⟩ := Endpoint.exists_digit_toString id
    have hne : ∀ c : Char, c.isDigit = false → c ≠ d := by
      rintro c hc rfl
      exact Bool.noConfusion (hc.symm.trans hd)
    have hslash : d ≠ '/' := (hne '/' rfl).symm
    simp [isUnauthenticated, unauthenticatedPaths, Path.toChars, Endpoint.names, Endpoint.isOpen, hid,
      hslash, hne, List.isPrefixOf, -Int.toString_eq_repr]
  | _ =>
    simp [isUnauthenticated, unauthenticatedPaths, Path.toChars, Endpoint.names, Endpoint.isOpen,
      List.isPrefixOf]

end Url

end BandCatalog
