import BandCatalog.Proofs.Url.Beneath
import BandCatalog.Proofs.Url.Percent

/-!
# Endpoints of any base

The segments of a path that was read are read again as they stand, so a slash at its end is all that a base
gets, and every endpoint of it lies beneath its whole path.
-/
namespace BandCatalog.Url

section encoding

variable {cs r : List Char} {d : Char}

theorem percentEncode_cons (s : Char → Bool) (c : Char) (r : List Char) :
    percentEncode s (c :: r) = (if s c then percentChar c else [c]) ++ percentEncode s r := rfl

theorem eq_nil_of_percentEncode {s : Char → Bool} (h : percentEncode s cs = []) : cs = [] := by
  cases cs with
  | nil => rfl
  | cons c q =>
    obtain ⟨p, hp⟩ := exists_percentChar c
    rw [percentEncode_cons, hp] at h
    split at h <;> cases h

/-- A character that starts an encoded text and is no percent sign started the text itself. -/
theorem exists_of_percentEncode_eq_cons {s : Char → Bool} (h : percentEncode s cs = d :: r)
    (hd : d ≠ '%') : ∃ q, cs = d :: q ∧ percentEncode s q = r := by
  cases cs with
  | nil => cases h
  | cons c q =>
    rw [percentEncode_cons] at h
    split at h
    · obtain ⟨p, hp⟩ := exists_percentChar c
      rw [hp] at h
      cases h
      exact absurd rfl hd
    · cases h
      exact ⟨q, rfl, rfl⟩

/-- An encoded dot was written so. -/
theorem exists_of_percentEncode_eq_dot {e : Char} (he : e = 'e' ∨ e = 'E')
    (h : percentEncode inPath cs = '%' :: '2' :: e :: r) : ∃ q, cs = '%' :: '2' :: e :: q := by
  cases cs with
  | nil => cases h
  | cons c q =>
    rw [percentEncode_cons] at h
    split at h
    next hc =>
      have hdot : c ≠ '.' := by
        rintro rfl
        exact absurd hc (by decide)
      exact absurd h (percentChar_ne_dot hdot he)
    next =>
      obtain ⟨rfl, hrest⟩ : c = '%' ∧ percentEncode inPath q = '2' :: e :: r := by simpa using h
      obtain ⟨q, rfl, hlast⟩ := exists_of_percentEncode_eq_cons hrest (by decide)
      obtain ⟨q, rfl, -⟩ := exists_of_percentEncode_eq_cons hlast (by rcases he with rfl | rfl <;> decide)
      exact ⟨q, rfl⟩

/-- Kept characters in front stay there. -/
theorem percentEncode_append_of_kept {s : Char → Bool} (cs r : List Char)
    (h : cs.all (fun c => !s c) = true) : percentEncode s (cs ++ r) = cs ++ percentEncode s r := by
  have hcs : percentEncode s cs = cs := percentEncode_eq_self fun c hc => by
    simpa using List.all_eq_true.mp h c hc
  rw [percentEncode, List.flatMap_append]
  exact congrArg (· ++ percentEncode s r) hcs

/-- Encoding makes no dots and loses none. -/
theorem dotCount?_percentEncode (cs : List Char) : dotCount? (percentEncode inPath cs) = dotCount? cs := by
  fun_induction dotCount? cs with
  | case1 => rfl
  | case2 r ih =>
    have hkept : percentEncode inPath ('.' :: r) = '.' :: percentEncode inPath r :=
      percentEncode_append_of_kept ['.'] r rfl
    rw [hkept, dotCount?, ih]
  | case3 r ih =>
    have hkept : percentEncode inPath ('%' :: '2' :: 'e' :: r) =
        '%' :: '2' :: 'e' :: percentEncode inPath r :=
      percentEncode_append_of_kept ['%', '2', 'e'] r rfl
    rw [hkept, dotCount?, ih]
  | case4 r ih =>
    have hkept : percentEncode inPath ('%' :: '2' :: 'E' :: r) =
        '%' :: '2' :: 'E' :: percentEncode inPath r :=
      percentEncode_append_of_kept ['%', '2', 'E'] r rfl
    rw [hkept, dotCount?, ih]
  | case5 cs hnil hdot hlower hupper =>
    unfold dotCount?
    split
    next heq => exact absurd (eq_nil_of_percentEncode heq) hnil
    next heq =>
      obtain ⟨q, rfl, -⟩ := exists_of_percentEncode_eq_cons heq (by decide)
      exact absurd rfl (hdot q)
    next heq =>
      obtain ⟨q, rfl⟩ := exists_of_percentEncode_eq_dot (.inl rfl) heq
      exact absurd rfl (hlower q)
    next heq =>
      obtain ⟨q, rfl⟩ := exists_of_percentEncode_eq_dot (.inr rfl) heq
      exact absurd rfl (hupper q)
    next => rfl

/-- A text between slashes that is not of dots becomes a segment that is read again as it stands. -/
theorem isSegment_percentEncode (hdots : dotsOf cs = .none) (hslash : ∀ c ∈ cs, isSlash true c = false) :
    IsSegment (percentEncode inPath cs) where
  undotted := by rwa [dotsOf, dotCount?_percentEncode]
  kept := by
    intro c hc
    obtain ⟨d, hd, hc⟩ := List.mem_flatMap.mp hc
    split at hc
    · simpa using forall_mem_percentChar (p := fun c => !inPath c) (by decide) hc
    next hkept =>
      rw [List.mem_singleton.mp hc]
      exact eq_false_of_ne_true hkept
  slashless := by
    intro c hc
    obtain ⟨d, hd, hc⟩ := List.mem_flatMap.mp hc
    split at hc
    · simpa using forall_mem_percentChar (p := fun c => !isSlash true c) (by decide) hc
    · rw [List.mem_singleton.mp hc]
      exact hslash d hd

end encoding

/-- The segments of a path that is read again as it stands. -/
structure IsPath (ss : List String) : Prop where
  nonempty : ss ≠ []
  segments : ∀ s ∈ ss, IsSegment s.toList

theorem isSegment_nil : IsSegment [] where
  undotted := rfl
  kept := nofun
  slashless := nofun

section adding

variable {ss : List String} {s : String} {last : Bool}

theorem segments_concat (hss : ∀ t ∈ ss, IsSegment t.toList) (hs : IsSegment s.toList) :
    ∀ t ∈ ss ++ [s], IsSegment t.toList := by
  intro t ht
  rcases List.mem_append.mp ht with ht | ht
  · exact hss t ht
  · rwa [List.mem_singleton.mp ht]

theorem mem_of_mem_climb (h : s ∈ climb ss) : s ∈ ss := by
  unfold climb at h
  split at h
  · split at h
    · exact h
    · exact (List.dropLast_sublist ss).subset h
  · exact h

/-- A text between slashes adds nothing but its own segment or an empty one. -/
theorem segments_addSegment {cs : List Char} (hss : ∀ s ∈ ss, IsSegment s.toList)
    (hcs : ∀ c ∈ cs, isSlash true c = false) :
    ∀ s ∈ addSegment false last ss cs, IsSegment s.toList := by
  have hend : ∀ {ss : List String}, (∀ s ∈ ss, IsSegment s.toList) →
      ∀ s ∈ if last then ss ++ [""] else ss, IsSegment s.toList := by
    intro ss hss
    split
    · exact segments_concat hss isSegment_nil
    · exact hss
  unfold addSegment
  split
  case h_1 => exact hend fun s hs => hss s (mem_of_mem_climb hs)
  case h_2 => exact hend hss
  case h_3 hdots =>
    refine segments_concat hss ?_
    rw [String.toList_ofList]
    simpa using isSegment_percentEncode hdots hcs

theorem addSegment_ne_nil (cs : List Char) : addSegment false true ss cs ≠ [] := by
  unfold addSegment
  split <;> simp

theorem isPath_addSegments {ps : List (List Char)} (hne : ps ≠ [])
    (hps : ∀ cs ∈ ps, ∀ c ∈ cs, isSlash true c = false) (hss : ∀ s ∈ ss, IsSegment s.toList) :
    IsPath (addSegments false ss ps) := by
  induction ps generalizing ss with
  | nil => exact absurd rfl hne
  | cons cs ps ih =>
    have hcs := hps cs List.mem_cons_self
    cases ps with
    | nil => exact ⟨addSegment_ne_nil cs, segments_addSegment hss hcs⟩
    | cons ds ps =>
      exact ih (by simp) (fun cs hin => hps cs (List.mem_cons_of_mem _ hin)) (segments_addSegment hss hcs)

end adding

theorem slashless_splitSlashes {cs n : List Char} (hn : n ∈ splitSlashes true cs) :
    ∀ c ∈ n, isSlash true c = false := by
  induction cs generalizing n with
  | nil =>
    rw [splitSlashes, List.splitOnP_nil] at hn
    rw [List.mem_singleton.mp hn]
    simp
  | cons d cs ih =>
    rw [splitSlashes, List.splitOnP_cons_eq_if_modifyHead] at hn
    split at hn
    · rcases List.mem_cons.mp hn with rfl | hn
      · simp
      · exact ih hn
    next hd =>
      obtain ⟨m, ms, hms⟩ := List.exists_cons_of_ne_nil (List.splitOnP_ne_nil (isSlash true) cs)
      rw [hms, List.modifyHead_cons] at hn
      have hin : ∀ k ∈ m :: ms, k ∈ splitSlashes true cs := fun k hk => by rwa [splitSlashes, hms]
      rcases List.mem_cons.mp hn with rfl | hn
      · intro c hc
        rcases List.mem_cons.mp hc with rfl | hc
        · exact eq_false_of_ne_true hd
        · exact ih (hin m List.mem_cons_self) c hc
      · exact ih (hin n (List.mem_cons_of_mem _ hn))

/-- The path that follows an authority is read again as it stands. -/
theorem isPath_pathAfterAuthority {scheme : String} (hscheme : scheme = "http" ∨ scheme = "https")
    (cs : List Char) : ∃ ss, pathAfterAuthority scheme cs = .segments ss ∧ IsPath ss := by
  have hspecial : isSpecial scheme = true := isSpecial_of_http hscheme
  have hextend : ∀ cs, IsPath (extend scheme [] cs) := by
    intro cs
    rw [extend, hspecial, beq_false_of_ne (ne_file_of_http hscheme)]
    exact isPath_addSegments (List.splitOnP_ne_nil _ cs) (fun n hn => slashless_splitSlashes hn) (by simp)
  unfold pathAfterAuthority
  split
  · refine ⟨_, rfl, by simp [hspecial], fun s hs => ?_⟩
    rw [hspecial, if_pos rfl] at hs
    rw [List.mem_singleton.mp hs]
    exact isSegment_nil
  · split
    · exact ⟨_, rfl, hextend _⟩
    · exact ⟨_, rfl, hextend _⟩

/-- A URL of http or https that was read has a path that is read again as it stands. -/
theorem isPath_of_parse {raw : String} {u : Url} (h : parse raw = .ok u)
    (hscheme : u.scheme = "http" ∨ u.scheme = "https") :
    ∃ ss, u.path = .segments ss ∧ IsPath ss := by
  obtain ⟨r, a, ss, rfl⟩ | ⟨r, scheme, a, cs, rfl⟩ := parse_special h (isSpecial_of_http hscheme)
  · exact absurd hscheme (by simp)
  · exact isPath_pathAfterAuthority hscheme cs

/-- A text with a slash at its end. -/
def slashed (cs : List Char) : List Char := if cs.getLast? = some '/' then cs else cs ++ ['/']

theorem toChars_segments (ss : List String) :
    (Path.segments ss).toChars = ss.flatMap fun s => '/' :: s.toList := rfl

section path

variable {ss : List String}

/-- Behind its first slash the text of a path is that of its segments with slashes between them. -/
theorem flatMap_eq_cons_intercalate (hne : ss ≠ []) :
    (ss.flatMap fun s => '/' :: s.toList) = '/' :: ['/'].intercalate (ss.map String.toList) := by
  induction ss with
  | nil => exact absurd rfl hne
  | cons s ss ih =>
    cases ss with
    | nil => simp
    | cons t ss => rw [List.flatMap_cons, ih (by simp)]; simp

theorem extend_of_isPath {scheme : String} (hscheme : scheme = "http" ∨ scheme = "https")
    (h : IsPath ss) (before : List String) :
    extend scheme before (['/'].intercalate (ss.map String.toList)) = before ++ ss := by
  have hsegments : ∀ n ∈ ss.map String.toList, IsSegment n := by
    intro n hn
    obtain ⟨s, hs, rfl⟩ := List.mem_map.mp hn
    exact h.segments s hs
  rw [extend_of_segments hscheme hsegments (by simpa using h.nonempty)]
  simp

/-- The text of a path is read as that path. -/
theorem pathAfterAuthority_toChars {scheme : String} (hscheme : scheme = "http" ∨ scheme = "https")
    (h : IsPath ss) : pathAfterAuthority scheme (Path.segments ss).toChars = .segments ss := by
  have hread := extend_of_isPath hscheme h []
  have hslash : isSlash (isSpecial scheme) '/' = true := rfl
  rw [toChars_segments, flatMap_eq_cons_intercalate h.nonempty, pathAfterAuthority, hslash, if_pos rfl, hread,
    List.nil_append]

/-- With a slash at its end a path has an empty segment there, its own or one more. -/
theorem withSlash_segments (h : IsPath ss) : ∃ front,
    (Path.segments ss).withSlash = .segments (front ++ [""]) ∧ IsPath (front ++ [""]) ∧
      slashed (Path.segments ss).toChars = (Path.segments (front ++ [""])).toChars := by
  obtain ⟨front, s, rfl⟩ : ∃ front s, ss = front ++ [s] := by
    obtain ⟨front, s, heq⟩ := (List.eq_nil_or_concat ss).resolve_left h.nonempty
    exact ⟨front, s, by rw [heq, List.concat_eq_append]⟩
  have hs : IsSegment s.toList := h.segments s (by simp)
  by_cases hempty : s = ""
  · subst hempty
    refine ⟨front, by simp [Path.withSlash], h, ?_⟩
    rw [slashed, if_pos (by simp [toChars_segments])]
  · have hlast : (Path.segments (front ++ [s])).toChars.getLast? ≠ some '/' := by
      obtain ⟨init, c, hc⟩ := (List.eq_nil_or_concat s.toList).resolve_left (by simpa using hempty)
      have hslash : isSlash true c = false := hs.slashless c (by simp [hc])
      intro hend
      have hsame : c = '/' := by simpa [toChars_segments, hc, List.getLast?_cons] using hend
      rw [hsame] at hslash
      cases hslash
    refine ⟨front ++ [s], by simp [Path.withSlash, hempty],
      ⟨by simp, segments_concat h.segments isSegment_nil⟩, ?_⟩
    rw [slashed, if_neg hlast]
    simp [toChars_segments]

end path

theorem withSlash_withSlash {u : Url} {front : List String} (h : u.withSlash.path = .segments (front ++ [""])) :
    u.withSlash.withSlash = u.withSlash := by
  show ({ u.withSlash with path := u.withSlash.path.withSlash } : Url) = u.withSlash
  rw [h, Path.withSlash, if_pos (by simp), ← h]

/-- Slashes in front of an endpoint's path do not count. -/
theorem dropSlashes_replicate (e : Endpoint) (k : Nat) :
    String.ofList ((String.ofList (List.replicate k '/') ++ e.path).toList.dropWhile (· == '/')) = e.path := by
  have hslashes : ∀ c ∈ List.replicate k '/', (c == '/') = true := by
    intro c hc
    rw [List.eq_of_mem_replicate hc]
    rfl
  rw [String.toList_append, String.toList_ofList, List.dropWhile_append_of_pos hslashes, e.path_dropSlashes]

/-- The names of an endpoint behind the slash of a path are its path. -/
theorem toChars_append_names (front : List String) (e : Endpoint) :
    (Path.segments (front ++ e.names)).toChars = (Path.segments (front ++ [""])).toChars ++ e.path.toList := by
  rw [toChars_segments, toChars_segments, List.flatMap_append, List.flatMap_append,
    flatMap_eq_cons_intercalate e.names_ne_nil, ← e.path_eq]
  simp

/-- Every endpoint of a base of http or https lies beneath its path with a slash at the end, which is all that is done
to a base, done once. -/
theorem endpoints_beneath {raw : String} {u : Url} (h : parse raw = .ok u)
    (hscheme : u.scheme = "http" ∨ u.scheme = "https") :
    (∀ (e : Endpoint) (k : Nat), ∃ v,
      u.beneath (String.ofList (List.replicate k '/') ++ e.path) = .ok v ∧
      u.withSlash.beneath (String.ofList (List.replicate k '/') ++ e.path) = .ok v ∧
      v.scheme = u.scheme ∧ v.authority = u.authority ∧ v.query = none ∧ v.fragment = none ∧
      v.path.toChars = slashed u.path.toChars ++ e.path.toList) ∧
    (∀ text, Text.trimmed text = raw → base text = .ok u.withSlash) ∧
    u.withSlash.withSlash = u.withSlash ∧
    u.withSlash = { u with path := u.withSlash.path } ∧
    u.withSlash.path.toChars = slashed u.path.toChars ∧
    u.withSlash.path = pathAfterAuthority u.scheme (slashed u.path.toChars) := by
  obtain ⟨ss, hss, hpath⟩ := isPath_of_parse h hscheme
  obtain ⟨front, hslash, hfront, htext⟩ := withSlash_segments hpath
  have hwith : u.withSlash.path = .segments (front ++ [""]) := by rw [withSlash, hss, hslash]
  have htwice : u.withSlash.withSlash = u.withSlash := withSlash_withSlash hwith
  rw [← hss] at htext
  refine ⟨fun e k => ?_, ?_, htwice, rfl, ?_, ?_⟩
  · have hne : e.names.map String.toList ≠ [] := by simpa using e.names_ne_nil
    have hjoin : u.withSlash.join e.path = .ok { u with
        path := .segments (front ++ e.names), query := none, fragment := none } := by
      rw [join_of_plain (b := u.withSlash) hscheme hwith e.plainName_of_mem_names hne e.path_eq]
      simp [withSlash]
    have hbeneath : ∀ b : Url, b.withSlash = u.withSlash →
        b.beneath (String.ofList (List.replicate k '/') ++ e.path) = .ok { u with
          path := .segments (front ++ e.names), query := none, fragment := none } := by
      intro b hb
      rw [beneath, dropSlashes_replicate, hb, hjoin]
    refine ⟨_, hbeneath u rfl, hbeneath u.withSlash htwice, rfl, rfl, rfl, rfl, ?_⟩
    rw [htext, ← toChars_append_names]
  · intro text htrimmed
    rw [base, htrimmed, h]
  · rw [hwith, htext]
  · rw [hwith, htext, pathAfterAuthority_toChars hscheme hfront]

/-- A base with user, port, query and fragment, and a path with an empty segment and escapes. -/
def oddBase : Url :=
  ⟨"https", some ⟨"us%20er", "p%40ss", .name "example.org", some 8081⟩,
    .segments ["a", "", "b%2F%3A", ".x", "c;d"], some "q=1", some "f"⟩

theorem endpoints_beneath_oddBase :
    parse "HTTPS://us er:p%40ss@Example.org:8081\\a//b%2F%3A/y/../.x/%2e/c;d?q=1#f" = .ok oddBase ∧
      oddBase.scheme = "https" ∧ ∃ v, oddBase.beneath "//music-bands/-7" = .ok v ∧
        v.authority = oddBase.authority ∧ v.query = none ∧ v.fragment = none ∧
        v.path.toChars = "/a//b%2F%3A/.x/c;d/music-bands/-7".toList := by
  have h : parse "HTTPS://us er:p%40ss@Example.org:8081\\a//b%2F%3A/y/../.x/%2e/c;d?q=1#f" =
      .ok oddBase := rfl
  have htext : String.ofList (List.replicate 2 '/') ++ (Endpoint.band (-7)).path = "//music-bands/-7" := by
    decide
  obtain ⟨v, hv, -, -, hauthority, hquery, hfragment, hpath⟩ :=
    (endpoints_beneath h (.inr rfl)).1 (.band (-7)) 2
  rw [htext] at hv
  refine ⟨h, rfl, v, hv, hauthority, hquery, hfragment, hpath.trans ?_⟩
  decide

end BandCatalog.Url
