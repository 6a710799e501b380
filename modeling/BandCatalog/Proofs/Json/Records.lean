import BandCatalog.Account.Login
import BandCatalog.Json.Record
import Mathlib.Data.List.Forall2

/-!
# Fields of records

What a record that was read says of the value that it was read from. An object gives each field once, under one
of its names, or not at all; a field that has to be there is given once.
-/
namespace BandCatalog

namespace Json

section record

variable {fields : List (List String)} {names : List String} {ms : List (String × Json)} {r : Record}
  {i : Nat}

/-- An object is a record if it gives no field twice. -/
theorem record?_object :
    record? fields (.object ms) = some r ↔ (∀ names ∈ fields, (membersOf names ms).length ≤ 1) ∧
      r = fun i => (fields[i]?.map fun names => Slot.ofMembers names ms).getD .cut := by
  rw [record?]
  split
  next h =>
    obtain ⟨names, hin, hmany⟩ := List.any_eq_true.mp h
    have hmany : 1 < (membersOf names ms).length := of_decide_eq_true hmany
    exact ⟨nofun, fun hall => absurd (hall.1 names hin) (Nat.not_le_of_lt hmany)⟩
  next h =>
    have hall : ∀ names ∈ fields, (membersOf names ms).length ≤ 1 := by
      intro names hin
      refine Nat.le_of_not_lt fun hmany => h ?_
      exact List.any_eq_true.mpr ⟨names, hin, decide_eq_true hmany⟩
    exact ⟨fun heq => ⟨hall, (Option.some.inj heq).symm⟩, fun hr => congrArg some hr.2.symm⟩

theorem exists_record (h : ∀ names ∈ fields, (membersOf names ms).length ≤ 1) :
    ∃ r, record? fields (.object ms) = some r := ⟨_, record?_object.mpr ⟨h, rfl⟩⟩

/-- A field that has to be there stands in an object exactly once, under one of its names. -/
theorem required_iff {α : Type} {d : Decode α} {a : α} (hr : record? fields (.object ms) = some r)
    (hi : fields[i]? = some names) :
    (r i).required d = some a ↔ ∃ v, membersOf names ms = [v] ∧ d v = some a := by
  obtain ⟨hall, rfl⟩ := record?_object.mp hr
  have hone : (membersOf names ms).length ≤ 1 := hall names (List.mem_of_getElem? hi)
  simp only [hi, Option.map_some, Option.getD_some, Slot.ofMembers]
  generalize membersOf names ms = vs at hone
  cases vs with
  | nil => simp [Slot.required]
  | cons v vs =>
    obtain rfl : vs = [] := List.eq_nil_of_length_eq_zero (Nat.le_zero.mp (Nat.le_of_succ_le_succ hone))
    simp [Slot.required]

/-- What the members of an object say of a field that may be missing: its default where none has the name, and
otherwise what the only one spells. -/
inductive Tells {α : Type} (ms : List (String × Json)) (names : List String) (Spells : Json → α → Prop)
    (standard : α) : α → Prop where
  | silent (h : membersOf names ms = []) : Tells ms names Spells standard standard
  | given {v : Json} {a : α} (h : membersOf names ms = [v]) (hv : Spells v a) :
    Tells ms names Spells standard a

/-- A field with a default is read as the members tell. -/
theorem default_iff {α : Type} {d : Decode α} {Spells : Json → α → Prop} {standard a : α}
    (hd : ∀ v a, d v = some a ↔ Spells v a) (hr : record? fields (.object ms) = some r)
    (hi : fields[i]? = some names) :
    (r i).default d standard = some a ↔ Tells ms names Spells standard a := by
  obtain ⟨hall, rfl⟩ := record?_object.mp hr
  have hone : (membersOf names ms).length ≤ 1 := hall names (List.mem_of_getElem? hi)
  simp only [hi, Option.map_some, Option.getD_some, Slot.ofMembers]
  cases hvs : membersOf names ms with
  | nil =>
    constructor
    · rintro ⟨⟩
      exact .silent hvs
    · rintro (⟨-⟩ | ⟨h, -⟩)
      · rfl
      · cases hvs.symm.trans h
  | cons v vs =>
    rw [hvs] at hone
    obtain rfl : vs = [] := List.eq_nil_of_length_eq_zero (Nat.le_zero.mp (Nat.le_of_succ_le_succ hone))
    constructor
    · intro h
      exact .given hvs ((hd v a).mp h)
    · rintro (⟨h⟩ | ⟨h, hv⟩)
      · cases hvs.symm.trans h
      · cases hvs.symm.trans h
        exact (hd v a).mpr hv

/-- No field of an object is cut off, so one that may be missing has nothing for its default. -/
theorem optional_iff {α : Type} {d : Decode α} {Spells : Json → Option α → Prop} {o : Option α}
    (hd : ∀ v o, decodeOption d v = some o ↔ Spells v o) (hr : record? fields (.object ms) = some r)
    (hi : fields[i]? = some names) :
    (r i).optional d = some o ↔ Tells ms names Spells none o := by
  rw [← default_iff hd hr hi]
  obtain ⟨-, rfl⟩ := record?_object.mp hr
  simp only [hi, Option.map_some, Option.getD_some, Slot.ofMembers]
  cases membersOf names ms <;> exact Iff.rfl

/-- A field that the members tell of is given once at most. -/
theorem Tells.length_le {α : Type} {Spells : Json → α → Prop} {standard a : α}
    (h : Tells ms names Spells standard a) : (membersOf names ms).length ≤ 1 := by
  cases h with
  | silent h => simp [h]
  | given h hv => simp [h]

/-- A list is read from an array of as many items, each of which spells its own. -/
theorem decodeList_iff {α : Type} {d : Decode α} {Spells : Json → α → Prop}
    (hd : ∀ v a, d v = some a ↔ Spells v a) {v : Json} {l : List α} :
    decodeList d v = some l ↔ ∃ vs, v = .array vs ∧ List.Forall₂ Spells vs l := by
  cases v with
  | array vs =>
    have hitems : vs.mapM d = some l ↔ List.Forall₂ Spells vs l := by
      induction vs generalizing l with
      | nil => cases l <;> simp
      | cons v vs ih =>
        simp only [List.mapM_cons, Option.bind_eq_bind, Option.bind_eq_some_iff, hd, ih]
        cases l <;> simp
    simpa [decodeList] using hitems
  | _ => simp [decodeList]

theorem decodeText_eq_some {v : Json} {s : String} : decodeText v = some s ↔ v = .text s := by
  cases v <;> simp [decodeText]

theorem decodeOption_eq_some (v : Json) (s : Option String) :
    decodeOption decodeText v = some s ↔ v = ofOptionText s := by
  cases v <;> cases s <;> simp [decodeOption, decodeText, ofOptionText, ofOption]

end record

section members

variable {names : List String} {ms : List (String × Json)} {v : Json}

/-- A value stands among members under one of some names, and no other member has one of them. -/
def Once (names : List String) (v : Json) (ms : List (String × Json)) : Prop :=
  ∃ before name after, ms = before ++ (name, v) :: after ∧ name ∈ names ∧
    ∀ m ∈ before ++ after, m.1 ∉ names

theorem membersOf_eq_singleton_iff : membersOf names ms = [v] ↔ Once names v ms := by
  simp only [membersOf, List.map_eq_singleton_iff, List.filter_eq_cons_iff, List.filter_eq_nil_iff]
  constructor
  · rintro ⟨⟨name, w⟩, ⟨before, after, rfl, hbefore, hname, hafter⟩, rfl⟩
    refine ⟨before, name, after, rfl, by simpa using hname, fun m hm => ?_⟩
    rcases List.mem_append.mp hm with hm | hm
    · simpa using hbefore m hm
    · simpa using hafter m hm
  · rintro ⟨before, name, after, rfl, hname, hothers⟩
    refine ⟨(name, v), ⟨before, after, rfl, fun m hm => ?_, by simpa using hname, fun m hm => ?_⟩, rfl⟩
    · simpa using hothers m (List.mem_append_left after hm)
    · simpa using hothers m (List.mem_append_right before hm)

theorem mem_membersOf : v ∈ membersOf names ms ↔ ∃ name ∈ names, (name, v) ∈ ms := by
  simp [membersOf, and_comm]

theorem two_le_length_membersOf :
    2 ≤ (membersOf names ms).length ↔ ∃ m n, [m, n].Sublist ms ∧ m.1 ∈ names ∧ n.1 ∈ names := by
  rw [membersOf, List.length_map]
  constructor
  · intro hmany
    match hnamed : ms.filter fun m => names.contains m.1 with
    | [] | [_] =>
      rw [hnamed] at hmany
      simp at hmany
    | m :: n :: rest =>
      have hsub : [m, n].Sublist (ms.filter fun m => names.contains m.1) := by
        rw [hnamed]
        simp
      have hm : m ∈ ms.filter fun m => names.contains m.1 := hsub.subset (by simp)
      have hn : n ∈ ms.filter fun m => names.contains m.1 := hsub.subset (by simp)
      exact ⟨m, n, hsub.trans List.filter_sublist, by simpa using (List.mem_filter.mp hm).2,
        by simpa using (List.mem_filter.mp hn).2⟩
  · rintro ⟨m, n, hsub, hm, hn⟩
    have hkept : ([m, n].filter fun m => names.contains m.1) = [m, n] := by simp [hm, hn]
    have hle := (hsub.filter fun m => names.contains m.1).length_le
    rwa [hkept] at hle

/-- A field that has to be a text is not to be read from some members: none has one of its names, two have one, or
one that has is no text. -/
inductive Spoilt (names : List String) (ms : List (String × Json)) : Prop where
  | missing (h : ∀ m ∈ ms, m.1 ∉ names)
  | twice {m n : String × Json} (h : [m, n].Sublist ms) (hm : m.1 ∈ names) (hn : n.1 ∈ names)
  | other {m : String × Json} (h : m ∈ ms) (hm : m.1 ∈ names) (hv : ∀ t, m.2 ≠ .text t)

/-- Either a text stands among the members once, or the field is spoilt. -/
theorem spoilt_iff : Spoilt names ms ↔ ∀ t, ¬Once names (.text t) ms := by
  simp only [← membersOf_eq_singleton_iff]
  constructor
  · rintro (h | ⟨h, hm, hn⟩ | ⟨h, hm, hv⟩) t heq
    · obtain ⟨name, hname, hin⟩ := mem_membersOf.mp (heq ▸ List.mem_singleton_self (Json.text t))
      exact h _ hin hname
    · have hmany := two_le_length_membersOf.mpr ⟨_, _, h, hm, hn⟩
      simp [heq] at hmany
    · have hin := mem_membersOf.mpr ⟨_, hm, h⟩
      rw [heq] at hin
      exact hv t (List.mem_singleton.mp hin)
  · intro hnone
    match hvs : membersOf names ms with
    | [] =>
      refine .missing fun m hm hname => ?_
      have hin : m.2 ∈ membersOf names ms := mem_membersOf.mpr ⟨m.1, hname, hm⟩
      simp [hvs] at hin
    | [v] =>
      obtain ⟨name, hname, hin⟩ := mem_membersOf.mp (hvs ▸ List.mem_singleton_self v)
      exact .other hin hname fun t ht => hnone t (ht ▸ hvs)
    | v :: w :: rest =>
      have hmany : 2 ≤ (membersOf names ms).length := by simp [hvs]
      obtain ⟨m, n, hsub, hm, hn⟩ := two_le_length_membersOf.mp hmany
      exact .twice hsub hm hn

end members

end Json

open Json

/-- A pair stands in an object as each of its tokens does: once, under one of its names, as a text. -/
theorem Pair.decode_object_iff {ms : List (String × Json)} {p : Pair} :
    Pair.decode (.object ms) = some p ↔
      Pair.fields.map (membersOf · ms) = [[.text p.access], [.text p.refresh]] := by
  constructor
  · intro h
    simp only [Pair.decode, Option.bind_eq_bind, Option.bind_eq_some_iff] at h
    obtain ⟨r, hr, access, haccess, refresh, hrefresh, heq⟩ := h
    cases heq
    obtain ⟨v, hv, hvalue⟩ := (required_iff hr rfl).mp haccess
    obtain ⟨w, hw, hvalue'⟩ := (required_iff hr rfl).mp hrefresh
    rw [decodeText_eq_some] at hvalue hvalue'
    subst hvalue hvalue'
    simp [Pair.fields, hv, hw]
  · intro h
    obtain ⟨haccess, hrefresh⟩ : membersOf ["accessToken", "access_token"] ms = [.text p.access] ∧
        membersOf ["refreshToken", "refresh_token"] ms = [.text p.refresh] := by
      simpa [Pair.fields] using h
    obtain ⟨r, hr⟩ : ∃ r, record? Pair.fields (.object ms) = some r :=
      exists_record (by simp [Pair.fields, haccess, hrefresh])
    have hfirst : (r 0).required decodeText = some p.access := (required_iff hr rfl).mpr ⟨_, haccess, rfl⟩
    have hsecond : (r 1).required decodeText = some p.refresh :=
      (required_iff hr rfl).mpr ⟨_, hrefresh, rfl⟩
    simp [Pair.decode, hr, hfirst, hsecond]

/-- How a pair is spelt: by name in an object, or by position in an array. -/
inductive Pair.Spells : Json → Pair → Prop where
  | object {ms : List (String × Json)} {p : Pair}
      (h : Pair.fields.map (membersOf · ms) = [[.text p.access], [.text p.refresh]]) :
      Pair.Spells (.object ms) p
  | array (p : Pair) : Pair.Spells (.array [.text p.access, .text p.refresh]) p

theorem Pair.decode_eq_some {v : Json} {p : Pair} : Pair.decode v = some p ↔ Pair.Spells v p := by
  cases v with
  | object ms => exact Pair.decode_object_iff.trans ⟨.object, fun | .object h => h⟩
  | array vs =>
    constructor
    · intro h
      simp only [Pair.decode, Option.bind_eq_bind, Option.bind_eq_some_iff] at h
      obtain ⟨r, hr, access, haccess, refresh, hrefresh, heq⟩ := h
      cases heq
      rcases vs with _ | ⟨v, _ | ⟨w, _ | ⟨u, vs⟩⟩⟩
      · cases hr
        cases haccess
      · cases hr
        cases hrefresh
      · cases hr
        obtain rfl := decodeText_eq_some.mp haccess
        obtain rfl := decodeText_eq_some.mp hrefresh
        exact .array ⟨access, refresh⟩
      · simp [record?, Pair.fields] at hr
    · rintro ⟨⟩
      rfl
  | _ => exact ⟨nofun, nofun⟩

/-- The pair of a sign-in stands in its own field, which is given once. -/
theorem SignIn.tokens_of_decode {ms : List (String × Json)} {i : SignIn}
    (h : SignIn.decode (.object ms) = some i) :
    ∃ v, membersOf ["tokens"] ms = [v] ∧ Pair.decode v = some i.tokens := by
  simp only [SignIn.decode, Option.bind_eq_bind, Option.bind_eq_some_iff] at h
  obtain ⟨r, hr, user, -, tokens, htokens, heq⟩ := h
  cases heq
  exact (required_iff hr rfl).mp htokens

end BandCatalog
