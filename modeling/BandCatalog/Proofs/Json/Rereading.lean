import BandCatalog.Proofs.Json.Records
import BandCatalog.Proofs.Json.RoundTrip
import Mathlib.Data.List.Nodup

/-!
# Fields read back

An object whose members are the fields of a record holds them all. Of a field it is enough that whatever its
reader reads is read again as its writer writes it: then it is read back whether it has to be there or not.
-/
namespace BandCatalog

namespace Json

theorem membersOf_of_mem {ms : List (String × Json)} {m : String × Json}
    (hnames : (ms.map Prod.fst).Nodup) (hm : m ∈ ms) : membersOf [m.1] ms = [m.2] := by
  induction ms with
  | nil => cases hm
  | cons n ms ih =>
    obtain ⟨hfirst, hrest⟩ := List.nodup_cons.mp hnames
    rcases List.mem_cons.mp hm with rfl | hm
    · have hnone : membersOf [m.1] ms = [] := by
        rw [membersOf, List.map_eq_nil_iff, List.filter_eq_nil_iff]
        intro n hn hsame
        have hsame : n.1 = m.1 := by simpa using hsame
        exact hfirst (hsame ▸ List.mem_map_of_mem hn)
      simpa [membersOf] using hnone
    · have hother : n.1 ≠ m.1 := by
        intro hsame
        exact hfirst (hsame ▸ List.mem_map_of_mem hm)
      simpa [membersOf, hother] using ih hrest hm

/-- An object whose members are the fields, each under its one name and in their order, holds them all. -/
theorem record?_of_members {fields : List (List String)} {ms : List (String × Json)}
    (hfields : fields = ms.map fun m => [m.1]) (hnodup : fields.Nodup) :
    record? fields (.object ms) = some fun i => (ms[i]?.map fun m => Slot.given m.2).getD .cut := by
  subst hfields
  have hnames : (ms.map Prod.fst).Nodup := by
    refine List.Nodup.of_map (fun name => [name]) ?_
    rwa [List.map_map]
  refine record?_object.mpr ⟨?_, ?_⟩
  · intro names hin
    obtain ⟨m, hm, rfl⟩ := List.mem_map.mp hin
    rw [membersOf_of_mem hnames hm]
    exact Nat.le_refl 1
  · funext i
    cases hi : ms[i]? with
    | none => simp [hi]
    | some m => simp [hi, Slot.ofMembers, membersOf_of_mem hnames (List.mem_of_getElem? hi)]

/-- What `d` reads it reads again as `w` writes it, which is never as `null`. -/
structure Rereads {α : Type} (d : Decode α) (w : α → Json) : Prop where
  reads : ∀ {v a}, d v = some a → d (w a) = some a
  ne_null : ∀ a, w a ≠ .null

section fields

variable {α : Type} {d : Decode α} {w : α → Json}

theorem decodeOption_of_ne_null {v : Json} (h : v ≠ .null) : decodeOption d v = (d v).map some := by
  cases v with
  | null => exact absurd rfl h
  | _ => rfl

theorem Rereads.required (h : Rereads d w) {slot : Slot} {a : α} (hread : slot.required d = some a) :
    d (w a) = some a := by
  cases slot with
  | given v => exact h.reads hread
  | missing => cases hread
  | cut => cases hread

theorem Rereads.optional (h : Rereads d w) {slot : Slot} {o : Option α}
    (hread : slot.optional d = some o) : decodeOption d (.ofOption w o) = some o := by
  cases o with
  | none => rfl
  | some a =>
    obtain ⟨v, hv⟩ : ∃ v, d v = some a := by
      cases slot with
      | given v =>
        by_cases hnull : v = .null
        · rw [hnull] at hread
          cases hread
        · rw [Slot.optional, decodeOption_of_ne_null hnull] at hread
          exact ⟨v, by simpa using hread⟩
      | missing => cases hread
      | cut => cases hread
    show decodeOption d (w a) = some (some a)
    rw [decodeOption_of_ne_null (h.ne_null a), h.reads hv, Option.map_some]

/-- What was read from any text is read back from its own, in either form. -/
theorem Rereads.texts (h : Rereads d w) {s : String} {a : α} (hread : (parseText s).bind d = some a) :
    (parseText (w a).compact).bind d = some a ∧ (parseText (w a).indented).bind d = some a := by
  obtain ⟨v, -, hv⟩ := Option.bind_eq_some_iff.mp hread
  rw [parseText_compact, parseText_indented, Option.bind_some]
  exact ⟨h.reads hv, h.reads hv⟩

/-- A field with a default is read back if the default is. -/
theorem Rereads.default (h : Rereads d w) {standard : α} (hstandard : d (w standard) = some standard)
    {slot : Slot} {a : α} (hread : slot.default d standard = some a) : d (w a) = some a := by
  cases slot with
  | given v => exact h.reads hread
  | missing =>
    cases hread
    exact hstandard
  | cut =>
    cases hread
    exact hstandard

/-- A list is read back item by item. -/
theorem rereads_list (h : Rereads d w) : Rereads (decodeList d) fun l => .array (l.map w) where
  reads := by
    intro v l hread
    obtain ⟨vs, -, hitems⟩ := (decodeList_iff fun _ _ => Iff.rfl).mp hread
    clear hread
    refine (decodeList_iff fun _ _ => Iff.rfl).mpr ⟨_, rfl, ?_⟩
    induction hitems with
    | nil => exact .nil
    | cons hv _ ih => exact .cons (h.reads hv) ih
  ne_null := nofun

end fields

theorem rereads_int (low high : Int) : Rereads (decodeInt low high) .ofInt where
  reads := by
    intro v i h
    cases v with
    | number n =>
      obtain ⟨-, hbounds⟩ : n.integer? = some i ∧ (low ≤ i ∧ i ≤ high) := by
        simpa [decodeInt, Option.filter_eq_some_iff] using h
      simp [decodeInt, ofInt, hbounds]
    | _ => cases h
  ne_null := nofun

theorem rereads_int64 : Rereads decodeInt64 .ofInt :=
  rereads_int (-9223372036854775808) 9223372036854775807

theorem rereads_int32 : Rereads decodeInt32 .ofInt := rereads_int (-2147483648) 2147483647

theorem rereads_text : Rereads decodeText .text where
  reads := fun _ => rfl
  ne_null := nofun

end Json

end BandCatalog
