import BandCatalog.Proofs.Json.Records
import BandCatalog.Proofs.Json.RoundTrip
import BandCatalog.Settings

/-!
# Settings in JSON

What an object says of the settings: each field that it gives, once and by a value of its kind, and the standard for
the rest, whatever else stands in the object and in whatever order. So settings that are saved are read back as they
were.
-/
namespace BandCatalog

open Json

theorem StorageKind.ofName?_eq_some {s : String} {k : StorageKind} : ofName? s = some k ↔ s = k.name := by
  constructor
  · intro h
    have hname := List.find?_some h
    exact (of_decide_eq_true hname).symm
  · rintro rfl
    exact ofName?_name k

/-- A kind of storage is its name, as a text or as the name of the only member of an object, with `null`. -/
def StorageKind.Spells (v : Json) (k : StorageKind) : Prop :=
  v = .text k.name ∨ v = .object [(k.name, .null)]

theorem StorageKind.decode_eq_some (v : Json) (k : StorageKind) :
    decode v = some k ↔ Spells v k := by
  unfold decode decodeWord Spells
  split
  next s => simp [ofName?_eq_some]
  next s => simp [ofName?_eq_some]
  next htext hobject =>
    refine ⟨nofun, ?_⟩
    rintro (rfl | rfl)
    · exact absurd rfl (htext _)
    · exact absurd rfl (hobject _)

/-- A number of 64 bits is an integer, written without a point and without an exponent. -/
def Json.SpellsUInt64 (v : Json) (n : UInt64) : Prop :=
  ∃ number : Number, v = .number number ∧ number.integer? = some (n.toNat : Int)

theorem Json.decodeUInt64_eq_some (v : Json) (n : UInt64) :
    decodeUInt64 v = some n ↔ Json.SpellsUInt64 v n := by
  constructor
  · intro h
    obtain ⟨i, hi, rfl⟩ := Option.map_eq_some_iff.mp h
    cases v with
    | number number =>
      obtain ⟨hinteger, hbounds⟩ := Option.filter_eq_some_iff.mp hi
      obtain ⟨hlow, hhigh⟩ := of_decide_eq_true hbounds
      refine ⟨number, rfl, ?_⟩
      rw [hinteger, UInt64.toNat_ofNat_of_lt' (by simp; omega), Int.toNat_of_nonneg hlow]
    | _ => cases hi
  · rintro ⟨number, rfl, hinteger⟩
    have hbound : (n.toNat : Int) ≤ 18446744073709551615 := by
      have := n.toNat_lt
      omega
    refine Option.map_eq_some_iff.mpr ⟨n.toNat, ?_, by simp⟩
    simp [decodeInt, hinteger, hbound]

namespace Settings

/-- The members of an object give each field of the settings once or leave it at its standard. -/
structure GivenBy (ms : List (String × Json)) (s : Settings) : Prop where
  apiUrl : Tells ms ["api_url"] (fun v u => v = .text u) standard.apiUrl s.apiUrl
  storage : Tells ms ["storage"] StorageKind.Spells standard.storage s.storage
  lastUsername :
    Tells ms ["last_username"] (fun v u => v = ofOptionText u) standard.lastUsername s.lastUsername
  timeoutSeconds :
    Tells ms ["request_timeout_secs"] SpellsUInt64 standard.timeoutSeconds s.timeoutSeconds

variable {ms : List (String × Json)} {s : Settings}

theorem decode_object_iff : decode (.object ms) = some s ↔ GivenBy ms s := by
  have hurl : ∀ v u, decodeText v = some u ↔ v = .text u := fun v u => decodeText_eq_some
  constructor
  · intro h
    simp only [decode, Option.bind_eq_bind, Option.bind_eq_some_iff] at h
    obtain ⟨r, hr, apiUrl, hapiUrl, storage, hstorage, lastUsername, hlast, timeout, htimeout, heq⟩ := h
    cases heq
    exact {
      apiUrl := (default_iff hurl hr rfl).mp hapiUrl
      storage := (default_iff StorageKind.decode_eq_some hr rfl).mp hstorage
      lastUsername := (default_iff decodeOption_eq_some hr rfl).mp hlast
      timeoutSeconds := (default_iff decodeUInt64_eq_some hr rfl).mp htimeout }
  · intro h
    obtain ⟨r, hr⟩ : ∃ r, record? fields (.object ms) = some r := by
      refine exists_record ?_
      simpa [fields] using
        ⟨h.apiUrl.length_le, h.storage.length_le, h.lastUsername.length_le, h.timeoutSeconds.length_le⟩
    have hapiUrl : (r 0).default decodeText standard.apiUrl = some s.apiUrl :=
      (default_iff hurl hr rfl).mpr h.apiUrl
    have hstorage : (r 1).default StorageKind.decode standard.storage = some s.storage :=
      (default_iff StorageKind.decode_eq_some hr rfl).mpr h.storage
    have hlast : (r 2).default (decodeOption decodeText) standard.lastUsername = some s.lastUsername :=
      (default_iff decodeOption_eq_some hr rfl).mpr h.lastUsername
    have htimeout : (r 3).default decodeUInt64 standard.timeoutSeconds = some s.timeoutSeconds :=
      (default_iff decodeUInt64_eq_some hr rfl).mpr h.timeoutSeconds
    simp [decode, hr, hapiUrl, hstorage, hlast, htimeout]

/-- Settings are written as an object that gives them all. -/
theorem givenBy_toJson (s : Settings) : ∃ ms, s.toJson = .object ms ∧ GivenBy ms s := by
  refine ⟨_, rfl, ?_⟩
  exact {
    apiUrl := .given rfl rfl
    storage := .given rfl (.inl rfl)
    lastUsername := .given rfl rfl
    timeoutSeconds := .given rfl ⟨_, rfl, Number.integer?_ofNat _⟩ }

theorem decode_toJson (s : Settings) : decode s.toJson = some s := by
  obtain ⟨ms, hms, hgiven⟩ := givenBy_toJson s
  rw [hms]
  exact decode_object_iff.mpr hgiven

theorem read_save (s : Settings) : read (some s.save) = .ok s := by
  rw [read, save, Text.fromUTF8?_toUTF8]
  simp only [parseText_indented, Option.bind_some, decode_toJson]

end Settings

end BandCatalog
