import BandCatalog.Proofs.Account.Users
import BandCatalog.Proofs.Catalog.Establishment

/-!
# Bands read back

A band that was read is written with all its fields, and each of them is read back as it was, but for the date
of establishment: it is the same exactly if its year has four digits and no sign.
-/
namespace BandCatalog

open Json Calendar

theorem rereads_genre : Rereads Genre.decode Genre.toJson where
  reads := fun {_ g} _ => Genre.ofName?_name g
  ne_null := nofun

theorem rereads_album : Rereads Album.decode Album.toJson where
  reads := by
    intro v a h
    simp only [Album.decode, ↓read_then_iff] at h
    obtain ⟨r, -, id, hid, name, hname, tracks, htracks, sales, hsales, heq⟩ := h
    cases heq
    simp only [Album.decode, Album.toJson, ↓read_then_iff]
    exact ⟨_, record?_of_members rfl (by decide), id, rereads_int64.optional hid, name,
      rereads_text.required hname, tracks, rereads_int64.optional htracks, sales,
      rereads_int32.optional hsales, rfl⟩
  ne_null := nofun

theorem rereads_person : Rereads Person.decode Person.toJson where
  reads := by
    intro v p h
    simp only [Person.decode, ↓read_then_iff] at h
    obtain ⟨r, -, id, hid, name, hname, heq⟩ := h
    cases heq
    simp only [Person.decode, Person.toJson, ↓read_then_iff]
    exact ⟨_, record?_of_members rfl (by decide), id, rereads_int64.optional hid, name,
      rereads_text.required hname, rfl⟩
  ne_null := nofun

theorem decodeEstablishment_ofOption (o : Option Date) :
    decodeEstablishment (.ofOption Date.toJson o) = some (o.bind Date.reread) := by
  cases o with
  | none => rfl
  | some d => exact congrArg some (Date.leading?_toText d)

namespace Band

/-- A band without coordinates is read back with the date that is read where its own is written. -/
theorem decode_toJson {v : Json} {b : Band} (h : decode v = some b) (hplace : b.coordinates = none) :
    decode b.toJson = some { b with established := b.established.bind Date.reread } := by
  simp only [decode, ↓read_then_iff] at h
  obtain ⟨r, -, id, hid, name, hname, coordinates, -, genre, hgenre, participants, hparticipants,
    singles, hsingles, description, hdescription, bestAlbum, hbestAlbum, albums, halbums,
    established, -, frontMan, hfrontMan, createdBy, hcreatedBy, created, hcreated, heq⟩ := h
  cases heq
  obtain rfl : coordinates = none := hplace
  simp only [decode, ↓read_then_iff]
  exact ⟨_, record?_of_members rfl (by decide),
    id, rereads_int64.required hid,
    name, rereads_text.required hname,
    none, rfl,
    genre, rereads_genre.optional hgenre,
    participants, rereads_int64.optional hparticipants,
    singles, rereads_int64.optional hsingles,
    description, rereads_text.optional hdescription,
    bestAlbum, rereads_album.optional hbestAlbum,
    albums, rereads_int64.optional halbums,
    established.bind Date.reread, decodeEstablishment_ofOption established,
    frontMan, rereads_person.optional hfrontMan,
    createdBy, rereads_text.optional hcreatedBy,
    created, rereads_dateTime.optional hcreated, rfl⟩

end Band

/-- The band that a text holds. -/
def bandOf? (s : String) : Option Band := (parseText s).bind Band.decode

/-- A band without coordinates is read back but for its date of establishment, of which ten bytes are read. -/
theorem band_read_back {s : String} {b : Band} (h : bandOf? s = some b) (hplace : b.coordinates = none) :
    bandOf? b.toJson.compact = some { b with established := b.established.bind Date.reread } ∧
      (bandOf? b.toJson.compact = some b ↔
        ∀ d, b.established = some d → 0 ≤ d.year ∧ d.year ≤ 9999) := by
  obtain ⟨v, -, hv⟩ := Option.bind_eq_some_iff.mp h
  have hback : bandOf? b.toJson.compact =
      some { b with established := b.established.bind Date.reread } := by
    rw [bandOf?, parseText_compact, Option.bind_some, Band.decode_toJson hv hplace]
  refine ⟨hback, ?_⟩
  rw [hback]
  cases b with
  | mk id name coordinates genre participants singles description bestAlbum albums established =>
    cases established with
    | none => simp
    | some d => simp [Date.reread_eq_some_iff]

/-- A band with every field but coordinates, founded on the last day of the year 9999. -/
def lateBand : Band where
  id := -7
  name := "Ω \"&\""
  coordinates := none
  genre := some .postPunk
  participants := some 4
  singles := some 9223372036854775807
  description := some ""
  bestAlbum := some ⟨none, "Last", some 3, some (-1)⟩
  albums := some 0
  established := some ⟨9999, 12, 31, by decide⟩
  frontMan := some ⟨some 1, "N. N."⟩
  createdBy := some "ozzy"
  created := some ⟨⟨-44, 3, 15, by decide⟩, 23, 59, 60, 999000, by decide⟩

/-- The same band as it may be given, its date of establishment as the last millisecond of that day. -/
def lateBandGiven : Json :=
  .object [("name", .text "Ω \"&\""), ("id", .ofInt (-7)), ("genre", .text "POST_PUNK"),
    ("bestAlbum", .array [.null, .text "Last", .ofInt 3, .ofInt (-1)]),
    ("createdDate", .text " -44-3-15T23:59:60.000999000000"),
    ("establishmentDate", .ofInt 253402300799999), ("label", .null),
    ("frontMan", .object [("name", .text "N. N."), ("id", .ofInt 1)]), ("albumsCount", .ofInt 0),
    ("description", .text ""), ("singlesCount", .ofInt 9223372036854775807),
    ("numberOfParticipants", .ofInt 4), ("createdBy", .text "ozzy")]

theorem lateBand_read_back : bandOf? lateBandGiven.compact = some lateBand ∧
    lateBand.coordinates = none ∧ bandOf? lateBand.toJson.compact = some lateBand := by
  have h : bandOf? lateBandGiven.compact = some lateBand := by
    rw [bandOf?, parseText_compact]
    decide +kernel
  refine ⟨h, rfl, (band_read_back h rfl).2.mpr ?_⟩
  rintro d ⟨⟩
  decide

/-- A band founded before the year 0. -/
def earlyBand : Band where
  id := 1
  name := "X"
  coordinates := none
  genre := none
  participants := none
  singles := none
  description := none
  bestAlbum := none
  albums := none
  established := some ⟨-1, 1, 12, by decide⟩
  frontMan := none
  createdBy := none
  created := none

/-- It is read from a number of milliseconds, and founded eleven days earlier once it was written. -/
theorem earlyBand_drifts :
    bandOf? "\x7b\"id\":1,\"name\":\"X\",\"establishmentDate\":-62197804800000\x7d" =
        some earlyBand ∧
      bandOf? earlyBand.toJson.compact =
        some { earlyBand with established := some ⟨-1, 1, 1, by decide⟩ } ∧
      bandOf? earlyBand.toJson.compact ≠ some earlyBand := by
  have hback : bandOf? earlyBand.toJson.compact =
      some { earlyBand with established := some ⟨-1, 1, 1, by decide⟩ } := by
    rw [bandOf?, parseText_compact]
    rfl
  refine ⟨by decide +kernel, hback, ?_⟩
  rw [hback]
  decide

end BandCatalog
