import BandCatalog.Proofs.Calendar.Reading
import BandCatalog.Proofs.Json.Rereading

/-!
# Users read back

Many texts hold one user: members in any order, roles in either form, dates with blanks or single digits. What is
written for the user is one text for all of them, and it is read as the same user.
-/
namespace BandCatalog

open Json Calendar

theorem Calendar.DateTime.decode_toJson (t : DateTime) : DateTime.decode t.toJson = some t := by
  rw [DateTime.toJson, DateTime.decode, DateTime.toText, String.toList_ofList, DateTime.ofChars?_toChars]

theorem rereads_dateTime : Rereads DateTime.decode DateTime.toJson where
  reads := fun {_ t} _ => DateTime.decode_toJson t
  ne_null := fun _ => nofun

/-- An unknown role is written under a name that no role has, so it stays unknown. -/
theorem rereads_role : Rereads Role.decode Role.toJson where
  reads := fun {_ r} _ => congrArg some (Role.ofName_name r)
  ne_null := nofun

theorem rereads_user : Rereads User.decode User.toJson where
  reads := by
    intro v u h
    simp only [User.decode, ↓read_then_iff] at h
    obtain ⟨r, -, id, hid, username, husername, roles, hroles, createdAt, hcreatedAt, updatedAt,
      hupdatedAt, heq⟩ := h
    cases heq
    simp only [User.decode, User.toJson, ↓read_then_iff]
    exact ⟨_, record?_of_members rfl (by decide),
      id, rereads_int64.required hid,
      username, rereads_text.required husername,
      roles, (rereads_list rereads_role).default rfl hroles,
      createdAt, rereads_dateTime.optional hcreatedAt,
      updatedAt, rereads_dateTime.optional hupdatedAt, rfl⟩
  ne_null := fun _ => nofun

/-- The user that a text holds. -/
def userOf? (s : String) : Option User := (parseText s).bind User.decode

/-- What is written for the user that a text holds. -/
def canonicalText? (s : String) : Option String := (userOf? s).map fun u => u.toJson.compact

/-- A user is read back from what is written for it, which is one text for all texts that hold the user. -/
theorem user_read_back {s : String} {u : User} (h : userOf? s = some u) :
    userOf? u.toJson.compact = some u ∧ userOf? u.toJson.indented = some u ∧
      canonicalText? u.toJson.compact = some u.toJson.compact ∧
      ∀ t, canonicalText? t = some u.toJson.compact ↔ userOf? t = some u := by
  obtain ⟨hback, hindented⟩ : userOf? u.toJson.compact = some u ∧ userOf? u.toJson.indented = some u :=
    rereads_user.texts h
  refine ⟨hback, hindented, ?_, fun t => ⟨fun ht => ?_, fun ht => ?_⟩⟩
  · rw [canonicalText?, hback, Option.map_some]
  · obtain ⟨u', hu', hsame⟩ := Option.map_eq_some_iff.mp ht
    have hback' : userOf? u'.toJson.compact = some u' := (rereads_user.texts hu').1
    rw [hsame, hback] at hback'
    rw [hu', hback']
  · rw [canonicalText?, ht, Option.map_some]

/-- A user with an unknown role, made on a leap second before the year 0 and changed in the last year that there
is. -/
def farUser : User where
  id := -7
  username := "Ö\"\n"
  roles := [.admin, .unknown]
  createdAt := some ⟨⟨-9, 2, 28, by decide⟩, 5, 6, 60, 500000000, by decide⟩
  updatedAt := some ⟨⟨262142, 12, 31, by decide⟩, 0, 0, 1, 123456789, by decide⟩

/-- The same user as it may be given. -/
def farUserGiven : String :=
  "\x7b\"updatedAt\":\"\\t+262142-12-31T0:0:1.12345678987\",\"roles\":[\x7b\"ROLE_ADMIN\":null\x7d,\"\"],\"x\":0,
\"username\":\"\\u00d6\\\"\\n\", \"createdAt\":\" -9-2-28T5:6:60.5\",\"id\":-7\x7d"

theorem farUser_read_back : userOf? farUserGiven = some farUser ∧
    canonicalText? farUserGiven = some farUser.toJson.compact ∧
      userOf? farUser.toJson.compact = some farUser := by
  have h : userOf? farUserGiven = some farUser := by decide +kernel
  obtain ⟨hback, -, -, htexts⟩ := user_read_back h
  exact ⟨h, (htexts farUserGiven).mpr h, hback⟩

end BandCatalog
