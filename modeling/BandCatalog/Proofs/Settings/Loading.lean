import BandCatalog.Proofs.Settings.Saving

/-!
# Settings from a file

What is loaded from a file, under the variable that gives the backend's URL. What is loaded can be saved and loaded
again without a change.
-/
namespace BandCatalog

namespace Settings

open Json

variable {ms : List (String × Json)} {s : Settings}

/-- The settings in the text of an object are what its members give. -/
theorem read_object_iff {text : String} (htext : Json.parseText text = some (.object ms)) :
    read (some text.toUTF8) = .ok s ↔ GivenBy ms s := by
  rw [← decode_object_iff, read, Text.fromUTF8?_toUTF8]
  simp only [htext, Option.bind_some]
  cases decode (.object ms) <;> simp

theorem withVariable_none (s : Settings) : s.withVariable none = s := rfl

theorem withVariable_blank {v : String} (h : Text.isBlankText v = true) (s : Settings) :
    s.withVariable (some v) = s := by
  simp only [withVariable, h, if_true]

theorem withVariable_some {v : String} (h : Text.isBlankText v = false) (s : Settings) :
    s.withVariable (some v) = { s with apiUrl := v } := by
  simp only [withVariable, h, Bool.false_eq_true, if_false]

/-- A variable that has been taken changes nothing more. -/
theorem withVariable_twice (s : Settings) (value : Option String) :
    (s.withVariable value).withVariable value = s.withVariable value := by
  cases value with
  | none => rfl
  | some v =>
    cases h : Text.isBlankText v with
    | true => rw [withVariable_blank h, withVariable_blank h]
    | false => rw [withVariable_some h, withVariable_some h]

theorem load_save (s : Settings) (value : Option String) :
    load (some s.save) value = .ok (s.withVariable value) := by
  rw [load, read_save]
  rfl

theorem load_of_read {file : Option ByteArray} (h : read file = .ok s) (value : Option String) :
    load file value = .ok (s.withVariable value) := by
  rw [load, h]
  rfl

/-- Settings that were saved are loaded as they were, under a variable that is not blank with its URL, and so is what
the members of any object give. -/
theorem saved_settings_are_loaded :
    (∀ s : Settings,
      load (some s.save) none = .ok s ∧
      (∀ v, Text.isBlankText v = true → load (some s.save) (some v) = .ok s) ∧
      ∀ v, Text.isBlankText v = false → load (some s.save) (some v) = .ok { s with apiUrl := v }) ∧
    ∀ (text : String) (ms : List (String × Json)), Json.parseText text = some (.object ms) →
      ∀ s, (load (some text.toUTF8) none = .ok s ↔ GivenBy ms s) ∧
        (GivenBy ms s → ∀ value,
          let loaded := s.withVariable value
          load (some text.toUTF8) value = .ok loaded ∧
            load (some loaded.save) value = .ok loaded ∧ load (some loaded.save) none = .ok loaded) := by
  constructor
  · intro s
    refine ⟨load_save s none, ?_, ?_⟩
    · intro v hv
      rw [load_save, withVariable_blank hv]
    · intro v hv
      rw [load_save, withVariable_some hv]
  · intro text ms htext s
    have hread : read (some text.toUTF8) = .ok s ↔ GivenBy ms s := read_object_iff htext
    constructor
    · rw [← hread, load]
      cases read (some text.toUTF8) <;> simp [Except.map, withVariable_none]
    · intro hgiven value loaded
      refine ⟨load_of_read (hread.mpr hgiven) value, ?_, load_save loaded none⟩
      rw [load_save, withVariable_twice]

/-- Two of the fields, in another order, among others. -/
theorem partial_settings_are_loaded :
    let ms : List (String × Json) :=
      [("x", .array [.text "api_url"]), ("storage", .text "file"), ("a", .null), ("api_url", .text " u")]
    let text := (Json.object ms).compact
    let s : Settings := ⟨" u", .file, none, 30⟩
    let loaded : Settings := ⟨"http://v", .file, none, 30⟩
    Json.parseText text = some (.object ms) ∧ GivenBy ms s ∧ Text.isBlankText "\u00a0" = true ∧
      load (some text.toUTF8) (some "http://v") = .ok loaded ∧ load (some loaded.save) none = .ok loaded ∧
      load (some loaded.save) (some "\u00a0") = .ok loaded := by
  intro ms text s loaded
  have htext : Json.parseText text = some (.object ms) := parseText_compact _
  have hblank : Text.isBlankText "\u00a0" = true := by decide
  have hgiven : GivenBy ms s := decode_object_iff.mp (by rfl)
  obtain ⟨hsaved, hobject⟩ := saved_settings_are_loaded
  obtain ⟨hload, -, hagain⟩ := (hobject text ms htext s).2 hgiven (some "http://v")
  exact ⟨htext, hgiven, hblank, hload, hagain, (hsaved loaded).2.1 "\u00a0" hblank⟩

end Settings

end BandCatalog
