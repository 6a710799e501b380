import BandCatalog.Proofs.Client.Exchanging

/-!
# Spellings of a pair

An object is read as a pair exactly if each token stands in it once, under one of its two names, as a text. Other
members may stand anywhere and hold anything. A token that is missing, given twice or no text leaves no pair, under
whichever names that is. (`Pair.decode_eq_some` tells of the one other form, an array of the two tokens. An object
with half a surrogate pair in a member's name is not read at all, whatever it is read for.)
-/
namespace BandCatalog

open Json

namespace Pair

/-- The two spellings of each token's name. -/
def accessNames : List String := ["accessToken", "access_token"]

def refreshNames : List String := ["refreshToken", "refresh_token"]

theorem fields_eq : fields = [accessNames, refreshNames] := rfl

theorem decode_object_iff_once {ms : List (String × Json)} {p : Pair} :
    decode (.object ms) = some p ↔
      Once accessNames (.text p.access) ms ∧ Once refreshNames (.text p.refresh) ms := by
  rw [decode_object_iff, fields_eq, ← membersOf_eq_singleton_iff, ← membersOf_eq_singleton_iff]
  simp only [List.map_cons, List.map_nil, List.cons.injEq, and_true]

theorem decode_object_eq_none_iff {ms : List (String × Json)} :
    decode (.object ms) = none ↔ Spoilt accessNames ms ∨ Spoilt refreshNames ms := by
  rw [spoilt_iff, spoilt_iff, Option.eq_none_iff_forall_ne_some]
  constructor
  · intro hnone
    by_cases ha : ∃ a, Once accessNames (.text a) ms
    · obtain ⟨a, ha⟩ := ha
      exact .inr fun r hr => hnone ⟨a, r⟩ (decode_object_iff_once.mpr ⟨ha, hr⟩)
    · exact .inl fun a h => ha ⟨a, h⟩
  · rintro (h | h) p hp
    · exact h _ (decode_object_iff_once.mp hp).1
    · exact h _ (decode_object_iff_once.mp hp).2

theorem decode_toJson (p : Pair) : decode p.toJson = some p := decode_object_iff.mpr rfl

end Pair

/-- The pair that a text holds. -/
def pairOf? (s : String) : Option Pair := (parseText s).bind Pair.decode

theorem Http.Response.json?_toUTF8 (status : Nat) (s : String) :
    Response.json? ⟨status, some s.toUTF8⟩ = parseText s := by
  simp only [Response.json?, Option.bind_eq_bind, Option.bind_some, Text.fromUTF8?_toUTF8]

/-- A text of an object holds a pair exactly if both tokens stand in it once, as texts, each under either of its
names. -/
theorem pair_has_two_spellings {s : String} {ms : List (String × Json)} (hs : parseText s = some (.object ms)) :
    (∀ p, pairOf? s = some p ↔
        Once Pair.accessNames (.text p.access) ms ∧ Once Pair.refreshNames (.text p.refresh) ms) ∧
      (pairOf? s = none ↔ Spoilt Pair.accessNames ms ∨ Spoilt Pair.refreshNames ms) ∧
      (∀ url status p, 200 ≤ status ∧ status < 300 →
        (Renewal.classify url (.ok ⟨status, some s.toUTF8⟩) = .ok p ↔ pairOf? s = some p)) ∧
      ∀ p : Pair, pairOf? p.toJson.compact = some p ∧ pairOf? p.toJson.indented = some p := by
  have hread : pairOf? s = Pair.decode (.object ms) := by rw [pairOf?, hs, Option.bind_some]
  refine ⟨fun p => ?_, ?_, fun url status p hstatus => ?_, fun p => ⟨?_, ?_⟩⟩
  · rw [hread, Pair.decode_object_iff_once]
  · rw [hread, Pair.decode_object_eq_none_iff]
  · have hsuccess : Http.isSuccess status = true := by
      simp only [Http.isSuccess, Bool.and_eq_true, decide_eq_true_iff]
      omega
    rw [pairOf?, Renewal.classify, if_pos hsuccess, Http.Response.json?_toUTF8]
    cases (parseText s).bind Pair.decode <;> simp
  · rw [pairOf?, parseText_compact, Option.bind_some, Pair.decode_toJson]
  · rw [pairOf?, parseText_indented, Option.bind_some, Pair.decode_toJson]

/-- One token under each kind of name, after a value that holds another. -/
def mixedMembers : List (String × Json) :=
  [("scope", .object [("accessToken", .ofNat 1)]), ("refresh_token", .text "R"), ("accessToken", .text "A")]

/-- One token under both its names. -/
def doubledMembers : List (String × Json) :=
  [("accessToken", .text "A"), ("refreshToken", .text "R"), ("access_token", .text "A")]

theorem mixed_pair_read : parseText (Json.object mixedMembers).compact = some (.object mixedMembers) ∧
    pairOf? (Json.object mixedMembers).compact = some ⟨"A", "R"⟩ ∧
      parseText (Json.object doubledMembers).compact = some (.object doubledMembers) ∧
        pairOf? (Json.object doubledMembers).compact = none := by
  have hmixed := parseText_compact (.object mixedMembers)
  have hdoubled := parseText_compact (.object doubledMembers)
  refine ⟨hmixed, ((pair_has_two_spellings hmixed).1 ⟨"A", "R"⟩).mpr ⟨?_, ?_⟩, hdoubled,
    (pair_has_two_spellings hdoubled).2.1.mpr (.inl ?_)⟩
  · exact membersOf_eq_singleton_iff.mp rfl
  · exact membersOf_eq_singleton_iff.mp rfl
  · have htwice : [("accessToken", Json.text "A"), ("access_token", .text "A")].Sublist doubledMembers :=
      .cons_cons _ (.cons _ (List.Sublist.refl _))
    exact .twice htwice (by decide) (by decide)

end BandCatalog
