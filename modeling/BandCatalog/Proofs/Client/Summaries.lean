import BandCatalog.Client.Error
import BandCatalog.Proofs.Json.Records
import BandCatalog.Proofs.Json.RoundTrip

/-!
# What an error says of its answer

An error body is summarized by its message and by each of its details that has a message, in order. Any other body
stands for itself. The text of an error is an excerpt of that, for each status that has a text.
-/
namespace BandCatalog

open Json

/-- The members of an object give the field and the message of a detail, each once, as a text or `null`, or not at
all. An array gives both in their places. -/
inductive ErrorDetail.Spells : Json → ErrorDetail → Prop where
  | object {ms : List (String × Json)} {d : ErrorDetail}
      (hfield : Tells ms ["field"] (fun v s => v = ofOptionText s) none d.field)
      (hmessage : Tells ms ["message"] (fun v s => v = ofOptionText s) none d.message) :
      Spells (.object ms) d
  | array (d : ErrorDetail) : Spells (.array [ofOptionText d.field, ofOptionText d.message]) d

theorem ErrorDetail.decode_eq_some (v : Json) (d : ErrorDetail) : decode v = some d ↔ Spells v d := by
  constructor
  · intro h
    simp only [decode, Option.bind_eq_bind, Option.bind_eq_some_iff] at h
    obtain ⟨r, hr, field, hfield, message, hmessage, heq⟩ := h
    cases heq
    cases v with
    | object ms =>
      exact .object ((optional_iff decodeOption_eq_some hr rfl).mp hfield)
        ((optional_iff decodeOption_eq_some hr rfl).mp hmessage)
    | array vs =>
      rcases vs with _ | ⟨v, _ | ⟨w, _ | ⟨u, vs⟩⟩⟩
      · cases hr
        cases hfield
      · cases hr
        cases hmessage
      · cases hr
        obtain rfl := (decodeOption_eq_some v field).mp hfield
        obtain rfl := (decodeOption_eq_some w message).mp hmessage
        exact .array ⟨field, message⟩
      · simp [record?] at hr
    | _ => cases hr
  · rintro (⟨hfield, hmessage⟩ | ⟨field, message⟩)
    · next ms =>
      obtain ⟨r, hr⟩ : ∃ r, record? [["field"], ["message"]] (.object ms) = some r :=
        exists_record (by simpa using ⟨hfield.length_le, hmessage.length_le⟩)
      have hfield : (r 0).optional decodeText = some d.field :=
        (optional_iff decodeOption_eq_some hr rfl).mpr hfield
      have hmessage : (r 1).optional decodeText = some d.message :=
        (optional_iff decodeOption_eq_some hr rfl).mpr hmessage
      simp [decode, hr, hfield, hmessage]
    · have hfield := (decodeOption_eq_some (ofOptionText field) field).mpr rfl
      have hmessage := (decodeOption_eq_some (ofOptionText message) message).mpr rfl
      simp [decode, record?, Slot.optional, hfield, hmessage]

/-- An array of details. -/
def ErrorDetail.SpellsList (v : Json) (ds : List ErrorDetail) : Prop :=
  ∃ vs, v = .array vs ∧ List.Forall₂ ErrorDetail.Spells vs ds

/-- The members of an object give the message once, as a text or `null`, or not at all, and the details once, as an
array, or not at all. An array gives both in their places, or the message only. -/
inductive ErrorBody.Spells : Json → ErrorBody → Prop where
  | object {ms : List (String × Json)} {b : ErrorBody}
      (hmessage : Tells ms ["message"] (fun v s => v = ofOptionText s) none b.message)
      (hdetails : Tells ms ["details"] ErrorDetail.SpellsList [] b.details) : Spells (.object ms) b
  | bare (message : Option String) : Spells (.array [ofOptionText message]) ⟨message, []⟩
  | array {b : ErrorBody} {v : Json} (hdetails : ErrorDetail.SpellsList v b.details) :
      Spells (.array [ofOptionText b.message, v]) b

theorem ErrorDetail.decodeList_eq_some (v : Json) (ds : List ErrorDetail) :
    decodeList decode v = some ds ↔ SpellsList v ds := decodeList_iff decode_eq_some

theorem ErrorBody.decode_eq_some (v : Json) (b : ErrorBody) : decode v = some b ↔ Spells v b := by
  constructor
  · intro h
    simp only [decode, Option.bind_eq_bind, Option.bind_eq_some_iff] at h
    obtain ⟨r, hr, message, hmessage, details, hdetails, heq⟩ := h
    cases heq
    cases v with
    | object ms =>
      exact .object ((optional_iff decodeOption_eq_some hr rfl).mp hmessage)
        ((default_iff ErrorDetail.decodeList_eq_some hr rfl).mp hdetails)
    | array vs =>
      rcases vs with _ | ⟨v, _ | ⟨w, _ | ⟨u, vs⟩⟩⟩
      · cases hr
        cases hmessage
      · cases hr
        cases hdetails
        obtain rfl := (decodeOption_eq_some v message).mp hmessage
        exact .bare message
      · cases hr
        obtain rfl := (decodeOption_eq_some v message).mp hmessage
        have hdetails := (ErrorDetail.decodeList_eq_some w details).mp hdetails
        exact Spells.array (b := ⟨message, details⟩) hdetails
      · simp [record?] at hr
    | _ => cases hr
  · rintro (⟨hmessage, hdetails⟩ | message | hdetails)
    · next ms =>
      obtain ⟨r, hr⟩ : ∃ r, record? [["message"], ["details"]] (.object ms) = some r :=
        exists_record (by simpa using ⟨hmessage.length_le, hdetails.length_le⟩)
      have hmessage : (r 0).optional decodeText = some b.message :=
        (optional_iff decodeOption_eq_some hr rfl).mpr hmessage
      have hdetails : (r 1).default (decodeList ErrorDetail.decode) [] = some b.details :=
        (default_iff ErrorDetail.decodeList_eq_some hr rfl).mpr hdetails
      simp [decode, hr, hmessage, hdetails]
    · have hmessage := (decodeOption_eq_some (ofOptionText message) message).mpr rfl
      simp [decode, record?, Slot.optional, Slot.default, hmessage]
    · have hmessage := (decodeOption_eq_some (ofOptionText b.message) b.message).mpr rfl
      have hdetails := (ErrorDetail.decodeList_eq_some _ b.details).mpr hdetails
      simp [decode, record?, Slot.optional, Slot.default, hmessage, hdetails]

/-- A detail with a message is shown by it, after its field if it has one. -/
inductive ErrorDetail.Shown : ErrorDetail → String → Prop where
  | named (field message : String) : Shown ⟨some field, some message⟩ (field ++ ": " ++ message)
  | unnamed (message : String) : Shown ⟨none, some message⟩ message

theorem ErrorDetail.text?_eq_some {d : ErrorDetail} {s : String} : d.text? = some s ↔ d.Shown s := by
  obtain ⟨_ | field, _ | message⟩ := d
  · exact ⟨nofun, nofun⟩
  · exact ⟨fun | rfl => .unnamed _, fun | .unnamed _ => rfl⟩
  · exact ⟨nofun, nofun⟩
  · exact ⟨fun | rfl => .named _ _, fun | .named _ _ => rfl⟩

theorem ErrorDetail.text?_eq_none {d : ErrorDetail} : d.text? = none ↔ d.message = none := by
  rw [text?, Option.map_eq_none_iff]

/-- A message alone, or with the details that have a message, all of them and in order. -/
inductive Summarizes (message : String) (ds : List ErrorDetail) : String → Prop where
  | alone (h : ∀ d ∈ ds, d.message = none) : Summarizes message ds message
  | detailed {texts : List String} (hne : texts ≠ [])
      (h : List.Forall₂ ErrorDetail.Shown (ds.filter (·.message.isSome)) texts) :
      Summarizes message ds (message ++ " (" ++ "; ".intercalate texts ++ ")")

/-- The texts of the details are those by which the ones with a message are shown. -/
theorem ErrorDetail.filterMap_text?_eq {ds : List ErrorDetail} {texts : List String} :
    ds.filterMap text? = texts ↔ List.Forall₂ Shown (ds.filter (·.message.isSome)) texts := by
  induction ds generalizing texts with
  | nil => cases texts <;> simp
  | cons d ds ih =>
    cases htext : d.text? with
    | none =>
      have hmessage := text?_eq_none.mp htext
      simpa [htext, hmessage] using ih
    | some s =>
      have hshown := text?_eq_some.mp htext
      have hmessage : d.message.isSome = true := by
        cases hshown <;> rfl
      have hsame : ∀ t, d.Shown t ↔ s = t := by
        intro t
        rw [← text?_eq_some, htext, Option.some.injEq]
      have hkept : (d :: ds).filter (·.message.isSome) = d :: ds.filter (·.message.isSome) :=
        List.filter_cons_of_pos hmessage
      rw [List.filterMap_cons_some htext, hkept]
      cases texts with
      | nil => simp
      | cons t texts => rw [List.forall₂_cons, hsame, ← ih, List.cons.injEq]

theorem ErrorBody.summary?_eq_some {message s : String} {ds : List ErrorDetail} :
    summary? ⟨some message, ds⟩ = some s ↔ Summarizes message ds s := by
  constructor
  · intro h
    match htexts : ds.filterMap ErrorDetail.text? with
    | [] =>
      obtain rfl : message = s := by simpa [summary?, htexts] using h
      refine .alone fun d hd => ?_
      exact ErrorDetail.text?_eq_none.mp (List.filterMap_eq_nil_iff.mp htexts d hd)
    | shown :: texts =>
      obtain rfl : message ++ " (" ++ "; ".intercalate (shown :: texts) ++ ")" = s := by
        simpa [summary?, htexts] using h
      exact .detailed (List.cons_ne_nil shown texts) (ErrorDetail.filterMap_text?_eq.mp htexts)
  · rintro (h | ⟨hne, h⟩)
    · have htexts : ds.filterMap ErrorDetail.text? = [] :=
        List.filterMap_eq_nil_iff.mpr fun d hd => ErrorDetail.text?_eq_none.mpr (h d hd)
      simp [summary?, htexts]
    · next texts =>
      have htexts := ErrorDetail.filterMap_text?_eq.mpr h
      cases texts with
      | nil => exact absurd rfl hne
      | cons shown texts => simp [summary?, htexts]

/-- A body that is an error body with this message and these details. -/
def IsErrorBody (body message : String) (ds : List ErrorDetail) : Prop :=
  ∃ v, parseText body = some v ∧ ErrorBody.Spells v ⟨some message, ds⟩

theorem summarizes_bodySummary {body message : String} {ds : List ErrorDetail}
    (h : IsErrorBody body message ds) : Summarizes message ds (bodySummary body) := by
  obtain ⟨v, hv, hspells⟩ := h
  obtain ⟨s, hs⟩ : ∃ s, ErrorBody.summary? ⟨some message, ds⟩ = some s := ⟨_, rfl⟩
  have hbody : bodySummary body = s := by
    rw [bodySummary, hv, Option.bind_some, (ErrorBody.decode_eq_some v _).mpr hspells, Option.bind_some, hs,
      Option.getD_some]
  rw [hbody]
  exact ErrorBody.summary?_eq_some.mp hs

theorem bodySummary_eq_self {body : String} (h : ∀ message ds, ¬IsErrorBody body message ds) :
    bodySummary body = body := by
  have hnone : ((parseText body).bind ErrorBody.decode).bind ErrorBody.summary? = none := by
    rw [Option.eq_none_iff_forall_ne_some]
    intro s hs
    obtain ⟨b, hb, hsummary⟩ := Option.bind_eq_some_iff.mp hs
    obtain ⟨v, hv, hdecode⟩ := Option.bind_eq_some_iff.mp hb
    obtain ⟨message, hmessage, -⟩ := Option.map_eq_some_iff.mp hsummary
    obtain ⟨_, details⟩ := b
    obtain rfl : _ = some message := hmessage
    exact h message details ⟨v, hv, (ErrorBody.decode_eq_some v _).mp hdecode⟩
  rw [bodySummary, hnone, Option.getD_none]

/-- The error that a status makes of a text. Two kinds have none, and a status of no kind stands before it. -/
inductive ApiError.Carries (text : String) : Nat → ApiError → Prop where
  | badRequest {status : Nat} (h : status = 400 ∨ status = 422) : Carries text status (.badRequest text)
  | unauthorized : Carries text 401 .unauthorized
  | accessDenied : Carries text 403 (.accessDenied text)
  | notFound : Carries text 404 (.notFound text)
  | rateLimited : Carries text 429 .rateLimited
  | serverError {status : Nat} (h : 500 ≤ status ∧ status ≤ 599) : Carries text status (.serverError text)
  | other {status : Nat} (hnamed : status ∉ [400, 401, 403, 404, 422, 429])
      (hserver : ¬(500 ≤ status ∧ status ≤ 599)) :
      Carries text status (.invalidResponse ("Status " ++ Http.statusText status ++ ": " ++ text))

theorem ApiError.carries_ofStatus (status : Nat) (body : String) :
    Carries (Text.excerpt (bodySummary body)) status (ofStatus status body) := by
  rw [ofStatus]
  split
  next h => exact .badRequest h
  next hbad =>
    split
    next h => exact h ▸ .unauthorized
    next h401 =>
      split
      next h => exact h ▸ .accessDenied
      next h403 =>
        split
        next h => exact h ▸ .notFound
        next h404 =>
          split
          next h => exact h ▸ .rateLimited
          next h429 =>
            split
            next h => exact .serverError h
            next hserver => exact .other (by simp; omega) hserver

/-- The text of an error is an excerpt of the summary of the body it is made of, or of the body itself where that is
no error body with a message. -/
theorem error_bodies_are_summarized (status : Nat) (body : String) :
    (∀ message ds, IsErrorBody body message ds → ∃ summary, Summarizes message ds summary ∧
        ApiError.Carries (Text.excerpt summary) status (.ofStatus status body)) ∧
      ((∀ message ds, ¬IsErrorBody body message ds) →
        ApiError.Carries (Text.excerpt body) status (.ofStatus status body)) := by
  have hcarries := ApiError.carries_ofStatus status body
  constructor
  · intro message ds h
    exact ⟨bodySummary body, summarizes_bodySummary h, hcarries⟩
  · intro h
    rwa [bodySummary_eq_self h] at hcarries

/-- An error body with a detail of every form, its members in no particular order. -/
def invalidBand : Json :=
  .object [("status", .ofNat 400), ("details", .array [
      .object [("message", .text "too long"), ("rejectedValue", .array [.null]), ("field", .text "name")],
      .object [("field", .text "id"), ("message", .null)],
      .object [],
      .array [.null, .text "no genre"]]), ("message", .text "Invalid")]

theorem invalidBand_summarized :
    IsErrorBody invalidBand.compact "Invalid"
        [⟨some "name", some "too long"⟩, ⟨some "id", none⟩, ⟨none, none⟩, ⟨none, some "no genre"⟩] ∧
      ApiError.ofStatus 400 invalidBand.compact = .badRequest "Invalid (name: too long; no genre)" ∧
      (∀ message ds, ¬IsErrorBody "tea" message ds) ∧
      ApiError.ofStatus 418 "tea" = .invalidResponse "Status 418 I'm a teapot: tea" := by
  have hbody : IsErrorBody invalidBand.compact "Invalid"
      [⟨some "name", some "too long"⟩, ⟨some "id", none⟩, ⟨none, none⟩, ⟨none, some "no genre"⟩] :=
    ⟨invalidBand, parseText_compact _, (ErrorBody.decode_eq_some _ _).mp rfl⟩
  have htea : ∀ message ds, ¬IsErrorBody "tea" message ds := by
    rintro message ds ⟨v, hv, -⟩
    have hnone : (parseText "tea").isNone = true := by decide +kernel
    simp [hv] at hnone
  refine ⟨hbody, ?_, htea, ?_⟩
  · obtain ⟨summary, hsummary, hcarries⟩ := (error_bodies_are_summarized 400 _).1 _ _ hbody
    obtain rfl : "Invalid (name: too long; no genre)" = summary :=
      Option.some.inj (ErrorBody.summary?_eq_some.mpr hsummary)
    generalize ApiError.ofStatus 400 invalidBand.compact = e at hcarries ⊢
    cases hcarries with
    | badRequest h => rw [Text.excerpt_of_le (by decide)]
    | serverError h => omega
    | other hnamed => simp at hnamed
  · have hcarries := (error_bodies_are_summarized 418 _).2 htea
    generalize ApiError.ofStatus 418 "tea" = e at hcarries ⊢
    cases hcarries with
    | badRequest h => omega
    | serverError h => omega
    | other hnamed hserver => rfl

end BandCatalog
