import BandCatalog.Proofs.Client.Stages

/-!
# One authorization in place of another

The headers of a request are a multimap whose names have no case. A token that is applied to a request replaces every
authorization that it has, under whatever case it was given, and nothing else; tokens that are applied in turn leave
the last of them, and stop at the first that has a byte no header value has. Headers are given in any order, and their
names and values are arbitrary texts.
-/
namespace BandCatalog

namespace Http

/-- A byte that no header value has: a control character other than the tab. -/
def IsControl (b : UInt8) : Prop := b.toNat < 0x20 ∧ b.toNat ≠ 0x09 ∨ b.toNat = 0x7F

theorem utf8EncodeChar_of_le {c : Char} (h : c.toNat ≤ 0x7F) :
    String.utf8EncodeChar c = [UInt8.ofNat c.toNat] := if_pos h

/-- Every byte of another character is above all of ASCII. -/
theorem le_of_mem_utf8EncodeChar {c : Char} (h : 0x7F < c.toNat) {b : UInt8}
    (hb : b ∈ String.utf8EncodeChar c) : 0x80 ≤ b.toNat := by
  have hc : ¬c.val.toNat ≤ 0x7F := Nat.not_le.mpr h
  simp only [String.utf8EncodeChar, if_neg hc] at hb
  split at hb
  · simp only [List.mem_cons, List.not_mem_nil, or_false] at hb
    rcases hb with rfl | rfl <;> rw [UInt8.toNat_ofNat'] <;> omega
  · split at hb
    · simp only [List.mem_cons, List.not_mem_nil, or_false] at hb
      rcases hb with rfl | rfl | rfl <;> rw [UInt8.toNat_ofNat'] <;> omega
    · simp only [List.mem_cons, List.not_mem_nil, or_false] at hb
      rcases hb with rfl | rfl | rfl | rfl <;> rw [UInt8.toNat_ofNat'] <;> omega

theorem exists_isControl_iff {c : Char} :
    (∃ b ∈ String.utf8EncodeChar c, IsControl b) ↔ c.toNat < 0x20 ∧ c ≠ '\t' ∨ c.toNat = 0x7F := by
  have htab : c = '\t' ↔ c.toNat = 0x09 := Char.toNat_inj.symm
  rw [ne_eq, htab]
  rcases Nat.lt_or_ge 0x7F c.toNat with hlarge | hsmall
  · constructor
    · rintro ⟨b, hb, hcontrol⟩
      have hhigh := le_of_mem_utf8EncodeChar hlarge hb
      unfold IsControl at hcontrol
      omega
    · omega
  · have hbyte : (UInt8.ofNat c.toNat).toNat = c.toNat := by
      rw [UInt8.toNat_ofNat']
      omega
    simp [utf8EncodeChar_of_le hsmall, IsControl, hbyte]

/-- Whether a text fits a header can be told from its bytes. -/
theorem isHeaderValue_eq_false_iff {s : String} :
    isHeaderValue s = false ↔ ∃ b ∈ s.toUTF8.data, IsControl b := by
  have hchars : (∃ b ∈ s.toUTF8.data, IsControl b) ↔
      ∃ c ∈ s.toList, c.toNat < 0x20 ∧ c ≠ '\t' ∨ c.toNat = 0x7F := by
    simp only [Text.toUTF8_eq, List.mem_toArray, List.mem_flatMap, ← exists_isControl_iff]
    constructor
    · rintro ⟨b, ⟨c, hc, hb⟩, hcontrol⟩
      exact ⟨c, hc, b, hb, hcontrol⟩
    · rintro ⟨c, hc, b, hb, hcontrol⟩
      exact ⟨b, ⟨c, hc, hb⟩, hcontrol⟩
  rw [hchars, isHeaderValue, List.all_eq_false]
  refine exists_congr fun c => and_congr_right fun _ => ?_
  by_cases htab : c = '\t'
  · simp [htab]
  · simp only [htab, Bool.and_eq_true, Bool.or_eq_true, decide_eq_true_eq, bne_iff_ne, beq_iff_eq, ne_eq,
      not_false_eq_true, and_true, or_false]
    omega

namespace Headers

/-- A header that is added to others, under its name in any case. -/
def append (h : Headers) (x : Header) : Headers := h ++ [{ x with name := lowerName x.name }]

/-- Headers that are added one after the other. -/
def gather (given : List Header) : Headers := given.foldl append []

/-- What stands under a name in any case: the values in order, each with whether it is sensitive. -/
def under (h : Headers) (name : String) : List (String × Bool) :=
  (h.filter (·.name = lowerName name)).map fun x => (x.value, x.sensitive)

theorem gather_eq (given : List Header) :
    gather given = given.map fun x => { x with name := lowerName x.name } := by
  have hfold : ∀ h : Headers, given.foldl append h =
      h ++ given.map fun x => { x with name := lowerName x.name } := by
    induction given with
    | nil => exact fun h => (List.append_nil h).symm
    | cons x given ih =>
      intro h
      rw [List.foldl_cons, ih, append, List.append_assoc, List.map_cons, List.singleton_append]
  exact hfold []

/-- Under a name is what was given under it in any case. -/
theorem under_gather (given : List Header) (name : String) :
    (gather given).under name =
      (given.filter (lowerName ·.name = lowerName name)).map fun x => (x.value, x.sensitive) := by
  rw [gather_eq, under, List.filter_map, List.map_map]
  rfl

theorem under_set_same (h : Headers) {name other : String} (hsame : lowerName other = lowerName name)
    (value : String) (sensitive : Bool) : (h.set name value sensitive).under other = [(value, sensitive)] := by
  simp [under, hsame, set, remove, List.filter_append]

/-- Every other name keeps what stands under it. -/
theorem under_set_other (h : Headers) {name other : String} (hne : lowerName other ≠ lowerName name)
    (value : String) (sensitive : Bool) : (h.set name value sensitive).under other = h.under other := by
  have hkept : (h.remove name).filter (·.name = lowerName other) = h.filter (·.name = lowerName other) := by
    rw [remove, List.filter_filter]
    refine List.filter_congr fun x _ => ?_
    by_cases hx : x.name = lowerName other
    · simp [hx, hne]
    · simp [hx]
  have hadded : ¬lowerName name = lowerName other := fun h => hne h.symm
  simp [under, set, List.filter_append, hkept, hadded]

end Headers

end Http

/-- A token that fits no header: one of its bytes is a control character other than the tab. -/
def IsMalformed (token : String) : Prop := ∃ b ∈ token.toUTF8.data, Http.IsControl b

open Http

theorem isHeaderValue_bearer_iff {token : String} : isHeaderValue (bearer token) = true ↔ ¬IsMalformed token := by
  have hword : isHeaderValue (bearer token) = isHeaderValue token := by
    simp [isHeaderValue, bearer]
  rw [hword, IsMalformed, ← isHeaderValue_eq_false_iff, Bool.not_eq_false]

theorem authorize_of_not {token : String} (h : ¬IsMalformed token) (r : Request) :
    authorize r token = .ok (r.bearing token) := Request.authorize_eq (isHeaderValue_bearer_iff.mpr h) r

theorem authorize_of_malformed {token : String} (h : IsMalformed token) (r : Request) :
    authorize r token = .error .malformedToken :=
  if_neg fun hvalue => isHeaderValue_bearer_iff.mp hvalue h

/-- Of tokens that are applied in turn the last is left. -/
theorem foldlM_authorize {tokens : List String} (h : ∀ t ∈ tokens, ¬IsMalformed t) (r : Request) :
    tokens.foldlM authorize r = .ok ((tokens.getLast?.map r.bearing).getD r) := by
  induction tokens generalizing r with
  | nil => rfl
  | cons t tokens ih =>
    obtain ⟨ht, hrest⟩ := List.forall_mem_cons.mp h
    rw [List.foldlM_cons, authorize_of_not ht]
    show tokens.foldlM authorize (r.bearing t) = _
    rw [ih hrest]
    cases hlast : tokens.getLast? with
    | none => simp [List.getLast?_eq_none_iff.mp hlast]
    | some last => simp [List.getLast?_cons, hlast]

theorem foldlM_authorize_of_malformed {tokens : List String} (h : ∃ t ∈ tokens, IsMalformed t) (r : Request) :
    tokens.foldlM authorize r = .error .malformedToken := by
  induction tokens generalizing r with
  | nil => simp at h
  | cons t tokens ih =>
    rw [List.foldlM_cons]
    by_cases ht : IsMalformed t
    · rw [authorize_of_malformed ht]
      rfl
    · have hrest : ∃ t ∈ tokens, IsMalformed t := by simpa [ht] using h
      rw [authorize_of_not ht]
      exact ih hrest (r.bearing t)

/-- Tokens that are applied in turn fail only for what one of them has in it. -/
theorem foldlM_authorize_eq_error_iff {tokens : List String} {r : Request} {e : AuthError} :
    tokens.foldlM authorize r = .error e ↔ e = .malformedToken ∧ ∃ t ∈ tokens, IsMalformed t := by
  by_cases h : ∃ t ∈ tokens, IsMalformed t
  · rw [foldlM_authorize_of_malformed h]
    simp [h, eq_comm]
  · have hfine : ∀ t ∈ tokens, ¬IsMalformed t := fun t ht hmalformed => h ⟨t, ht, hmalformed⟩
    rw [foldlM_authorize hfine]
    simp [h]

/-- Tokens that are applied in turn fail exactly at the first that fits no header; if all fit, the last is the only
authorization, and nothing else has changed. -/
theorem authorization_is_replaced (r : Request) (given : List Header) (tokens : List String) :
    let start : Request := { r with headers := .gather given }
    (∀ before token after e, tokens = before ++ token :: after →
      ((∃ q, before.foldlM authorize start = .ok q ∧ authorize q token = .error e) ↔
        e = .malformedToken ∧ IsMalformed token ∧ ∀ t ∈ before, ¬IsMalformed t)) ∧
    (∀ e, tokens.foldlM authorize start = .error e ↔ e = .malformedToken ∧ ∃ t ∈ tokens, IsMalformed t) ∧
    ((∀ t ∈ tokens, ¬IsMalformed t) → ∃ q, tokens.foldlM authorize start = .ok q ∧ SameRequest q start ∧
      (∀ last, tokens.getLast? = some last →
        q.headers.under "Authorization" = [("Bearer " ++ last, true)]) ∧
      ∀ name, lowerName name ≠ "authorization" → q.headers.under name =
        (given.filter (lowerName ·.name = lowerName name)).map fun x => (x.value, x.sensitive)) := by
  intro start
  refine ⟨fun before token after e _ => ⟨?_, ?_⟩, fun e => foldlM_authorize_eq_error_iff, fun hfine => ?_⟩
  · rintro ⟨q, hbefore, htoken⟩
    have hnone : ∀ t ∈ before, ¬IsMalformed t := by
      intro t ht hmalformed
      cases hbefore.symm.trans (foldlM_authorize_of_malformed ⟨t, ht, hmalformed⟩ start)
    by_cases hmalformed : IsMalformed token
    · rw [authorize_of_malformed hmalformed] at htoken
      cases htoken
      exact ⟨rfl, hmalformed, hnone⟩
    · rw [authorize_of_not hmalformed] at htoken
      cases htoken
  · rintro ⟨rfl, hmalformed, hnone⟩
    exact ⟨_, foldlM_authorize hnone start, authorize_of_malformed hmalformed _⟩
  · refine ⟨_, foldlM_authorize hfine start, ?_⟩
    cases hlast : tokens.getLast? with
    | none => exact ⟨⟨rfl, rfl, rfl, rfl⟩, nofun, fun name _ => Headers.under_gather given name⟩
    | some last =>
      have hlower : lowerName authorizationName = "authorization" := by decide
      have hname : lowerName "Authorization" = lowerName authorizationName := by decide
      refine ⟨start.sameRequest_bearing last, ?_, fun name hother => ?_⟩
      · rintro _ ⟨⟩
        exact start.headers.under_set_same hname _ _
      · rw [← hlower] at hother
        rw [← Headers.under_gather given name]
        exact start.headers.under_set_other hother _ _

/-- Authorization under three spellings of its name, among others. -/
example : (["A1", "A2"].foldlM authorize ⟨"GET", ⟨"http", none, .segments [""], none, none⟩,
    .gather [⟨"AUTHORIZATION", "Basic dTpw", true⟩, ⟨"X-Trace", "1", false⟩, ⟨"authorization", "A0", false⟩,
      ⟨"x-trace", "2", true⟩, ⟨"Authorization", "", false⟩], .empty⟩).map (·.headers) =
    .ok [⟨"x-trace", "1", false⟩, ⟨"x-trace", "2", true⟩, ⟨"authorization", "Bearer A2", true⟩] := by rfl

end BandCatalog
