import BandCatalog.Proofs.Credentials.Leftovers

/-!
# What a clear forgets

A store that is cleared removes its two keys in turn, up to the first removal that the storage refuses. So the
access token survives exactly if its own removal is refused, but the refresh token survives a refusal of either:
where the access token cannot be removed, the refresh token is not even asked for.
-/
namespace BandCatalog.Store

/-- Calls are all done, or those before the first that is refused. -/
theorem persist_cases (f : FaultyMap) (cs : List StorageCall) :
    ((persist f cs).1 = .ok () ∧ (persist f cs).2.1 = cs.map fun c => ⟨c, false⟩) ∨
    ∃ past c rest, cs = past ++ c :: rest ∧ (persist f cs).1 = .error ⟨c, .refused c.verb c.key⟩ ∧
      (persist f cs).2.1 = (past.map fun c => ⟨c, false⟩) ++ [⟨c, true⟩] := by
  induction cs generalizing f with
  | nil => exact .inl ⟨rfl, rfl⟩
  | cons c cs ih =>
    rcases f.call_cases c with ⟨-, hcall⟩ | ⟨v, -, hcall⟩
    · exact .inr ⟨[], c, cs, rfl, by simp [persist, hcall], by simp [persist, hcall]⟩
    · rcases ih { f with map := (perform f.map c).2, count := f.count + 1 } with
        ⟨hok, hreports⟩ | ⟨past, d, rest, rfl, herror, hreports⟩
      · exact .inl ⟨by simp [persist, hcall, hok], by simp [persist, hcall, hreports]⟩
      · exact .inr ⟨c :: past, d, rest, rfl, by simp [persist, hcall, herror],
          by simp [persist, hcall, hreports]⟩

/-- The storage refused to remove a key. -/
def Refused (reports : List Report) (k : String) : Prop := ⟨.remove k, true⟩ ∈ reports

instance (reports : List Report) (k : String) : Decidable (Refused reports k) :=
  inferInstanceAs (Decidable (_ ∈ reports))

/-- A clear is done, refused at the access token, or refused at the refresh token. -/
theorem clear_cases (s : Store FaultyMap) :
    ((s.write .forget).1 = .ok () ∧
      (s.write .forget).2.1 = [⟨.remove accessKey, false⟩, ⟨.remove refreshKey, false⟩] ∧
      (s.write .forget).2.2.storage.tokens = .none) ∨
    ((s.write .forget).1 = .error ⟨.remove accessKey, .refused "remove" accessKey⟩ ∧
      (s.write .forget).2.1 = [⟨.remove accessKey, true⟩] ∧
      (s.write .forget).2.2.storage.tokens = s.storage.tokens) ∨
    ((s.write .forget).1 = .error ⟨.remove refreshKey, .refused "remove" refreshKey⟩ ∧
      (s.write .forget).2.1 = [⟨.remove accessKey, false⟩, ⟨.remove refreshKey, true⟩] ∧
      (s.write .forget).2.2.storage.tokens = ⟨none, s.storage.tokens.refresh⟩) := by
  have hne : refreshKey ≠ accessKey := by decide
  have hdone := s.write_cases .forget
  rcases persist_cases s.storage Write.forget.calls with
    ⟨hok, hreports⟩ | ⟨past, c, rest, hcalls, herror, hreports⟩
  · have hok : (s.write .forget).1 = .ok () := hok
    rcases hdone with ⟨-, hstored⟩ | ⟨e, he, -⟩ | ⟨e, he, -⟩
    · exact .inl ⟨hok, hreports, hstored⟩
    · cases hok.symm.trans he
    · cases hok.symm.trans he
  · have herror : (s.write .forget).1 = .error ⟨c, .refused c.verb c.key⟩ := herror
    -- Which of the two calls was refused is told by how many came before it.
    match past with
    | [] =>
      obtain ⟨rfl, -⟩ := List.cons.inj hcalls
      rcases hdone with ⟨hok, -⟩ | ⟨e, -, -, hstored⟩ | ⟨e, he, hkey, -⟩
      · cases hok.symm.trans herror
      · exact .inr (.inl ⟨herror, hreports, hstored⟩)
      · cases he.symm.trans herror
        exact absurd hkey.symm hne
    | [d] =>
      obtain ⟨rfl, hrest⟩ := List.cons.inj hcalls
      obtain ⟨rfl, -⟩ := List.cons.inj hrest
      rcases hdone with ⟨hok, -⟩ | ⟨e, he, hkey, -⟩ | ⟨e, -, -, hstored⟩
      · cases hok.symm.trans herror
      · cases he.symm.trans herror
        exact absurd hkey hne
      · exact .inr (.inr ⟨herror, hreports, hstored⟩)
    | _ :: _ :: past => simp [Write.calls] at hcalls

/-- Every token that is still stored is one whose own removal was refused. -/
def ForgetsAll (reports : List Report) (f : FaultyMap) : Prop :=
  ∀ k, k = accessKey ∨ k = refreshKey → f.map.get? k ≠ none → Refused reports k

theorem forgetsAll_iff {reports : List Report} {f : FaultyMap} :
    ForgetsAll reports f ↔ (f.tokens.access ≠ none → Refused reports accessKey) ∧
      (f.tokens.refresh ≠ none → Refused reports refreshKey) := by
  constructor
  · exact fun h => ⟨h accessKey (.inl rfl), h refreshKey (.inr rfl)⟩
  · rintro ⟨haccess, hrefresh⟩ k (rfl | rfl)
    · exact haccess
    · exact hrefresh

/-- What is left after a clear that was so reported of tokens that were stored before. -/
structure Forgotten (stored : Tokens) (reports : List Report) (after : Store FaultyMap) : Prop where
  memory : after.memory = .none
  access : after.storage.tokens.access = if Refused reports accessKey then stored.access else none
  refresh : after.storage.tokens.refresh =
    if Refused reports accessKey ∨ Refused reports refreshKey then stored.refresh else none
  /-- Something is left that could have been removed exactly if the clear stopped before a refresh token. -/
  all_iff : ForgetsAll reports after.storage ↔ ¬ (Refused reports accessKey ∧ stored.refresh ≠ none)

theorem forgotten (s : Store FaultyMap) :
    Forgotten s.storage.tokens (s.write .forget).2.1 (s.write .forget).2.2 := by
  have hne : refreshKey ≠ accessKey := by decide
  rcases s.clear_cases with ⟨-, hreports, hstored⟩ | ⟨-, hreports, hstored⟩ | ⟨-, hreports, hstored⟩
  · have haccess : ¬ Refused (s.write .forget).2.1 accessKey := by simp [hreports, Refused]
    have hrefresh : ¬ Refused (s.write .forget).2.1 refreshKey := by simp [hreports, Refused]
    exact ⟨rfl, by simp [hstored, haccess, Tokens.none], by simp [hstored, haccess, hrefresh, Tokens.none],
      by simp [forgetsAll_iff, hstored, haccess, Tokens.none]⟩
  · have haccess : Refused (s.write .forget).2.1 accessKey := by simp [hreports, Refused]
    have hrefresh : ¬ Refused (s.write .forget).2.1 refreshKey := by simp [hreports, Refused, hne]
    exact ⟨rfl, by simp [hstored, haccess], by simp [hstored, haccess],
      by simp [forgetsAll_iff, hstored, haccess, hrefresh]⟩
  · have haccess : ¬ Refused (s.write .forget).2.1 accessKey := by simp [hreports, Refused, hne.symm]
    have hrefresh : Refused (s.write .forget).2.1 refreshKey := by simp [hreports, Refused]
    exact ⟨rfl, by simp [hstored, haccess], by simp [hstored, hrefresh],
      by simp [forgetsAll_iff, hstored, haccess, hrefresh]⟩

/-- A clear fails exactly if a removal is refused, and says which. -/
theorem clear_eq_error_iff (s : Store FaultyMap) (e : StoreError) :
    (s.write .forget).1 = .error e ↔ ∃ k, (k = accessKey ∨ k = refreshKey) ∧
      Refused (s.write .forget).2.1 k ∧ e = ⟨.remove k, .refused "remove" k⟩ := by
  have hne : refreshKey ≠ accessKey := by decide
  rcases s.clear_cases with ⟨hresult, hreports, -⟩ | ⟨hresult, hreports, -⟩ | ⟨hresult, hreports, -⟩
  · simp [hresult, hreports, Refused]
  · simp [hresult, hreports, Refused, hne, eq_comm]
  · simp [hresult, hreports, Refused, hne.symm, eq_comm]

end BandCatalog.Store
