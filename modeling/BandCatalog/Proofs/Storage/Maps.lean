import BandCatalog.Storage.Memory

/-!
# Maps in order

Every operation on a map keeps its keys in order and apart, and a map whose keys are so is the only one with
its contents that can be read from its own list of entries.
-/
namespace BandCatalog

namespace TextMap

/-- The keys stand in order, each of them once. -/
def Sorted (m : TextMap) : Prop := m.entries.Pairwise fun a b => a.1 < b.1

theorem lt_of_not_lt {j k : String} (h : ¬k < j) (hne : k ≠ j) : j < k := by
  rcases Decidable.em (j < k) with hlt | hge
  · exact hlt
  · exact absurd (String.le_antisymm (String.not_lt.mp hge) (String.not_lt.mp h)) hne

theorem mem_insertInto {k v : String} {es : List (String × String)} {e : String × String}
    (h : e ∈ insertInto k v es) : e.1 = k ∨ e ∈ es := by
  induction es with
  | nil =>
    rw [insertInto, List.mem_singleton] at h
    exact .inl (by rw [h])
  | cons f es ih =>
    obtain ⟨j, w⟩ := f
    rw [insertInto] at h
    split at h
    · rcases List.mem_cons.mp h with rfl | h
      · exact .inl rfl
      · exact .inr h
    · split at h
      · rcases List.mem_cons.mp h with rfl | h
        · exact .inl rfl
        · exact .inr (List.mem_cons_of_mem _ h)
      · rcases List.mem_cons.mp h with rfl | h
        · exact .inr List.mem_cons_self
        · exact (ih h).imp_right (List.mem_cons_of_mem _)

theorem pairwise_insertInto {k v : String} {es : List (String × String)}
    (h : es.Pairwise fun a b => a.1 < b.1) :
    (insertInto k v es).Pairwise fun a b => a.1 < b.1 := by
  induction es with
  | nil => exact List.pairwise_singleton _ _
  | cons e es ih =>
    obtain ⟨j, w⟩ := e
    obtain ⟨hj, hes⟩ := List.pairwise_cons.mp h
    rw [insertInto]
    split
    · next hlt =>
      refine List.pairwise_cons.mpr ⟨?_, h⟩
      intro f hf
      rcases List.mem_cons.mp hf with rfl | hf
      · exact hlt
      · exact String.lt_trans hlt (hj f hf)
    · next hge =>
      split
      · next heq =>
        subst heq
        exact List.pairwise_cons.mpr ⟨hj, hes⟩
      · next hne =>
        refine List.pairwise_cons.mpr ⟨?_, ih hes⟩
        intro f hf
        rcases mem_insertInto hf with hk | hf
        · show j < f.1
          rw [hk]
          exact lt_of_not_lt hge hne
        · exact hj f hf

theorem Sorted.insert {m : TextMap} (h : m.Sorted) (k v : String) : (m.insert k v).Sorted :=
  pairwise_insertInto h

theorem Sorted.erase {m : TextMap} (h : m.Sorted) (k : String) : (m.erase k).Sorted :=
  List.Pairwise.filter _ h

/-- What comes after all that is there goes to the end. -/
theorem insertInto_last {k v : String} {es : List (String × String)} (h : ∀ e ∈ es, e.1 < k) :
    insertInto k v es = es ++ [(k, v)] := by
  induction es with
  | nil => rfl
  | cons e es ih =>
    obtain ⟨j, w⟩ := e
    have hj : j < k := h _ List.mem_cons_self
    have hge : ¬k < j := fun hlt => String.lt_irrefl _ (String.lt_trans hj hlt)
    have hne : k ≠ j := by
      rintro rfl
      exact String.lt_irrefl _ hj
    rw [insertInto, if_neg hge, if_neg hne, ih fun f hf => h f (List.mem_cons_of_mem _ hf)]
    rfl

/-- A map is read from its own entries as it is. -/
theorem ofList_entries {m : TextMap} (h : m.Sorted) : ofList m.entries = m := by
  suffices hfold : ∀ es past : List (String × String), (past ++ es).Pairwise (fun a b => a.1 < b.1) →
      es.foldl (fun m e => m.insert e.1 e.2) ⟨past⟩ = (⟨past ++ es⟩ : TextMap) from hfold _ [] h
  intro es
  induction es with
  | nil =>
    intro past _
    rw [List.append_nil]
    rfl
  | cons e es ih =>
    intro past hpast
    have hlast : ∀ f ∈ past, f.1 < e.1 := by
      intro f hf
      exact (List.pairwise_append.mp hpast).2.2 f hf e List.mem_cons_self
    have hnext : (⟨past⟩ : TextMap).insert e.1 e.2 = ⟨past ++ [e]⟩ := by
      rw [insert, insertInto_last hlast]
    rw [List.foldl_cons, hnext, ih _ (by simpa using hpast)]
    simp

/-- Nothing is taken from a map that lacks the key. -/
theorem erase_of_get? {m : TextMap} {k : String} (h : m.get? k = none) : m.erase k = m := by
  have hall : ∀ e ∈ m.entries, e.1 ≠ k := by
    rintro ⟨j, v⟩ he rfl
    have hsome := List.lookup_eq_none_iff.mp h _ he
    simp at hsome
  rw [erase, List.filter_eq_self.mpr (by simpa using hall)]

end TextMap

end BandCatalog
