import BandCatalog.Text.Excerpt

/-!
# Where an excerpt ends

No character has more than four bytes, so the search for the cut goes back three bytes at most. What it finds is the
end of the longest prefix of whole characters within the limit. Texts and limits are arbitrary up to the main
statement, which is about the limit of excerpts.
-/
namespace BandCatalog.Text

theorem takeBytes_prefix (n : Nat) (cs : List Char) : takeBytes n cs <+: cs := by
  induction cs generalizing n with
  | nil => exact List.nil_prefix
  | cons c r ih =>
    rw [takeBytes]
    split
    · exact (List.prefix_cons_inj c).mpr (ih _)
    · exact List.nil_prefix

theorem byteSize_takeBytes_le (n : Nat) (cs : List Char) : byteSize (takeBytes n cs) ≤ n := by
  induction cs generalizing n with
  | nil => exact Nat.zero_le n
  | cons c r ih =>
    rw [takeBytes]
    split
    · have hrest := ih (n - c.utf8Size)
      rw [byteSize_cons]
      omega
    · exact Nat.zero_le n

/-- A longer text leaves less than the largest character unused. -/
theorem le_byteSize_takeBytes {n : Nat} {cs : List Char} (h : n ≤ byteSize cs) :
    n ≤ byteSize (takeBytes n cs) + 3 := by
  induction cs generalizing n with
  | nil => exact Nat.le_add_right_of_le h
  | cons c r ih =>
    have hc : c.utf8Size ≤ 4 := c.utf8Size_le_four
    rw [byteSize_cons] at h
    rw [takeBytes]
    split
    · have hrest : n - c.utf8Size ≤ byteSize (takeBytes (n - c.utf8Size) r) + 3 := ih (by omega)
      rw [byteSize_cons]
      omega
    · omega

/-- Every prefix of whole characters within a limit is a prefix of the one that is taken. -/
theorem prefix_takeBytes {n : Nat} {front cs : List Char} (h : front <+: cs) (hsize : byteSize front ≤ n) :
    front <+: takeBytes n cs := by
  induction front generalizing n cs with
  | nil => exact List.nil_prefix
  | cons c front ih =>
    obtain ⟨rest, rfl⟩ := h
    rw [byteSize_cons] at hsize
    rw [List.cons_append, takeBytes, if_pos (by omega)]
    exact (List.prefix_cons_inj c).mpr (ih (List.prefix_append front rest) (by omega))

theorem utf8ByteSize_eq (s : String) : s.utf8ByteSize = byteSize s.toList := by
  obtain ⟨cs, rfl⟩ := s.exists_eq_ofList
  rw [String.toList_ofList]
  induction cs with
  | nil => rfl
  | cons c r ih =>
    rw [String.ofList_cons, String.utf8ByteSize_append, ih, byteSize_cons]
    simp

theorem size_toUTF8 (s : String) : s.toUTF8.size = byteSize s.toList := by
  rw [← utf8ByteSize_eq]
  exact String.size_toByteArray

/-- A place is outside of every character exactly if whole characters come before it. -/
theorem isValid_iff {s : String} {i : Nat} :
    (⟨i⟩ : String.Pos.Raw).IsValid s ↔ ∃ front, front <+: s.toList ∧ byteSize front = i := by
  rw [String.Pos.Raw.isValid_iff_exists_append]
  constructor
  · rintro ⟨front, rest, rfl, hi⟩
    refine ⟨front.toList, by simp, ?_⟩
    rw [← utf8ByteSize_eq]
    exact (congrArg String.Pos.Raw.byteIdx hi).symm
  · rintro ⟨front, ⟨rest, hfront⟩, rfl⟩
    refine ⟨String.ofList front, String.ofList rest, ?_, ?_⟩
    · rw [← String.ofList_append, hfront, String.ofList_toList]
    · rw [String.Pos.Raw.ext_iff, String.byteIdx_rawEndPos, utf8ByteSize_eq, String.toList_ofList]

/-- What the search finds is a boundary, and there is none between it and where the search begins. -/
theorem boundary?_eq_some {s : String} {n i : Nat} (h : (⟨i⟩ : String.Pos.Raw).IsValid s) (hle : i ≤ n)
    (hlast : ∀ j, i < j → j ≤ n → ¬(⟨j⟩ : String.Pos.Raw).IsValid s) : boundary? s n = some i := by
  induction n with
  | zero =>
    obtain rfl : i = 0 := Nat.le_zero.mp hle
    simp [boundary?]
  | succ n ih =>
    rcases Nat.eq_or_lt_of_le hle with rfl | hlt
    · simp [boundary?, h]
    · have hnext : ¬(⟨n + 1⟩ : String.Pos.Raw).IsValid s := hlast (n + 1) hlt (Nat.le_refl _)
      have hfound : boundary? s n = some i :=
        ih (Nat.le_of_lt_succ hlt) fun j hj hjn => hlast j hj (Nat.le_succ_of_le hjn)
      simp [boundary?, hnext, hfound]

/-- The bytes between the end of the characters that are taken and the limit are inside a character. -/
theorem not_isValid_of_lt {s : String} {n j : Nat} (h : byteSize (takeBytes n s.toList) < j) (hj : j ≤ n) :
    ¬(⟨j⟩ : String.Pos.Raw).IsValid s := by
  rw [isValid_iff]
  rintro ⟨front, hfront, rfl⟩
  obtain ⟨more, hmore⟩ := prefix_takeBytes hfront hj
  rw [← hmore, byteSize_append] at h
  omega

theorem boundary?_eq (s : String) (n : Nat) : boundary? s n = some (byteSize (takeBytes n s.toList)) := by
  refine boundary?_eq_some ?_ (byteSize_takeBytes_le n _) fun j => not_isValid_of_lt
  exact isValid_iff.mpr ⟨_, takeBytes_prefix n _, rfl⟩

/-- The bytes up to there are the text of those characters. -/
theorem front?_eq (s : String) (n : Nat) :
    front? s (byteSize (takeBytes n s.toList)) = some (String.ofList (takeBytes n s.toList)) := by
  obtain ⟨rest, hrest⟩ := takeBytes_prefix n s.toList
  generalize takeBytes n s.toList = front at hrest
  have hs : s = String.ofList front ++ String.ofList rest := by
    rw [← String.ofList_append, hrest, String.ofList_toList]
  have hsize : byteSize front = (String.ofList front).toUTF8.size := by
    rw [size_toUTF8, String.toList_ofList]
  rw [front?, fromUTF8?_eq_some, hs, hsize]
  exact ByteArray.extract_append_eq_left rfl

/-- The excerpt of a longer body in closed form. -/
theorem excerpt_of_lt {body : String} (h : excerptLimit < byteSize body.toList) :
    excerpt body = String.ofList (takeBytes excerptLimit body.toList) ++ excerptNotice (byteSize body.toList) := by
  refine Option.some.inj ((excerpt?_eq body).symm.trans ?_)
  simp only [excerpt?, if_neg (Nat.not_le.mpr h), boundary?_eq, Option.bind_eq_bind, Option.bind_some, front?_eq]

/-- An excerpt is always made: the whole of a short body, or the longest prefix of whole characters with at most 500
bytes, found in three steps back at most, and a notice with the length of the whole. -/
theorem excerpt_ends_with_character (body : String) :
    excerpt? body = some (excerpt body) ∧
    (body.toUTF8.size ≤ 500 → excerpt body = body) ∧
    (500 < body.toUTF8.size → ∃ steps front rest, steps ≤ 3 ∧
      (∀ k < steps, ¬(⟨500 - k⟩ : String.Pos.Raw).IsValid body) ∧
      boundary? body 500 = some (500 - steps) ∧ front? body (500 - steps) = some front ∧
      body = front ++ rest ∧ front.toUTF8.size = 500 - steps ∧
      (∀ other left, body = other ++ left → other.toUTF8.size ≤ 500 → ∃ more, front = other ++ more) ∧
      excerpt body = front ++ "... (truncated, " ++ toString body.toUTF8.size ++ " total bytes)") := by
  have hsize : body.toUTF8.size = byteSize body.toList := size_toUTF8 body
  refine ⟨excerpt?_eq body, fun hshort => ?_, fun hlong => ?_⟩
  · exact excerpt_of_le (hsize ▸ hshort)
  · rw [hsize] at hlong
    obtain ⟨taken, htaken⟩ : ∃ taken, byteSize (takeBytes 500 body.toList) = taken := ⟨_, rfl⟩
    have hle : taken ≤ 500 := htaken ▸ byteSize_takeBytes_le 500 body.toList
    have hnear : 500 ≤ taken + 3 := htaken ▸ le_byteSize_takeBytes (Nat.le_of_lt hlong)
    have hplace : 500 - (500 - taken) = taken := by omega
    obtain ⟨rest, hrest⟩ := takeBytes_prefix 500 body.toList
    refine ⟨500 - taken, String.ofList (takeBytes 500 body.toList), String.ofList rest, by omega, ?_, ?_, ?_, ?_,
      ?_, ?_, ?_⟩
    · intro k hk
      exact not_isValid_of_lt (htaken ▸ by omega) (Nat.sub_le 500 k)
    · rw [hplace, ← htaken]
      exact boundary?_eq body 500
    · rw [hplace, ← htaken]
      exact front?_eq body 500
    · rw [← String.ofList_append, hrest, String.ofList_toList]
    · rw [hplace, size_toUTF8, String.toList_ofList, htaken]
    · rintro other left rfl hother
      rw [size_toUTF8] at hother
      obtain ⟨more, hmore⟩ := prefix_takeBytes (List.prefix_append other.toList left.toList) hother
      refine ⟨String.ofList more, ?_⟩
      rw [String.toList_append, ← hmore, String.ofList_append, String.ofList_toList]
    · rw [excerpt_of_lt hlong, hsize, String.append_assoc, String.append_assoc]
      rfl

/-- A character of four bytes at the limit takes all three steps. -/
example : boundary? (String.ofList (List.replicate 497 'a' ++ ['😀'])) 500 = some 497 := by decide +kernel

end BandCatalog.Text
