import BandCatalog.Url.Percent

/-!
# Percent encoding undone

A byte that was percent-encoded is decoded to itself, whatever follows it, and what is written for a character
never passes for a dot that was one.
-/
namespace BandCatalog.Url

theorem hexValue?_hexDigit {n : Nat} (h : n < 16) : hexValue? (hexDigit n) = some n := by
  have hall : ∀ n < 16, hexValue? (hexDigit n) = some n := by decide
  exact hall n h

/-- Every digit stands for one number. -/
theorem eq_of_hexDigit {n k : Nat} {c : Char} (h : n < 16) (hc : hexDigit n = c)
    (hk : hexValue? c = some k) : n = k := by
  rw [← hc, hexValue?_hexDigit h] at hk
  exact Option.some.inj hk

section decoding

variable {r : List Char}

theorem percentDecode_percentByte (b : UInt8) : percentDecode (percentByte b ++ r) = b :: percentDecode r := by
  have hb : b.toNat < 256 := b.toNat_lt
  have hhigh := hexValue?_hexDigit (n := b.toNat / 16) (by omega)
  have hlow := hexValue?_hexDigit (n := b.toNat % 16) (by omega)
  have hvalue : b.toNat / 16 * 16 + b.toNat % 16 = b.toNat := by omega
  simp [percentByte, percentDecode, hhigh, hlow, hvalue]

theorem percentDecode_percentChar (c : Char) :
    percentDecode (percentChar c ++ r) = String.utf8EncodeChar c ++ percentDecode r := by
  unfold percentChar
  induction String.utf8EncodeChar c with
  | nil => rfl
  | cons b bs ih => rw [List.flatMap_cons, List.append_assoc, percentDecode_percentByte, ih, List.cons_append]

/-- A character that is no percent sign is decoded to its own bytes. -/
theorem percentDecode_cons {c : Char} (h : c ≠ '%') :
    percentDecode (c :: r) = String.utf8EncodeChar c ++ percentDecode r := by
  rw [percentDecode]
  rintro a b r rfl
  exact absurd rfl h

end decoding

/-- The first byte of a character is the one of a dot only for a dot. -/
theorem exists_utf8EncodeChar (c : Char) :
    ∃ b bs, String.utf8EncodeChar c = b :: bs ∧ (b.toNat = 0x2E → c = '.') := by
  have hdot : c.val.toNat = 0x2E → c = '.' := fun h => Char.toNat_inj.mp h
  unfold String.utf8EncodeChar
  simp only
  split
  · refine ⟨_, _, rfl, fun h => hdot ?_⟩
    rw [UInt8.toNat_ofNat'] at h
    omega
  · split
    · refine ⟨_, _, rfl, fun h => ?_⟩
      rw [UInt8.toNat_ofNat'] at h
      omega
    · split
      · refine ⟨_, _, rfl, fun h => ?_⟩
        rw [UInt8.toNat_ofNat'] at h
        omega
      · refine ⟨_, _, rfl, fun h => ?_⟩
        rw [UInt8.toNat_ofNat'] at h
        omega

/-- What is written for a character starts as a percent-encoded dot only for a dot. -/
theorem percentChar_ne_dot {c e : Char} {r r' : List Char} (hc : c ≠ '.') (he : e = 'e' ∨ e = 'E') :
    percentChar c ++ r ≠ '%' :: '2' :: e :: r' := by
  obtain ⟨b, bs, hbytes, hdot⟩ := exists_utf8EncodeChar c
  intro heq
  simp only [percentChar, hbytes, List.flatMap_cons, percentByte, List.cons_append, List.cons.injEq,
    true_and] at heq
  obtain ⟨hhigh, hlow, -⟩ := heq
  have hb : b.toNat < 256 := b.toNat_lt
  have htwo : b.toNat / 16 = 2 := eq_of_hexDigit (by omega) hhigh rfl
  have hfourteen : b.toNat % 16 = 14 := by
    refine eq_of_hexDigit (by omega) hlow ?_
    rcases he with rfl | rfl <;> rfl
  exact hc (hdot (by omega))

/-- Every encoded character starts with a percent sign. -/
theorem exists_percentChar (c : Char) : ∃ r, percentChar c = '%' :: r := by
  obtain ⟨b, bs, hbytes, -⟩ := exists_utf8EncodeChar c
  exact ⟨_, by rw [percentChar, hbytes, List.flatMap_cons, percentByte]; rfl⟩

theorem mem_percentChar {c d : Char} (h : c ∈ percentChar d) : c = '%' ∨ ∃ n < 16, c = hexDigit n := by
  obtain ⟨b, -, h⟩ := List.mem_flatMap.mp h
  have hb : b.toNat < 256 := b.toNat_lt
  simp only [percentByte, List.mem_cons, List.not_mem_nil, or_false] at h
  rcases h with rfl | rfl | rfl
  · exact .inl rfl
  · exact .inr ⟨_, by omega, rfl⟩
  · exact .inr ⟨_, by omega, rfl⟩

/-- What holds of the percent sign and of all digits holds of what is written for a character. -/
theorem forall_mem_percentChar {p : Char → Bool}
    (h : ('%' :: (List.range 16).map hexDigit).all p = true) {c d : Char} (hc : c ∈ percentChar d) :
    p c = true := by
  refine List.all_eq_true.mp h c ?_
  rcases mem_percentChar hc with rfl | ⟨n, hn, rfl⟩
  · exact List.mem_cons_self
  · exact List.mem_cons_of_mem _ (List.mem_map_of_mem (List.mem_range.mpr hn))

end BandCatalog.Url
