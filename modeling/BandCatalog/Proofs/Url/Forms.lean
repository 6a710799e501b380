import BandCatalog.Proofs.Url.Percent
import BandCatalog.Url.Form

/-!
# Forms read back

A form is decoded to the names and values that were encoded, whatever characters they have. A name or value
is written without ampersands and equals signs, so these stand only where pairs and names end.
-/
namespace BandCatalog

theorem Text.decodeLossy_toUTF8 (s : String) : decodeLossy s.toUTF8 = s := by
  rw [decodeLossy, fromUTF8?_toUTF8]

namespace Url.Form

/-- What a form reads for a plus sign. -/
def spaced (cs : List Char) : List Char := cs.map fun c => if c = '+' then ' ' else c

theorem spaced_of_ne {cs : List Char} (h : ∀ c ∈ cs, (c != '+') = true) : spaced cs = cs := by
  refine (List.map_congr_left fun c hc => ?_).trans (List.map_id cs)
  exact if_neg (by simpa using h c hc)

theorem ne_of_isPlain {c d : Char} (hc : isPlain c = true) (hd : isPlain d = false) : c ≠ d := by
  rintro rfl
  exact Bool.noConfusion (hc.symm.trans hd)

/-- A character is decoded to its bytes. -/
theorem percentDecode_encodeChar (c : Char) (r : List Char) :
    percentDecode (spaced (encodeChar c) ++ r) = String.utf8EncodeChar c ++ percentDecode r := by
  unfold encodeChar
  split
  next hspace =>
    rw [hspace]
    exact percentDecode_cons (by decide)
  next =>
    split
    next hplain =>
      have hkept : spaced [c] = [c] := by
        refine spaced_of_ne fun d hd => ?_
        rw [List.mem_singleton.mp hd]
        simpa using ne_of_isPlain hplain (d := '+') rfl
      rw [hkept]
      exact percentDecode_cons (ne_of_isPlain hplain rfl)
    next =>
      rw [spaced_of_ne fun d hd => forall_mem_percentChar (p := (· != '+')) (by decide) hd,
        percentDecode_percentChar]

theorem percentDecode_encodeText (cs : List Char) :
    percentDecode (spaced (cs.flatMap encodeChar)) = cs.flatMap String.utf8EncodeChar := by
  induction cs with
  | nil => rfl
  | cons c cs ih =>
    have happend : spaced ((c :: cs).flatMap encodeChar) =
        spaced (encodeChar c) ++ spaced (cs.flatMap encodeChar) := by
      rw [List.flatMap_cons, spaced, List.map_append]
      rfl
    rw [happend, percentDecode_encodeChar, ih, List.flatMap_cons]

theorem decodeText_encodeText (s : String) : decodeText (encodeText s) = s := by
  have hdecoded := percentDecode_encodeText s.toList
  rw [spaced] at hdecoded
  rw [decodeText, encodeText, hdecoded, ← Text.toUTF8_eq, Text.decodeLossy_toUTF8]

/-- A name or value is written without the marks of a form. -/
theorem not_mem_encodeText {d : Char} (hd : d ∈ ['&', '=']) (s : String) : d ∉ encodeText s := by
  intro hin
  obtain ⟨c, -, hin⟩ := List.mem_flatMap.mp hin
  obtain ⟨hplain, hplus, hdigits⟩ : isPlain d = false ∧ d ≠ '+' ∧
      ('%' :: (List.range 16).map hexDigit).all (· != d) = true := by
    simp only [List.mem_cons, List.not_mem_nil, or_false] at hd
    rcases hd with rfl | rfl
    · exact ⟨rfl, by decide, rfl⟩
    · exact ⟨rfl, by decide, rfl⟩
  unfold encodeChar at hin
  split at hin
  · exact hplus (List.mem_singleton.mp hin)
  · split at hin
    next hc => exact ne_of_isPlain hc hplain (List.mem_singleton.mp hin).symm
    next => simpa using forall_mem_percentChar hdigits hin

theorem decodePair_encodePair (p : String × String) : decodePair (encodePair p) = p := by
  have hname : (encodePair p).takeWhile (· != '=') = encodeText p.1 := by
    have hne : ∀ c ∈ encodeText p.1, (c != '=') = true := by
      intro c hc
      simpa using fun heq : c = '=' => not_mem_encodeText (by simp) p.1 (heq ▸ hc)
    rw [encodePair, List.takeWhile_append_of_pos hne]
    simp
  have hvalue : (encodePair p).drop ((encodeText p.1).length + 1) = encodeText p.2 := by
    rw [encodePair, ← List.drop_drop, List.drop_left]
    rfl
  simp only [decodePair, hname, hvalue, decodeText_encodeText]

theorem encodePair_ne_nil (p : String × String) : encodePair p ≠ [] := by simp [encodePair]

theorem not_mem_encodePair (p : String × String) : '&' ∉ encodePair p := by
  rw [encodePair, List.mem_append, List.mem_cons]
  rintro (h | h | h)
  · exact not_mem_encodeText (by simp) p.1 h
  · cases h
  · exact not_mem_encodeText (by simp) p.2 h

/-- A form is decoded to what was encoded. -/
theorem decode_encode (ps : List (String × String)) : decode (encode ps) = ps := by
  cases ps with
  | nil => rfl
  | cons p ps =>
    have hsplit : (['&'].intercalate ((p :: ps).map encodePair)).splitOn '&' = (p :: ps).map encodePair := by
      refine List.splitOn_intercalate '&' ?_ (by simp)
      intro l hl
      obtain ⟨q, -, rfl⟩ := List.mem_map.mp hl
      exact not_mem_encodePair q
    have hfilter : ((p :: ps).map encodePair).filter (· ≠ []) = (p :: ps).map encodePair := by
      rw [List.filter_eq_self]
      intro l hl
      obtain ⟨q, -, rfl⟩ := List.mem_map.mp hl
      simpa using encodePair_ne_nil q
    rw [decode, encode, String.toList_ofList, hsplit, hfilter, List.map_map]
    exact (List.map_congr_left fun q _ => decodePair_encodePair q).trans (List.map_id _)

end Url.Form

end BandCatalog
