import BandCatalog.Text.Utf8

/-!
# Excerpts

The form in which the body of an answer enters an error text: whole if it is short, else cut where a
character ends, with a notice that gives the length of the whole. The cut is sought backwards from the
limit. A search past the start and a cut inside a character would be errors; neither occurs.
-/
namespace BandCatalog.Text

/-- Bytes of a body that an error text may hold. -/
def excerptLimit : Nat := 500

def excerptNotice (size : Nat) : String := s!"... (truncated, {size} total bytes)"

/-- The last place where a character ends or the text starts, sought one byte at a time from a place
backwards; nothing if the search goes below zero. -/
def boundary? (s : String) : Nat → Option Nat
  | 0 => if (⟨0⟩ : String.Pos.Raw).isValid s then some 0 else none
  | i + 1 => if (⟨i + 1⟩ : String.Pos.Raw).isValid s then some (i + 1) else boundary? s i

/-- The text of the first `n` bytes, unless they end inside a character. -/
def front? (s : String) (n : Nat) : Option String := String.fromUTF8? (s.toUTF8.extract 0 n)

/-- The excerpt of a body; nothing if the cut fails. -/
def excerpt? (body : String) : Option String :=
  let size := byteSize body.toList
  if size ≤ excerptLimit then some body
  else do
    let place ← boundary? body excerptLimit
    let front ← front? body place
    some (front ++ excerptNotice size)

theorem exists_boundary (s : String) (n : Nat) :
    ∃ i, boundary? s n = some i ∧ (⟨i⟩ : String.Pos.Raw).IsValid s := by
  induction n with
  | zero => exact ⟨0, by simp [boundary?], String.Pos.Raw.isValid_zero⟩
  | succ n ih =>
    by_cases hvalid : (⟨n + 1⟩ : String.Pos.Raw).IsValid s
    · exact ⟨n + 1, by simp [boundary?, hvalid], hvalid⟩
    · obtain ⟨i, hi, hboundary⟩ := ih
      exact ⟨i, by simp [boundary?, hvalid, hi], hboundary⟩

theorem exists_front {s : String} {n : Nat} (h : (⟨n⟩ : String.Pos.Raw).IsValid s) :
    ∃ front, front? s n = some front ∧ front.toUTF8 = s.toUTF8.extract 0 n := by
  have hutf8 : (s.toUTF8.extract 0 n).IsValidUTF8 :=
    (String.Pos.Raw.isValid_iff_isValidUTF8_extract_zero.mp h).2
  exact ⟨⟨_, hutf8⟩, fromUTF8?_eq_some.mpr rfl, rfl⟩

theorem isSome_excerpt? (body : String) : (excerpt? body).isSome = true := by
  obtain ⟨i, hi, hboundary⟩ := exists_boundary body excerptLimit
  obtain ⟨front, hfront, -⟩ := exists_front hboundary
  unfold excerpt?
  simp only [hi]
  split
  · rfl
  · simp [hfront]

/-- The excerpt of a body. -/
def excerpt (body : String) : String := (excerpt? body).get (isSome_excerpt? body)

theorem excerpt?_eq (body : String) : excerpt? body = some (excerpt body) := by simp [excerpt]

theorem excerpt_of_le {body : String} (h : byteSize body.toList ≤ excerptLimit) :
    excerpt body = body := by simp [excerpt, excerpt?, h]

end BandCatalog.Text
