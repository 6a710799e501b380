import BandCatalog.Json.Token

/-!
# Lexemes read back

What the scanner makes of the text of one token: that token, as long as what follows cannot go on with it.
Numbers are read by their digits, strings piece by piece.
-/
namespace BandCatalog.Json

section digits

variable {ds r : List Char}

theorem takeWhile_digits (hds : ∀ c ∈ ds, c.isDigit = true)
    (hr : ∀ c, r.head? = some c → c.isDigit = false) : (ds ++ r).takeWhile Char.isDigit = ds := by
  rw [List.takeWhile_append_of_pos hds]
  cases r with
  | nil => simp
  | cons c r => simp [hr c rfl]

theorem dropWhile_digits (hds : ∀ c ∈ ds, c.isDigit = true)
    (hr : ∀ c, r.head? = some c → c.isDigit = false) : (ds ++ r).dropWhile Char.isDigit = r := by
  rw [List.dropWhile_append_of_pos hds]
  cases r with
  | nil => simp
  | cons c r => simp [hr c rfl]

end digits

theorem isDigit_of_mem_toDigits {n : Nat} {c : Char} (hc : c ∈ Nat.toDigits 10 n) :
    c.isDigit = true := Nat.isDigit_of_mem_toDigits (by decide) (by decide) hc

theorem exists_toDigits (n : Nat) :
    ∃ c cs, Nat.toDigits 10 n = c :: cs ∧ c.isDigit = true := by
  obtain ⟨c, cs, hdigits⟩ := List.exists_cons_of_ne_nil (Nat.toDigits_ne_nil (n := n) (b := 10))
  have hc : c ∈ Nat.toDigits 10 n := by
    rw [hdigits]
    exact List.mem_cons_self
  exact ⟨c, cs, hdigits, isDigit_of_mem_toDigits hc⟩

/-- Only zero is written with a zero in front. -/
theorem eq_zero_of_head_toDigits (n : Nat) (h : (Nat.toDigits 10 n).head? = some '0') : n = 0 := by
  induction n using Nat.strongRecOn with
  | _ n ih =>
    rw [Nat.toDigits_eq_if (by decide)] at h
    split at h
    · simpa using h
    · next hn =>
      have hne : Nat.toDigits 10 (n / 10) ≠ [] := Nat.toDigits_ne_nil
      rw [List.head?_append, List.head?_eq_some_head hne, Option.some_or,
        ← List.head?_eq_some_head hne] at h
      have hzero : n / 10 = 0 := ih (n / 10) (by omega) h
      omega

theorem digit_digitChar : ∀ d : Fin 10, digit (Nat.digitChar d.val) = d := by decide

theorem isDigit_digitChar : ∀ d : Fin 10, (Nat.digitChar d.val).isDigit = true := by decide

namespace Number

/-- What is written of a number after its whole part. -/
def fractionChars (n : Number) : List Char :=
  if n.fraction = [] then [] else '.' :: n.fraction.map fun d => Nat.digitChar d.val

def exponentChars (n : Number) : List Char :=
  match n.exponent with
  | none => []
  | some e => 'e' :: (if e < 0 then '-' else '+') :: Nat.toDigits 10 e.natAbs

theorem toChars_eq (n : Number) :
    n.toChars = (if n.negative then ['-'] else []) ++
      (Nat.toDigits 10 n.whole ++ (n.fractionChars ++ n.exponentChars)) := by
  rw [toChars, List.append_assoc, List.append_assoc]
  rfl

theorem exponent?_exponentChars (n : Number) : exponent? n.exponentChars = some n.exponent := by
  unfold exponentChars
  cases n.exponent with
  | none => rfl
  | some e =>
    let ds := Nat.toDigits 10 e.natAbs
    have hds : ds ≠ [] ∧ ds.all Char.isDigit = true :=
      ⟨Nat.toDigits_ne_nil, List.all_eq_true.mpr fun c hc => isDigit_of_mem_toDigits hc⟩
    have hvalue : Nat.ofDigitChars 10 ds 0 = e.natAbs := Nat.ofDigitChars_ten_toDigits
    show exponent? ('e' :: (if e < 0 then '-' else '+') :: ds) = some (some e)
    by_cases he : e < 0
    · have hsign : -(e.natAbs : Int) = e := by omega
      rw [if_pos he]
      show (if ds ≠ [] ∧ ds.all Char.isDigit = true then
        some (some (-(Nat.ofDigitChars 10 ds 0 : Int))) else none) = some (some e)
      rw [if_pos hds, hvalue, hsign]
    · have hsign : (e.natAbs : Int) = e := by omega
      rw [if_neg he]
      show (if ds ≠ [] ∧ ds.all Char.isDigit = true then
        some (some (Nat.ofDigitChars 10 ds 0 : Int)) else none) = some (some e)
      rw [if_pos hds, hvalue, hsign]

theorem head_exponentChars {n : Number} {c : Char} (h : n.exponentChars.head? = some c) : c = 'e' := by
  unfold exponentChars at h
  split at h
  · cases h
  · simpa using h.symm

/-- The number that a lexeme without sign is. -/
def unsigned? (negative : Bool) (cs : List Char) : Option Number :=
  let whole := cs.takeWhile Char.isDigit
  let rest := cs.dropWhile Char.isDigit
  if whole = [] ∨ (whole.head? = some '0' ∧ whole ≠ ['0']) then none
  else
    let pointed := rest.head? == some '.'
    let fraction := if pointed then rest.tail.takeWhile Char.isDigit else []
    let rest := if pointed then rest.tail.dropWhile Char.isDigit else rest
    if pointed ∧ fraction = [] then none
    else (exponent? rest).map fun e =>
      ⟨negative, Nat.ofDigitChars 10 whole 0, fraction.map digit, e⟩

theorem ofChars?_minus (cs : List Char) : ofChars? ('-' :: cs) = unsigned? true cs := rfl

theorem ofChars?_of_head {cs : List Char} (h : cs.head? ≠ some '-') :
    ofChars? cs = unsigned? false cs := by
  have hsign : (cs.head? == some '-') = false := by simpa using h
  simp only [ofChars?, unsigned?, hsign, Bool.false_eq_true, if_false]

theorem unsigned?_digits (negative : Bool) (n : Number) :
    unsigned? negative (Nat.toDigits 10 n.whole ++ (n.fractionChars ++ n.exponentChars)) =
      some ⟨negative, n.whole, n.fraction, n.exponent⟩ := by
  have hdigits : ∀ c ∈ Nat.toDigits 10 n.whole, c.isDigit = true :=
    fun c hc => isDigit_of_mem_toDigits hc
  have hexponent : ∀ c, n.exponentChars.head? = some c → c.isDigit = false := by
    intro c hc
    rw [head_exponentChars hc]
    rfl
  have hafter : ∀ c, (n.fractionChars ++ n.exponentChars).head? = some c → c.isDigit = false := by
    unfold fractionChars
    split
    · exact hexponent
    · rintro c ⟨⟩
      rfl
  have hwhole : ¬(Nat.toDigits 10 n.whole = [] ∨
      ((Nat.toDigits 10 n.whole).head? = some '0' ∧ Nat.toDigits 10 n.whole ≠ ['0'])) := by
    rintro (hnil | ⟨hhead, hlong⟩)
    · exact Nat.toDigits_ne_nil hnil
    · rw [eq_zero_of_head_toDigits _ hhead] at hlong
      exact hlong rfl
  simp only [unsigned?, takeWhile_digits hdigits hafter, dropWhile_digits hdigits hafter,
    if_neg hwhole, Nat.ofDigitChars_ten_toDigits]
  by_cases hfraction : n.fraction = []
  · have hpoint : (n.exponentChars.head? == some '.') = false := by
      rw [beq_eq_false_iff_ne]
      intro hc
      cases head_exponentChars hc
    simp [fractionChars, hfraction, hpoint, exponent?_exponentChars]
  · have hread : ∀ c ∈ n.fraction.map fun d => Nat.digitChar d.val, c.isDigit = true := by
      simp only [List.mem_map]
      rintro _ ⟨d, -, rfl⟩
      exact isDigit_digitChar d
    have hdigit : (n.fraction.map fun d => Nat.digitChar d.val).map digit = n.fraction := by
      simp [Function.comp_def, digit_digitChar]
    simp only [fractionChars, List.cons_append, List.head?_cons, List.tail_cons,
      beq_self_eq_true, if_true, takeWhile_digits hread hexponent,
      dropWhile_digits hread hexponent, List.map_eq_nil_iff, hfraction, and_false, if_false,
      exponent?_exponentChars, Option.map_some, hdigit]

/-- A number is read back as it was written. -/
theorem ofChars?_toChars (n : Number) : ofChars? n.toChars = some n := by
  rw [toChars_eq]
  cases hneg : n.negative with
  | true =>
    rw [if_pos rfl, List.singleton_append, ofChars?_minus, unsigned?_digits, ← hneg]
  | false =>
    have hhead :
        (Nat.toDigits 10 n.whole ++ (n.fractionChars ++ n.exponentChars)).head? ≠ some '-' := by
      obtain ⟨c, cs, hdigits, hc⟩ := exists_toDigits n.whole
      rw [hdigits]
      rintro ⟨⟩
      cases hc
    rw [if_neg (by decide), List.nil_append, ofChars?_of_head hhead, unsigned?_digits, ← hneg]

end Number

section steps

variable (ps : List Piece) (c : Char) (cs r : List Char)

theorem scan_cons : scan (c :: r) = (do
    let (ts, l) ← start c
    (ts ++ ·) <$> scanFrom l r) := rfl

theorem scan_quote : scan ('"' :: r) = scanFrom (.text []) r := by
  have hstart : start '"' = some ([], .text []) := rfl
  rw [scan_cons, hstart]
  simp

theorem scanFrom_quote : scanFrom (.text ps) ('"' :: r) =
    (.text ((Piece.join none ps.reverse).map String.ofList) :: ·) <$> scan r := rfl

theorem scanFrom_code (a b c d : Char) : scanFrom (.text ps) ('\\' :: 'u' :: a :: b :: c :: d :: r) = (do
    let a ← hexValue? a
    let b ← hexValue? b
    let c ← hexValue? c
    let d ← hexValue? d
    scanFrom (.text (.unit (((a * 16 + b) * 16 + c) * 16 + d) :: ps)) r) := rfl

theorem scanFrom_word_cons : scanFrom (.word cs) (c :: r) =
    if c.isLower then scanFrom (.word (c :: cs)) r
    else (do
      let t ← (Lexeme.word cs).close
      let (ts, l) ← start c
      (t ++ ts ++ ·) <$> scanFrom l r) := rfl

theorem scanFrom_number_cons : scanFrom (.number cs) (c :: r) =
    if isNumeric c then scanFrom (.number (c :: cs)) r
    else (do
      let t ← (Lexeme.number cs).close
      let (ts, l) ← start c
      (t ++ ts ++ ·) <$> scanFrom l r) := rfl

end steps

theorem scanFrom_escape (ps : List Piece) {c d : Char} (r : List Char) (hu : d ≠ 'u')
    (hread : unescape? d = some c) :
    scanFrom (.text ps) ('\\' :: d :: r) = scanFrom (.text (.char c :: ps)) r := by
  simp [scanFrom, hu, hread]

theorem scanFrom_plain (ps : List Piece) {c : Char} (r : List Char) (hquote : c ≠ '"')
    (hslash : c ≠ '\\') (hspace : ¬c.toNat < 0x20) :
    scanFrom (.text ps) (c :: r) = scanFrom (.text (.char c :: ps)) r := by
  simp [scanFrom, hslash, hspace]

/-- A lexeme that nothing goes on with is the token it closes as. -/
theorem scanFrom_ended {l : Lexeme} {t : Token} {r : List Char} (hclose : l.close = some [t])
    (hnext : ∀ c cs, r = c :: cs → scanFrom l (c :: cs) = (do
      let t ← l.close
      let (ts, l) ← start c
      (t ++ ts ++ ·) <$> scanFrom l cs)) :
    scanFrom l r = (t :: ·) <$> scan r := by
  cases r with
  | nil =>
    have hnil : scanFrom l [] = l.close := by cases l <;> rfl
    rw [hnil, hclose]
    rfl
  | cons c cs =>
    rw [hnext c cs rfl, hclose, scan_cons]
    cases start c with
    | none => rfl
    | some p => simp [Function.comp_def]

theorem hexValue?_hexChar : ∀ d < 16, hexValue? (hexChar d) = some d := by decide

/-- A character is written by an escape of two characters, by its code, or as it is. -/
theorem escape_cases (c : Char) :
    (∃ d, d ≠ 'u' ∧ unescape? d = some c ∧ escape c = ['\\', d]) ∨
    (c.toNat < 0x20 ∧
      escape c = ['\\', 'u', '0', '0', hexChar (c.toNat / 16), hexChar (c.toNat % 16)]) ∨
    (c ≠ '"' ∧ c ≠ '\\' ∧ ¬c.toNat < 0x20 ∧ escape c = [c]) := by
  unfold escape
  split
  · next h => exact .inl ⟨'"', by decide, by rw [h]; rfl, rfl⟩
  split
  · next h => exact .inl ⟨'\\', by decide, by rw [h]; rfl, rfl⟩
  split
  · next h => exact .inl ⟨'n', by decide, by rw [h]; rfl, rfl⟩
  split
  · next h => exact .inl ⟨'r', by decide, by rw [h]; rfl, rfl⟩
  split
  · next h => exact .inl ⟨'t', by decide, by rw [h]; rfl, rfl⟩
  split
  · next h => exact .inl ⟨'b', by decide, by rw [h]; rfl, rfl⟩
  split
  · next h => exact .inl ⟨'f', by decide, by rw [h]; rfl, rfl⟩
  split
  · next h => exact .inr (.inl ⟨h, rfl⟩)
  · next hquote hslash _ _ _ _ _ hspace => exact .inr (.inr ⟨hquote, hslash, hspace, rfl⟩)

/-- However a character is written, the scanner makes one piece of it. -/
theorem exists_piece (c : Char) :
    ∃ p, (∀ ps r, scanFrom (.text ps) (escape c ++ r) = scanFrom (.text (p :: ps)) r) ∧
      ∀ r, Piece.join none (p :: r) = (c :: ·) <$> Piece.join none r := by
  rcases escape_cases c with ⟨d, hd, hread, hescape⟩ | ⟨hspace, hescape⟩ |
    ⟨hquote, hslash, hspace, hescape⟩
  · refine ⟨.char c, ?_, by simp [Piece.join]⟩
    intro ps r
    rw [hescape]
    exact scanFrom_escape ps r hd hread
  · have high : hexValue? (hexChar (c.toNat / 16)) = some (c.toNat / 16) :=
      hexValue?_hexChar _ (by omega)
    have low : hexValue? (hexChar (c.toNat % 16)) = some (c.toNat % 16) :=
      hexValue?_hexChar _ (by omega)
    have zero : hexValue? '0' = some 0 := by decide
    have code : c.toNat / 16 * 16 + c.toNat % 16 = c.toNat := by omega
    have hhigh : isHighUnit c.toNat = false := by
      simp only [isHighUnit, Bool.and_eq_false_iff, decide_eq_false_iff_not]
      omega
    have hlow : isLowUnit c.toNat = false := by
      simp only [isLowUnit, Bool.and_eq_false_iff, decide_eq_false_iff_not]
      omega
    refine ⟨.unit c.toNat, ?_, by simp [Piece.join, hhigh, hlow]⟩
    intro ps r
    rw [hescape, List.cons_append, List.cons_append, List.cons_append, List.cons_append,
      List.cons_append, List.singleton_append, scanFrom_code, high, low, zero]
    simp [code]
  · refine ⟨.char c, ?_, by simp [Piece.join]⟩
    intro ps r
    rw [hescape]
    exact scanFrom_plain ps r hquote hslash hspace

/-- The characters of a literal, up to its closing quote. -/
theorem exists_pieces (cs : List Char) :
    ∃ qs, (∀ ps r, scanFrom (.text ps) (cs.flatMap escape ++ r) =
        scanFrom (.text (qs.reverse ++ ps)) r) ∧ Piece.join none qs = some cs := by
  induction cs with
  | nil => exact ⟨[], by simp, rfl⟩
  | cons c cs ih =>
    obtain ⟨p, hscan, hjoin⟩ := exists_piece c
    obtain ⟨qs, hscans, hjoins⟩ := ih
    refine ⟨p :: qs, ?_, by rw [hjoin, hjoins]; rfl⟩
    intro ps r
    rw [List.flatMap_cons, List.append_assoc, hscan, hscans]
    simp

theorem scan_text (s : String) (r : List Char) :
    scan ('"' :: (s.toList.flatMap escape ++ '"' :: r)) = (.text (some s) :: ·) <$> scan r := by
  obtain ⟨qs, hscan, hjoin⟩ := exists_pieces s.toList
  rw [scan_quote, hscan, List.append_nil, scanFrom_quote, List.reverse_reverse, hjoin,
    Option.map_some, String.ofList_toList]

/-- Texts that end the lexeme before them. -/
def Ends (r : List Char) : Prop := ∀ c, r.head? = some c → c.isLower = false ∧ isNumeric c = false

/-- Lexemes that the next character may go on with. -/
def Token.isOpen : Token → Bool
  | .null => true
  | .bool _ => true
  | .number _ => true
  | _ => false

theorem ends_nil : Ends [] := by
  intro c h
  cases h

theorem ends_cons {c : Char} {r : List Char} (hlower : c.isLower = false)
    (hnumeric : isNumeric c = false) : Ends (c :: r) := by
  rintro d ⟨⟩
  exact ⟨hlower, hnumeric⟩

theorem scanFrom_word (cs : List Char) {ds r : List Char} {t : Token}
    (hds : ∀ c ∈ ds, c.isLower = true) (hr : Ends r) (ht : word? (cs.reverse ++ ds) = some t) :
    scanFrom (.word cs) (ds ++ r) = (t :: ·) <$> scan r := by
  induction ds generalizing cs with
  | nil =>
    rw [List.append_nil] at ht
    refine scanFrom_ended (by rw [Lexeme.close, ht]; rfl) ?_
    rintro c r rfl
    rw [scanFrom_word_cons, (hr c rfl).1, if_neg Bool.false_ne_true]
  | cons d ds ih =>
    have hd : d.isLower = true := hds d (by simp)
    have hnext := ih (d :: cs) (fun c hc => hds c (by simp [hc])) (by simpa using ht)
    rw [List.cons_append, scanFrom_word_cons, if_pos hd, hnext]

theorem scanFrom_number (cs : List Char) {ds r : List Char} {n : Number}
    (hds : ∀ c ∈ ds, isNumeric c = true) (hr : Ends r)
    (hn : Number.ofChars? (cs.reverse ++ ds) = some n) :
    scanFrom (.number cs) (ds ++ r) = (.number n :: ·) <$> scan r := by
  induction ds generalizing cs with
  | nil =>
    rw [List.append_nil] at hn
    refine scanFrom_ended (by rw [Lexeme.close, hn]; rfl) ?_
    rintro c r rfl
    rw [scanFrom_number_cons, (hr c rfl).2, if_neg Bool.false_ne_true]
  | cons d ds ih =>
    have hd : isNumeric d = true := hds d (by simp)
    have hnext := ih (d :: cs) (fun c hc => hds c (by simp [hc])) (by simpa using hn)
    rw [List.cons_append, scanFrom_number_cons, if_pos hd, hnext]

theorem isNumeric_of_isDigit {c : Char} (h : c.isDigit = true) : isNumeric c = true := by
  simp [isNumeric, h]

theorem isNumeric_toChars (n : Number) : ∀ c ∈ n.toChars, isNumeric c = true := by
  have hdigits : ∀ m, ∀ c ∈ Nat.toDigits 10 m, isNumeric c = true :=
    fun m c hc => isNumeric_of_isDigit (isDigit_of_mem_toDigits hc)
  intro c hc
  rw [Number.toChars_eq, List.mem_append, List.mem_append, List.mem_append] at hc
  rcases hc with hc | hc | hc | hc
  · split at hc
    · rw [List.mem_singleton.mp hc]
      rfl
    · cases hc
  · exact hdigits _ c hc
  · unfold Number.fractionChars at hc
    split at hc
    · cases hc
    · rcases List.mem_cons.mp hc with rfl | hc
      · rfl
      · obtain ⟨d, -, rfl⟩ := List.mem_map.mp hc
        exact isNumeric_of_isDigit (isDigit_digitChar d)
  · unfold Number.exponentChars at hc
    split at hc
    · cases hc
    · rcases List.mem_cons.mp hc with rfl | hc
      · rfl
      rcases List.mem_cons.mp hc with rfl | hc
      · split <;> rfl
      · exact hdigits _ c hc

/-- A number starts with its sign or with a digit. -/
theorem exists_toChars (n : Number) :
    ∃ c cs, n.toChars = c :: cs ∧ (c.isDigit = true ∨ c = '-') := by
  rw [Number.toChars_eq]
  cases n.negative with
  | true => exact ⟨'-', _, rfl, .inr rfl⟩
  | false =>
    obtain ⟨c, cs, hdigits, hc⟩ := exists_toDigits n.whole
    refine ⟨c, cs ++ (n.fractionChars ++ n.exponentChars), ?_, .inl hc⟩
    rw [hdigits]
    rfl

theorem scan_number (n : Number) {r : List Char} (hr : Ends r) :
    scan (n.toChars ++ r) = (.number n :: ·) <$> scan r := by
  obtain ⟨c, cs, hchars, hc⟩ := exists_toChars n
  have hopen : start c = some ([], .number [c]) := by
    have hspace : isSpace c = false := by
      rcases hc with hc | rfl
      · rw [← Bool.not_eq_true]
        intro hs
        simp only [isSpace, Bool.or_eq_true, beq_iff_eq] at hs
        rcases hs with ((rfl | rfl) | rfl) | rfl <;> cases hc
      · rfl
    have hquote : c ≠ '"' := by
      rintro rfl
      rcases hc with hc | hc <;> cases hc
    rw [start, hspace]
    simp [hquote, hc]
  have hread := Number.ofChars?_toChars n
  have hnumeric := isNumeric_toChars n
  rw [hchars] at hread hnumeric
  have hscan := scanFrom_number [c] (fun d hd => hnumeric d (List.mem_cons_of_mem c hd)) hr hread
  rw [hchars, List.cons_append, scan_cons, hopen]
  simpa using hscan

/-- The scanner reads a token that is followed by what ends it. -/
theorem scan_token (t : Token) {r : List Char} (hr : t.isOpen = true → Ends r) :
    scan (t.toChars ++ r) = (t :: ·) <$> scan r := by
  have hword : ∀ {c : Char} {cs : List Char}, t.isOpen = true → cs.all Char.isLower = true →
      word? (c :: cs) = some t → start c = some ([], .word [c]) →
      scan (c :: (cs ++ r)) = (t :: ·) <$> scan r := by
    intro c cs hopen hcs hread hstart
    have hscan := scanFrom_word [c] (List.all_eq_true.mp hcs) (hr hopen) hread
    rw [scan_cons, hstart]
    simpa using hscan
  cases t with
  | null => exact hword rfl rfl rfl rfl
  | bool b => cases b <;> exact hword rfl rfl rfl rfl
  | number n => exact scan_number n (hr rfl)
  | text s =>
    cases s with
    | some s => simpa [Token.toChars] using scan_text s r
    | none =>
      have hd : hexValue? 'd' = some 13 := by decide
      have h8 : hexValue? '8' = some 8 := by decide
      have h0 : hexValue? '0' = some 0 := by decide
      have hjoin : Piece.join none [.unit 0xD800] = none := rfl
      simp [Token.toChars, scan_quote, scanFrom_code, scanFrom_quote, hd, h8, h0, hjoin]
  | _ => rfl

theorem scan_spaces {ws r : List Char} (hws : ∀ c ∈ ws, isSpace c = true) :
    scan (ws ++ r) = scan r := by
  induction ws with
  | nil => rfl
  | cons c ws ih =>
    have hc : isSpace c = true := hws c (by simp)
    have hnext := ih fun d hd => hws d (by simp [hd])
    have hstart : start c = some ([], .gap) := by rw [start, if_pos hc]
    rw [← hnext, List.cons_append, scan_cons, hstart]
    simp [scan]

end BandCatalog.Json
