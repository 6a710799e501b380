import BandCatalog.Json.Printer
import BandCatalog.Json.Reader
import BandCatalog.Proofs.Json.Lexemes

/-!
# Values read back

A value written in any form, with any white space that a form may have, is read as the value that it was,
numbers digit for digit and members in their order, repeated and unreadable ones included. The scanner
recovers the tokens (`scans_spaced`), and the reader the value (`run_spaced`), each by one induction on
values, lists of items and lists of members.
-/
namespace BandCatalog.Json

/-- The text of some tokens. -/
def chars (ts : List Spaced) : List Char := ts.flatMap fun t => t.1 ++ t.2.toChars

/-- Tokens that the scanner reads back, whatever follows that ends them. -/
def Scans (ts : List Spaced) : Prop :=
  ∀ r, Ends r → scan (chars ts ++ r) = (ts.map Prod.snd ++ ·) <$> scan r

/-- Tokens that end the lexeme before them. -/
def Stops (ts : List Spaced) : Prop := ∀ r, Ends r → Ends (chars ts ++ r)

section scans

variable {ts us : List Spaced} {ws : List Char} {t : Token}

theorem Stops.nil : Stops [] := fun _ hr => hr

theorem Stops.append (hts : Stops ts) (hus : Stops us) : Stops (ts ++ us) := by
  intro r hr
  rw [chars, List.flatMap_append, List.append_assoc]
  exact hts _ (hus r hr)

/-- White space and marks are neither lower case letters nor parts of numbers. -/
theorem Stops.mark (hws : ∀ c ∈ ws, isSpace c = true) (ht : t ∈ [.comma, .endArray, .endObject]) :
    Stops ((ws, t) :: ts) := by
  intro r _
  cases ws with
  | nil =>
    simp only [List.mem_cons, List.not_mem_nil, or_false] at ht
    rcases ht with rfl | rfl | rfl <;> exact ends_cons (by decide) (by decide)
  | cons c ws =>
    have hc : isSpace c = true := hws c List.mem_cons_self
    simp only [isSpace, Bool.or_eq_true, beq_iff_eq] at hc
    rcases hc with ((rfl | rfl) | rfl) | rfl <;> exact ends_cons (by decide) (by decide)

theorem Scans.nil : Scans [] := by
  intro r _
  simp [chars]

theorem Scans.append (hts : Scans ts) (hus : Scans us) (hstop : Stops us) : Scans (ts ++ us) := by
  intro r hr
  rw [chars, List.flatMap_append, List.append_assoc]
  have hfront := hts (chars us ++ r) (hstop r hr)
  rw [hus r hr] at hfront
  rw [List.map_append]
  simpa [chars, Function.comp_def] using hfront

theorem Scans.token (hws : ∀ c ∈ ws, isSpace c = true) : Scans [(ws, t)] := by
  intro r hr
  have hscan := scan_token t fun _ => hr
  simpa [chars, scan_spaces hws] using hscan

/-- A token that nothing can go on with needs no end. -/
theorem Scans.cons (hws : ∀ c ∈ ws, isSpace c = true) (ht : t.isOpen = false) (hts : Scans ts) :
    Scans ((ws, t) :: ts) := by
  intro r hr
  have hscan := scan_token t (r := chars ts ++ r) (by simp [ht])
  rw [hts r hr] at hscan
  simpa [chars, scan_spaces hws, Function.comp_def] using hscan

end scans

/-- A form whose white space is white space. -/
structure Spacing.Blank (s : Spacing) : Prop where
  line : ∀ depth, ∀ c ∈ s.line depth, isSpace c = true
  gap : ∀ c ∈ s.gap, isSpace c = true

theorem blank_compact : Spacing.compact.Blank where
  line := by simp [Spacing.compact]
  gap := by simp [Spacing.compact]

theorem blank_indented : Spacing.indented.Blank where
  line := by
    intro depth c hc
    rcases List.mem_cons.mp hc with rfl | hc
    · rfl
    · rw [List.eq_of_mem_replicate hc]
      rfl
  gap := by simp [Spacing.indented, isSpace]

section values

variable {s : Spacing}

/-- What follows a value in its container ends it. -/
theorem stops_spacedItems (vs : List Json) (depth : Nat) : Stops (spacedItems s depth vs) := by
  cases vs with
  | nil =>
    rw [spacedItems]
    exact .nil
  | cons v vs =>
    rw [spacedItems]
    exact Stops.append (.mark (by simp) (by simp)) (stops_spacedItems vs depth)

theorem stops_spacedMembers (ms : List (String × Json)) (depth : Nat) :
    Stops (spacedMembers s depth ms) := by
  cases ms with
  | nil =>
    rw [spacedMembers]
    exact .nil
  | cons m ms =>
    rw [spacedMembers]
    exact Stops.append (.mark (by simp) (by simp)) (stops_spacedMembers ms depth)

mutual

/-- A value written in any form is scanned as its tokens. -/
theorem scans_spaced (hs : s.Blank) (v : Json) (depth : Nat) (before : List Char)
    (hbefore : ∀ c ∈ before, isSpace c = true) : Scans (spaced s depth before v) := by
  match v with
  | .null => exact .token hbefore
  | .bool b => exact .token hbefore
  | .number n => exact .token hbefore
  | .text t => exact .token hbefore
  | .unreadable => exact .token hbefore
  | .array [] => exact .cons hbefore rfl (.token (by simp))
  | .array (v :: vs) =>
    have hvalue := scans_spaced hs v (depth + 1) _ (hs.line (depth + 1))
    have hitems := scans_spacedItems hs vs depth
    have hopen : Scans ((before, .beginArray) :: spaced s (depth + 1) (s.line (depth + 1)) v) :=
      .cons hbefore rfl hvalue
    exact (hopen.append hitems (stops_spacedItems vs depth)).append (.token (hs.line depth))
      (.mark (hs.line depth) (by simp))
  | .object [] => exact .cons hbefore rfl (.token (by simp))
  | .object ((k, v) :: ms) =>
    have hvalue := scans_spaced hs v (depth + 1) _ hs.gap
    have hmembers := scans_spacedMembers hs ms depth
    have hopen : Scans ((before, .beginObject) :: (s.line (depth + 1), .text (some k)) ::
        ([], .colon) :: spaced s (depth + 1) s.gap v) :=
      .cons hbefore rfl (.cons (hs.line (depth + 1)) rfl (.cons (by simp) rfl hvalue))
    exact (hopen.append hmembers (stops_spacedMembers ms depth)).append (.token (hs.line depth))
      (.mark (hs.line depth) (by simp))

theorem scans_spacedItems (hs : s.Blank) (vs : List Json) (depth : Nat) :
    Scans (spacedItems s depth vs) := by
  match vs with
  | [] => exact .nil
  | v :: vs =>
    have hvalue := scans_spaced hs v (depth + 1) _ (hs.line (depth + 1))
    have hopen : Scans (([], .comma) :: spaced s (depth + 1) (s.line (depth + 1)) v) :=
      .cons (by simp) rfl hvalue
    exact hopen.append (scans_spacedItems hs vs depth) (stops_spacedItems vs depth)

theorem scans_spacedMembers (hs : s.Blank) (ms : List (String × Json)) (depth : Nat) :
    Scans (spacedMembers s depth ms) := by
  match ms with
  | [] => exact .nil
  | (k, v) :: ms =>
    have hvalue := scans_spaced hs v (depth + 1) _ hs.gap
    have hopen : Scans (([], .comma) :: (s.line (depth + 1), .text (some k)) :: ([], .colon) ::
        spaced s (depth + 1) s.gap v) :=
      .cons (by simp) rfl (.cons (hs.line (depth + 1)) rfl (.cons (by simp) rfl hvalue))
    exact hopen.append (scans_spacedMembers hs ms depth) (stops_spacedMembers ms depth)

end

theorem Reading.run_cons (r : Reading) (t : Token) (ts : List Token) :
    r.run (t :: ts) = (r.step t).bind (·.run ts) := rfl

/-- Members whose names can be read make an object. -/
theorem ofMembers_named (ms : List (String × Json)) :
    ofMembers (ms.map fun m => (some m.1, m.2)) = .object ms := by
  have hnames : (ms.map fun m => (some m.1, m.2)).mapM
      (fun m : Option String × Json => m.1.map (·, m.2)) = some ms := by
    induction ms with
    | nil => rfl
    | cons m ms ih => simp [ih]
  simp only [ofMembers, hnames]

mutual

/-- The tokens of a value are read as the value. -/
theorem run_spaced (v : Json) (depth : Nat) (before : List Char) (begun : Bool) (outer : List Frame)
    (ts : List Token) :
    (Reading.value begun outer).run ((spaced s depth before v).map Prod.snd ++ ts) =
      (Reading.complete v outer).run ts := by
  match v with
  | .null => rfl
  | .bool b => rfl
  | .number n => rfl
  | .text t => rfl
  | .unreadable => rfl
  | .array [] => rfl
  | .array (v :: vs) =>
    have hvalue := run_spaced v (depth + 1) (s.line (depth + 1)) true (.array [] :: outer)
      ((spacedItems s depth vs).map Prod.snd ++ .endArray :: ts)
    rw [run_spacedItems vs depth v [] outer ts] at hvalue
    simpa [spaced, Reading.run_cons, Reading.step] using hvalue
  | .object [] => rfl
  | .object ((k, v) :: ms) =>
    have hvalue := run_spaced v (depth + 1) s.gap false (.object [] (some k) :: outer)
      ((spacedMembers s depth ms).map Prod.snd ++ .endObject :: ts)
    have hmembers := run_spacedMembers ms depth k v [] outer ts
    rw [List.map_nil] at hmembers
    rw [hmembers] at hvalue
    simpa [spaced, Reading.run_cons, Reading.step] using hvalue

/-- The items after one complete the array. -/
theorem run_spacedItems (vs : List Json) (depth : Nat) (v : Json) (past : List Json)
    (outer : List Frame) (ts : List Token) :
    (Reading.complete v (.array past :: outer)).run
        ((spacedItems s depth vs).map Prod.snd ++ .endArray :: ts) =
      (Reading.complete (.array (past.reverse ++ v :: vs)) outer).run ts := by
  match vs with
  | [] => simp [spacedItems, Reading.run_cons, Reading.step]
  | w :: vs =>
    have hvalue := run_spaced w (depth + 1) (s.line (depth + 1)) false (.array (v :: past) :: outer)
      ((spacedItems s depth vs).map Prod.snd ++ .endArray :: ts)
    rw [run_spacedItems vs depth w (v :: past) outer ts] at hvalue
    simpa [spacedItems, Reading.run_cons, Reading.step] using hvalue

/-- The members after one complete the object. -/
theorem run_spacedMembers (ms : List (String × Json)) (depth : Nat) (k : String) (v : Json)
    (past : List (String × Json)) (outer : List Frame) (ts : List Token) :
    (Reading.complete v (.object (past.map fun m => (some m.1, m.2)) (some k) :: outer)).run
        ((spacedMembers s depth ms).map Prod.snd ++ .endObject :: ts) =
      (Reading.complete (.object (past.reverse ++ (k, v) :: ms)) outer).run ts := by
  match ms with
  | [] =>
    have hobject := ofMembers_named (past.reverse ++ [(k, v)])
    simp only [List.map_append, List.map_reverse, List.map_cons, List.map_nil] at hobject
    simp [spacedMembers, Reading.run_cons, Reading.step, hobject]
  | (j, w) :: ms =>
    have hvalue := run_spaced w (depth + 1) s.gap false
      (.object (((k, v) :: past).map fun m => (some m.1, m.2)) (some j) :: outer)
      ((spacedMembers s depth ms).map Prod.snd ++ .endObject :: ts)
    rw [run_spacedMembers ms depth j w ((k, v) :: past) outer ts] at hvalue
    simpa [spacedMembers, Reading.run_cons, Reading.step] using hvalue

end

/-- Every value is read back as it was written, in any form. -/
theorem parse_print (hs : s.Blank) (v : Json) : parse (print s v) = some v := by
  have hscan := scans_spaced hs v 0 [] (by simp) [] ends_nil
  have hread := run_spaced (s := s) v 0 [] false [] []
  rw [List.append_nil] at hscan hread
  have htokens : scan (print s v) = some ((spaced s 0 [] v).map Prod.snd) := by
    have hprint : print s v = chars (spaced s 0 [] v) := rfl
    rw [hprint, hscan]
    simp [scan, scanFrom, Lexeme.close]
  rw [parse, htokens, Option.bind_some, ofTokens?, hread]
  rfl

end values

theorem parseText_compact (v : Json) : parseText v.compact = some v := by
  rw [parseText, compact, String.toList_ofList, parse_print blank_compact]

theorem parseText_indented (v : Json) : parseText v.indented = some v := by
  rw [parseText, indented, String.toList_ofList, parse_print blank_indented]

end BandCatalog.Json
