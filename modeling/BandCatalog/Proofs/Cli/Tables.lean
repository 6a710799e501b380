import BandCatalog.Proofs.Cli.Remembering
import BandCatalog.Proofs.Client.Heeding

/-!
# Tables of bands

A listing that gets a page with bands prints a table: its header, a row for each band and a footer. Pages are counted
from zero by the backend and from one in the footer; the sum is one of 32 bits, so the last number that a page can have
is shown as zero.
-/
namespace BandCatalog.Cli

open Client Conversation

def spaces (n : Nat) : String := String.ofList (List.replicate n ' ')

/-- A text with as many spaces before it as fill a column; none if it fills more than that. -/
def FlushRight (width : Nat) (s cell : String) : Prop :=
  ∃ n, cell = spaces n ++ s ∧ cell.length = max width s.length

/-- The same with the spaces after it. -/
def FlushLeft (width : Nat) (s cell : String) : Prop :=
  ∃ n, cell = s ++ spaces n ∧ cell.length = max width s.length

/-- A text of at most so many characters is shown as it is; of a longer one the first are, and an ellipsis makes up
the number. -/
inductive IsCut (most : Nat) : String → String → Prop where
  | whole {s : String} (h : s.length ≤ most) : IsCut most s s
  | front {front rest : String} (hmost : front.length + 1 = most) (hrest : 1 < rest.length) :
    IsCut most (front ++ rest) (front ++ "…")

theorem length_spaces (n : Nat) : (spaces n).length = n := by
  rw [spaces, String.length_ofList, List.length_replicate]

theorem padLeft_eq (width : Nat) (s : String) : padLeft width s = spaces (width - s.length) ++ s := by
  rw [padLeft, spaces, String.ofList_append, String.ofList_toList]

theorem padRight_eq (width : Nat) (s : String) : padRight width s = s ++ spaces (width - s.length) := by
  rw [padRight, spaces, String.ofList_append, String.ofList_toList]

theorem flushRight_iff {width : Nat} {s cell : String} : FlushRight width s cell ↔ cell = padLeft width s := by
  constructor
  · rintro ⟨n, rfl, hlength⟩
    rw [String.length_append, length_spaces] at hlength
    obtain rfl : n = width - s.length := by omega
    exact (padLeft_eq width s).symm
  · rintro rfl
    refine ⟨width - s.length, padLeft_eq width s, ?_⟩
    rw [padLeft_eq, String.length_append, length_spaces]
    omega

theorem flushLeft_iff {width : Nat} {s cell : String} : FlushLeft width s cell ↔ cell = padRight width s := by
  constructor
  · rintro ⟨n, rfl, hlength⟩
    rw [String.length_append, length_spaces] at hlength
    obtain rfl : n = width - s.length := by omega
    exact (padRight_eq width s).symm
  · rintro rfl
    refine ⟨width - s.length, padRight_eq width s, ?_⟩
    rw [padRight_eq, String.length_append, length_spaces]
    omega

theorem isCut_iff {most : Nat} (h : 0 < most) {s t : String} : IsCut most s t ↔ t = shortened most s := by
  constructor
  · rintro (hshort | ⟨hmost, hrest⟩)
    · rw [shortened, if_pos hshort]
    · next front rest =>
      have hlong : ¬(front ++ rest).length ≤ most := by
        rw [String.length_append]
        omega
      have htake : (front ++ rest).toList.take (most - 1) = front.toList := by
        rw [String.toList_append, List.take_left' (by rw [String.length_toList]; omega)]
      rw [shortened, if_neg hlong, htake, String.ofList_append, String.ofList_toList]
  · rintro rfl
    rw [shortened]
    split
    next hshort => exact .whole hshort
    next hlong =>
      have hs : s = String.ofList (s.toList.take (most - 1)) ++ String.ofList (s.toList.drop (most - 1)) := by
        rw [← String.ofList_append, List.take_append_drop, String.ofList_toList]
      rw [String.ofList_append]
      have hcut : IsCut most (String.ofList (s.toList.take (most - 1)) ++ String.ofList (s.toList.drop (most - 1)))
          (String.ofList (s.toList.take (most - 1)) ++ "…") := by
        refine .front ?_ ?_
        · rw [String.length_ofList, List.length_take, String.length_toList]
          omega
        · rw [String.length_ofList, List.length_drop, String.length_toList]
          omega
      rw [← hs] at hcut
      exact hcut

/-- A row has the id of a band, its name, cut where it has more than 30 characters, the label of its genre or
`Unknown`, and how many members it has and when it was founded if that is known. -/
inductive IsRow (b : Band) : String → Prop where
  | row {id short name genre members : String} (hid : FlushRight 6 (toString b.id) id)
      (hshort : IsCut 30 b.name short) (hname : FlushLeft 30 short name)
      (hgenre : FlushLeft 12 ((b.genre.map Genre.label).getD "Unknown") genre)
      (hmembers : FlushRight 7 ((b.participants.map toString).getD "") members) :
      IsRow b (id ++ "  " ++ name ++ " " ++ genre ++ " " ++ members ++ "  " ++
        (b.established.map Calendar.Date.toText).getD "")

theorem isRow_iff {b : Band} {line : String} : IsRow b line ↔ line = bandRow b := by
  constructor
  · rintro ⟨hid, hshort, hname, hgenre, hmembers⟩
    rw [flushRight_iff] at hid hmembers
    rw [flushLeft_iff] at hname hgenre
    rw [isCut_iff (by decide)] at hshort
    subst hid hmembers hname hgenre hshort
    rfl
  · rintro rfl
    exact .row (flushRight_iff.mpr rfl) ((isCut_iff (by decide)).mpr rfl) (flushLeft_iff.mpr rfl)
      (flushLeft_iff.mpr rfl) (flushRight_iff.mpr rfl)

theorem isRows_iff {bs : List Band} {rows : List String} :
    List.Forall₂ IsRow bs rows ↔ rows = bs.map bandRow := by
  induction bs generalizing rows with
  | nil => cases rows <;> simp
  | cons b bs ih =>
    cases rows with
    | nil => simp
    | cons line rows => rw [List.forall₂_cons, isRow_iff, ih, List.map_cons, List.cons.injEq]

def headerLine : String := "    ID  NAME                           GENRE        MEMBERS  ESTABLISHED"

def footerLine (page pages total : Nat) : String :=
  "Page " ++ toString page ++ " of " ++ toString pages ++ " (" ++ toString total ++ " bands)"

/-- The table of a page that is shown under a number: its rows between header and footer, each on a line of its own.
There is at least one page. -/
inductive IsTable (p : Page Band) (page : Nat) : String → Prop where
  | table {rows : List String} (h : List.Forall₂ IsRow p.content rows) :
    IsTable p page
      (unlines (headerLine :: rows ++ [footerLine page (max p.totalPages.toNat 1) p.totalElements.toNat]))

theorem isTable_iff {p : Page Band} {page : Nat} {s : String} :
    IsTable p page s ↔ s = unlines (bandHeader :: p.content.map bandRow ++
      [footerLine page (max p.totalPages.toNat 1) p.totalElements.toNat]) := by
  have hheader : bandHeader = headerLine := by decide
  constructor
  · rintro ⟨h⟩
    rw [isRows_iff.mp h, hheader]
  · rintro rfl
    rw [hheader]
    exact .table (isRows_iff.mpr rfl)

theorem unlines_append (xs ys : List String) : unlines (xs ++ ys) = unlines xs ++ unlines ys := by
  rw [unlines, List.map_append, String.join_append, unlines, unlines]

/-- A table is that of a page under one number only. -/
theorem IsTable.number_eq {p : Page Band} {m n : Nat} {s : String} (h : IsTable p m s) (k : IsTable p n s) :
    m = n := by
  have hsame := (isTable_iff.mp h).symm.trans (isTable_iff.mp k)
  rw [unlines_append, unlines_append, String.append_right_inj] at hsame
  simp only [unlines, List.map_cons, List.map_nil, String.join_cons, String.append_left_inj, footerLine,
    String.append_right_inj] at hsame
  have hdigits : Nat.toDigits 10 m = Nat.toDigits 10 n := by
    rw [← Nat.toList_repr, ← Nat.toList_repr]
    exact congrArg String.toList hsame
  have hback : ∀ k, Nat.ofDigitChars 10 (Nat.toDigits 10 k) 0 = k := fun _ => Nat.ofDigitChars_ten_toDigits
  rw [← hback m, hdigits, hback n]

theorem pageFooter_eq (p : Page Band) : pageFooter p =
    footerLine ((p.number.toNat + 1) % 2 ^ 32) (max p.totalPages.toNat 1) p.totalElements.toNat := by
  rw [pageFooter, UInt32.toNat_add]
  rfl

theorem isTable_text {p : Page Band} (hne : p.content ≠ []) :
    IsTable p ((p.number.toNat + 1) % 2 ^ 32) ((Answer.page p).text false) := by
  rw [isTable_iff, ← pageFooter_eq]
  show unlines (pageLines p) = _
  rw [pageLines, if_neg hne]

/-- The page that an answer to a request for a value holds, if it is a success and holds one. -/
def page? (e : LogEntry) : Option (Page Band) :=
  e.success?.bind fun a => a.json?.bind (Page.decode Band.decode)

/-- The pages that a run got. -/
def Outcome.pages {β : Type} (out : Outcome β) : List (Page Band) := out.log.filterMap page?

variable {β : Type} [Backend β]

theorem hold_toAnswer_eq {α σ : Type} [KeyValue σ] (f : α → Answer) (d : Conversation (Except Failure α))
    (s : Session β σ) : (toAnswer f d).hold s =
      (((d.hold s).1.map f).mapError .failure, (d.hold s).2) := by
  rw [toAnswer, hold_bind]
  cases (d.hold s).1 <;> rfl

theorem log_conclude (json : Bool) (shown : String) (home : Home) (ready : Ready β) (errand : Errand) :
    (conclude json shown home ready errand).log = (errand.hold ready.session).2.log.reverse := by
  rw [conclude]
  generalize errand.hold ready.session = x
  obtain ⟨x, u⟩ := x
  cases x <;> rfl

theorem conclude_of_ok (json : Bool) (shown : String) (home : Home) {ready : Ready β} {errand : Errand}
    {a : Answer} (h : (errand.hold ready.session).1 = .ok a) :
    (conclude json shown home ready errand).ending = .finished ∧
      (conclude json shown home ready errand).output = shown ++ a.text json := by
  obtain ⟨u, hu⟩ : ∃ u, errand.hold ready.session = (.ok a, u) := ⟨_, Prod.ext h rfl⟩
  simp only [conclude, hu, and_self]

/-- A page that a listing gets is what it ends with. -/
theorem hold_bands_of_page {σ : Type} [KeyValue σ] (c : Client) (f : Filter) (q : PageRequest)
    {s : Session β σ} (hlog : s.log = []) {p : Page Band} {e : LogEntry}
    (hin : e ∈ ((c.bands f q).hold s).2.log) (hpage : page? e = some p) :
    ((c.bands f q).hold s).1 = .ok p := by
  obtain ⟨url, hheeds⟩ := heeds_bands c f q
  obtain ⟨es, hes, hall⟩ := hheeds.adds s
  rw [hes, hlog, List.append_nil] at hin
  obtain ⟨a, ha, hread⟩ := Option.bind_eq_some_iff.mp hpage
  rw [hall e hin a ha, fetched, hread]

/-- A run that lists bands and gets a page ends with what is said of the page. -/
theorem listing_run {start : Start} {i : Invocation} {l : Listing} (b : β)
    (hargs : Invocation.ofArguments start.arguments = .ok i) (hlist : i.command = .list l) {p : Page Band}
    (hp : p ∈ (run start b).pages) :
    (run start b).ending = .finished ∧ (run start b).output = (Answer.page p).text i.json := by
  obtain ⟨e, hin, hpage⟩ := List.mem_filterMap.mp hp
  simp only [run, hargs] at hin ⊢
  cases hprepare : prepare i (start.environment.withFile start.environmentFile) start.home b with
  | error x => simp [hprepare] at hin
  | ok ready =>
    have hlog : ready.session.log = [] := (prepared hprepare).log
    simp only [hprepare, perform, hlist, Command.start, Dialogue.hold] at hin ⊢
    cases hfilter : filter? l with
    | error x => simp [hfilter, Except.map] at hin
    | ok f =>
      simp only [hfilter, Except.map] at hin ⊢
      rw [log_conclude, List.mem_reverse, hold_toAnswer_eq] at hin
      have hresult := hold_bands_of_page ready.client f l.page hlog hin hpage
      have hanswer : ((toAnswer .page (ready.client.bands f l.page)).hold ready.session).1 = .ok (.page p) := by
        rw [hold_toAnswer_eq, hresult]
        rfl
      obtain ⟨hending, houtput⟩ := conclude_of_ok i.json "" start.home hanswer
      exact ⟨hending, by rw [houtput, String.empty_append]⟩

/-- A run that lists bands for people prints the table of any page that has some, numbered from one in 32 bits. -/
theorem pages_are_printed {start : Start} {i : Invocation} {l : Listing} (b : β)
    (hargs : Invocation.ofArguments start.arguments = .ok i) (hlist : i.command = .list l)
    (hjson : i.json = false) {p : Page Band} (hp : p ∈ (run start b).pages) (hne : p.content ≠ []) :
    let out := run start b
    out.ending = .finished ∧ out.ending.code = 0 ∧
      IsTable p ((p.number.toNat + 1) % 2 ^ 32) out.output ∧
      (IsTable p (p.number.toNat + 1) out.output ↔ p.number.toNat + 1 < 2 ^ 32) := by
  intro out
  obtain ⟨hending, houtput⟩ : out.ending = .finished ∧ out.output = (Answer.page p).text i.json :=
    listing_run b hargs hlist hp
  have htable : IsTable p ((p.number.toNat + 1) % 2 ^ 32) out.output := by
    rw [houtput, hjson]
    exact isTable_text hne
  refine ⟨hending, by rw [hending]; rfl, htable, fun h => ?_, fun h => ?_⟩
  · rw [h.number_eq htable]
    exact Nat.mod_lt _ (by decide)
  · rwa [Nat.mod_eq_of_lt h] at htable

/-- A run that lists bands, without settings. -/
def listingStart : Start where
  arguments := ["bands", "list"]
  environment := .empty
  environmentFile := none
  typed := ⟨[], []⟩
  home := ⟨none, .absent, ⟨[], false⟩⟩

def soulBand : Band where
  id := 1
  name := "X"
  coordinates := none
  genre := some .soul
  participants := none
  singles := none
  description := none
  bestAlbum := none
  albums := none
  established := none
  frontMan := none
  createdBy := none
  created := none

/-- A backend that is too busy at first, and then has a page but one before the last of all. -/
def busyBackend : Replay :=
  .ofList [.ok ⟨429, none⟩, .ok ⟨200,
    some "\x7b\"content\":[\x7b\"id\":1,\"name\":\"X\",\"genre\":\"SOUL\"\x7d],\"number\":4294967294\x7d".toUTF8⟩]

theorem late_page_is_printed :
    let i : Invocation := ⟨.list ⟨none, none, .first⟩, false, false, none⟩
    let p : Page Band := ⟨[soulBand], 0, 0, 4294967294, 0⟩
    let out := run listingStart busyBackend
    Invocation.ofArguments listingStart.arguments = .ok i ∧ p ∈ out.pages ∧ p.content ≠ [] ∧
      out.ending = .finished ∧ IsTable p 4294967295 out.output := by
  intro i p out
  have hargs : Invocation.ofArguments listingStart.arguments = .ok i := by decide +kernel
  have hpage : p ∈ out.pages := by decide +kernel
  have hne : p.content ≠ [] := by decide
  obtain ⟨hending, -, -, htable⟩ := pages_are_printed busyBackend hargs rfl rfl hpage hne
  exact ⟨hargs, hpage, hne, hending, htable.mpr (by decide)⟩

/-- A backend that has the last page of all. -/
def lastBackend : Replay :=
  .ofList [.ok ⟨200,
    some "\x7b\"content\":[\x7b\"id\":1,\"name\":\"X\",\"genre\":\"SOUL\"\x7d],\"number\":4294967295\x7d".toUTF8⟩]

theorem last_page_is_page_zero :
    let p : Page Band := ⟨[soulBand], 0, 0, 4294967295, 0⟩
    let out := run listingStart lastBackend
    (Invocation.ofArguments listingStart.arguments).map (·.json) = .ok false ∧ p ∈ out.pages ∧
      p.content ≠ [] ∧ p.number.toNat + 1 = 4294967296 ∧ ¬IsTable p 4294967296 out.output ∧
      out.output = "    ID  NAME                           GENRE        MEMBERS  ESTABLISHED\n" ++
        "     1  X                              Soul                  \n" ++
        "Page 0 of 1 (0 bands)\n" := by
  intro p out
  obtain ⟨hpage, houtput⟩ : p ∈ out.pages ∧
      out.output = "    ID  NAME                           GENRE        MEMBERS  ESTABLISHED\n" ++
        "     1  X                              Soul                  \n" ++
        "Page 0 of 1 (0 bands)\n" := by decide +kernel
  refine ⟨by decide +kernel, hpage, by decide, rfl, fun htable => ?_, houtput⟩
  rw [houtput, isTable_iff] at htable
  exact absurd htable (by decide +kernel)

end BandCatalog.Cli
