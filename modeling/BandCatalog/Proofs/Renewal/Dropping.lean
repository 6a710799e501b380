import BandCatalog.Proofs.Renewal.Tickets

/-!
# Requests that are given up

Two runs that differ only in who is given up, and when, differ only in who waits and in whether a result
was taken: the same results are sent to the same requests in the same order.
-/
namespace BandCatalog.Renewal

/-- A mark that does not tell whether a result was taken. -/
def Mark.blind : Mark → Mark
  | resumed t result _ => resumed t result true
  | m => m

/-- What a blind mark still shows of a result. -/
theorem Mark.sending?_blind (m : Mark) :
    m.blind.sending?.map (fun e => (e.ticket, e.result)) =
      m.sending?.map fun e => (e.ticket, e.result) := by
  cases m <;> rfl

/-- Whether an event gives a request up. -/
def Event.isDrop : Event → Bool
  | drop _ => true
  | _ => false

namespace World

variable {σ : Type}

/-- Two worlds that differ at most in who has been given up. -/
structure Alike (w v : World σ) : Prop where
  store : w.store = v.store
  gate : w.gate = v.gate
  tasks : w.tasks = v.tasks
  fresh : w.fresh = v.fresh
  renewals : w.renewals = v.renewals
  redirects : w.redirects = v.redirects
  trace : w.trace.map Mark.blind = v.trace.map Mark.blind

namespace Alike

variable {w v : World σ}

theorem refl (w : World σ) : Alike w w := ⟨rfl, rfl, rfl, rfl, rfl, rfl, rfl⟩

/-- Only those who wait and the trace can be different. -/
theorem eq_with (h : Alike w v) : v = { w with waiting := v.waiting, trace := v.trace } := by
  obtain ⟨hstore, hgate, htasks, hfresh, hrenewals, hredirects, _⟩ := h
  cases w
  cases v
  subst hstore hgate htasks hfresh hrenewals hredirects
  rfl

theorem mark (h : Alike w v) {m n : Mark} (hm : m.blind = n.blind) : Alike (w.mark m) (v.mark n) :=
  { h with trace := by simp [World.mark, hm, h.trace] }

theorem become (h : Alike w v) (id : Ticket) (t : Task) : Alike (w.become id t) (v.become id t) :=
  { h with tasks := by simp only [World.become, h.tasks] }

theorem finish (h : Alike w v) (id : Ticket) : Alike (w.finish id) (v.finish id) :=
  { h with tasks := by simp only [World.finish, h.tasks] }

theorem spawn (h : Alike w v) (t : Task) : Alike (w.spawn t) (v.spawn t) :=
  { h with
    tasks := by simp only [World.spawn, h.tasks, h.fresh]
    fresh := by simp only [World.spawn, h.fresh] }

/-- A result is sent whether anybody takes it or not. -/
theorem resume (h : Alike w v) (t : Ticket) (result : Resumption) :
    Alike (w.resume t result) (v.resume t result) :=
  { h with trace := by simp [World.resume, World.mark, Mark.blind, h.trace] }

theorem redirect (h : Alike w v) : Alike w.redirect v.redirect :=
  { h with
    redirects := by simp [World.redirect, World.mark, h.redirects]
    trace := by simp [World.redirect, World.mark, h.trace] }

theorem conclude (h : Alike w v) (id : Ticket) (result : Except StoreError Unit) (p : Purpose) :
    Alike (w.conclude id result p) (v.conclude id result p) := by
  cases p with
  | settle verdict =>
    rw [World.conclude, World.conclude, h.gate]
    have hidle : Alike { w with gate := .idle } { v with gate := .idle } := { h with gate := rfl }
    exact hidle.become id _
  | dismiss t => exact (h.redirect.resume t _).finish id
  | session => exact (h.mark rfl).finish id

/-- The writes and storage calls of two such worlds are the same. -/
theorem advance [KeyValue σ] (h : Alike w v) (id : Ticket) (t : Task) :
    Alike (w.advance id t) (v.advance id t) := by
  have htrace := h.trace
  rw [h.eq_with]
  generalize v.waiting = waiting
  generalize v.trace = trace at htrace
  have hv : Alike w { w with waiting := waiting, trace := trace } :=
    { refl w with trace := htrace }
  cases t with
  | start token => exact (hv.mark rfl).become id _
  | ask token => exact hv
  | write c p =>
    have hstored : Alike { w with store := { w.store with memory := c.tokens } }
        { w with store := { w.store with memory := c.tokens }, waiting := waiting, trace := trace } :=
      { hv with store := rfl }
    exact (hstored.mark rfl).become id _
  | persist calls result p =>
    cases calls with
    | nil => exact hv.conclude id result p
    | cons c cs =>
      have hstored : ∀ storage : σ, Alike { w with store := { w.store with storage := storage } }
          { w with store := { w.store with storage := storage }, waiting := waiting, trace := trace } :=
        fun _ => { hv with store := rfl }
      simp only [World.advance]
      split
      · exact ((hstored _).mark rfl).become id _
      · exact ((hstored _).mark rfl).become id _
  | flush verdict left =>
    cases left with
    | nil =>
      cases verdict with
      | renewed p => exact hv.finish id
      | ended cause => exact hv.redirect.finish id
    | cons x xs => exact (hv.resume x.ticket _).become id _

/-- An admission does not look at who waits. -/
theorem arrive (h : Alike w v) (p : Pending) : Alike (w.arrive p) (v.arrive p) := by
  have htrace := h.trace
  rw [h.eq_with]
  generalize v.waiting = waiting
  generalize v.trace = trace at htrace
  have hnext : Alike { w with fresh := w.fresh + 1, waiting := w.waiting ++ [w.fresh] }
      { w with fresh := w.fresh + 1, waiting := waiting ++ [w.fresh], trace := trace } :=
    { refl w with fresh := rfl, trace := htrace }
  simp only [World.arrive]
  split
  · exact { hnext with gate := rfl }
  · split
    · exact hnext.resume _ _
    · have hopened : ∀ gate renewals, Alike
          { w with
            gate := gate
            fresh := w.fresh + 1
            waiting := w.waiting ++ [w.fresh]
            renewals := renewals }
          { w with
            gate := gate
            fresh := w.fresh + 1
            waiting := waiting ++ [w.fresh]
            renewals := renewals
            trace := trace } :=
        fun _ _ => { hnext with gate := rfl, renewals := rfl }
      exact (hopened _ _).spawn _
    · exact hnext.spawn _

theorem drop [KeyValue σ] (h : Alike w v) {e : Event} (he : e.isDrop = true) :
    Alike (w.step e) v := by
  cases e with
  | drop t => exact { h with }
  | arrive p => cases he
  | answer id a => cases he
  | advance id => cases he
  | begin c => cases he

theorem step [KeyValue σ] (h : Alike w v) (e : Event) : Alike (w.step e) (v.step e) := by
  cases e with
  | arrive p => exact h.arrive p
  | drop t => exact { h with }
  | begin c => exact h.spawn _
  | answer id a =>
    have htask : w.task? id = v.task? id := by rw [task?, h.tasks, task?]
    simp only [World.step, htask]
    split
    · exact h.become id _
    · exact h
  | advance id =>
    have htask : w.task? id = v.task? id := by rw [task?, h.tasks, task?]
    simp only [World.step, htask]
    split
    · exact h.advance id _
    · exact h

/-- A run does the same without those of its steps that give requests up. -/
theorem run_filter [KeyValue σ] (h : Alike w v) (es : List Event) :
    Alike (w.run es) (v.run (es.filter fun e => !e.isDrop)) := by
  induction es generalizing w v with
  | nil => exact h
  | cons e es ih =>
    cases he : e.isDrop with
    | true =>
      rw [List.filter_cons_of_neg (by simp [he])]
      exact ih (h.drop he)
    | false =>
      rw [List.filter_cons_of_pos (by simp [he])]
      exact ih (h.step e)

/-- Nor do the results show who was given up. -/
theorem results (h : Alike w v) : w.results = v.results := by
  have hshown : ∀ trace : List Mark,
      (trace.reverse.filterMap Mark.sending?).map (fun e => (e.ticket, e.result)) =
        (trace.map Mark.blind).reverse.filterMap fun m =>
          m.sending?.map fun e => (e.ticket, e.result) := by
    intro trace
    rw [List.map_filterMap, ← List.map_reverse, List.filterMap_map]
    congr 1
    funext m
    exact (Mark.sending?_blind m).symm
  rw [World.results, World.results, sent, sent, hshown, hshown, h.trace]

end Alike

/-- Who is given up, and when, changes nothing in the results and their order. -/
theorem results_of_drops [KeyValue σ] (s : Store σ) {es fs : List Event}
    (h : (es.filter fun e => !e.isDrop) = fs.filter fun e => !e.isDrop) :
    ((new s).run es).results = ((new s).run fs).results := by
  have hes := ((Alike.refl (new s)).run_filter es).results
  have hfs := ((Alike.refl (new s)).run_filter fs).results
  rw [hes, h, hfs]

end World

end BandCatalog.Renewal
