import BandCatalog.Proofs.Renewal.SingleFlight
import BandCatalog.Proofs.Renewal.Tickets

/-!
# The phases of a renewal that brings a new pair

The coordinator of a session in which every request that comes back unauthorized carried the old access
token, and the renewer answers the old refresh token with the new pair. It goes through its phases once:
it is quiet, then its only renewal is under way, and then it hands the new access token to whoever comes.
Storage calls may fail; whatever they do, the new pair is in memory before anybody is resumed.
-/
namespace BandCatalog.Renewal

/-- How far the only renewal has come, with those who have still to get its result. -/
inductive Phase where
  | quiet
  | started (ws : List Waiter)
  | asked (ws : List Waiter)
  | answered (ws : List Waiter)
  | written (calls : List StorageCall) (ws : List Waiter)
  | flushing (ws : List Waiter)
  | closed

namespace Phase

def pending : Phase → List Waiter
  | quiet => []
  | started ws => ws
  | asked ws => ws
  | answered ws => ws
  | written _ ws => ws
  | flushing ws => ws
  | closed => []

def gate : Phase → Gate
  | quiet => .idle
  | started ws => .refreshing ws
  | asked ws => .refreshing ws
  | answered ws => .refreshing ws
  | written _ ws => .refreshing ws
  | flushing _ => .idle
  | closed => .idle

/-- The renewal, if it has been started and is not done. -/
def Runs (old new : Pair) : Phase → List (Ticket × Task) → Prop
  | quiet, tasks => tasks = []
  | started _, tasks => ∃ id, tasks = [(id, .start old.refresh)]
  | asked _, tasks => ∃ id, tasks = [(id, .ask old.refresh)]
  | answered _, tasks => ∃ id, tasks = [(id, .write (.put new) (.settle (.renewed new)))]
  | written calls _, tasks =>
    ∃ id result, tasks = [(id, .persist calls result (.settle (.renewed new)))]
  | flushing ws, tasks => ∃ id, tasks = [(id, .flush (.renewed new) ws)]
  | closed, tasks => tasks = []

/-- Whether the new pair is in memory. -/
def isWritten : Phase → Bool
  | quiet => false
  | started _ => false
  | asked _ => false
  | answered _ => false
  | written _ _ => true
  | flushing _ => true
  | closed => true

/-- Whether the renewer has still to answer. -/
def isUnanswered : Phase → Bool
  | quiet => true
  | started _ => true
  | asked _ => true
  | _ => false

def renewals : Phase → Nat
  | quiet => 0
  | _ => 1

/-- The refresh tokens that the renewer was called with. -/
def calls (old : Pair) : Phase → List String
  | quiet => []
  | started _ => []
  | _ => [old.refresh]

/-- A bound on the steps of the renewal, those for its waiters aside. -/
def rank : Phase → Nat
  | quiet => 8
  | started _ => 7
  | asked _ => 6
  | answered _ => 5
  | written calls _ => calls.length + 2
  | flushing _ => 1
  | closed => 0

/-- A bound on the steps that are left to the coordinator. -/
def weight (p : Phase) : Nat := p.rank + p.pending.length

end Phase

namespace World

variable {σ : Type}

/-- A world in one of the phases. -/
structure Stands (old new : Pair) (w : World σ) (p : Phase) : Prop where
  gate : w.gate = p.gate
  tasks : p.Runs old new w.tasks
  memory : w.store.memory = .ofPair (if p.isWritten then new else old)
  renewals : w.renewals = p.renewals
  asked : w.asked = p.calls old

/-- A request has still to get the new access token, or was sent it. -/
def Granted (new : Pair) (w : World σ) (p : Phase) (x : Waiter) : Prop :=
  x ∈ p.pending ∨
    (p.isWritten = true ∧ (x.ticket, authorize x.request new.access) ∈ w.results)

/-- What stays as the phases go by: the new pair in memory, and what was granted. The renewer answers
once. -/
structure Onward (new : Pair) (w : World σ) (p : Phase) (v : World σ) (q : Phase) : Prop where
  written : p.isWritten = true → q.isWritten = true
  unanswered : q.isUnanswered = true → p.isUnanswered = true
  granted : ∀ x, Granted new w p x → Granted new v q x

theorem Onward.refl (new : Pair) (w : World σ) (p : Phase) : Onward new w p w p :=
  ⟨fun h => h, fun h => h, fun _ h => h⟩

/-- Steps that send nothing and keep the queue. -/
theorem Onward.keep {new : Pair} {w v : World σ} {p q : Phase}
    (hwritten : p.isWritten = true → q.isWritten = true)
    (hunanswered : q.isUnanswered = true → p.isUnanswered = true) (hsent : v.sent = w.sent)
    (hpending : p.pending ⊆ q.pending) : Onward new w p v q where
  written := hwritten
  unanswered := hunanswered
  granted := by
    rintro x (hx | ⟨hp, hx⟩)
    · exact .inl (hpending hx)
    · exact .inr ⟨hwritten hp, by rwa [results_congr hsent]⟩

/-- A step that leads on to a phase of less weight. -/
def Leads (old new : Pair) (w : World σ) (p : Phase) (v : World σ) : Prop :=
  v.tasks ≠ w.tasks ∧
    ∃ q, Stands old new v q ∧ Onward new w p v q ∧ q.weight < p.weight

namespace Stands

variable {old new : Pair} {w : World σ} {p : Phase}

theorem new_quiet (old new : Pair) (storage : σ) :
    Stands old new (World.new ⟨storage, .ofPair old⟩) .quiet :=
  ⟨rfl, rfl, rfl, rfl, rfl⟩

/-- The renewal calls the renewer. -/
theorem start [KeyValue σ] {ws : List Waiter} (hs : Stands old new w (.started ws)) {id : Ticket}
    (htasks : w.tasks = [(id, .start old.refresh)]) :
    Leads old new w (.started ws) (w.advance id (.start old.refresh)) := by
  obtain ⟨hgate, _, hmemory, hrenewals, hcalls⟩ := hs
  rw [advance, become_alone (by exact htasks)]
  refine ⟨by simp [htasks], .asked ws, ⟨hgate, ⟨id, rfl⟩, hmemory, hrenewals, ?_⟩, ?_, ?_⟩
  · simpa [World.asked, Mark.asked?, mark, Phase.calls] using hcalls
  · exact .keep (fun h => h) (fun h => h) (by simp [sent, mark, Mark.sending?]) (List.Subset.refl _)
  · simp [Phase.weight, Phase.rank, Phase.pending]

/-- It writes the new pair into memory. -/
theorem write [KeyValue σ] {ws : List Waiter} (hs : Stands old new w (.answered ws)) {id : Ticket}
    (htasks : w.tasks = [(id, .write (.put new) (.settle (.renewed new)))]) :
    Leads old new w (.answered ws)
      (w.advance id (.write (.put new) (.settle (.renewed new)))) := by
  obtain ⟨hgate, _, _, hrenewals, hcalls⟩ := hs
  rw [advance, become_alone (by exact htasks)]
  refine ⟨by simp [htasks], .written (Write.put new).calls ws,
    ⟨hgate, ⟨id, .ok (), rfl⟩, rfl, hrenewals, ?_⟩, ?_, ?_⟩
  · simpa [World.asked, Mark.asked?, mark, Phase.calls] using hcalls
  · exact .keep (fun _ => rfl) (fun h => by cases h) (by simp [sent, mark, Mark.sending?])
      (List.Subset.refl _)
  · simp [Phase.weight, Phase.rank, Phase.pending, Write.calls]

/-- It makes a storage call, which may fail. -/
theorem store [KeyValue σ] {c : StorageCall} {cs : List StorageCall} {ws : List Waiter}
    (hs : Stands old new w (.written (c :: cs) ws)) {id : Ticket} {result : Except StoreError Unit}
    (htasks : w.tasks = [(id, .persist (c :: cs) result (.settle (.renewed new)))]) :
    Leads old new w (.written (c :: cs) ws)
      (w.advance id (.persist (c :: cs) result (.settle (.renewed new)))) := by
  obtain ⟨hgate, _, hmemory, hrenewals, hcalls⟩ := hs
  have hnext : ∀ (storage : σ) (report : Report) (left : List StorageCall)
      (after : Except StoreError Unit), left.length ≤ cs.length →
      Leads old new w (.written (c :: cs) ws)
        { w with
          store := { w.store with storage := storage }
          tasks := [(id, .persist left after (.settle (.renewed new)))]
          trace := .called report w.gate.isRefreshing :: w.trace } := by
    intro storage report left after hleft
    refine ⟨?_, .written left ws, ⟨hgate, ⟨id, after, rfl⟩, hmemory, hrenewals, ?_⟩, ?_, ?_⟩
    · intro heq
      rw [htasks] at heq
      simp only [List.cons.injEq, Prod.mk.injEq, Task.persist.injEq] at heq
      rw [heq.1.2.1] at hleft
      exact Nat.not_succ_le_self _ hleft
    · simpa [World.asked, Mark.asked?, Phase.calls] using hcalls
    · exact .keep (fun h => h) (fun h => h) (by simp [sent, Mark.sending?]) (List.Subset.refl _)
    · simp only [Phase.weight, Phase.rank, Phase.pending, List.length_cons]
      omega
  cases hcall : (Store.call w.store.storage c).1 with
  | ok value =>
    simp only [advance, hcall]
    rw [become_alone (by exact htasks)]
    exact hnext _ _ cs result (Nat.le_refl _)
  | error e =>
    simp only [advance, hcall]
    rw [become_alone (by exact htasks)]
    exact hnext _ _ [] (.error e) (Nat.zero_le _)

/-- It settles. -/
theorem settle [KeyValue σ] {ws : List Waiter} (hs : Stands old new w (.written [] ws))
    {id : Ticket} {result : Except StoreError Unit}
    (htasks : w.tasks = [(id, .persist [] result (.settle (.renewed new)))]) :
    Leads old new w (.written [] ws)
      (w.advance id (.persist [] result (.settle (.renewed new)))) := by
  obtain ⟨hgate, _, hmemory, hrenewals, hcalls⟩ := hs
  have hwaiters : w.gate.waiters = ws := by rw [hgate]; rfl
  rw [advance, conclude, become_alone (by exact htasks), hwaiters]
  refine ⟨by simp [htasks], .flushing ws, ⟨rfl, ⟨id, rfl⟩, hmemory, hrenewals, hcalls⟩, ?_, ?_⟩
  · exact .keep (fun h => h) (fun h => h) rfl (List.Subset.refl _)
  · simp [Phase.weight, Phase.rank, Phase.pending]

/-- It resumes a waiter with the new access token. -/
theorem resume [KeyValue σ] {x : Waiter} {ws : List Waiter}
    (hs : Stands old new w (.flushing (x :: ws))) {id : Ticket}
    (htasks : w.tasks = [(id, .flush (.renewed new) (x :: ws))]) :
    Leads old new w (.flushing (x :: ws)) (w.advance id (.flush (.renewed new) (x :: ws))) := by
  obtain ⟨hgate, _, hmemory, hrenewals, hcalls⟩ := hs
  rw [advance, become_alone (by exact htasks)]
  refine ⟨by simp [htasks], .flushing ws, ⟨hgate, ⟨id, rfl⟩, hmemory, hrenewals, ?_⟩, ?_, ?_⟩
  · simpa [World.asked, Mark.asked?, World.resume, mark, Phase.calls] using hcalls
  · have hresults : results { (w.resume x.ticket (authorize x.request new.access)) with
        tasks := [(id, .flush (.renewed new) ws)] } =
        w.results ++ [(x.ticket, authorize x.request new.access)] :=
      results_concat (e := ⟨x.ticket, authorize x.request new.access, w.waiting.contains x.ticket⟩)
        (by simp [sent, World.resume, mark, Mark.sending?])
    refine ⟨fun h => h, fun h => h, ?_⟩
    rw [Verdict.resume]
    rintro y (hy | ⟨-, hy⟩)
    · rcases List.mem_cons.mp hy with rfl | hy
      · exact .inr ⟨rfl, by simp [hresults]⟩
      · exact .inl hy
    · exact .inr ⟨rfl, by simp [hresults, hy]⟩
  · simp [Phase.weight, Phase.rank, Phase.pending]

/-- It is done. -/
theorem close [KeyValue σ] (hs : Stands old new w (.flushing [])) {id : Ticket}
    (htasks : w.tasks = [(id, .flush (.renewed new) [])]) :
    Leads old new w (.flushing []) (w.advance id (.flush (.renewed new) [])) := by
  obtain ⟨hgate, _, hmemory, hrenewals, hcalls⟩ := hs
  rw [advance, finish_alone htasks]
  refine ⟨by simp [htasks], .closed, ⟨hgate, rfl, hmemory, hrenewals, hcalls⟩, ?_, ?_⟩
  · exact .keep (fun h => h) (fun h => h) rfl (List.Subset.refl _)
  · simp [Phase.weight, Phase.rank, Phase.pending]

/-- Every step of the renewal leads on, unless its renewer is awaited. -/
theorem leads [KeyValue σ] (hs : Stands old new w p) {id : Ticket} {t : Task}
    (htasks : w.tasks = [(id, t)]) : (∃ ws, p = .asked ws) ∨ Leads old new w p (w.advance id t) := by
  have hruns := hs.tasks
  rw [htasks] at hruns
  cases p with
  | quiet => cases hruns
  | started ws =>
    obtain ⟨i, hi⟩ := hruns
    cases hi
    exact .inr (hs.start htasks)
  | asked ws => exact .inl ⟨ws, rfl⟩
  | answered ws =>
    obtain ⟨i, hi⟩ := hruns
    cases hi
    exact .inr (hs.write htasks)
  | written calls ws =>
    obtain ⟨i, result, hi⟩ := hruns
    cases hi
    cases calls with
    | nil => exact .inr (hs.settle htasks)
    | cons c cs => exact .inr (hs.store htasks)
  | flushing ws =>
    obtain ⟨i, hi⟩ := hruns
    cases hi
    cases ws with
    | nil => exact .inr (hs.close htasks)
    | cons x ws => exact .inr (hs.resume htasks)
  | closed => cases hruns

/-- At most one task is there, and one is if anybody has still to get a result. -/
theorem alone (hs : Stands old new w p) :
    (w.tasks = [] ∧ p.pending = []) ∨ ∃ id t, w.tasks = [(id, t)] := by
  have hruns := hs.tasks
  cases p with
  | quiet => exact .inl ⟨hruns, rfl⟩
  | closed => exact .inl ⟨hruns, rfl⟩
  | written calls ws =>
    obtain ⟨id, result, htasks⟩ := hruns
    exact .inr ⟨id, _, htasks⟩
  | _ =>
    obtain ⟨id, htasks⟩ := hruns
    exact .inr ⟨id, _, htasks⟩

/-- Who has still to get a result is owed it. -/
theorem owed (hs : Stands old new w p) {x : Waiter} (hx : x ∈ p.pending) : x.ticket ∈ w.owed := by
  have hqueued : ∀ ws, w.gate = .refreshing ws → x ∈ ws → x.ticket ∈ w.owed := by
    intro ws hgate hin
    rw [World.owed, hgate]
    exact List.mem_append_left _ (List.mem_map_of_mem hin)
  cases p with
  | quiet => exact absurd hx List.not_mem_nil
  | started ws => exact hqueued ws hs.gate hx
  | asked ws => exact hqueued ws hs.gate hx
  | answered ws => exact hqueued ws hs.gate hx
  | written calls ws => exact hqueued ws hs.gate hx
  | flushing ws =>
    obtain ⟨id, htasks⟩ := hs.tasks
    rw [World.owed, htasks]
    exact List.mem_append_right _ (by simpa using ⟨x, hx, rfl⟩)
  | closed => exact absurd hx List.not_mem_nil

/-- A task that takes a step leads on, or changes nothing. -/
theorem advance [KeyValue σ] (hs : Stands old new w p) (i : Ticket) :
    w.step (.advance i) = w ∨ Leads old new w p (w.step (.advance i)) := by
  rcases hs.alone with ⟨hnone, _⟩ | ⟨id, t, htasks⟩
  · exact .inl (by simp [World.step, task?, hnone])
  · by_cases hi : i = id
    · subst hi
      have hstep : w.step (.advance i) = w.advance i t := by
        simp only [World.step, task?_alone htasks, if_true]
      rw [hstep]
      rcases hs.leads htasks with ⟨ws, rfl⟩ | hleads
      · obtain ⟨j, hj⟩ := hs.tasks
        cases htasks.symm.trans hj
        exact .inl rfl
      · exact .inr hleads
    · exact .inl (by simp only [World.step, task?_alone htasks, if_neg hi])

/-- Whoever has still to get a result can count on a next step, unless the renewer is awaited. -/
theorem exists_advance [KeyValue σ] (hs : Stands old new w p) (hpending : p.pending ≠ []) :
    (∃ ws, p = .asked ws) ∨ ∃ id, (w.step (.advance id)).tasks ≠ w.tasks := by
  rcases hs.alone with ⟨_, hnone⟩ | ⟨id, t, htasks⟩
  · exact absurd hnone hpending
  · refine (hs.leads htasks).imp_right fun hleads => ⟨id, ?_⟩
    have hstep : w.step (.advance id) = w.advance id t := by
      simp only [World.step, task?_alone htasks, if_true]
    rw [hstep]
    exact hleads.1

/-- The renewer is awaited in one phase only. -/
theorem asking? (hs : Stands old new w p) :
    (w.asking? = none ∧ ∀ ws, p ≠ .asked ws) ∨
      ∃ ws id, p = .asked ws ∧ w.asking? = some (id, old.refresh) ∧
        w.tasks = [(id, .ask old.refresh)] := by
  have hruns := hs.tasks
  cases p with
  | quiet => exact .inl ⟨by rw [World.asking?, hruns]; rfl, by simp⟩
  | closed => exact .inl ⟨by rw [World.asking?, hruns]; rfl, by simp⟩
  | asked ws =>
    obtain ⟨id, htasks⟩ := hruns
    exact .inr ⟨ws, id, rfl, by rw [World.asking?, htasks]; rfl, htasks⟩
  | written calls ws =>
    obtain ⟨id, result, htasks⟩ := hruns
    exact .inl ⟨by rw [World.asking?, htasks]; rfl, by simp⟩
  | _ =>
    obtain ⟨id, htasks⟩ := hruns
    exact .inl ⟨by rw [World.asking?, htasks]; rfl, by simp⟩

/-- The renewer's answer leads on. -/
theorem answer [KeyValue σ] {ws : List Waiter} (hs : Stands old new w (.asked ws)) {id : Ticket}
    (htasks : w.tasks = [(id, .ask old.refresh)]) :
    (w.step (.answer id (.pair new))).tasks ≠ w.tasks ∧
      Stands old new (w.step (.answer id (.pair new))) (.answered ws) ∧
      Onward new w (.asked ws) (w.step (.answer id (.pair new))) (.answered ws) := by
  obtain ⟨hgate, _, hmemory, hrenewals, hcalls⟩ := hs
  have hstep : w.step (.answer id (.pair new)) =
      { w with tasks := [(id, .write (.put new) (.settle (.renewed new)))] } := by
    simp only [World.step, task?_alone htasks, if_true]
    exact become_alone htasks _
  rw [hstep]
  refine ⟨by simp [htasks], ⟨hgate, ⟨id, rfl⟩, hmemory, hrenewals, hcalls⟩, ?_⟩
  exact .keep (fun h => h) (fun h => by cases h) rfl (List.Subset.refl _)

/-- What comes of a request that comes back with the old access token. -/
def Served (old new : Pair) (w : World σ) (p : Phase) (x : Waiter) (v : World σ) : Prop :=
  ∃ q, Stands old new v q ∧ Onward new w p v q ∧ q.weight ≤ p.weight + 1 ∧ Granted new v q x

/-- It joins the renewal under way, -/
theorem join (hs : Stands old new w p) {ws : List Waiter} {q : Phase} (r : Http.Request)
    (hgate : w.gate = .refreshing ws) (hq : q.gate = .refreshing (ws ++ [⟨w.fresh, r⟩]))
    (hruns : q.Runs old new w.tasks) (hwritten : q.isWritten = p.isWritten)
    (hunanswered : q.isUnanswered = p.isUnanswered) (hrenewals : q.renewals = p.renewals)
    (hcalls : q.calls old = p.calls old) (hrank : q.rank = p.rank)
    (hpending : q.pending = p.pending ++ [⟨w.fresh, r⟩]) :
    Served old new w p ⟨w.fresh, r⟩ (w.arrive ⟨r, some old.access⟩) := by
  have harrive : w.arrive ⟨r, some old.access⟩ =
      { w with
        gate := .refreshing (ws ++ [⟨w.fresh, r⟩])
        fresh := w.fresh + 1
        waiting := w.waiting ++ [w.fresh] } := by
    simp only [World.arrive, hgate]
  rw [harrive]
  refine ⟨q, ⟨hq.symm, hruns, ?_, ?_, ?_⟩, ?_, ?_, ?_⟩
  · rw [hwritten]
    exact hs.memory
  · rw [hrenewals]
    exact hs.renewals
  · rw [hcalls]
    exact hs.asked
  · refine .keep (fun h => hwritten.trans h) (fun h => hunanswered.symm.trans h) rfl ?_
    rw [hpending]
    exact List.subset_append_left _ _
  · simp [Phase.weight, hrank, hpending, Nat.add_assoc]
  · exact .inl (by simp [hpending])

/-- or starts it, -/
theorem begin (hs : Stands old new w .quiet) (r : Http.Request) :
    Served old new w .quiet ⟨w.fresh, r⟩ (w.arrive ⟨r, some old.access⟩) := by
  obtain ⟨hgate, htasks, hmemory, hrenewals, hcalls⟩ := hs
  have hgate : w.gate = .idle := hgate
  have htasks : w.tasks = [] := htasks
  have hmemory : w.store.memory = .ofPair old := hmemory
  have harrive : w.arrive ⟨r, some old.access⟩ =
      { w with
        gate := .refreshing [⟨w.fresh, r⟩]
        tasks := [(w.fresh + 1, .start old.refresh)]
        fresh := w.fresh + 2
        waiting := w.waiting ++ [w.fresh]
        renewals := w.renewals + 1 } := by
    have hsent : (w.store.memory.access.filter fun a => some old.access ≠ some a) = none := by
      simp [hmemory, Tokens.ofPair, Option.filter]
    have hheld : w.store.memory.refresh = some old.refresh := by rw [hmemory]; rfl
    simp only [World.arrive, hgate, hsent, hheld, spawn, htasks]
    rfl
  rw [harrive]
  refine ⟨.started [⟨w.fresh, r⟩], ⟨rfl, ⟨_, rfl⟩, hmemory, ?_, hcalls⟩, ?_, ?_, ?_⟩
  · exact congrArg (· + 1) hrenewals
  · exact .keep (fun h => h) (fun _ => rfl) rfl (List.nil_subset _)
  · simp [Phase.weight, Phase.rank, Phase.pending]
  · exact .inl (List.mem_singleton.mpr rfl)

/-- or gets the new access token at once. -/
theorem retry (hs : Stands old new w p) (hne : old.access ≠ new.access) (r : Http.Request)
    (hgate : w.gate = .idle) (hwritten : p.isWritten = true) :
    Served old new w p ⟨w.fresh, r⟩ (w.arrive ⟨r, some old.access⟩) := by
  have hmemory : w.store.memory = .ofPair new := by rw [hs.memory, hwritten, if_pos rfl]
  have harrive : w.arrive ⟨r, some old.access⟩ =
      ({ w with fresh := w.fresh + 1, waiting := w.waiting ++ [w.fresh] } : World σ).resume w.fresh
        (authorize r new.access) := by
    have hsent : (w.store.memory.access.filter fun a => some old.access ≠ some a) =
        some new.access := by
      simp [hmemory, Tokens.ofPair, Option.filter, hne]
    simp only [World.arrive, hgate, hsent]
  have hresults : (w.arrive ⟨r, some old.access⟩).results =
      w.results ++ [(w.fresh, authorize r new.access)] := by
    rw [harrive]
    refine results_concat (e := ⟨w.fresh, authorize r new.access, true⟩) ?_
    simp [sent, World.resume, World.mark, Mark.sending?]
  refine ⟨p, ?_, ⟨fun h => h, fun h => h, ?_⟩, Nat.le_succ _, .inr ⟨hwritten, by simp [hresults]⟩⟩
  · rw [harrive]
    refine ⟨hs.gate, hs.tasks, hs.memory, hs.renewals, ?_⟩
    simpa [World.asked, Mark.asked?, World.resume, World.mark] using hs.asked
  · rintro x (hx | ⟨-, hx⟩)
    · exact .inl hx
    · exact .inr ⟨hwritten, by simp [hresults, hx]⟩

theorem arrive (hs : Stands old new w p) (hne : old.access ≠ new.access) (r : Http.Request) :
    Served old new w p ⟨w.fresh, r⟩ (w.arrive ⟨r, some old.access⟩) := by
  have hruns := hs.tasks
  cases p with
  | quiet => exact hs.begin r
  | started ws =>
    exact hs.join (q := .started (ws ++ [⟨w.fresh, r⟩])) r hs.gate rfl hruns rfl rfl rfl rfl rfl rfl
  | asked ws =>
    exact hs.join (q := .asked (ws ++ [⟨w.fresh, r⟩])) r hs.gate rfl hruns rfl rfl rfl rfl rfl rfl
  | answered ws =>
    exact hs.join (q := .answered (ws ++ [⟨w.fresh, r⟩])) r hs.gate rfl hruns rfl rfl rfl rfl rfl rfl
  | written calls ws =>
    exact hs.join (q := .written calls (ws ++ [⟨w.fresh, r⟩])) r hs.gate rfl hruns rfl rfl rfl rfl rfl
      rfl
  | flushing ws => exact hs.retry hne r hs.gate rfl
  | closed => exact hs.retry hne r hs.gate rfl

end Stands

end World

end BandCatalog.Renewal
