import BandCatalog.Proofs.Renewal.Moves

/-!
# One thing at a time

What a coordinator comes to that nobody else uses: one task takes all its steps, whichever of its storage
calls fail, and then the coordinator is quiet again.
-/
namespace BandCatalog.Renewal

/-- A session that ends is redirected once. -/
def Verdict.redirects : Verdict → Nat
  | renewed _ => 0
  | ended _ => 1

namespace World

variable {σ : Type} {w v : World σ} {id : Ticket}

/-- No task and no renewal. -/
structure Quiet (w : World σ) : Prop where
  tasks : w.tasks = []
  gate : w.gate = .idle

theorem new_quiet (s : Store σ) : (new s).Quiet := ⟨rfl, rfl⟩

variable [KeyValue σ]

/-- The tasks of one world can take steps to another, and none there. -/
def Drains (w v : World σ) : Prop := ∀ n, w.work ≤ n → drainFor n w = v

theorem Drains.drain_eq (h : Drains w v) : w.drain = v := h _ (Nat.le_refl _)

theorem drains_refl (h : w.runnable? = none) : Drains w w := by
  intro n _
  cases n with
  | zero => rfl
  | succ n => rw [drainFor, h]

theorem Quiet.drains (h : w.Quiet) : Drains w w := drains_refl (by simp [runnable?, h.tasks])

/-- A task alone takes a step. -/
theorem Drains.step {t : Task} (htasks : w.tasks = [(id, t)]) (ht : t.work ≠ 0)
    (hless : (w.advance id t).work < w.work) (h : Drains (w.advance id t) v) : Drains w v := by
  intro n hn
  obtain ⟨m, rfl⟩ := Nat.exists_eq_add_of_lt (Nat.lt_of_lt_of_le (Nat.zero_lt_of_lt hless) hn)
  have hrun : w.runnable? = some id := by simp [runnable?, htasks, ht]
  have hstep : w.step (.advance id) = w.advance id t := by
    simp only [World.step, task?_alone htasks, if_true]
  rw [Nat.zero_add, drainFor, hrun]
  show drainFor m (w.step (.advance id)) = v
  rw [hstep]
  exact h m (by omega)

/-- A renewal calls the renewer and waits for it. -/
theorem drains_start {token : String} (htasks : w.tasks = [(id, .start token)]) :
    Drains w { w with tasks := [(id, .ask token)], trace := .asked token :: w.trace } := by
  have hnext : w.advance id (.start token) =
      { w with tasks := [(id, .ask token)], trace := .asked token :: w.trace } := by
    rw [advance]
    exact become_alone (by exact htasks) _
  refine Drains.step htasks (Nat.succ_ne_zero _) ?_ ?_ <;> rw [hnext]
  · simp [work, htasks, Task.work]
  · exact drains_refl rfl

/-- Storage calls are made, up to the first that fails. -/
theorem drains_persist {cs : List StorageCall} {p : Purpose}
    (htasks : w.tasks = [(id, .persist cs (.ok ()) p)]) :
    ∃ trace, ∀ v, Drains { w with
      store := ⟨(Store.persist w.store.storage cs).2.2, w.store.memory⟩
      tasks := [(id, .persist [] (Store.persist w.store.storage cs).1 p)]
      trace := trace } v → Drains w v := by
  induction cs generalizing w with
  | nil =>
    refine ⟨w.trace, fun v h => ?_⟩
    obtain ⟨store, gate, tasks, fresh, waiting, renewals, redirects, trace⟩ := w
    obtain rfl : tasks = _ := htasks
    exact h
  | cons c cs ih =>
    have hwork : w.work = cs.length + 3 + w.gate.waiters.length := by simp [work, htasks, Task.work]
    obtain ⟨r, report, storage, hcall⟩ :
        ∃ r report storage, Store.call w.store.storage c = (r, report, storage) := ⟨_, _, _, rfl⟩
    let u : World σ := { w with
      store := { w.store with storage := storage }
      trace := .called report w.gate.isRefreshing :: w.trace }
    cases r with
    | ok value =>
      have hnext : w.advance id (.persist (c :: cs) (.ok ()) p) =
          { u with tasks := [(id, .persist cs (.ok ()) p)] } := by
        simp only [advance, hcall]
        exact become_alone (by exact htasks) _
      let rest : World σ := { u with tasks := [(id, .persist cs (.ok ()) p)] }
      have hrest : rest.tasks = [(id, .persist cs (.ok ()) p)] := rfl
      obtain ⟨trace, hrest⟩ := ih hrest
      refine ⟨trace, fun v h => Drains.step htasks (Nat.succ_ne_zero _) ?_ ?_⟩
      · rw [hnext, hwork]
        simp [work, Task.work, u]
      · rw [hnext]
        simp only [Store.persist, hcall] at h
        exact hrest v h
    | error e =>
      have hnext : w.advance id (.persist (c :: cs) (.ok ()) p) =
          { u with tasks := [(id, .persist [] (.error e) p)] } := by
        simp only [advance, hcall]
        exact become_alone (by exact htasks) _
      refine ⟨u.trace, fun v h => Drains.step htasks (Nat.succ_ne_zero _) ?_ ?_⟩
      · rw [hnext, hwork]
        simp [work, Task.work, u]
      · rw [hnext]
        simp only [Store.persist, hcall] at h
        exact h

/-- The store is written as a whole. -/
theorem drains_write {c : Write} {p : Purpose} (htasks : w.tasks = [(id, .write c p)]) :
    ∃ trace, ∀ v, Drains { w with
      store := (w.store.write c).2.2
      tasks := [(id, .persist [] (w.store.write c).1 p)]
      trace := trace } v → Drains w v := by
  let u : World σ := { w with
    store := { w.store with memory := c.tokens }
    tasks := [(id, .persist c.calls (.ok ()) p)]
    trace := .remembered c.tokens w.gate.isRefreshing :: w.trace }
  have hnext : w.advance id (.write c p) = u := by
    rw [advance]
    exact become_alone (by exact htasks) _
  have hu : u.tasks = [(id, .persist c.calls (.ok ()) p)] := rfl
  obtain ⟨trace, hrest⟩ := drains_persist hu
  refine ⟨trace, fun v h => Drains.step htasks (Nat.succ_ne_zero _) ?_ ?_⟩
  · rw [hnext]
    simp [work, htasks, Task.work, u]
  · rw [hnext]
    exact hrest v h

/-- A login or logout has its result. -/
theorem drains_session {r : Except StoreError Unit} (htasks : w.tasks = [(id, .persist [] r .session)]) :
    Drains w { w with tasks := [], trace := .wrote id r :: w.trace } := by
  have hnext : w.advance id (.persist [] r .session) =
      { w with tasks := [], trace := .wrote id r :: w.trace } := by
    rw [advance, conclude]
    exact finish_alone htasks
  refine Drains.step htasks (Nat.succ_ne_zero _) ?_ ?_
  · rw [hnext]
    simp [work, htasks, Task.work]
  · rw [hnext]
    exact drains_refl rfl

/-- A request that is turned away has its result, and the session is redirected. -/
theorem drains_dismiss {r : Except StoreError Unit} {t : Ticket}
    (htasks : w.tasks = [(id, .persist [] r (.dismiss t))]) :
    ∃ waiting taken, Drains w { w with
      tasks := []
      waiting := waiting
      redirects := w.redirects + 1
      trace := .resumed t (.error (.sessionExpired .noCredential)) taken :: .redirected :: w.trace } := by
  refine ⟨w.waiting.erase t, w.waiting.contains t, Drains.step htasks (Nat.succ_ne_zero _) ?_ ?_⟩
  all_goals
    rw [advance, conclude, finish_alone (by exact htasks)]
  · simp [work, htasks, Task.work, resume, redirect, mark]
  · exact drains_refl rfl

/-- A renewal settles, its only waiter gets its result, and a session that ended is redirected. -/
theorem drains_settle {r : Except StoreError Unit} {d : Verdict} {x : Waiter}
    (htasks : w.tasks = [(id, .persist [] r (.settle d))]) (hgate : w.gate = .refreshing [x]) :
    ∃ u, Drains w u ∧ u.Quiet ∧ u.store = w.store ∧ u.renewals = w.renewals ∧
      u.redirects = w.redirects + d.redirects ∧ u.resultOf? x.ticket = some (d.resume x.request) := by
  let idle : World σ := { w with gate := .idle, tasks := [(id, .flush d [x])] }
  let resumed : World σ := { idle with
    tasks := [(id, .flush d [])]
    waiting := w.waiting.erase x.ticket
    trace := .resumed x.ticket (d.resume x.request) (w.waiting.contains x.ticket) :: w.trace }
  have hidle : w.advance id (.persist [] r (.settle d)) = idle := by
    rw [advance, conclude, hgate]
    exact become_alone (by exact htasks) _
  have hresumed : idle.advance id (.flush d [x]) = resumed := become_alone rfl _
  have hwork : w.work = 3 := by simp [work, htasks, hgate, Task.work, Gate.waiters]
  have hlast : ∀ u : World σ, resumed.advance id (.flush d []) = u → u.tasks = [] → u.gate = .idle →
      Drains w u := by
    intro u hu hnone hgate
    refine Drains.step htasks (Nat.succ_ne_zero _) ?_ ?_
    · rw [hidle, hwork]
      exact Nat.lt_succ_self 2
    rw [hidle]
    refine Drains.step rfl (Nat.succ_ne_zero _) ?_ ?_
    · rw [hresumed]
      exact Nat.lt_succ_self 1
    rw [hresumed]
    refine Drains.step rfl (Nat.succ_ne_zero _) ?_ ?_ <;> rw [hu]
    · have hnothing : u.work = 0 := by simp [work, hnone, hgate, Gate.waiters]
      rw [hnothing]
      exact Nat.zero_lt_one
    · exact Quiet.drains ⟨hnone, hgate⟩
  cases d with
  | renewed p =>
    refine ⟨{ resumed with tasks := [] }, hlast _ ?_ rfl rfl, ⟨rfl, rfl⟩, rfl, rfl, rfl, ?_⟩
    · rw [advance]
      exact finish_alone rfl
    · simp [resultOf?, resumed]
  | ended cause =>
    refine ⟨{ resumed.redirect with tasks := [] }, hlast _ ?_ rfl rfl, ⟨rfl, rfl⟩, rfl, rfl, rfl, ?_⟩
    · rw [advance]
      exact finish_alone rfl
    · simp [resultOf?, resumed, redirect, mark]

/-- A quiet world that another has come to, with its store, renewals and redirects. -/
structure Rests (w : World σ) (store : Store σ) (renewals redirects : Nat) (v : World σ) : Prop where
  quiet : v.Quiet
  store : v.store = store
  renewals : v.renewals = w.renewals + renewals
  redirects : v.redirects = w.redirects + redirects

/-- A login or logout writes the store. -/
theorem Quiet.begin (hquiet : w.Quiet) (c : Write) :
    ∃ v, Drains (w.step (.begin c)) v ∧ w.Rests (w.store.write c).2.2 0 0 v ∧
      v.writeOf? w.fresh = some (w.store.write c).1 := by
  have htasks : (w.step (.begin c)).tasks = [(w.fresh, .write c .session)] := by
    simp [World.step, spawn, hquiet.tasks]
  obtain ⟨trace, hwrite⟩ := drains_write htasks
  refine ⟨_, hwrite _ (drains_session rfl), ⟨⟨rfl, hquiet.gate⟩, rfl, rfl, rfl⟩, ?_⟩
  simp [writeOf?, World.step, spawn]

variable {p : Pending}

/-- A request that was sent with another token than the one in memory is handed back with that. -/
theorem Quiet.retry (hquiet : w.Quiet) {token : String}
    (hnewer : w.store.memory.access.filter (fun a => p.sentWith ≠ some a) = some token) :
    ∃ v, Drains (w.step (.arrive p)) v ∧ w.Rests w.store 0 0 v ∧
      v.resultOf? w.fresh = some (authorize p.request token) := by
  have harrive : w.step (.arrive p) = ({ w with
      fresh := w.fresh + 1
      waiting := w.waiting ++ [w.fresh] } : World σ).resume w.fresh (authorize p.request token) := by
    simp only [World.step, arrive, hquiet.gate, hnewer]
  rw [harrive]
  have hrest : (({ w with
      fresh := w.fresh + 1
      waiting := w.waiting ++ [w.fresh] } : World σ).resume w.fresh (authorize p.request token)).Quiet :=
    ⟨hquiet.tasks, hquiet.gate⟩
  exact ⟨_, hrest.drains, ⟨hrest, rfl, rfl, rfl⟩, by simp [resultOf?, resume, mark]⟩

/-- One that finds no refresh token ends the session. -/
theorem Quiet.dismiss (hquiet : w.Quiet)
    (hstale : w.store.memory.access.filter (fun a => p.sentWith ≠ some a) = none)
    (hnone : w.store.memory.refresh = none) :
    ∃ v, Drains (w.step (.arrive p)) v ∧ w.Rests (w.store.write .forget).2.2 0 1 v ∧
      v.resultOf? w.fresh = some (.error (.sessionExpired .noCredential)) := by
  let found : World σ := { w with
    fresh := w.fresh + 2
    waiting := w.waiting ++ [w.fresh]
    tasks := [(w.fresh + 1, .write .forget (.dismiss w.fresh))] }
  have harrive : w.step (.arrive p) = found := by
    simp only [World.step, arrive, hquiet.gate, hstale, hnone, spawn, hquiet.tasks, List.nil_append,
      found]
  rw [harrive]
  have hfound : found.tasks = [(w.fresh + 1, .write .forget (.dismiss w.fresh))] := rfl
  obtain ⟨trace, hwrite⟩ := drains_write hfound
  let written : World σ := { found with
    store := (w.store.write .forget).2.2
    tasks := [(w.fresh + 1, .persist [] (w.store.write .forget).1 (.dismiss w.fresh))]
    trace := trace }
  have hwritten : written.tasks =
      [(w.fresh + 1, .persist [] (w.store.write .forget).1 (.dismiss w.fresh))] := rfl
  obtain ⟨waiting, taken, hdismiss⟩ := drains_dismiss hwritten
  exact ⟨_, hwrite _ hdismiss, ⟨⟨rfl, hquiet.gate⟩, rfl, rfl, rfl⟩, by simp [resultOf?]⟩

/-- One that finds a refresh token starts a renewal, and whatever its renewer answers decides. -/
theorem Quiet.renew (hquiet : w.Quiet)
    (hstale : w.store.memory.access.filter (fun a => p.sentWith ≠ some a) = none) {token : String}
    (htoken : w.store.memory.refresh = some token) :
    ∃ v id, Drains (w.step (.arrive p)) v ∧ v.asking? = some (id, token) ∧ v.store = w.store ∧
      ∀ a, ∃ u, Drains (v.step (.answer id a)) u ∧
        w.Rests (w.store.write (Verdict.ofAnswer a).write).2.2 1 (Verdict.ofAnswer a).redirects u ∧
        u.resultOf? w.fresh = some ((Verdict.ofAnswer a).resume p.request) := by
  let started : World σ := { w with
    gate := .refreshing [⟨w.fresh, p.request⟩]
    fresh := w.fresh + 2
    waiting := w.waiting ++ [w.fresh]
    renewals := w.renewals + 1
    tasks := [(w.fresh + 1, .start token)] }
  have harrive : w.step (.arrive p) = started := by
    simp only [World.step, arrive, hquiet.gate, hstale, htoken, spawn, hquiet.tasks, List.nil_append,
      started]
  rw [harrive]
  let asking : World σ := { started with
    tasks := [(w.fresh + 1, .ask token)]
    trace := .asked token :: w.trace }
  refine ⟨asking, w.fresh + 1, drains_start rfl, rfl, rfl, fun a => ?_⟩
  let d := Verdict.ofAnswer a
  let answered : World σ := { asking with tasks := [(w.fresh + 1, .write d.write (.settle d))] }
  have hanswer : asking.step (.answer (w.fresh + 1) a) = answered := by
    have htask : asking.task? (w.fresh + 1) = some (.ask token) := by
      rw [task?_alone rfl, if_pos rfl]
    simp only [World.step, htask]
    exact become_alone rfl _
  rw [hanswer]
  have hanswered : answered.tasks = [(w.fresh + 1, .write d.write (.settle d))] := rfl
  obtain ⟨trace, hwrite⟩ := drains_write hanswered
  let written : World σ := { asking with
    store := (w.store.write d.write).2.2
    tasks := [(w.fresh + 1, .persist [] (w.store.write d.write).1 (.settle d))]
    trace := trace }
  have hwritten : written.tasks =
      [(w.fresh + 1, .persist [] (w.store.write d.write).1 (.settle d))] := rfl
  have hgate : written.gate = .refreshing [⟨w.fresh, p.request⟩] := rfl
  obtain ⟨u, hsettle, hrest, hstore, hrenewals, hredirects, hresult⟩ := drains_settle hwritten hgate
  exact ⟨u, hwrite _ hsettle, ⟨hrest, hstore, hrenewals, hredirects⟩, hresult⟩

end World

end BandCatalog.Renewal
