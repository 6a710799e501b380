import BandCatalog.Renewal.Coordinator

/-!
# Moves of the coordinator

A step is summed up in a move, which says what it did, and a run in the list of its moves, the history.
`Takes` says in full what each move does to a world. Every step takes its move, in any world in which
the numbers of tasks are those of the counter; so a property of runs needs one case for each move.
-/
namespace BandCatalog.Renewal

/-- Whether a write of the store is a renewal's. -/
def Purpose.isRenewal : Purpose → Bool
  | settle _ => true
  | dismiss _ => false
  | session => false

@[simp] theorem Purpose.isRenewal_settle (v : Verdict) : (settle v).isRenewal = true := rfl
@[simp] theorem Purpose.isRenewal_dismiss (t : Ticket) : (dismiss t).isRenewal = false := rfl
@[simp] theorem Purpose.isRenewal_session : session.isRenewal = false := rfl

namespace Task

/-- Renewals from their start until they settle. -/
def isUnsettled : Task → Bool
  | start _ => true
  | ask _ => true
  | write _ p => p.isRenewal
  | persist _ _ p => p.isRenewal
  | flush _ _ => false

@[simp] theorem isUnsettled_start (token : String) : (start token).isUnsettled = true := rfl
@[simp] theorem isUnsettled_ask (token : String) : (ask token).isUnsettled = true := rfl
@[simp] theorem isUnsettled_write (c : Write) (p : Purpose) :
    (write c p).isUnsettled = p.isRenewal := rfl
@[simp] theorem isUnsettled_persist (cs : List StorageCall) (result : Except StoreError Unit)
    (p : Purpose) : (persist cs result p).isUnsettled = p.isRenewal := rfl
@[simp] theorem isUnsettled_flush (v : Verdict) (ws : List Waiter) :
    (flush v ws).isUnsettled = false := rfl

end Task

/-- What a request meets that comes back unauthorized. -/
inductive Admission where
  /-- It waits for the renewal in flight. -/
  | queued (flight : Option Ticket)
  /-- It starts a renewal, and waits for it. -/
  | started (id : Ticket) (token : String)
  /-- It goes out again with the access token in memory. -/
  | retried (access : String)
  /-- There is no refresh token to renew with. -/
  | refused
  deriving DecidableEq, Repr

/-- What a step does. -/
inductive Move where
  | admitted (x : Waiter) (a : Admission)
  | dropped (t : Ticket)
  | begun (c : Write)
  /-- The renewer is called with a refresh token. -/
  | called (id : Ticket) (token : String)
  | answered (id : Ticket) (a : Answer)
  /-- The store is written in memory. -/
  | wrote (id : Ticket) (c : Write) (p : Purpose)
  | stored (id : Ticket) (report : Report) (p : Purpose)
  /-- A renewal takes over those who wait, and the gate is idle again. -/
  | settled (id : Ticket) (v : Verdict) (waiters : List Waiter)
  /-- A request that was refused is turned away. -/
  | dismissed (id t : Ticket)
  /-- A login's or logout's write is done. -/
  | concluded (id : Ticket)
  | resumed (id : Ticket) (v : Verdict) (x : Waiter)
  /-- A renewal has resumed its last waiter, and is done. -/
  | closed (id : Ticket) (v : Verdict)
  | nothing
  deriving DecidableEq, Repr

/-- What is sent to a request in a move. -/
def Move.result? : Move → Option (Ticket × Resumption)
  | admitted x (.retried access) => some (x.ticket, authorize x.request access)
  | dismissed _ t => some (t, .error (.sessionExpired .noCredential))
  | resumed _ v x => some (x.ticket, v.resume x.request)
  | _ => none

/-- Moves that are not made by a task or by a renewer. -/
def Move.isOuter : Move → Bool
  | admitted _ _ => true
  | dropped _ => true
  | begun _ => true
  | _ => false

namespace World

variable {σ : Type}

/-- The renewals that have not settled. -/
def renewing (w : World σ) : List (Ticket × Task) := w.tasks.filter fun e => e.2.isUnsettled

/-- The renewal in flight. -/
def flight? (w : World σ) : Option Ticket := w.renewing.head?.map Prod.fst

/-- What a request meets in a world. -/
def admission (w : World σ) (p : Pending) : Admission :=
  match w.gate with
  | .refreshing _ => .queued w.flight?
  | .idle =>
    match w.store.memory.access.filter fun a => p.sentWith ≠ some a, w.store.memory.refresh with
    | some a, _ => .retried a
    | none, some token => .started (w.fresh + 1) token
    | none, none => .refused

/-- What a task does in its next step. -/
def taskMove [KeyValue σ] (w : World σ) (id : Ticket) : Task → Move
  | .start token => .called id token
  | .ask _ => .nothing
  | .write c p => .wrote id c p
  | .persist [] _ (.settle v) => .settled id v w.gate.waiters
  | .persist [] _ (.dismiss t) => .dismissed id t
  | .persist [] _ .session => .concluded id
  | .persist (c :: _) _ p => .stored id (Store.call w.store.storage c).2.1 p
  | .flush v (x :: _) => .resumed id v x
  | .flush v [] => .closed id v

/-- What an event does in a world. -/
def move [KeyValue σ] (w : World σ) : Event → Move
  | .arrive p => .admitted ⟨w.fresh, p.request⟩ (w.admission p)
  | .drop t => .dropped t
  | .answer id a =>
    match w.task? id with
    | some (.ask _) => .answered id a
    | _ => .nothing
  | .advance id =>
    match w.task? id with
    | some t => w.taskMove id t
    | none => .nothing
  | .begin c => .begun c

/-- The history of a run. -/
def moves [KeyValue σ] (w : World σ) : List Event → List Move
  | [] => []
  | e :: es => w.move e :: (w.step e).moves es

/-- What a history shows grows by what its last move shows. -/
@[simp] theorem filterMap_singleton {α β : Type} (f : α → Option β) (a : α) :
    [a].filterMap f = (f a).toList := by
  cases h : f a <;> simp [h]

@[simp] theorem moves_nil [KeyValue σ] (w : World σ) : w.moves [] = [] := rfl
@[simp] theorem moves_cons [KeyValue σ] (w : World σ) (e : Event) (es : List Event) :
    w.moves (e :: es) = w.move e :: (w.step e).moves es := rfl

/-- Every move of a history is that of an event, in the world that the events before it lead to. -/
theorem exists_of_mem_moves [KeyValue σ] {w : World σ} {es : List Event} {m : Move}
    (hm : m ∈ w.moves es) :
    ∃ past e rest, es = past ++ e :: rest ∧ (w.run past).move e = m := by
  induction es generalizing w with
  | nil => exact absurd hm List.not_mem_nil
  | cons e es ih =>
    rcases List.mem_cons.mp hm with rfl | hm
    · exact ⟨[], e, es, rfl, rfl⟩
    · obtain ⟨past, e', rest, rfl, he⟩ := ih hm
      exact ⟨e :: past, e', rest, rfl, he⟩

/-- Tasks and renewers admit nobody, give nobody up and begin no write. -/
theorem isOuter_taskMove [KeyValue σ] (w : World σ) (id : Ticket) (t : Task) :
    (w.taskMove id t).isOuter = false := by
  unfold taskMove
  split <;> rfl

theorem isOuter_answer [KeyValue σ] {w : World σ} {id : Ticket} {a : Answer} {m : Move}
    (hm : w.move (.answer id a) = m) : m.isOuter = false := by
  simp only [move] at hm
  split at hm <;> subst hm <;> rfl

theorem isOuter_advance [KeyValue σ] {w : World σ} {id : Ticket} {m : Move}
    (hm : w.move (.advance id) = m) : m.isOuter = false := by
  simp only [move] at hm
  split at hm <;> subst hm
  · exact isOuter_taskMove w id _
  · rfl

/-- Only a request that comes back unauthorized is admitted. -/
theorem arrive_of_move [KeyValue σ] {w : World σ} {e : Event} {x : Waiter} {a : Admission}
    (hm : w.move e = .admitted x a) :
    ∃ p, e = .arrive p ∧ x = ⟨w.fresh, p.request⟩ ∧ w.admission p = a := by
  cases e with
  | arrive p =>
    obtain ⟨hx, ha⟩ := Move.admitted.inj hm
    exact ⟨p, rfl, hx.symm, ha⟩
  | drop t => cases hm
  | begin c => cases hm
  | answer id a => cases isOuter_answer hm
  | advance id => cases isOuter_advance hm

/-- Only an event gives a request up. -/
theorem drop_of_mem_moves [KeyValue σ] {w : World σ} {es : List Event} {t : Ticket}
    (h : .dropped t ∈ w.moves es) : .drop t ∈ es := by
  obtain ⟨past, e, rest, rfl, hm⟩ := exists_of_mem_moves h
  refine List.mem_append_right _ (List.mem_cons.mpr (.inl ?_))
  cases e with
  | drop u => rw [Move.dropped.inj hm]
  | arrive p => cases hm
  | begin c => cases hm
  | answer id a => cases isOuter_answer hm
  | advance id => cases isOuter_advance hm

/-- Only an event begins a login or logout. -/
theorem begin_of_mem_moves [KeyValue σ] {w : World σ} {es : List Event} {c : Write}
    (h : .begun c ∈ w.moves es) : .begin c ∈ es := by
  obtain ⟨past, e, rest, rfl, hm⟩ := exists_of_mem_moves h
  refine List.mem_append_right _ (List.mem_cons.mpr (.inl ?_))
  cases e with
  | begin d => rw [Move.begun.inj hm]
  | arrive p => cases hm
  | drop t => cases hm
  | answer id a => cases isOuter_answer hm
  | advance id => cases isOuter_advance hm

/-- Every number that is in use is below the counter, and no two tasks have the same. -/
structure Numbered (w : World σ) : Prop where
  distinct : (w.tasks.map Prod.fst).Nodup
  tasks : ∀ id ∈ w.tasks.map Prod.fst, id < w.fresh
  waiting : ∀ t ∈ w.waiting, t < w.fresh

/-- All that a step can do. A task that moves stands between the older and the younger ones. -/
inductive Takes [KeyValue σ] (w : World σ) : Move → World σ → Prop where
  | queue {ws : List Waiter} (p : Pending) (gate : w.gate = .refreshing ws) :
      Takes w (.admitted ⟨w.fresh, p.request⟩ (.queued w.flight?))
        { w with
          gate := .refreshing (ws ++ [⟨w.fresh, p.request⟩])
          fresh := w.fresh + 1
          waiting := w.waiting ++ [w.fresh] }
  | start {p : Pending} {token : String} (gate : w.gate = .idle)
      (sent : ∀ access, w.store.memory.access = some access → p.sentWith = some access)
      (held : w.store.memory.refresh = some token) :
      Takes w (.admitted ⟨w.fresh, p.request⟩ (.started (w.fresh + 1) token))
        { w with
          gate := .refreshing [⟨w.fresh, p.request⟩]
          tasks := w.tasks ++ [(w.fresh + 1, .start token)]
          fresh := w.fresh + 2
          waiting := w.waiting ++ [w.fresh]
          renewals := w.renewals + 1 }
  | retry {p : Pending} {access : String} (gate : w.gate = .idle) (sent : p.sentWith ≠ some access)
      (held : w.store.memory.access = some access) :
      Takes w (.admitted ⟨w.fresh, p.request⟩ (.retried access))
        { w with
          fresh := w.fresh + 1
          trace := .resumed w.fresh (authorize p.request access) true :: w.trace }
  | refuse {p : Pending} (gate : w.gate = .idle)
      (sent : ∀ access, w.store.memory.access = some access → p.sentWith = some access)
      (held : w.store.memory.refresh = none) :
      Takes w (.admitted ⟨w.fresh, p.request⟩ .refused)
        { w with
          tasks := w.tasks ++ [(w.fresh + 1, .write .forget (.dismiss w.fresh))]
          fresh := w.fresh + 2
          waiting := w.waiting ++ [w.fresh] }
  | drop (t : Ticket) : Takes w (.dropped t) { w with waiting := w.waiting.erase t }
  | begin (c : Write) :
      Takes w (.begun c)
        { w with tasks := w.tasks ++ [(w.fresh, .write c .session)], fresh := w.fresh + 1 }
  | call {l r : List (Ticket × Task)} {id : Ticket} {token : String}
      (tasks : w.tasks = l ++ (id, .start token) :: r) :
      Takes w (.called id token)
        { w with tasks := l ++ (id, .ask token) :: r, trace := .asked token :: w.trace }
  | answer {l r : List (Ticket × Task)} {id : Ticket} {token : String} (a : Answer)
      (tasks : w.tasks = l ++ (id, .ask token) :: r) :
      Takes w (.answered id a)
        { w with
          tasks := l ++ (id, .write (Verdict.ofAnswer a).write (.settle (.ofAnswer a))) :: r }
  | write {l r : List (Ticket × Task)} {id : Ticket} {c : Write} {p : Purpose}
      (tasks : w.tasks = l ++ (id, .write c p) :: r) :
      Takes w (.wrote id c p)
        { w with
          store := { w.store with memory := c.tokens }
          tasks := l ++ (id, .persist c.calls (.ok ()) p) :: r
          trace := .remembered c.tokens w.gate.isRefreshing :: w.trace }
  | store {l r : List (Ticket × Task)} {id : Ticket} {c : StorageCall} {cs left : List StorageCall}
      {result after : Except StoreError Unit} {p : Purpose}
      (tasks : w.tasks = l ++ (id, .persist (c :: cs) result p) :: r)
      (next : ((Store.call w.store.storage c).1.isOk ∧ left = cs ∧ after = result) ∨
        (∃ e, (Store.call w.store.storage c).1 = .error e ∧ left = [] ∧ after = .error e)) :
      Takes w (.stored id (Store.call w.store.storage c).2.1 p)
        { w with
          store := { w.store with storage := (Store.call w.store.storage c).2.2 }
          tasks := l ++ (id, .persist left after p) :: r
          trace := .called (Store.call w.store.storage c).2.1 w.gate.isRefreshing :: w.trace }
  | settle {l r : List (Ticket × Task)} {id : Ticket} {result : Except StoreError Unit} {v : Verdict}
      (tasks : w.tasks = l ++ (id, .persist [] result (.settle v)) :: r) :
      Takes w (.settled id v w.gate.waiters)
        { w with gate := .idle, tasks := l ++ (id, .flush v w.gate.waiters) :: r }
  | dismiss {l r : List (Ticket × Task)} {id t : Ticket} {result : Except StoreError Unit}
      (tasks : w.tasks = l ++ (id, .persist [] result (.dismiss t)) :: r) :
      Takes w (.dismissed id t)
        { w with
          tasks := l ++ r
          redirects := w.redirects + 1
          waiting := w.waiting.erase t
          trace := .resumed t (.error (.sessionExpired .noCredential)) (w.waiting.contains t) ::
            .redirected :: w.trace }
  | conclude {l r : List (Ticket × Task)} {id : Ticket} {result : Except StoreError Unit}
      (tasks : w.tasks = l ++ (id, .persist [] result .session) :: r) :
      Takes w (.concluded id) { w with tasks := l ++ r, trace := .wrote id result :: w.trace }
  | resume {l r : List (Ticket × Task)} {id : Ticket} {v : Verdict} {x : Waiter} {xs : List Waiter}
      (tasks : w.tasks = l ++ (id, .flush v (x :: xs)) :: r) :
      Takes w (.resumed id v x)
        { w with
          tasks := l ++ (id, .flush v xs) :: r
          waiting := w.waiting.erase x.ticket
          trace := .resumed x.ticket (v.resume x.request) (w.waiting.contains x.ticket) :: w.trace }
  | close {l r : List (Ticket × Task)} {id : Ticket} {p : Pair}
      (tasks : w.tasks = l ++ (id, .flush (.renewed p) []) :: r) :
      Takes w (.closed id (.renewed p)) { w with tasks := l ++ r }
  | redirect {l r : List (Ticket × Task)} {id : Ticket} {cause : TerminalCause}
      (tasks : w.tasks = l ++ (id, .flush (.ended cause) []) :: r) :
      Takes w (.closed id (.ended cause))
        { w with
          tasks := l ++ r
          redirects := w.redirects + 1
          trace := .redirected :: w.trace }
  | stay : Takes w .nothing w

theorem exists_split {w : World σ} {id : Ticket} {t : Task} (h : w.task? id = some t) :
    ∃ l r, w.tasks = l ++ (id, t) :: r := by
  obtain ⟨l, r, htasks, _⟩ := List.lookup_eq_some_iff.mp h
  exact ⟨l, r, htasks⟩

/-- In a world with distinct numbers the task that moves is the only one of its number. -/
theorem Numbered.others {w : World σ} (h : w.Numbered) {l r : List (Ticket × Task)} {id : Ticket}
    {t : Task} (htasks : w.tasks = l ++ (id, t) :: r) : ∀ e ∈ l ++ r, e.1 ≠ id := by
  have hd := h.distinct
  rw [htasks] at hd
  simp only [List.map_append, List.map_cons, List.nodup_append, List.nodup_cons, List.mem_map,
    List.mem_cons] at hd
  intro e he hid
  rcases List.mem_append.mp he with he | he
  · exact hd.2.2 e.1 ⟨e, he, rfl⟩ id (.inl rfl) hid
  · exact hd.2.1.1 ⟨e, he, hid⟩

theorem mem_of_split {w : World σ} {l r : List (Ticket × Task)} {id : Ticket} {t : Task}
    (htasks : w.tasks = l ++ (id, t) :: r) : (id, t) ∈ w.tasks := by
  rw [htasks]
  exact List.mem_append_right _ List.mem_cons_self

theorem mem_of_task? {w : World σ} {id : Ticket} {t : Task} (h : w.task? id = some t) :
    (id, t) ∈ w.tasks := by
  obtain ⟨l, r, htasks⟩ := exists_split h
  exact mem_of_split htasks

theorem Numbered.task?_eq_some {w : World σ} (h : w.Numbered) {id : Ticket} {t : Task}
    (ht : (id, t) ∈ w.tasks) : w.task? id = some t := by
  obtain ⟨l, r, htasks⟩ := List.append_of_mem ht
  refine List.lookup_eq_some_iff.mpr ⟨l, r, htasks, ?_⟩
  intro e he
  have hne := h.others htasks e (List.mem_append_left _ he)
  simpa using fun heq => hne heq.symm

section forall_tasks

variable {P : Ticket × Task → Prop} {w : World σ} {l r : List (Ticket × Task)} {id : Ticket}
  {t u : Task}

/-- What holds of every task holds of the one that moves. -/
theorem forall_held (h : ∀ e ∈ w.tasks, P e) (htasks : w.tasks = l ++ (id, t) :: r) : P (id, t) :=
  h _ (mem_of_split htasks)

/-- It still holds of every task after one of them has moved, -/
theorem forall_moved (h : ∀ e ∈ w.tasks, P e) (htasks : w.tasks = l ++ (id, t) :: r)
    (hu : P (id, u)) : ∀ e ∈ l ++ (id, u) :: r, P e := by
  intro e he
  rw [htasks] at h
  rcases List.mem_append.mp he with he | he
  · exact h e (List.mem_append_left _ he)
  · rcases List.mem_cons.mp he with rfl | he
    · exact hu
    · exact h e (List.mem_append_right _ (List.mem_cons_of_mem _ he))

/-- after one has ended, -/
theorem forall_ended (h : ∀ e ∈ w.tasks, P e) (htasks : w.tasks = l ++ (id, t) :: r) :
    ∀ e ∈ l ++ r, P e := by
  intro e he
  rw [htasks] at h
  rcases List.mem_append.mp he with he | he
  · exact h e (List.mem_append_left _ he)
  · exact h e (List.mem_append_right _ (List.mem_cons_of_mem _ he))

/-- and after another was spawned. -/
theorem forall_spawned (h : ∀ e ∈ w.tasks, P e) (ht : P (id, t)) :
    ∀ e ∈ w.tasks ++ [(id, t)], P e := by
  intro e he
  rcases List.mem_append.mp he with he | he
  · exact h e he
  · rw [List.mem_singleton.mp he]
    exact ht

end forall_tasks

theorem map_others {l : List (Ticket × Task)} {id : Ticket} (t : Task) (h : ∀ e ∈ l, e.1 ≠ id) :
    l.map (fun e => if e.1 = id then (id, t) else e) = l := by
  have he : ∀ e ∈ l, (if e.1 = id then (id, t) else e) = e := fun e he => if_neg (h e he)
  rw [List.map_congr_left he, List.map_id']

theorem become_of_split {v : World σ} {l r : List (Ticket × Task)} {id : Ticket} {t : Task}
    (ho : ∀ e ∈ l ++ r, e.1 ≠ id) (htasks : v.tasks = l ++ (id, t) :: r) (next : Task) :
    v.become id next = { v with tasks := l ++ (id, next) :: r } := by
  have hl := map_others next fun e he => ho e (List.mem_append_left r he)
  have hr := map_others next fun e he => ho e (List.mem_append_right l he)
  simp only [become, htasks, List.map_append, List.map_cons, hl, hr, if_true]

theorem finish_of_split {v : World σ} {l r : List (Ticket × Task)} {id : Ticket} {t : Task}
    (ho : ∀ e ∈ l ++ r, e.1 ≠ id) (htasks : v.tasks = l ++ (id, t) :: r) :
    v.finish id = { v with tasks := l ++ r } := by
  have hlr : (l ++ r).filter (fun e => decide (e.1 ≠ id)) = l ++ r := by
    apply List.filter_eq_self.mpr
    intro e he
    simpa using ho e he
  rw [← hlr]
  simp [finish, htasks]

theorem Numbered.fresh_not_waiting {w : World σ} (h : w.Numbered) : w.fresh ∉ w.waiting :=
  fun hw => Nat.lt_irrefl _ (h.waiting _ hw)

theorem takes_arrive [KeyValue σ] {w : World σ} (h : w.Numbered) (p : Pending) :
    Takes w (w.move (.arrive p)) (w.step (.arrive p)) := by
  change Takes w (.admitted ⟨w.fresh, p.request⟩ (w.admission p)) (w.arrive p)
  cases hg : w.gate with
  | refreshing ws =>
    have ha : w.admission p = .queued w.flight? := by simp [admission, hg]
    have hs : w.arrive p = { w with
        gate := .refreshing (ws ++ [⟨w.fresh, p.request⟩]), fresh := w.fresh + 1,
        waiting := w.waiting ++ [w.fresh] } := by simp [arrive, hg]
    rw [ha, hs]
    exact .queue p hg
  | idle =>
    cases hf : w.store.memory.access.filter fun a => p.sentWith ≠ some a with
    | some access =>
      obtain ⟨held, sent⟩ := Option.filter_eq_some_iff.mp hf
      have ha : w.admission p = .retried access := by simp only [admission, hg, hf]
      have hs : w.arrive p = { w with
          fresh := w.fresh + 1
          trace := .resumed w.fresh (authorize p.request access) true :: w.trace } := by
        have hne := h.fresh_not_waiting
        simp only [arrive, hg, hf]
        simp [resume, mark, List.erase_append_right _ hne]
      rw [ha, hs]
      exact .retry hg (by simpa using sent) held
    | none =>
      have sent : ∀ access, w.store.memory.access = some access → p.sentWith = some access := by
        intro access held
        simpa [held] using hf
      cases hr : w.store.memory.refresh with
      | some token =>
        have ha : w.admission p = .started (w.fresh + 1) token := by simp only [admission, hg, hf, hr]
        rw [ha]
        simp only [arrive, hg, hf, hr]
        exact .start hg sent hr
      | none =>
        have ha : w.admission p = .refused := by simp only [admission, hg, hf, hr]
        have hs : w.arrive p = { w with
            tasks := w.tasks ++ [(w.fresh + 1, .write .forget (.dismiss w.fresh))]
            fresh := w.fresh + 2, waiting := w.waiting ++ [w.fresh] } := by
          simp only [arrive, hg, hf, hr, spawn]
        rw [ha, hs]
        exact .refuse hg sent hr

theorem takes_taskMove [KeyValue σ] {w : World σ} (h : w.Numbered) {id : Ticket} {t : Task}
    (ht : w.task? id = some t) : Takes w (w.taskMove id t) (w.advance id t) := by
  obtain ⟨l, r, htasks⟩ := exists_split ht
  have ho := h.others htasks
  cases t with
  | start token =>
    rw [advance, become_of_split ho (by exact htasks)]
    exact .call htasks
  | ask token => exact .stay
  | write c p =>
    rw [advance, become_of_split ho (by exact htasks)]
    exact .write htasks
  | persist calls result p =>
    cases calls with
    | nil =>
      cases p with
      | settle v =>
        rw [advance, conclude, become_of_split ho (by exact htasks)]
        exact .settle htasks
      | dismiss t =>
        rw [advance, conclude, finish_of_split ho (by exact htasks)]
        exact .dismiss htasks
      | session =>
        rw [advance, conclude, finish_of_split ho (by exact htasks)]
        exact .conclude htasks
    | cons c cs =>
      cases hcall : (Store.call w.store.storage c).1 with
      | ok value =>
        simp only [advance, hcall, taskMove]
        rw [become_of_split ho (by exact htasks)]
        exact .store htasks (.inl ⟨by rw [hcall]; rfl, rfl, rfl⟩)
      | error e =>
        simp only [advance, hcall, taskMove]
        rw [become_of_split ho (by exact htasks)]
        exact .store htasks (.inr ⟨e, hcall, rfl, rfl⟩)
  | flush v left =>
    cases left with
    | nil =>
      cases v with
      | renewed p =>
        rw [advance, finish_of_split ho htasks]
        exact .close htasks
      | ended cause =>
        rw [advance, finish_of_split ho (by exact htasks)]
        exact .redirect htasks
    | cons x xs =>
      rw [advance, become_of_split ho (by exact htasks)]
      exact .resume htasks

/-- Every step takes its move. -/
theorem takes_step [KeyValue σ] {w : World σ} (h : w.Numbered) (e : Event) :
    Takes w (w.move e) (w.step e) := by
  cases e with
  | arrive p => exact takes_arrive h p
  | drop t => exact .drop t
  | begin c => exact .begin c
  | advance id =>
    cases ht : w.task? id with
    | none => simpa only [move, step, ht] using Takes.stay
    | some t => simpa only [move, step, ht] using takes_taskMove h ht
  | answer id a =>
    cases ht : w.task? id with
    | none => simpa only [move, step, ht] using Takes.stay
    | some t =>
      cases t with
      | ask token =>
        obtain ⟨l, r, htasks⟩ := exists_split ht
        simp only [move, step, ht]
        rw [become_of_split (h.others htasks) htasks]
        exact .answer a htasks
      | _ => simpa only [move, step, ht] using Takes.stay

theorem numbered_new (s : Store σ) : (new s).Numbered :=
  ⟨by simp [new], by simp [new], by simp [new]⟩

/-- A step that ends tasks or gives up requests keeps the numbers in order. -/
theorem Numbered.mono {w v : World σ} (h : w.Numbered)
    (htasks : List.Sublist (v.tasks.map Prod.fst) (w.tasks.map Prod.fst)) (hfresh : w.fresh ≤ v.fresh)
    (hwaiting : v.waiting ⊆ w.waiting) : v.Numbered where
  distinct := htasks.nodup h.distinct
  tasks := fun id hid => Nat.lt_of_lt_of_le (h.tasks id (htasks.subset hid)) hfresh
  waiting := fun t ht => Nat.lt_of_lt_of_le (h.waiting t (hwaiting ht)) hfresh

/-- So does one that spawns a task under an unused number. -/
theorem Numbered.spawn {w v : World σ} (h : w.Numbered) {id : Ticket} {t : Task}
    (htasks : v.tasks = w.tasks ++ [(id, t)]) (hid : w.fresh ≤ id) (hfresh : id < v.fresh)
    (hwaiting : ∀ t ∈ v.waiting, t ∈ w.waiting ∨ t = w.fresh) : v.Numbered where
  distinct := by
    rw [htasks, List.map_append, List.nodup_append]
    refine ⟨h.distinct, by simp, ?_⟩
    intro a ha b hb hab
    have hlt := h.tasks a ha
    rw [hab, List.mem_singleton.mp hb] at hlt
    exact Nat.lt_irrefl _ (Nat.lt_of_lt_of_le hlt hid)
  tasks := by
    intro a ha
    rw [htasks, List.map_append] at ha
    rcases List.mem_append.mp ha with ha | ha
    · exact Nat.lt_trans (Nat.lt_of_lt_of_le (h.tasks a ha) hid) hfresh
    · rw [List.mem_singleton.mp ha]
      exact hfresh
  waiting := by
    intro t ht
    have hlt := Nat.lt_of_le_of_lt hid hfresh
    rcases hwaiting t ht with ht | rfl
    · exact Nat.lt_trans (h.waiting t ht) hlt
    · exact hlt

theorem Numbered.takes [KeyValue σ] {w v : World σ} {m : Move} (h : w.Numbered)
    (ht : Takes w m v) : v.Numbered := by
  cases ht with
  | queue p gate =>
    refine ⟨h.distinct, fun id hid => Nat.lt_succ_of_lt (h.tasks id hid), ?_⟩
    intro t ht
    rcases List.mem_append.mp ht with ht | ht
    · exact Nat.lt_succ_of_lt (h.waiting t ht)
    · rw [List.mem_singleton.mp ht]
      exact Nat.lt_succ_self _
  | start gate sent held =>
    exact h.spawn rfl (Nat.le_succ _) (Nat.lt_succ_self _) (by simp)
  | retry gate sent held => exact h.mono (List.Sublist.refl _) (Nat.le_succ _) (List.Subset.refl _)
  | refuse gate sent held =>
    exact h.spawn rfl (Nat.le_succ _) (Nat.lt_succ_self _) (by simp)
  | drop t => exact h.mono (List.Sublist.refl _) (Nat.le_refl _) List.erase_subset
  | begin c => exact h.spawn rfl (Nat.le_refl _) (Nat.lt_succ_self _) (fun t ht => .inl ht)
  | call tasks => exact h.mono (by simp [tasks]) (Nat.le_refl _) (List.Subset.refl _)
  | answer a tasks => exact h.mono (by simp [tasks]) (Nat.le_refl _) (List.Subset.refl _)
  | write tasks => exact h.mono (by simp [tasks]) (Nat.le_refl _) (List.Subset.refl _)
  | store tasks next => exact h.mono (by simp [tasks]) (Nat.le_refl _) (List.Subset.refl _)
  | settle tasks => exact h.mono (by simp [tasks]) (Nat.le_refl _) (List.Subset.refl _)
  | dismiss tasks => exact h.mono (by simp [tasks]) (Nat.le_refl _) List.erase_subset
  | conclude tasks => exact h.mono (by simp [tasks]) (Nat.le_refl _) (List.Subset.refl _)
  | resume tasks => exact h.mono (by simp [tasks]) (Nat.le_refl _) List.erase_subset
  | close tasks => exact h.mono (by simp [tasks]) (Nat.le_refl _) (List.Subset.refl _)
  | redirect tasks => exact h.mono (by simp [tasks]) (Nat.le_refl _) (List.Subset.refl _)
  | stay => exact h

theorem Numbered.step [KeyValue σ] {w : World σ} (h : w.Numbered) (e : Event) : (w.step e).Numbered :=
  h.takes (takes_step h e)

/-- What holds in a world and is kept by every move holds after every run from there, with its
history. -/
theorem run_induction_from [KeyValue σ] {P : World σ → List Move → Prop} {w : World σ}
    (hn : w.Numbered) (start : P w [])
    (keep : ∀ w h m v, w.Numbered → P w h → Takes w m v → P v (h ++ [m])) (es : List Event) :
    P (w.run es) (w.moves es) := by
  suffices h : ∀ (es : List Event) (w : World σ) (past : List Move), w.Numbered → P w past →
      P (w.run es) (past ++ w.moves es) from h es w [] hn start
  intro es
  induction es with
  | nil =>
    intro w past _ hp
    simpa using hp
  | cons e es ih =>
    intro w past hn hp
    have ht := takes_step hn e
    have hnext := ih (w.step e) (past ++ [w.move e]) (hn.takes ht) (keep _ _ _ _ hn hp ht)
    simpa using hnext

/-- What holds at the start and is kept by every move holds after every run, with its history. -/
theorem run_induction [KeyValue σ] {P : World σ → List Move → Prop} (s : Store σ)
    (start : P (new s) [])
    (keep : ∀ w h m v, w.Numbered → P w h → Takes w m v → P v (h ++ [m])) (es : List Event) :
    P ((new s).run es) ((new s).moves es) :=
  run_induction_from (numbered_new s) start keep es

theorem Numbered.run [KeyValue σ] {w : World σ} (h : w.Numbered) (es : List Event) :
    (w.run es).Numbered :=
  run_induction_from (P := fun w _ => w.Numbered) h h (fun _ _ _ _ hn _ ht => hn.takes ht) es

/-- Only a write in memory changes what is in memory. -/
theorem Takes.memory_eq [KeyValue σ] {w v : World σ} {m : Move} (ht : Takes w m v)
    (hm : ∀ id c p, m ≠ .wrote id c p) : v.store.memory = w.store.memory := by
  cases ht with
  | write tasks => exact absurd rfl (hm _ _ _)
  | _ => rfl

/-- A move that writes in memory is that of a task with this write ahead of it. -/
theorem mem_of_wrote [KeyValue σ] {w : World σ} {e : Event} {id : Ticket} {c : Write} {p : Purpose}
    (hn : w.Numbered) (hm : w.move e = .wrote id c p) :
    (id, .write c p) ∈ w.tasks ∧ (w.step e).store.memory = c.tokens := by
  have ht := takes_step hn e
  rw [hm] at ht
  generalize w.step e = v at ht
  cases ht with
  | write tasks => exact ⟨mem_of_split tasks, rfl⟩

/-- A storage call is that of a task with this call ahead of it. -/
theorem mem_of_stored [KeyValue σ] {w : World σ} {e : Event} {id : Ticket} {report : Report}
    {p : Purpose} (hn : w.Numbered) (hm : w.move e = .stored id report p) :
    ∃ c cs result, (id, .persist (c :: cs) result p) ∈ w.tasks ∧
      report = (Store.call w.store.storage c).2.1 := by
  have ht := takes_step hn e
  rw [hm] at ht
  generalize w.step e = v at ht
  cases ht with
  | store tasks next => exact ⟨_, _, _, mem_of_split tasks, rfl⟩

/-- A renewal that settles has nothing left to write. -/
theorem mem_of_settled [KeyValue σ] {w : World σ} {e : Event} {id : Ticket} {v : Verdict}
    {ws : List Waiter} (hn : w.Numbered) (hm : w.move e = .settled id v ws) :
    (∃ result, (id, .persist [] result (.settle v)) ∈ w.tasks) ∧ ws = w.gate.waiters ∧
      (w.step e).gate = .idle ∧ (w.step e).store = w.store := by
  have ht := takes_step hn e
  rw [hm] at ht
  generalize w.step e = u at ht
  cases ht with
  | settle tasks => exact ⟨⟨_, mem_of_split tasks⟩, rfl, rfl, rfl⟩

/-- Draining is a run. -/
theorem exists_run_drain [KeyValue σ] (w : World σ) : ∃ es, w.drain = w.run es := by
  suffices h : ∀ (n : Nat) (w : World σ), ∃ es, drainFor n w = w.run es from h w.work w
  intro n
  induction n with
  | zero => exact fun w => ⟨[], rfl⟩
  | succ n ih =>
    intro w
    cases hr : w.runnable? with
    | none => exact ⟨[], by simp [drainFor, hr]⟩
    | some id =>
      obtain ⟨es, hes⟩ := ih (w.step (.advance id))
      exact ⟨.advance id :: es, by simp [drainFor, hr, hes]⟩

theorem moves_append [KeyValue σ] (w : World σ) (a b : List Event) :
    w.moves (a ++ b) = w.moves a ++ (w.run a).moves b := by
  induction a generalizing w with
  | nil => rfl
  | cons e es ih => simp [ih]

/-- A task alone is the one that moves. -/
theorem become_alone {w : World σ} {id : Ticket} {t : Task} (h : w.tasks = [(id, t)]) (u : Task) :
    w.become id u = { w with tasks := [(id, u)] } := by
  simp [become, h]

theorem finish_alone {w : World σ} {id : Ticket} {t : Task} (h : w.tasks = [(id, t)]) :
    w.finish id = { w with tasks := [] } := by
  simp [finish, h]

theorem task?_alone {w : World σ} {id : Ticket} {t : Task} (h : w.tasks = [(id, t)]) (i : Ticket) :
    w.task? i = if i = id then some t else none := by
  by_cases hi : i = id
  · simp [task?, h, hi]
  · simp [task?, h, List.lookup_cons, hi, beq_false_of_ne hi]

end World

end BandCatalog.Renewal
