import BandCatalog.Proofs.Renewal.SingleFlight

/-!
# The cycles of the renewals

The requests that joined one renewal form its cycle. As long as the renewal is in flight its cycle is the
queue; its own settling takes it out, as a whole and in order, and from then on the renewal resumes it in
that order, as its renewer's answer has it.
-/
namespace BandCatalog.Renewal

/-- What belongs to one renewal, in order. -/
def ofRenewal {α : Type} (id : Ticket) (l : List (Ticket × α)) : List α :=
  l.filterMap fun e => if e.1 = id then some e.2 else none

theorem ofRenewal_append {α : Type} (id : Ticket) (a b : List (Ticket × α)) :
    ofRenewal id (a ++ b) = ofRenewal id a ++ ofRenewal id b := List.filterMap_append

@[simp] theorem ofRenewal_nil {α : Type} (id : Ticket) : ofRenewal id ([] : List (Ticket × α)) = [] :=
  rfl

theorem ofRenewal_singleton {α : Type} (id i : Ticket) (a : α) :
    ofRenewal id [(i, a)] = if i = id then [a] else [] := by
  by_cases h : i = id <;> simp [ofRenewal, h]

theorem ofRenewal_of_ne {α : Type} {id : Ticket} {l : List (Ticket × α)} (h : ∀ e ∈ l, e.1 ≠ id) :
    ofRenewal id l = [] := by
  apply List.filterMap_eq_nil_iff.mpr
  intro e he
  rw [if_neg (h e he)]

namespace Move

/-- A request that joins a renewal. -/
def join? : Move → Option (Ticket × Waiter)
  | admitted x (.queued (some id)) => some (id, x)
  | admitted x (.started id _) => some (id, x)
  | _ => none

def taking? : Move → Option (Ticket × List Waiter)
  | settled id _ ws => some (id, ws)
  | _ => none

def resumption? : Move → Option (Ticket × Waiter)
  | resumed id _ x => some (id, x)
  | _ => none

end Move

/-- The requests that joined a renewal, in the order of their admission. -/
def cycle (h : List Move) (id : Ticket) : List Waiter := ofRenewal id (h.filterMap Move.join?)

/-- Those that its settling took out of the queue. -/
def takenBy (h : List Move) (id : Ticket) : List Waiter :=
  (ofRenewal id (h.filterMap Move.taking?)).flatten

/-- Those to which it has sent a result. -/
def resumedBy (h : List Move) (id : Ticket) : List Waiter :=
  ofRenewal id (h.filterMap Move.resumption?)

theorem cycle_concat (h : List Move) (m : Move) (id : Ticket) :
    cycle (h ++ [m]) id = cycle h id ++ ofRenewal id m.join?.toList := by
  rw [cycle, List.filterMap_append, World.filterMap_singleton, ofRenewal_append, cycle]

theorem takenBy_concat (h : List Move) (m : Move) (id : Ticket) :
    takenBy (h ++ [m]) id = takenBy h id ++ (ofRenewal id m.taking?.toList).flatten := by
  rw [takenBy, List.filterMap_append, World.filterMap_singleton, ofRenewal_append,
    List.flatten_append, takenBy]

theorem resumedBy_concat (h : List Move) (m : Move) (id : Ticket) :
    resumedBy (h ++ [m]) id = resumedBy h id ++ ofRenewal id m.resumption?.toList := by
  rw [resumedBy, List.filterMap_append, World.filterMap_singleton, ofRenewal_append, resumedBy]

namespace Task

/-- The waiters that a renewal has still to resume. -/
def left : Task → List Waiter
  | flush _ ws => ws
  | _ => []

/-- The verdict of a renewal that was answered. -/
def verdict? : Task → Option Verdict
  | write _ (.settle v) => some v
  | persist _ _ (.settle v) => some v
  | flush v _ => some v
  | _ => none

/-- Renewals that are not finished. -/
def isRenewal (t : Task) : Bool := t.isUnsettled || t.verdict?.isSome

end Task

namespace World

variable {σ : Type}

/-- Those that wait in the queue for a renewal. -/
def queuedFor (w : World σ) (id : Ticket) : List Waiter :=
  if id ∈ w.renewing.map Prod.fst then w.gate.waiters else []

theorem queuedFor_of_one {w : World σ} {i : Ticket} {t : Task} (hone : w.renewing = [(i, t)])
    (id : Ticket) : w.queuedFor id = if i = id then w.gate.waiters else [] := by
  simp [queuedFor, hone, eq_comm]

theorem queuedFor_of_none {w : World σ} (hnone : w.renewing = []) (id : Ticket) :
    w.queuedFor id = [] := by
  simp [queuedFor, hnone]

/-- Those that a renewal has still to resume. -/
def leftBy (w : World σ) (id : Ticket) : List Waiter :=
  (ofRenewal id w.tasks).flatMap Task.left

theorem leftBy_of_split {w : World σ} {l r : List (Ticket × Task)} {id : Ticket} {t : Task}
    (htasks : w.tasks = l ++ (id, t) :: r) (i : Ticket) :
    w.leftBy i = (ofRenewal i l).flatMap Task.left ++ (if id = i then t.left else []) ++
      (ofRenewal i r).flatMap Task.left := by
  rw [leftBy, htasks, ← List.singleton_append, ofRenewal_append, ofRenewal_append,
    ofRenewal_singleton]
  by_cases hi : id = i <;> simp [hi]

theorem leftBy_self {w : World σ} {l r : List (Ticket × Task)} {id : Ticket} {t : Task}
    (htasks : w.tasks = l ++ (id, t) :: r) (ho : ∀ e ∈ l ++ r, e.1 ≠ id) : w.leftBy id = t.left := by
  have hl := ofRenewal_of_ne fun e he => ho e (List.mem_append_left r he)
  have hr := ofRenewal_of_ne fun e he => ho e (List.mem_append_right l he)
  simp [leftBy_of_split htasks, hl, hr]

/-- A task that moves is all the same to the other renewals. -/
theorem leftBy_congr {w v : World σ} {l r : List (Ticket × Task)} {id : Ticket} {t u : Task}
    (htasks : w.tasks = l ++ (id, t) :: r) (hv : v.tasks = l ++ (id, u) :: r) {i : Ticket}
    (hi : id ≠ i ∨ t.left = u.left) : v.leftBy i = w.leftBy i := by
  rw [leftBy_of_split htasks, leftBy_of_split hv]
  rcases hi with hi | hi
  · rw [if_neg hi, if_neg hi]
  · rw [hi]

theorem leftBy_ended {w v : World σ} {l r : List (Ticket × Task)} {id : Ticket} {t : Task}
    (htasks : w.tasks = l ++ (id, t) :: r) (ht : t.left = []) (hv : v.tasks = l ++ r) (i : Ticket) :
    v.leftBy i = w.leftBy i := by
  rw [leftBy_of_split htasks, ht, leftBy, hv, ofRenewal_append]
  simp

theorem leftBy_spawned {w v : World σ} {id : Ticket} {t : Task} (ht : t.left = [])
    (hv : v.tasks = w.tasks ++ [(id, t)]) (i : Ticket) : v.leftBy i = w.leftBy i := by
  rw [leftBy, hv, ofRenewal_append, ofRenewal_singleton, leftBy]
  by_cases hi : id = i <;> simp [hi, ht]

/-- A task that moves within its renewal leaves the renewals in flight. -/
theorem renewing_congr {w v : World σ} {l r : List (Ticket × Task)} {id : Ticket} {t u : Task}
    (htasks : w.tasks = l ++ (id, t) :: r) (hv : v.tasks = l ++ (id, u) :: r)
    (hu : u.isUnsettled = t.isUnsettled) :
    v.renewing.map Prod.fst = w.renewing.map Prod.fst := by
  simp only [renewing, htasks, hv, List.filter_append, List.filter_cons, hu]
  cases t.isUnsettled <;> simp

/-- Who has joined a renewal and was not taken out by it is in the queue. -/
structure Queues (w : World σ) (h : List Move) : Prop where
  joined : ∀ x f, .admitted x (.queued f) ∈ h →
    ∃ id ∈ (h.filterMap Move.start?).map Prod.fst, f = some id
  queued : ∀ id, cycle h id = takenBy h id ++ w.queuedFor id

namespace Queues

variable {w v : World σ} {h : List Move} {m : Move}

theorem new (s : Store σ) : Queues (World.new s) [] where
  joined := by simp
  queued := by simp [World.new, cycle, takenBy, queuedFor, renewing]

/-- A request that is queued does so behind a renewal that was started. -/
theorem joined_concat (hq : Queues w h)
    (hm : ∀ x f, m = .admitted x (.queued f) →
      ∃ id ∈ (h.filterMap Move.start?).map Prod.fst, f = some id) :
    ∀ x f, .admitted x (.queued f) ∈ h ++ [m] →
      ∃ id ∈ ((h ++ [m]).filterMap Move.start?).map Prod.fst, f = some id := by
  intro x f hx
  have hold : ∃ id ∈ (h.filterMap Move.start?).map Prod.fst, f = some id := by
    rcases List.mem_append.mp hx with hx | hx
    · exact hq.joined x f hx
    · exact hm x f (List.mem_singleton.mp hx).symm
  obtain ⟨id, hid, hf⟩ := hold
  refine ⟨id, ?_, hf⟩
  rw [List.filterMap_append, List.map_append]
  exact List.mem_append_left _ hid

/-- Moves at which nobody joins and no renewal settles. -/
theorem keep (hq : Queues w h) (hqueued : ∀ x f, m ≠ .admitted x (.queued f))
    (hjoin : m.join? = none) (htaking : m.taking? = none) (hgate : v.gate = w.gate)
    (hids : v.renewing.map Prod.fst = w.renewing.map Prod.fst) : Queues v (h ++ [m]) where
  joined := hq.joined_concat fun x f hm => absurd hm (hqueued x f)
  queued := by
    intro id
    have hsame : v.queuedFor id = w.queuedFor id := by rw [queuedFor, hids, hgate, queuedFor]
    simp [cycle_concat, takenBy_concat, hjoin, htaking, hsame, hq.queued id]

/-- A request joins the renewal in flight. -/
theorem queue (hf : Flight w h) (hq : Queues w h) {x : Waiter} {ws : List Waiter}
    (hgate : w.gate = .refreshing ws) (hv : v.gate = .refreshing (ws ++ [x]))
    (htasks : v.tasks = w.tasks) : Queues v (h ++ [.admitted x (.queued w.flight?)]) := by
  obtain ⟨⟨i, t⟩, hone⟩ := hf.refreshing (by rw [hgate]; rfl)
  have hvone : v.renewing = [(i, t)] := by rw [← hone, renewing, htasks, renewing]
  have hflight : w.flight? = some i := by simp [flight?, hone]
  rw [hflight]
  constructor
  · apply hq.joined_concat
    intro y f hy
    obtain ⟨-, hy⟩ := Move.admitted.inj hy
    refine ⟨i, ?_, (Admission.queued.inj hy).symm⟩
    rw [hf.settled, hone]
    simp
  · intro id
    rw [cycle_concat, takenBy_concat, hq.queued id, queuedFor_of_one hone, queuedFor_of_one hvone,
      hgate, hv]
    by_cases hi : i = id <;> simp [Move.join?, Move.taking?, ofRenewal_singleton, Gate.waiters, hi]

/-- A request starts a renewal, which nobody has joined before. -/
theorem start (hf : Flight w h) (hq : Queues w h) {x : Waiter} {token : String}
    (hgate : w.gate = .idle) (hv : v.gate = .refreshing [x])
    (htasks : v.tasks = w.tasks ++ [(w.fresh + 1, .start token)]) :
    Queues v (h ++ [.admitted x (.started (w.fresh + 1) token)]) := by
  have hnone := hf.idle (by rw [hgate]; rfl)
  have hone : v.renewing = [(w.fresh + 1, .start token)] := by
    have hfilter : (w.tasks.filter fun e => e.2.isUnsettled) = [] := hnone
    simp only [renewing, htasks, List.filter_append, hfilter]
    rfl
  constructor
  · apply hq.joined_concat
    intro y f hy
    cases (Move.admitted.inj hy).2
  · intro id
    rw [cycle_concat, takenBy_concat, hq.queued id, queuedFor_of_none hnone, queuedFor_of_one hone,
      hv]
    by_cases hi : w.fresh + 1 = id <;>
      simp [Move.join?, Move.taking?, ofRenewal_singleton, Gate.waiters, hi]

/-- A renewal that settles takes out of the queue those that have joined it, and nobody else. -/
theorem settle (hq : Queues w h) {i : Ticket} {t : Task} {verdict : Verdict}
    (hone : w.renewing = [(i, t)]) (hnone : v.renewing = []) :
    Queues v (h ++ [.settled i verdict w.gate.waiters]) := by
  constructor
  · exact hq.joined_concat (by simp)
  · intro id
    rw [cycle_concat, takenBy_concat, hq.queued id, queuedFor_of_one hone, queuedFor_of_none hnone]
    by_cases hi : i = id <;> simp [Move.join?, Move.taking?, ofRenewal_singleton, hi]

theorem takes [KeyValue σ] (hf : Flight w h) (hq : Queues w h) (ht : Takes w m v) :
    Queues v (h ++ [m]) := by
  cases ht with
  | queue p gate => exact queue hf hq gate rfl rfl
  | start gate sent held => exact start hf hq gate rfl rfl
  | retry gate sent held => exact hq.keep (by simp) rfl rfl rfl rfl
  | refuse gate sent held => exact hq.keep (by simp) rfl rfl rfl (by simp [renewing])
  | drop t => exact hq.keep (by simp) rfl rfl rfl rfl
  | begin c => exact hq.keep (by simp) rfl rfl rfl (by simp [renewing])
  | call tasks => exact hq.keep (by simp) rfl rfl rfl (renewing_congr tasks rfl rfl)
  | answer a tasks => exact hq.keep (by simp) rfl rfl rfl (renewing_congr tasks rfl rfl)
  | write tasks => exact hq.keep (by simp) rfl rfl rfl (renewing_congr tasks rfl rfl)
  | store tasks next => exact hq.keep (by simp) rfl rfl rfl (renewing_congr tasks rfl rfl)
  | settle tasks =>
    obtain ⟨_, hone, hl, hr⟩ := hf.alone tasks rfl
    exact hq.settle hone (by simp [renewing, hl, hr])
  | dismiss tasks => exact hq.keep (by simp) rfl rfl rfl (by simp [renewing, tasks])
  | conclude tasks => exact hq.keep (by simp) rfl rfl rfl (by simp [renewing, tasks])
  | resume tasks => exact hq.keep (by simp) rfl rfl rfl (renewing_congr tasks rfl rfl)
  | close tasks => exact hq.keep (by simp) rfl rfl rfl (by simp [renewing, tasks])
  | redirect tasks => exact hq.keep (by simp) rfl rfl rfl (by simp [renewing, tasks])
  | stay => exact hq.keep (by simp) rfl rfl rfl rfl

end Queues

/-- Of those that a renewal took over, the first have got their results and the others still wait. -/
def Flushes (w : World σ) (h : List Move) : Prop :=
  ∀ id, takenBy h id = resumedBy h id ++ w.leftBy id

namespace Flushes

variable {w v : World σ} {h : List Move} {m : Move}

theorem new (s : Store σ) : Flushes (World.new s) [] := by
  intro id
  simp [World.new, takenBy, resumedBy, leftBy]

/-- Moves at which no renewal settles and nobody is resumed. -/
theorem keep (hf : Flushes w h) (htaking : m.taking? = none) (hresumption : m.resumption? = none)
    (hleft : ∀ id, v.leftBy id = w.leftBy id) : Flushes v (h ++ [m]) := by
  intro id
  rw [takenBy_concat, resumedBy_concat, htaking, hresumption, hleft, hf id]
  simp

/-- A renewal that settles has still to resume all that it takes over. -/
theorem settle (hn : w.Numbered) (hf : Flushes w h) {l r : List (Ticket × Task)} {i : Ticket}
    {t : Task} {verdict : Verdict} {ws : List Waiter} (htasks : w.tasks = l ++ (i, t) :: r)
    (ht : t.left = []) (hv : v.tasks = l ++ (i, .flush verdict ws) :: r) :
    Flushes v (h ++ [.settled i verdict ws]) := by
  intro id
  have ho := hn.others htasks
  rw [takenBy_concat, resumedBy_concat, hf id]
  by_cases hi : i = id
  · subst hi
    rw [leftBy_self htasks ho, leftBy_self hv ho, ht]
    simp [Move.taking?, Move.resumption?, ofRenewal_singleton, Task.left]
  · rw [leftBy_congr htasks hv (.inl hi)]
    simp [Move.taking?, Move.resumption?, ofRenewal_singleton, hi]

/-- The next of those who are left is resumed. -/
theorem resume (hn : w.Numbered) (hf : Flushes w h) {l r : List (Ticket × Task)} {i : Ticket}
    {verdict : Verdict} {x : Waiter} {xs : List Waiter}
    (htasks : w.tasks = l ++ (i, .flush verdict (x :: xs)) :: r)
    (hv : v.tasks = l ++ (i, .flush verdict xs) :: r) :
    Flushes v (h ++ [.resumed i verdict x]) := by
  intro id
  have ho := hn.others htasks
  rw [takenBy_concat, resumedBy_concat, hf id]
  by_cases hi : i = id
  · subst hi
    rw [leftBy_self htasks ho, leftBy_self hv ho]
    simp [Move.taking?, Move.resumption?, ofRenewal_singleton, Task.left]
  · rw [leftBy_congr htasks hv (.inl hi)]
    simp [Move.taking?, Move.resumption?, ofRenewal_singleton, hi]

theorem takes [KeyValue σ] (hn : w.Numbered) (hf : Flushes w h) (ht : Takes w m v) :
    Flushes v (h ++ [m]) := by
  cases ht with
  | queue p gate => exact hf.keep rfl rfl fun _ => rfl
  | start gate sent held => exact hf.keep rfl rfl (leftBy_spawned rfl rfl)
  | retry gate sent held => exact hf.keep rfl rfl fun _ => rfl
  | refuse gate sent held => exact hf.keep rfl rfl (leftBy_spawned rfl rfl)
  | drop t => exact hf.keep rfl rfl fun _ => rfl
  | begin c => exact hf.keep rfl rfl (leftBy_spawned rfl rfl)
  | call tasks => exact hf.keep rfl rfl fun _ => leftBy_congr tasks rfl (.inr (by rfl))
  | answer a tasks => exact hf.keep rfl rfl fun _ => leftBy_congr tasks rfl (.inr (by rfl))
  | write tasks => exact hf.keep rfl rfl fun _ => leftBy_congr tasks rfl (.inr (by rfl))
  | store tasks next => exact hf.keep rfl rfl fun _ => leftBy_congr tasks rfl (.inr (by rfl))
  | settle tasks => exact settle hn hf tasks rfl rfl
  | dismiss tasks => exact hf.keep rfl rfl (leftBy_ended tasks rfl rfl)
  | conclude tasks => exact hf.keep rfl rfl (leftBy_ended tasks rfl rfl)
  | resume tasks => exact resume hn hf tasks rfl
  | close tasks => exact hf.keep rfl rfl (leftBy_ended tasks rfl rfl)
  | redirect tasks => exact hf.keep rfl rfl (leftBy_ended tasks rfl rfl)
  | stay => exact hf.keep rfl rfl fun _ => rfl

end Flushes

/-- A renewal was answered, and this is what its answer means. -/
def Judged (h : List Move) (id : Ticket) (v : Verdict) : Prop :=
  ∃ a, (id, a) ∈ h.filterMap Move.answer? ∧ v = .ofAnswer a

theorem Judged.concat {h : List Move} {id : Ticket} {v : Verdict} (hj : Judged h id v) (m : Move) :
    Judged (h ++ [m]) id v := by
  obtain ⟨a, ha, hv⟩ := hj
  refine ⟨a, ?_, hv⟩
  rw [List.filterMap_append]
  exact List.mem_append_left _ ha

/-- Renewals act on what their renewer has answered. -/
structure Verdicts (w : World σ) (h : List Move) : Prop where
  tasks : ∀ e ∈ w.tasks, ∀ v, e.2.verdict? = some v → Judged h e.1 v
  resumed : ∀ id v x, .resumed id v x ∈ h → Judged h id v

namespace Verdicts

variable {w v : World σ} {h : List Move} {m : Move}

theorem new (s : Store σ) : Verdicts (World.new s) [] where
  tasks := by simp [World.new]
  resumed := by simp

theorem keep (hv : Verdicts w h)
    (htasks : ∀ e ∈ v.tasks, ∀ u, e.2.verdict? = some u → Judged (h ++ [m]) e.1 u)
    (hresumed : ∀ id u x, m = .resumed id u x → Judged h id u) : Verdicts v (h ++ [m]) where
  tasks := htasks
  resumed := by
    intro id u x hx
    rcases List.mem_append.mp hx with hx | hx
    · exact (hv.resumed id u x hx).concat m
    · exact (hresumed id u x (List.mem_singleton.mp hx).symm).concat m

/-- Moves that leave the verdicts of the tasks as they are. -/
theorem same (hv : Verdicts w h) :
    ∀ e ∈ w.tasks, ∀ verdict, e.2.verdict? = some verdict → Judged (h ++ [m]) e.1 verdict :=
  fun e he verdict hverdict => (hv.tasks e he verdict hverdict).concat m

theorem takes [KeyValue σ] (hv : Verdicts w h) (ht : Takes w m v) : Verdicts v (h ++ [m]) := by
  cases ht with
  | queue p gate => exact hv.keep hv.same (by simp)
  | start gate sent hheld => exact hv.keep (forall_spawned hv.same nofun) (by simp)
  | retry gate sent hheld => exact hv.keep hv.same (by simp)
  | refuse gate sent hheld => exact hv.keep (forall_spawned hv.same nofun) (by simp)
  | drop t => exact hv.keep hv.same (by simp)
  | begin c => exact hv.keep (forall_spawned hv.same nofun) (by simp)
  | call tasks => exact hv.keep (forall_moved hv.same tasks nofun) (by simp)
  | answer a tasks =>
    refine hv.keep (forall_moved hv.same tasks ?_) (by simp)
    intro verdict hverdict
    cases hverdict
    exact ⟨a, by simp [Move.answer?], rfl⟩
  | @write l r id c p tasks =>
    refine hv.keep (forall_moved hv.same tasks ?_) (by simp)
    intro verdict hverdict
    cases p with
    | settle u => exact (forall_held hv.tasks tasks verdict hverdict).concat _
    | dismiss t => cases hverdict
    | session => cases hverdict
  | @store l r id c cs left result after p tasks next =>
    refine hv.keep (forall_moved hv.same tasks ?_) (by simp)
    intro verdict hverdict
    cases p with
    | settle u => exact (forall_held hv.tasks tasks verdict hverdict).concat _
    | dismiss t => cases hverdict
    | session => cases hverdict
  | settle tasks =>
    refine hv.keep (forall_moved hv.same tasks ?_) (by simp)
    intro verdict hverdict
    exact (forall_held hv.tasks tasks verdict hverdict).concat _
  | dismiss tasks => exact hv.keep (forall_ended hv.same tasks) (by simp)
  | conclude tasks => exact hv.keep (forall_ended hv.same tasks) (by simp)
  | resume tasks =>
    refine hv.keep (forall_moved hv.same tasks ?_) ?_
    · intro verdict hverdict
      exact (forall_held hv.tasks tasks verdict hverdict).concat _
    · intro id u x hm
      cases hm
      exact forall_held hv.tasks tasks _ rfl
  | close tasks => exact hv.keep (forall_ended hv.same tasks) (by simp)
  | redirect tasks => exact hv.keep (forall_ended hv.same tasks) (by simp)
  | stay => exact hv.keep hv.same (by simp)

end Verdicts

end World

end BandCatalog.Renewal
