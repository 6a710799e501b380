import Mathlib.Data.List.Nodup
import BandCatalog.Proofs.Renewal.Moves

/-!
# Accounts of requests

Each request that is admitted has a ticket of its own. It is owed a result, by the queue or by a task,
until one is sent to it, and nothing is sent to it after. A request that is owed a result waits for it
unless it was dropped; so a result that nobody took was sent to a request that had been dropped.
-/
namespace BandCatalog.Renewal

namespace Move

/-- The ticket of a request that is admitted. -/
def ticket? : Move → Option Ticket
  | admitted x _ => some x.ticket
  | _ => none

def admission? : Move → Option (Waiter × Admission)
  | admitted x a => some (x, a)
  | _ => none

end Move

/-- A result that was sent, and whether anybody took it. -/
structure Sending where
  ticket : Ticket
  result : Resumption
  taken : Bool

def Mark.sending? : Mark → Option Sending
  | resumed t result taken => some ⟨t, result, taken⟩
  | _ => none

/-- The request that is turned away once a write is done. -/
def Purpose.owed : Purpose → List Ticket
  | settle _ => []
  | dismiss t => [t]
  | session => []

@[simp] theorem Purpose.owed_settle (v : Verdict) : (settle v).owed = [] := rfl
@[simp] theorem Purpose.owed_dismiss (t : Ticket) : (dismiss t).owed = [t] := rfl
@[simp] theorem Purpose.owed_session : session.owed = [] := rfl

namespace Task

/-- The requests to which a task is going to send a result. -/
def owed : Task → List Ticket
  | start _ => []
  | ask _ => []
  | write _ p => p.owed
  | persist _ _ p => p.owed
  | flush _ ws => ws.map Waiter.ticket

@[simp] theorem owed_start (token : String) : (start token).owed = [] := rfl
@[simp] theorem owed_ask (token : String) : (ask token).owed = [] := rfl
@[simp] theorem owed_write (c : Write) (p : Purpose) : (write c p).owed = p.owed := rfl
@[simp] theorem owed_persist (cs : List StorageCall) (result : Except StoreError Unit)
    (p : Purpose) : (persist cs result p).owed = p.owed := rfl
@[simp] theorem owed_flush (v : Verdict) (ws : List Waiter) :
    (flush v ws).owed = ws.map Waiter.ticket := rfl

end Task

namespace World

variable {σ : Type}

/-- The results sent so far, in order. -/
def sent (w : World σ) : List Sending := w.trace.reverse.filterMap Mark.sending?

/-- What was sent to whom, whether anybody took it or not. -/
def results (w : World σ) : List (Ticket × Resumption) := w.sent.map fun e => (e.ticket, e.result)

theorem keys_results (w : World σ) : w.results.map Prod.fst = w.sent.map Sending.ticket := by
  rw [results, List.map_map]
  rfl

theorem results_congr {w v : World σ} (h : v.sent = w.sent) : v.results = w.results := by
  rw [results, h, results]

theorem results_concat {w v : World σ} {e : Sending} (h : v.sent = w.sent ++ [e]) :
    v.results = w.results ++ [(e.ticket, e.result)] := by
  rw [results, h, List.map_append, results]
  rfl

/-- What is found to have been sent was sent. -/
theorem mem_results_of_resultOf? {w : World σ} {t : Ticket} {result : Resumption}
    (h : w.resultOf? t = some result) : (t, result) ∈ w.results := by
  obtain ⟨m, hm, hfound⟩ := List.exists_of_findSome?_eq_some h
  cases m with
  | resumed u r taken =>
    by_cases hu : u = t
    · simp only [hu, if_true, Option.some.injEq] at hfound
      subst hu hfound
      refine List.mem_map.mpr ⟨⟨u, r, taken⟩, ?_, rfl⟩
      exact List.mem_filterMap.mpr ⟨_, List.mem_reverse.mpr hm, rfl⟩
    · simp [hu] at hfound
  | _ => cases hfound

/-- The requests to which a result is going to be sent. -/
def owed (w : World σ) : List Ticket :=
  w.gate.waiters.map Waiter.ticket ++ w.tasks.flatMap fun e => e.2.owed

/-- Every admitted request was sent a result or is owed one, and not both. -/
structure Accounts (w : World σ) (h : List Move) : Prop where
  results : w.results = h.filterMap Move.result?
  balance : ∀ t, (h.filterMap Move.ticket?).count t =
    (w.sent.map Sending.ticket).count t + w.owed.count t
  ascending : (h.filterMap Move.ticket?).Pairwise (· < ·)
  below : ∀ t ∈ h.filterMap Move.ticket?, t < w.fresh
  distinct : w.waiting.Nodup
  waiting : ∀ t ∈ w.waiting, t ∈ w.owed
  dropped : ∀ t ∈ w.owed, t ∈ w.waiting ∨ .dropped t ∈ h
  taken : ∀ e ∈ w.sent, e.taken = false → .dropped e.ticket ∈ h

namespace Accounts

variable {w v : World σ} {h : List Move} {m : Move}

theorem new (s : Store σ) : Accounts (World.new s) [] where
  results := rfl
  balance := by simp [World.new, sent, owed, Gate.waiters]
  ascending := by simp
  below := by simp
  distinct := by simp [World.new]
  waiting := by simp [World.new]
  dropped := by simp [World.new, owed, Gate.waiters]
  taken := by simp [World.new, sent]

/-- No request is sent a result while it is owed one, or twice. -/
theorem count_le_one (ha : Accounts w h) (t : Ticket) :
    (w.sent.map Sending.ticket).count t + w.owed.count t ≤ 1 := by
  rw [← ha.balance t]
  exact List.nodup_iff_count.mp (ha.ascending.imp fun hlt => Nat.ne_of_lt hlt) t

theorem owed_below (ha : Accounts w h) {t : Ticket} (ht : t ∈ w.owed) : t < w.fresh := by
  apply ha.below
  have hpos := List.count_pos_iff.mpr ht
  have hbalance := ha.balance t
  exact List.count_pos_iff.mp (by omega)

theorem nodup_sent (ha : Accounts w h) : (w.sent.map Sending.ticket).Nodup := by
  rw [List.nodup_iff_count]
  intro t
  have := ha.count_le_one t
  omega

/-- What is owed has not been sent. -/
theorem not_sent (ha : Accounts w h) {t : Ticket} (ht : t ∈ w.owed) :
    t ∉ w.sent.map Sending.ticket := by
  intro hs
  have hle := ha.count_le_one t
  have ho := List.count_pos_iff.mpr ht
  have hp := List.count_pos_iff.mpr hs
  omega

/-- A ticket is given to one request only. -/
theorem admitted_inj (ha : Accounts w h) {x y : Waiter} {a b : Admission}
    (hx : .admitted x a ∈ h) (hy : .admitted y b ∈ h) (ht : x.ticket = y.ticket) : x = y ∧ a = b := by
  have hkeys : (h.filterMap Move.admission?).map (fun e => e.1.ticket) =
      h.filterMap Move.ticket? := by
    rw [List.map_filterMap]
    congr 1
    funext m
    cases m <;> rfl
  have hnodup : ((h.filterMap Move.admission?).map fun e => e.1.ticket).Nodup :=
    hkeys ▸ ha.ascending.imp fun hlt => Nat.ne_of_lt hlt
  have hsame := List.inj_on_of_nodup_map hnodup (List.mem_filterMap.mpr ⟨_, hx, rfl⟩)
    (List.mem_filterMap.mpr ⟨_, hy, rfl⟩) ht
  exact Prod.mk.inj hsame

/-- Moves that admit nobody and send nothing. -/
theorem keep (ha : Accounts w h) (hticket : m.ticket? = none) (hresult : m.result? = none)
    (hsent : v.sent = w.sent) (howed : ∀ t, v.owed.count t = w.owed.count t)
    (hwaiting : v.waiting = w.waiting) (hfresh : w.fresh ≤ v.fresh) : Accounts v (h ++ [m]) := by
  have hmem : ∀ t, t ∈ v.owed ↔ t ∈ w.owed := by
    intro t
    rw [← List.count_pos_iff, ← List.count_pos_iff, howed]
  constructor
  · simpa [results_congr hsent, hresult] using ha.results
  · simpa [hticket, hsent, howed] using ha.balance
  · simpa [hticket] using ha.ascending
  · intro t ht
    exact Nat.lt_of_lt_of_le (ha.below t (by simpa [hticket] using ht)) hfresh
  · rw [hwaiting]
    exact ha.distinct
  · intro t ht
    rw [hwaiting] at ht
    exact (hmem t).mpr (ha.waiting t ht)
  · intro t ht
    rw [hwaiting]
    exact (ha.dropped t ((hmem t).mp ht)).imp_right fun hd => List.mem_append_left _ hd
  · intro e he hfalse
    rw [hsent] at he
    exact List.mem_append_left _ (ha.taken e he hfalse)

/-- The counter is a new ticket. -/
theorem ascending_admitted (ha : Accounts w h) {x : Waiter} (a : Admission)
    (hx : x.ticket = w.fresh) :
    ((h ++ [Move.admitted x a]).filterMap Move.ticket?).Pairwise (· < ·) := by
  simp only [List.filterMap_append, filterMap_singleton, Move.ticket?, Option.toList_some,
    List.pairwise_append]
  refine ⟨ha.ascending, by simp, ?_⟩
  intro t ht u hu
  rw [List.mem_singleton.mp hu, hx]
  exact ha.below t ht

theorem below_admitted (ha : Accounts w h) {x : Waiter} (a : Admission) (hx : x.ticket = w.fresh)
    (hfresh : w.fresh < v.fresh) :
    ∀ t ∈ (h ++ [Move.admitted x a]).filterMap Move.ticket?, t < v.fresh := by
  intro t ht
  simp only [List.filterMap_append, filterMap_singleton, Move.ticket?, Option.toList_some,
    List.mem_append, List.mem_singleton, hx] at ht
  rcases ht with ht | rfl
  · exact Nat.lt_trans (ha.below t ht) hfresh
  · exact hfresh

/-- A request is admitted, and owed a result. -/
theorem owe (ha : Accounts w h) {x : Waiter} {a : Admission} (hx : x.ticket = w.fresh)
    (hresult : (Move.admitted x a).result? = none) (hsent : v.sent = w.sent)
    (howed : ∀ t, v.owed.count t = w.owed.count t + [w.fresh].count t)
    (hwaiting : v.waiting = w.waiting ++ [w.fresh]) (hfresh : w.fresh < v.fresh) :
    Accounts v (h ++ [.admitted x a]) := by
  have hmem : ∀ t, t ∈ v.owed ↔ t ∈ w.owed ∨ t = w.fresh := by
    intro t
    rw [← List.count_pos_iff, howed, ← List.count_append, List.count_pos_iff, List.mem_append,
      List.mem_singleton]
  constructor
  · simpa [results_congr hsent, hresult] using ha.results
  · intro t
    simp [Move.ticket?, hx, hsent, howed, ha.balance t, Nat.add_assoc]
  · exact ha.ascending_admitted a hx
  · exact ha.below_admitted a hx hfresh
  · rw [hwaiting]
    refine List.nodup_append.mpr ⟨ha.distinct, by simp, ?_⟩
    intro t ht u hu he
    have hlt := ha.owed_below (ha.waiting t ht)
    rw [he, List.mem_singleton.mp hu] at hlt
    exact Nat.lt_irrefl _ hlt
  · intro t ht
    rw [hwaiting, List.mem_append, List.mem_singleton] at ht
    exact (hmem t).mpr (ht.imp_left (ha.waiting t))
  · intro t ht
    rw [hwaiting, List.mem_append, List.mem_append, List.mem_singleton]
    rcases (hmem t).mp ht with ht | ht
    · rcases ha.dropped t ht with hw | hd
      · exact .inl (.inl hw)
      · exact .inr (.inl hd)
    · exact .inl (.inr ht)
  · intro e he hfalse
    rw [hsent] at he
    exact List.mem_append_left _ (ha.taken e he hfalse)

/-- A request gets the result that it is owed. -/
theorem send (ha : Accounts w h) {t : Ticket} {result : Resumption} (hticket : m.ticket? = none)
    (hresult : m.result? = some (t, result))
    (hsent : v.sent = w.sent ++ [⟨t, result, w.waiting.contains t⟩])
    (howed : ∀ u, w.owed.count u = v.owed.count u + [t].count u)
    (hwaiting : v.waiting = w.waiting.erase t) (hfresh : w.fresh ≤ v.fresh) :
    Accounts v (h ++ [m]) := by
  have hmem : ∀ u, u ∈ w.owed ↔ u ∈ v.owed ∨ u = t := by
    intro u
    rw [← List.count_pos_iff, howed, ← List.count_append, List.count_pos_iff, List.mem_append,
      List.mem_singleton]
  have hnot : t ∉ v.owed := by
    intro ht
    have hle := ha.count_le_one t
    have hpos := List.count_pos_iff.mpr ht
    have hone : [t].count t = 1 := by simp
    have := howed t
    omega
  constructor
  · simpa [results_concat hsent, hresult] using ha.results
  · intro u
    have hbalance := ha.balance u
    rw [howed] at hbalance
    simp only [List.filterMap_append, filterMap_singleton, hticket, Option.toList_none,
      List.append_nil, hsent, List.map_append, List.map_cons, List.map_nil, List.count_append]
    omega
  · simpa [hticket] using ha.ascending
  · intro u hu
    exact Nat.lt_of_lt_of_le (ha.below u (by simpa [hticket] using hu)) hfresh
  · rw [hwaiting]
    exact ha.distinct.erase t
  · intro u hu
    rw [hwaiting, ha.distinct.mem_erase_iff] at hu
    exact ((hmem u).mp (ha.waiting u hu.2)).resolve_right hu.1
  · intro u hu
    rw [hwaiting, ha.distinct.mem_erase_iff, List.mem_append]
    have hne : u ≠ t := fun he => hnot (he ▸ hu)
    rcases ha.dropped u ((hmem u).mpr (.inl hu)) with hw | hd
    · exact .inl ⟨hne, hw⟩
    · exact .inr (.inl hd)
  · intro e he hfalse
    rw [hsent, List.mem_append, List.mem_singleton] at he
    rcases he with he | rfl
    · exact List.mem_append_left _ (ha.taken e he hfalse)
    · have howes : t ∈ w.owed := (hmem t).mpr (.inr rfl)
      rcases ha.dropped t howes with hw | hd
      · simp [hw] at hfalse
      · exact List.mem_append_left _ hd

/-- A request is admitted and gets its result at once. -/
theorem retry (ha : Accounts w h) {x : Waiter} {access : String} (hx : x.ticket = w.fresh)
    (hsent : v.sent = w.sent ++ [⟨x.ticket, authorize x.request access, true⟩])
    (howed : v.owed = w.owed) (hwaiting : v.waiting = w.waiting) (hfresh : w.fresh < v.fresh) :
    Accounts v (h ++ [.admitted x (.retried access)]) := by
  constructor
  · simp [results_concat hsent, ha.results, Move.result?]
  · intro t
    have hbalance := ha.balance t
    simp only [List.filterMap_append, filterMap_singleton, Move.ticket?, Option.toList_some, hsent,
      howed, List.map_append, List.map_cons, List.map_nil, List.count_append]
    omega
  · exact ha.ascending_admitted _ hx
  · exact ha.below_admitted _ hx hfresh
  · rw [hwaiting]
    exact ha.distinct
  · rw [hwaiting, howed]
    exact ha.waiting
  · intro t ht
    rw [howed] at ht
    rw [hwaiting]
    exact (ha.dropped t ht).imp_right fun hd => List.mem_append_left _ hd
  · intro e he hfalse
    rw [hsent, List.mem_append, List.mem_singleton] at he
    rcases he with he | rfl
    · exact List.mem_append_left _ (ha.taken e he hfalse)
    · cases hfalse

/-- A request that is dropped is still owed its result. -/
theorem drop (ha : Accounts w h) {t : Ticket} (hsent : v.sent = w.sent) (howed : v.owed = w.owed)
    (hwaiting : v.waiting = w.waiting.erase t) (hfresh : v.fresh = w.fresh) :
    Accounts v (h ++ [.dropped t]) := by
  constructor
  · simpa [results_congr hsent, Move.result?] using ha.results
  · simpa [hsent, howed, Move.ticket?] using ha.balance
  · simpa [Move.ticket?] using ha.ascending
  · simpa [hfresh, Move.ticket?] using ha.below
  · rw [hwaiting]
    exact ha.distinct.erase t
  · intro u hu
    rw [hwaiting] at hu
    rw [howed]
    exact ha.waiting u (List.mem_of_mem_erase hu)
  · intro u hu
    rw [howed] at hu
    rw [hwaiting, ha.distinct.mem_erase_iff, List.mem_append, List.mem_singleton]
    by_cases he : u = t
    · exact .inr (.inr (by rw [he]))
    · exact (ha.dropped u hu).imp (fun hw => ⟨he, hw⟩) .inl
  · intro e he hfalse
    rw [hsent] at he
    exact List.mem_append_left _ (ha.taken e he hfalse)

theorem takes [KeyValue σ] (ha : Accounts w h) (ht : Takes w m v) : Accounts v (h ++ [m]) := by
  cases ht with
  | queue p gate =>
    refine ha.owe rfl rfl rfl ?_ rfl (Nat.lt_succ_self _)
    intro t
    simp only [owed, gate, Gate.waiters, List.map_append, List.map_cons, List.map_nil,
      List.count_append]
    omega
  | start gate sent held =>
    refine ha.owe rfl rfl rfl ?_ rfl (Nat.lt_add_of_pos_right (by decide))
    intro t
    simp [owed, gate, Gate.waiters, List.count_cons, Nat.add_comm]
  | retry gate sent held =>
    exact ha.retry rfl (by simp [World.sent, Mark.sending?]) rfl rfl (Nat.lt_succ_self _)
  | refuse gate sent held =>
    exact ha.owe rfl rfl rfl (by simp [owed, Nat.add_assoc]) rfl
      (Nat.lt_add_of_pos_right (by decide))
  | drop t => exact ha.drop rfl rfl rfl rfl
  | begin c => exact ha.keep rfl rfl rfl (by simp [owed]) rfl (Nat.le_succ _)
  | call tasks =>
    exact ha.keep rfl rfl (by simp [World.sent, Mark.sending?]) (by simp [owed, tasks]) rfl
      (Nat.le_refl _)
  | answer a tasks => exact ha.keep rfl rfl rfl (by simp [owed, tasks]) rfl (Nat.le_refl _)
  | write tasks =>
    exact ha.keep rfl rfl (by simp [World.sent, Mark.sending?]) (by simp [owed, tasks]) rfl
      (Nat.le_refl _)
  | store tasks next =>
    exact ha.keep rfl rfl (by simp [World.sent, Mark.sending?]) (by simp [owed, tasks]) rfl
      (Nat.le_refl _)
  | settle tasks =>
    refine ha.keep rfl rfl rfl ?_ rfl (Nat.le_refl _)
    intro t
    simp only [owed, tasks, Gate.waiters, List.map_nil, List.nil_append, List.flatMap_append,
      List.flatMap_cons, Task.owed_flush, Task.owed_persist, Purpose.owed_settle, List.count_append]
    omega
  | dismiss tasks =>
    refine ha.send rfl rfl (by simp [World.sent, List.filterMap_cons, Mark.sending?]) ?_ rfl
      (Nat.le_refl _)
    intro t
    simp only [owed, tasks, List.flatMap_append, List.flatMap_cons, Task.owed_persist,
      Purpose.owed_dismiss, List.count_append]
    omega
  | conclude tasks =>
    exact ha.keep rfl rfl (by simp [World.sent, Mark.sending?]) (by simp [owed, tasks]) rfl
      (Nat.le_refl _)
  | @resume l r id v x xs tasks =>
    refine ha.send rfl rfl (by simp [World.sent, Mark.sending?]) ?_ rfl (Nat.le_refl _)
    intro t
    have hx : (x.ticket :: xs.map Waiter.ticket).count t =
        [x.ticket].count t + (xs.map Waiter.ticket).count t := by
      rw [← List.count_append, List.singleton_append]
    simp only [owed, tasks, List.flatMap_append, List.flatMap_cons, Task.owed_flush, List.map_cons,
      List.count_append, hx]
    omega
  | close tasks => exact ha.keep rfl rfl rfl (by simp [owed, tasks]) rfl (Nat.le_refl _)
  | redirect tasks =>
    exact ha.keep rfl rfl (by simp [World.sent, Mark.sending?]) (by simp [owed, tasks]) rfl
      (Nat.le_refl _)
  | stay => exact ha.keep rfl rfl rfl (fun _ => rfl) rfl (Nat.le_refl _)

/-- What was sent to a request is found. -/
theorem resultOf?_eq_some (ha : Accounts w h) {t : Ticket} {result : Resumption}
    (hin : (t, result) ∈ w.results) : w.resultOf? t = some result := by
  obtain ⟨e, he, heq⟩ := List.mem_map.mp hin
  obtain ⟨m, hm, hsending⟩ := List.mem_filterMap.mp he
  have hsome : (w.resultOf? t).isSome := by
    rw [resultOf?, List.findSome?_isSome_iff]
    refine ⟨m, List.mem_reverse.mp hm, ?_⟩
    cases m with
    | resumed u r taken =>
      cases hsending
      cases heq
      simp
    | _ => cases hsending
  obtain ⟨found, hfound⟩ := Option.isSome_iff_exists.mp hsome
  have hnodup : (w.results.map Prod.fst).Nodup := w.keys_results ▸ ha.nodup_sent
  have hsame : (t, found) = (t, result) :=
    List.inj_on_of_nodup_map hnodup (mem_results_of_resultOf? hfound) hin rfl
  rw [hfound, (Prod.mk.inj hsame).2]

end Accounts

/-- The accounts balance after every run. -/
theorem accounts_run [KeyValue σ] (s : Store σ) (es : List Event) :
    Accounts ((new s).run es) ((new s).moves es) :=
  run_induction s (Accounts.new s) (fun _ _ _ _ _ ha ht => ha.takes ht) es

end World

end BandCatalog.Renewal
