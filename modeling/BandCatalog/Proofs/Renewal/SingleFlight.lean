import BandCatalog.Proofs.Renewal.Moves

/-!
# One renewal at a time

A renewal is in flight from the admission that starts it until it settles. The gate is refreshing
exactly while one is, and then somebody waits. Renewals are started, call the renewer, are answered
and settle in one and the same order, each at most once: what has started is what has settled,
followed by the renewal in flight. No assumption is made on the storage, on the renewer's answers or
on the order of steps.
-/
namespace BandCatalog.Renewal

/-- A renewal that settled, with those it took over. -/
structure Settlement where
  id : Ticket
  verdict : Verdict
  waiters : List Waiter
  deriving DecidableEq, Repr

namespace Move

/-- The start of a renewal, with the refresh token that it is given. -/
def start? : Move → Option (Ticket × String)
  | admitted _ (.started id token) => some (id, token)
  | _ => none

theorem start?_eq_some {m : Move} {e : Ticket × String} (h : m.start? = some e) :
    ∃ x, m = .admitted x (.started e.1 e.2) := by
  unfold start? at h
  split at h
  · cases h
    exact ⟨_, rfl⟩
  · cases h

def call? : Move → Option (Ticket × String)
  | called id token => some (id, token)
  | _ => none

def answer? : Move → Option (Ticket × Answer)
  | answered id a => some (id, a)
  | _ => none

def settlement? : Move → Option Settlement
  | settled id v ws => some ⟨id, v, ws⟩
  | _ => none

end Move

namespace Task

/-- The token of a renewal that has not called the renewer. -/
def uncalled? : Task → Option String
  | start token => some token
  | _ => none

@[simp] theorem uncalled?_start (token : String) : (start token).uncalled? = some token := rfl
@[simp] theorem uncalled?_ask (token : String) : (ask token).uncalled? = none := rfl
@[simp] theorem uncalled?_write (c : Write) (p : Purpose) : (write c p).uncalled? = none := rfl
@[simp] theorem uncalled?_persist (cs : List StorageCall) (result : Except StoreError Unit)
    (p : Purpose) : (persist cs result p).uncalled? = none := rfl

/-- Renewals whose renewer has not answered. -/
def isUnanswered : Task → Bool
  | start _ => true
  | ask _ => true
  | _ => false

@[simp] theorem isUnanswered_start (token : String) : (start token).isUnanswered = true := rfl
@[simp] theorem isUnanswered_ask (token : String) : (ask token).isUnanswered = true := rfl
@[simp] theorem isUnanswered_write (c : Write) (p : Purpose) :
    (write c p).isUnanswered = false := rfl
@[simp] theorem isUnanswered_persist (cs : List StorageCall) (result : Except StoreError Unit)
    (p : Purpose) : (persist cs result p).isUnanswered = false := rfl

end Task

def Mark.asked? : Mark → Option String
  | asked token => some token
  | _ => none

namespace World

variable {σ : Type}

/-- The refresh tokens that the renewer was called with, in order. -/
def asked (w : World σ) : List String := w.trace.reverse.filterMap Mark.asked?

/-- The gate, the renewal in flight and the history fit together. -/
structure Flight (w : World σ) (h : List Move) : Prop where
  idle : w.gate.isRefreshing = false → w.renewing = []
  refreshing : w.gate.isRefreshing = true → ∃ e, w.renewing = [e]
  waited : w.gate ≠ .refreshing []
  called : h.filterMap Move.start? = h.filterMap Move.call? ++
    w.renewing.filterMap fun e => e.2.uncalled?.map (e.1, ·)
  answered : (h.filterMap Move.start?).map Prod.fst =
    (h.filterMap Move.answer?).map Prod.fst ++ (w.renewing.filter fun e => e.2.isUnanswered).map Prod.fst
  settled : (h.filterMap Move.start?).map Prod.fst =
    (h.filterMap Move.settlement?).map Settlement.id ++ w.renewing.map Prod.fst
  ascending : ((h.filterMap Move.start?).map Prod.fst).Pairwise (· < ·)
  below : ∀ id ∈ (h.filterMap Move.start?).map Prod.fst, id < w.fresh
  count : w.renewals = (h.filterMap Move.start?).length
  asked : w.asked = (h.filterMap Move.call?).map Prod.snd

namespace Flight

variable {w v : World σ} {h : List Move} {m : Move}

theorem new (s : Store σ) : Flight (World.new s) [] where
  idle := by simp [World.new, renewing]
  refreshing := by simp [World.new, Gate.isRefreshing]
  waited := by simp [World.new]
  called := by simp [World.new, renewing]
  answered := by simp [World.new, renewing]
  settled := by simp [World.new, renewing]
  ascending := by simp
  below := by simp
  count := by simp [World.new]
  asked := by simp [World.new, World.asked]

/-- A renewal that has not settled is the only one. -/
theorem alone (hf : Flight w h) {l r : List (Ticket × Task)} {id : Ticket} {t : Task}
    (htasks : w.tasks = l ++ (id, t) :: r) (ht : t.isUnsettled = true) :
    w.gate.isRefreshing = true ∧ w.renewing = [(id, t)] ∧
      (l.filter fun e => e.2.isUnsettled) = [] ∧ (r.filter fun e => e.2.isUnsettled) = [] := by
  have hmem : (id, t) ∈ w.renewing := by simp [renewing, htasks, ht]
  cases hg : w.gate.isRefreshing with
  | false =>
    rw [hf.idle hg] at hmem
    exact absurd hmem List.not_mem_nil
  | true =>
    obtain ⟨e, hone⟩ := hf.refreshing hg
    have hlength := congrArg List.length hone
    simp only [renewing, htasks, List.filter_append, List.filter_cons, ht, if_true,
      List.length_append, List.length_cons, List.length_nil] at hlength
    rw [hone] at hmem
    rw [hone, List.mem_singleton.mp hmem]
    refine ⟨rfl, rfl, List.eq_nil_of_length_eq_zero ?_, List.eq_nil_of_length_eq_zero ?_⟩
    · omega
    · omega

/-- What a move that starts no renewal takes off what is left of the one in flight, it adds to the
history. -/
theorem keep (hf : Flight w h) (hstart : m.start? = none)
    (hidle : v.gate.isRefreshing = false → v.renewing = [])
    (hrefreshing : v.gate.isRefreshing = true → ∃ e, v.renewing = [e])
    (hwaited : v.gate ≠ .refreshing [])
    (hcalled : (w.renewing.filterMap fun e => e.2.uncalled?.map (e.1, ·)) =
      m.call?.toList ++ v.renewing.filterMap fun e => e.2.uncalled?.map (e.1, ·))
    (hanswered : (w.renewing.filter fun e => e.2.isUnanswered).map Prod.fst =
      m.answer?.toList.map Prod.fst ++ (v.renewing.filter fun e => e.2.isUnanswered).map Prod.fst)
    (hsettled : w.renewing.map Prod.fst =
      m.settlement?.toList.map Settlement.id ++ v.renewing.map Prod.fst)
    (hfresh : w.fresh ≤ v.fresh) (hcount : v.renewals = w.renewals)
    (hasked : v.asked = w.asked ++ m.call?.toList.map Prod.snd) : Flight v (h ++ [m]) where
  idle := hidle
  refreshing := hrefreshing
  waited := hwaited
  called := by simp [hstart, hf.called, hcalled]
  answered := by simp [hstart, hf.answered, hanswered]
  settled := by simp [hstart, hf.settled, hsettled]
  ascending := by simpa [hstart] using hf.ascending
  below := by
    intro id hid
    exact Nat.lt_of_lt_of_le (hf.below id (by simpa [hstart] using hid)) hfresh
  count := by simpa [hstart, hcount] using hf.count
  asked := by simp [hasked, hf.asked]

/-- Moves that leave the renewal in flight as it is. -/
theorem same (hf : Flight w h) (hstart : m.start? = none) (hcall : m.call? = none)
    (hanswer : m.answer? = none) (hsettle : m.settlement? = none)
    (hgate : v.gate.isRefreshing = w.gate.isRefreshing) (hwaited : v.gate ≠ .refreshing [])
    (hrenewing : v.renewing = w.renewing) (hfresh : w.fresh ≤ v.fresh)
    (hcount : v.renewals = w.renewals) (hasked : v.asked = w.asked) : Flight v (h ++ [m]) :=
  hf.keep hstart (by rw [hgate, hrenewing]; exact hf.idle)
    (by rw [hgate, hrenewing]; exact hf.refreshing) hwaited (by simp [hcall, hrenewing])
    (by simp [hanswer, hrenewing]) (by simp [hsettle, hrenewing]) hfresh hcount
    (by simp [hcall, hasked])

/-- Moves of the renewal in flight that do not settle it. -/
theorem progress (hf : Flight w h) {l r : List (Ticket × Task)} {id : Ticket} {t u : Task}
    (htasks : w.tasks = l ++ (id, t) :: r) (ht : t.isUnsettled = true)
    (hvtasks : v.tasks = l ++ (id, u) :: r) (hu : u.isUnsettled = true) (hgate : v.gate = w.gate)
    (hstart : m.start? = none) (hsettle : m.settlement? = none)
    (hcalled : (t.uncalled?.map (id, ·)).toList =
      m.call?.toList ++ (u.uncalled?.map (id, ·)).toList)
    (hanswered : (if t.isUnanswered then [id] else []) =
      m.answer?.toList.map Prod.fst ++ if u.isUnanswered then [id] else [])
    (hfresh : w.fresh ≤ v.fresh) (hcount : v.renewals = w.renewals)
    (hasked : v.asked = w.asked ++ m.call?.toList.map Prod.snd) : Flight v (h ++ [m]) := by
  obtain ⟨hrefreshing, hw, hl, hr⟩ := hf.alone htasks ht
  have hv : v.renewing = [(id, u)] := by
    simp [renewing, hvtasks, hl, hr, hu]
  rw [← hgate] at hrefreshing
  apply hf.keep hstart
  · intro hidle
    rw [hrefreshing] at hidle
    cases hidle
  · exact fun _ => ⟨_, hv⟩
  · rw [hgate]
    exact hf.waited
  · simpa [hw, hv] using hcalled
  · simpa [hw, hv, List.filter_cons, apply_ite] using hanswered
  · simp [hw, hv, hsettle]
  · exact hfresh
  · exact hcount
  · exact hasked

/-- The renewal in flight settles, and none is in flight. -/
theorem settle (hf : Flight w h) {l r : List (Ticket × Task)} {id : Ticket} {t u : Task}
    {verdict : Verdict} {ws : List Waiter} (htasks : w.tasks = l ++ (id, t) :: r)
    (ht : t.isUnsettled = true) (hcalled : t.uncalled? = none) (hanswered : t.isUnanswered = false)
    (hvtasks : v.tasks = l ++ (id, u) :: r) (hu : u.isUnsettled = false) (hgate : v.gate = .idle)
    (hfresh : w.fresh ≤ v.fresh) (hcount : v.renewals = w.renewals) (hasked : v.asked = w.asked) :
    Flight v (h ++ [.settled id verdict ws]) := by
  obtain ⟨_, hw, hl, hr⟩ := hf.alone htasks ht
  have hv : v.renewing = [] := by
    simp [renewing, hvtasks, hl, hr, hu]
  apply hf.keep rfl
  · exact fun _ => hv
  · simp [hgate, Gate.isRefreshing]
  · simp [hgate]
  · simp [hw, hv, hcalled, Move.call?]
  · simp [hw, hv, hanswered, Move.answer?]
  · simp [hw, hv, Move.settlement?]
  · exact hfresh
  · exact hcount
  · simpa [Move.call?] using hasked

/-- A renewal starts only where none is in flight. -/
theorem start (hf : Flight w h) {x : Waiter} {token : String} (hgate : w.gate = .idle)
    (hv : v.gate = .refreshing [x]) (htasks : v.tasks = w.tasks ++ [(w.fresh + 1, .start token)])
    (hfresh : v.fresh = w.fresh + 2) (hcount : v.renewals = w.renewals + 1)
    (hasked : v.asked = w.asked) :
    Flight v (h ++ [.admitted x (.started (w.fresh + 1) token)]) := by
  have hnone := hf.idle (by rw [hgate]; rfl)
  have hone : v.renewing = [(w.fresh + 1, .start token)] := by
    have hfilter : (w.tasks.filter fun e => e.2.isUnsettled) = [] := hnone
    simp only [renewing, htasks, List.filter_append, hfilter]
    rfl
  have hcalled := hf.called
  have hanswered := hf.answered
  have hsettled := hf.settled
  simp only [hnone, List.filterMap_nil, List.append_nil] at hcalled
  simp only [hnone, List.filter_nil, List.map_nil, List.append_nil] at hanswered hsettled
  constructor
  · simp [hv, Gate.isRefreshing]
  · exact fun _ => ⟨_, hone⟩
  · simp [hv]
  · simp [hone, hcalled, Move.start?, Move.call?]
  · simp [hone, hanswered, List.filter_cons, Move.start?, Move.answer?]
  · simp [hone, hsettled, Move.start?, Move.settlement?]
  · simp only [List.filterMap_append, filterMap_singleton, Move.start?, Option.toList_some,
      List.map_append, List.pairwise_append]
    refine ⟨hf.ascending, by simp, ?_⟩
    intro a ha b hb
    rw [List.mem_singleton.mp hb]
    exact Nat.lt_succ_of_lt (hf.below a ha)
  · intro id hid
    rw [hfresh]
    simp only [List.filterMap_append, filterMap_singleton, Move.start?, Option.toList_some,
      List.map_append, List.mem_append] at hid
    rcases hid with hid | hid
    · exact Nat.lt_trans (hf.below id hid) (Nat.lt_add_of_pos_right (by decide))
    · rw [List.mem_singleton.mp hid]
      exact Nat.lt_succ_self _
  · simp [hcount, hf.count, Move.start?]
  · simpa [hasked, Move.call?] using hf.asked

/-- The fit is kept by every move. -/
theorem takes [KeyValue σ] (hf : Flight w h) (ht : Takes w m v) : Flight v (h ++ [m]) := by
  cases ht with
  | queue p gate =>
    exact hf.same rfl rfl rfl rfl (by simp [gate, Gate.isRefreshing]) (by simp) rfl (Nat.le_succ _)
      rfl rfl
  | start gate sent held => exact hf.start gate rfl rfl rfl rfl rfl
  | retry gate sent held =>
    exact hf.same rfl rfl rfl rfl rfl hf.waited rfl (Nat.le_succ _) rfl
      (by simp [World.asked, Mark.asked?])
  | refuse gate sent held =>
    exact hf.same rfl rfl rfl rfl rfl hf.waited (by simp [renewing]) (Nat.le_add_right _ _) rfl rfl
  | drop t => exact hf.same rfl rfl rfl rfl rfl hf.waited rfl (Nat.le_refl _) rfl rfl
  | begin c =>
    exact hf.same rfl rfl rfl rfl rfl hf.waited (by simp [renewing]) (Nat.le_succ _) rfl rfl
  | call tasks =>
    exact hf.progress tasks rfl rfl rfl rfl rfl rfl rfl rfl (Nat.le_refl _) rfl
      (by simp [World.asked, Mark.asked?, Move.call?])
  | answer a tasks =>
    exact hf.progress tasks rfl rfl rfl rfl rfl rfl rfl rfl (Nat.le_refl _) rfl
      (by simp [World.asked, Move.call?])
  | @write l r id c p tasks =>
    cases hp : p.isRenewal with
    | true =>
      exact hf.progress tasks hp rfl hp rfl rfl rfl rfl rfl (Nat.le_refl _) rfl
        (by simp [World.asked, Mark.asked?, Move.call?])
    | false =>
      exact hf.same rfl rfl rfl rfl rfl hf.waited (by simp [renewing, tasks, hp]) (Nat.le_refl _) rfl
        (by simp [World.asked, Mark.asked?])
  | @store l r id c cs left result after p tasks next =>
    cases hp : p.isRenewal with
    | true =>
      exact hf.progress tasks hp rfl hp rfl rfl rfl rfl rfl (Nat.le_refl _) rfl
        (by simp [World.asked, Mark.asked?, Move.call?])
    | false =>
      exact hf.same rfl rfl rfl rfl rfl hf.waited (by simp [renewing, tasks, hp]) (Nat.le_refl _) rfl
        (by simp [World.asked, Mark.asked?])
  | settle tasks =>
    exact hf.settle tasks rfl rfl rfl rfl rfl rfl (Nat.le_refl _) rfl rfl
  | dismiss tasks =>
    exact hf.same rfl rfl rfl rfl rfl hf.waited (by simp [renewing, tasks]) (Nat.le_refl _) rfl
      (by simp [World.asked, Mark.asked?])
  | conclude tasks =>
    exact hf.same rfl rfl rfl rfl rfl hf.waited (by simp [renewing, tasks]) (Nat.le_refl _) rfl
      (by simp [World.asked, Mark.asked?])
  | resume tasks =>
    exact hf.same rfl rfl rfl rfl rfl hf.waited (by simp [renewing, tasks]) (Nat.le_refl _) rfl
      (by simp [World.asked, Mark.asked?])
  | close tasks =>
    exact hf.same rfl rfl rfl rfl rfl hf.waited (by simp [renewing, tasks]) (Nat.le_refl _) rfl rfl
  | redirect tasks =>
    exact hf.same rfl rfl rfl rfl rfl hf.waited (by simp [renewing, tasks]) (Nat.le_refl _) rfl
      (by simp [World.asked, Mark.asked?])
  | stay => exact hf.same rfl rfl rfl rfl rfl hf.waited rfl (Nat.le_refl _) rfl rfl

end Flight

/-- The fit holds after every run. -/
theorem flight_run [KeyValue σ] (s : Store σ) (es : List Event) :
    Flight ((new s).run es) ((new s).moves es) :=
  run_induction s (Flight.new s) (fun _ _ _ _ _ hf ht => hf.takes ht) es

/-- A renewal is started with the refresh token in memory. -/
theorem admission_started {w : World σ} {p : Pending} {id : Ticket} {token : String}
    (ha : w.admission p = .started id token) :
    w.gate = .idle ∧ w.store.memory.refresh = some token := by
  unfold admission at ha
  split at ha
  · cases ha
  next hg =>
    refine ⟨hg, ?_⟩
    split at ha
    · cases ha
    next hr =>
      cases ha
      exact hr
    · cases ha

/-- Every renewal of a history goes back to a request that came back unauthorized while the gate was
idle. -/
theorem exists_of_mem_starts [KeyValue σ] {w : World σ} {es : List Event} {e : Ticket × String}
    (he : e ∈ (w.moves es).filterMap Move.start?) :
    ∃ past p rest, es = past ++ .arrive p :: rest ∧ (w.run past).gate = .idle ∧
      (w.run past).store.memory.refresh = some e.2 := by
  obtain ⟨m, hm, hstart⟩ := List.mem_filterMap.mp he
  obtain ⟨x, hstart⟩ := Move.start?_eq_some hstart
  rw [hstart] at hm
  obtain ⟨past, event, rest, rfl, hmove⟩ := exists_of_mem_moves hm
  obtain ⟨p, rfl, _, ha⟩ := arrive_of_move hmove
  exact ⟨past, p, rest, rfl, admission_started ha⟩

/-- At every point of every run one renewal is in flight exactly if the gate is refreshing; each calls the renewer at
most once, with the refresh token that was in memory when it was started. -/
theorem single_flight [KeyValue σ] (s : Store σ) (es : List Event) :
    let w := (new s).run es
    let h := (new s).moves es
    let starts := h.filterMap Move.start?
    let calls := h.filterMap Move.call?
    (w.gate = .idle → w.renewing = []) ∧
    (∀ ws, w.gate = .refreshing ws → ws ≠ [] ∧ ∃ id t, w.renewing = [(id, t)]) ∧
    starts.map Prod.fst =
      (h.filterMap Move.settlement?).map Settlement.id ++ w.renewing.map Prod.fst ∧
    (starts.map Prod.fst).Nodup ∧ calls <+: starts ∧ w.asked = calls.map Prod.snd ∧
    (∀ e ∈ starts, ∃ past p rest, es = past ++ .arrive p :: rest ∧
      ((new s).run past).gate = .idle ∧ ((new s).run past).store.memory.refresh = some e.2) ∧
    w.renewals = starts.length := by
  intro w h starts calls
  have hf : Flight w h := flight_run s es
  refine ⟨?_, ?_, hf.settled, ?_, ?_, hf.asked, ?_, hf.count⟩
  · intro hg
    exact hf.idle (by rw [hg]; rfl)
  · intro ws hg
    obtain ⟨⟨id, t⟩, hone⟩ := hf.refreshing (by rw [hg]; rfl)
    refine ⟨?_, id, t, hone⟩
    rintro rfl
    exact hf.waited hg
  · exact hf.ascending.imp fun hlt => Nat.ne_of_lt hlt
  · change h.filterMap Move.call? <+: h.filterMap Move.start?
    rw [hf.called]
    exact List.prefix_append _ _
  · intro e he
    exact exists_of_mem_starts he

end World

end BandCatalog.Renewal
