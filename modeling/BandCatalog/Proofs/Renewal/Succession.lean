import BandCatalog.Proofs.Renewal.Rotation

/-!
# Sessions that follow one another

A login or logout replaces what is in memory as a whole. It does not reach the renewals and refused
requests that are under way: those that have written what they had to leave its tokens alone, and those
that have not write over them, whatever is there by then. So a session is safe from what came before it
exactly if it begins at a moment at which nothing is overdue.
-/
namespace BandCatalog.Renewal

/-- Whether a write of the store is what comes of a request, and not a login or logout. -/
def Purpose.isOutcome : Purpose → Bool
  | settle _ => true
  | dismiss _ => true
  | session => false

namespace Task

/-- Tasks of requests that came back unauthorized. -/
def isOutcome : Task → Bool
  | start _ => true
  | ask _ => true
  | write _ p => p.isOutcome
  | persist _ _ p => p.isOutcome
  | flush _ _ => true

/-- Those of them that have still to write the store in memory. -/
def isOverdue : Task → Bool
  | start _ => true
  | ask _ => true
  | write _ p => p.isOutcome
  | persist _ _ _ => false
  | flush _ _ => false

/-- Only writes that leave no token behind are left to a task. -/
def Barren : Task → Prop
  | start _ => False
  | ask _ => False
  | write c _ => c = .forget
  | persist _ _ _ => True
  | flush _ _ => True

end Task

/-- There is always another pair. -/
theorem exists_ofPair_ne (t : Tokens) : ∃ p, Tokens.ofPair p ≠ t := by
  by_cases h : Tokens.ofPair ⟨"", ""⟩ = t
  · refine ⟨⟨"A", ""⟩, ?_⟩
    rw [← h]
    decide
  · exact ⟨⟨"", ""⟩, h⟩

namespace World

variable {σ : Type} [KeyValue σ] {w v : World σ} {id : Ticket}

/-- Whatever is left to be done for the requests that came so far leaves the memory alone, whenever it is
done and whatever happens in the meantime. -/
def Spares (v : World σ) : Prop :=
  ∀ later id t, id < v.fresh → (v.run later).task? id = some t → t.isOutcome = true →
    ((v.run later).step (.advance id)).store.memory = (v.run later).store.memory

theorem step_advance (hn : w.Numbered) {t : Task} (ht : (id, t) ∈ w.tasks) :
    w.step (.advance id) = w.advance id t := by
  simp only [step, hn.task?_eq_some ht]

theorem step_answer (hn : w.Numbered) {token : String} (ht : (id, .ask token) ∈ w.tasks) (a : Answer) :
    w.step (.answer id a) =
      w.become id (.write (Verdict.ofAnswer a).write (.settle (.ofAnswer a))) := by
  simp only [step, hn.task?_eq_some ht]

omit [KeyValue σ] in
theorem mem_become {t : Task} (ht : (id, t) ∈ w.tasks) (u : Task) :
    (id, u) ∈ (w.become id u).tasks :=
  List.mem_map.mpr ⟨(id, t), ht, if_pos rfl⟩

/-- A request that came so far writes over what is in memory, at some time. -/
def Disturbs (w : World σ) (id : Ticket) : Prop :=
  ∃ later t, (w.run later).task? id = some t ∧ t.isOutcome = true ∧
    ((w.run later).step (.advance id)).store.memory ≠ (w.run later).store.memory

theorem Disturbs.of_step {e : Event} (h : (w.step e).Disturbs id) : w.Disturbs id := by
  obtain ⟨later, t, ht, houtcome, hne⟩ := h
  exact ⟨e :: later, t, ht, houtcome, hne⟩

/-- A write that is ahead is made even if somebody logs in before. -/
theorem disturbs_write (hn : w.Numbered) {c : Write} {p : Purpose} (hp : p.isOutcome = true)
    (ht : (id, .write c p) ∈ w.tasks) : w.Disturbs id := by
  obtain ⟨q, hq⟩ := exists_ofPair_ne c.tokens
  have hne : id ≠ w.fresh := Nat.ne_of_lt (hn.tasks id (List.mem_map_of_mem ht))
  let begun := w.step (.begin (.put q))
  let logged := begun.step (.advance w.fresh)
  have hbegun : begun.Numbered := hn.step _
  have hlogin : (w.fresh, .write (.put q) .session) ∈ begun.tasks :=
    List.mem_append_right _ (List.mem_singleton.mpr rfl)
  have hlogged : logged = begun.advance w.fresh (.write (.put q) .session) :=
    step_advance hbegun hlogin
  have hmemory : logged.store.memory = .ofPair q := by rw [hlogged]; rfl
  have hleft : (id, .write c p) ∈ logged.tasks := by
    rw [hlogged]
    exact List.mem_map.mpr ⟨_, List.mem_append_left _ ht, if_neg hne⟩
  have hnumbered : logged.Numbered := hbegun.step _
  refine ⟨[.begin (.put q), .advance w.fresh], _, hnumbered.task?_eq_some hleft, hp, ?_⟩
  change (logged.step (.advance id)).store.memory ≠ logged.store.memory
  rw [step_advance hnumbered hleft, hmemory]
  exact hq.symm

theorem disturbs_ask (hn : w.Numbered) {token : String} (ht : (id, .ask token) ∈ w.tasks) :
    w.Disturbs id := by
  have hleft : (id, .write (Verdict.ofAnswer .panic).write (.settle (.ofAnswer .panic))) ∈
      (w.step (.answer id .panic)).tasks := by
    rw [step_answer hn ht]
    exact mem_become ht _
  exact Disturbs.of_step (disturbs_write (hn.step _) rfl hleft)

theorem disturbs_start (hn : w.Numbered) {token : String} (ht : (id, .start token) ∈ w.tasks) :
    w.Disturbs id := by
  have hleft : (id, .ask token) ∈ (w.step (.advance id)).tasks := by
    rw [step_advance hn ht]
    exact mem_become (w := w.mark (.asked token)) ht _
  exact Disturbs.of_step (disturbs_ask (hn.step _) hleft)

/-- What is overdue writes over a session that begins before it. -/
theorem disturbs_overdue (hn : w.Numbered) {t : Task} (ht : (id, t) ∈ w.tasks)
    (hoverdue : t.isOverdue = true) : w.Disturbs id := by
  cases t with
  | start token => exact disturbs_start hn ht
  | ask token => exact disturbs_ask hn ht
  | write c p => exact disturbs_write hn hoverdue ht
  | persist cs result p => cases hoverdue
  | flush left ws => cases hoverdue

/-- The requests that came before a certain number have nothing overdue. -/
structure Done (n : Ticket) (w : World σ) : Prop where
  before : n ≤ w.fresh
  tasks : ∀ e ∈ w.tasks, e.1 < n → e.2.isOverdue = false

omit [KeyValue σ] in
theorem Done.spawned {n : Ticket} (hd : Done n w) {t : Task} (hid : n ≤ id) :
    ∀ e ∈ w.tasks ++ [(id, t)], e.1 < n → e.2.isOverdue = false :=
  forall_spawned hd.tasks fun hlt => absurd hlt (Nat.not_lt.mpr hid)

/-- Once nothing of theirs is overdue, nothing is again. -/
theorem Done.takes {n : Ticket} {m : Move} (hd : Done n w) (ht : Takes w m v) : Done n v := by
  have hbefore := hd.before
  cases ht with
  | queue p gate => exact ⟨Nat.le_succ_of_le hbefore, hd.tasks⟩
  | start gate sent hheld =>
    exact ⟨Nat.le_add_right_of_le hbefore, hd.spawned (Nat.le_succ_of_le hbefore)⟩
  | retry gate sent hheld => exact ⟨Nat.le_succ_of_le hbefore, hd.tasks⟩
  | refuse gate sent hheld =>
    exact ⟨Nat.le_add_right_of_le hbefore, hd.spawned (Nat.le_succ_of_le hbefore)⟩
  | drop t => exact ⟨hbefore, hd.tasks⟩
  | begin c => exact ⟨Nat.le_succ_of_le hbefore, hd.spawned hbefore⟩
  | call tasks =>
    exact ⟨hbefore, forall_moved hd.tasks tasks fun hlt => nomatch forall_held hd.tasks tasks hlt⟩
  | answer a tasks =>
    exact ⟨hbefore, forall_moved hd.tasks tasks fun hlt => nomatch forall_held hd.tasks tasks hlt⟩
  | write tasks => exact ⟨hbefore, forall_moved hd.tasks tasks fun _ => rfl⟩
  | store tasks next => exact ⟨hbefore, forall_moved hd.tasks tasks fun _ => rfl⟩
  | settle tasks => exact ⟨hbefore, forall_moved hd.tasks tasks fun _ => rfl⟩
  | dismiss tasks => exact ⟨hbefore, forall_ended hd.tasks tasks⟩
  | conclude tasks => exact ⟨hbefore, forall_ended hd.tasks tasks⟩
  | resume tasks => exact ⟨hbefore, forall_moved hd.tasks tasks fun _ => rfl⟩
  | close tasks => exact ⟨hbefore, forall_ended hd.tasks tasks⟩
  | redirect tasks => exact ⟨hbefore, forall_ended hd.tasks tasks⟩
  | stay => exact hd

theorem Done.run {n : Ticket} (hn : w.Numbered) (hd : Done n w) (es : List Event) :
    Done n (w.run es) :=
  run_induction_from (P := fun w _ => Done n w) hn hd (fun _ _ _ _ _ hd ht => hd.takes ht) es

/-- Where nothing is overdue, no request that came so far is going to write. -/
theorem Done.not_wrote (hn : w.Numbered) (hd : Done w.fresh w) {later : List Event} {c : Write}
    {p : Purpose} (hm : .wrote id c p ∈ w.moves later) (hp : p.isOutcome = true) : w.fresh ≤ id := by
  obtain ⟨past, e, rest, rfl, hmove⟩ := exists_of_mem_moves hm
  obtain ⟨hmem, -⟩ := mem_of_wrote (hn.run past) hmove
  refine Nat.not_lt.mp fun hlt => ?_
  exact absurd ((hd.run hn past).tasks _ hmem hlt) (by simpa [Task.isOverdue] using hp)

theorem Done.spares (hn : w.Numbered) (hd : Done w.fresh w) : w.Spares := by
  intro later id t hlt ht houtcome
  refine (takes_step (hn.run later) (.advance id)).memory_eq ?_
  intro i c p hmove
  have hstep : (w.run later).move (.advance id) = (w.run later).taskMove id t := by
    simp only [move, ht]
  have hoverdue := (hd.run hn later).tasks _ (mem_of_task? ht) hlt
  cases t with
  | write d q => exact absurd houtcome (by simpa [Task.isOutcome, Task.isOverdue] using hoverdue)
  | persist cs result q => cases cs <;> cases q <;> cases hstep.symm.trans hmove
  | flush left ws => cases ws <;> cases hstep.symm.trans hmove
  | _ => cases hoverdue

/-- A session is safe from the requests that came before it exactly if nothing of theirs is overdue. -/
theorem spares_iff (hn : w.Numbered) : w.Spares ↔ ∀ e ∈ w.tasks, e.2.isOverdue = false := by
  constructor
  · intro hs e he
    cases hoverdue : e.2.isOverdue with
    | false => rfl
    | true =>
      obtain ⟨later, t, ht, houtcome, hne⟩ := disturbs_overdue hn he hoverdue
      exact absurd (hs later e.1 t (hn.tasks e.1 (List.mem_map_of_mem he)) ht houtcome) hne
  · intro hnone
    exact Done.spares hn ⟨Nat.le_refl _, fun e he _ => hnone e he⟩

/-- Nobody is logged in, and nothing that is left to be done changes that. -/
structure LoggedOut (w : World σ) : Prop where
  memory : w.store.memory = .none
  tasks : ∀ e ∈ w.tasks, e.2.Barren

/-- Nobody is logged in until somebody logs in. -/
theorem LoggedOut.takes {m : Move} (h : LoggedOut w) (ht : Takes w m v)
    (hlogin : ∀ p, m ≠ .begun (.put p)) : LoggedOut v := by
  cases ht with
  | queue p gate => exact ⟨h.memory, h.tasks⟩
  | start gate sent hheld =>
    rw [h.memory] at hheld
    cases hheld
  | retry gate sent hheld => exact ⟨h.memory, h.tasks⟩
  | refuse gate sent hheld => exact ⟨h.memory, forall_spawned h.tasks rfl⟩
  | drop t => exact ⟨h.memory, h.tasks⟩
  | begin c =>
    cases c with
    | put p => exact absurd rfl (hlogin p)
    | forget => exact ⟨h.memory, forall_spawned h.tasks rfl⟩
  | call tasks => exact (forall_held h.tasks tasks).elim
  | answer a tasks => exact (forall_held h.tasks tasks).elim
  | write tasks =>
    have hforget := forall_held h.tasks tasks
    subst hforget
    exact ⟨rfl, forall_moved h.tasks tasks trivial⟩
  | store tasks next => exact ⟨h.memory, forall_moved h.tasks tasks trivial⟩
  | settle tasks => exact ⟨h.memory, forall_moved h.tasks tasks trivial⟩
  | dismiss tasks => exact ⟨h.memory, forall_ended h.tasks tasks⟩
  | conclude tasks => exact ⟨h.memory, forall_ended h.tasks tasks⟩
  | resume tasks => exact ⟨h.memory, forall_moved h.tasks tasks trivial⟩
  | close tasks => exact ⟨h.memory, forall_ended h.tasks tasks⟩
  | redirect tasks => exact ⟨h.memory, forall_ended h.tasks tasks⟩
  | stay => exact h

theorem LoggedOut.run (hn : w.Numbered) (h : LoggedOut w) (es : List Event) :
    (∀ p, .begin (.put p) ∉ es) → LoggedOut (w.run es) := by
  induction es generalizing w with
  | nil => exact fun _ => h
  | cons e es ih =>
    intro hnone
    have hstep : LoggedOut (w.step e) := by
      refine h.takes (takes_step hn e) fun p hm => ?_
      have hbegun : .begun (.put p) ∈ w.moves [e] := by simp [hm]
      exact hnone p (List.mem_cons.mpr (.inl (List.mem_singleton.mp (begin_of_mem_moves hbegun))))
    exact ih (hn.step e) hstep fun p hp => hnone p (List.mem_cons_of_mem _ hp)

/-- A login or logout is safe from all that came before it exactly if none of that has its write still ahead. -/
theorem session_spared_iff (s : Store σ) (es : List Event) (id : Ticket) (c : Write)
    (ht : ((new s).run es).task? id = some (.write c .session)) :
    let w := (new s).run es
    let v := w.step (.advance id)
    v.store.memory = c.tokens ∧
    (v.Spares ↔ ∀ e ∈ w.tasks, e.2.isOverdue = false) ∧
    ((∀ e ∈ w.tasks, e.2.isOverdue = false) → ∀ later i d p,
      .wrote i d p ∈ v.moves later → p.isOutcome = true → v.fresh ≤ i) ∧
    (c = .forget → (∀ e ∈ w.tasks, e.2.Barren) → ∀ later, (∀ p, .begin (.put p) ∉ later) →
      (v.run later).store.memory = .none) := by
  intro w v
  have hw : w.Numbered := (numbered_new s).run es
  have hv : v.Numbered := hw.step _
  obtain ⟨l, r, htasks⟩ := exists_split ht
  have hstep : v = w.advance id (.write c .session) := step_advance hw (mem_of_task? ht)
  have hvtasks : v.tasks = l ++ (id, .persist c.calls (.ok ()) .session) :: r := by
    rw [hstep, advance, become_of_split (hw.others htasks) (by exact htasks)]
  have hmemory : v.store.memory = c.tokens := by
    rw [hstep]
    rfl
  have hoverdue : (∀ e ∈ v.tasks, e.2.isOverdue = false) ↔ ∀ e ∈ w.tasks, e.2.isOverdue = false := by
    constructor
    · intro hnone
      rw [htasks]
      exact forall_moved hnone hvtasks rfl
    · intro hnone
      rw [hvtasks]
      exact forall_moved hnone htasks rfl
  refine ⟨hmemory, (spares_iff hv).trans hoverdue, ?_, ?_⟩
  · intro hnone later i d p hm hp
    exact Done.not_wrote hv ⟨Nat.le_refl _, fun e he _ => hoverdue.mpr hnone e he⟩ hm hp
  · intro hforget hbarren later hlogin
    have hout : LoggedOut v := by
      refine ⟨by rw [hmemory, hforget]; rfl, ?_⟩
      rw [hvtasks]
      exact forall_moved hbarren htasks trivial
    exact (hout.run hv later hlogin).memory

/-- A logout where nothing is under way. -/
theorem session_spared_quiet :
    ((new loggedIn).run [.begin .forget]).task? 0 = some (.write .forget .session) ∧
      (((new loggedIn).run [.begin .forget]).step (.advance 0)).Spares ∧
      ∀ later, (∀ p, .begin (.put p) ∉ later) →
        ((((new loggedIn).run [.begin .forget]).step (.advance 0)).run later).store.memory = .none := by
  obtain ⟨-, hspares, -, hout⟩ := session_spared_iff loggedIn [.begin .forget] 0 .forget rfl
  refine ⟨rfl, hspares.mpr ?_, hout rfl ?_⟩
  · intro e he
    rw [List.mem_singleton.mp he]
    rfl
  · intro e he
    rw [List.mem_singleton.mp he]
    rfl

/-- A request has come back unauthorized, and then its user logs out. -/
def logoutDuringRenewal : List Event :=
  [.arrive ⟨⟨"GET", ⟨"http", none, .segments [], none, none⟩, [], .empty⟩, some "A1"⟩, .begin .forget]

/-- The renewal of the request brings tokens back into a memory that a logout has emptied, long after
the logout is done. -/
theorem session_not_spared :
    let w := (new loggedIn).run logoutDuringRenewal
    let v := w.step (.advance 2)
    let out := v.run [.advance 2, .advance 2, .advance 2]
    let renewed := out.run ([.advance 1, .answer 1 (.pair ⟨"A2", "R2"⟩)] ++
      List.replicate 6 (.advance 1))
    w.task? 2 = some (.write .forget .session) ∧ v.store.memory = .none ∧
      out.writeOf? 2 = some (.ok ()) ∧ out.store.memory = .none ∧
      renewed.tasks = [] ∧ renewed.store.memory = .ofPair ⟨"A2", "R2"⟩ ∧ ¬ v.Spares := by
  refine ⟨rfl, rfl, rfl, rfl, rfl, rfl, fun hspares => ?_⟩
  have hsame := hspares [.advance 1, .answer 1 (.pair ⟨"A2", "R2"⟩)] 1 _ (by decide) rfl rfl
  exact absurd hsame (by decide)

end World

end BandCatalog.Renewal
