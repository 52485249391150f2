import CustomCommands.Proofs.AllOrNothing
import CustomCommands.Proofs.Runs
import CustomCommands.Proofs.Schedule

/-!
# Countdowns over runs

A pump gives each task that is due its turn; `history` lists the turns of a run.
A countdown that goes on is queued again under another number, and `follow` finds
its turns under one number after the other. `Carries` says what the queue holds
for it. Every operation but the pump leaves that alone, and a pump gives the
countdown one turn if it is due (`pump_tick`) and none if it is not
(`Carries.skips`), so its turns are those of its schedule (`follow_history`).
-/

namespace CustomCommands

/-! ## Ticks -/

namespace Phased

def asks (x : Phased) : Countdown.Step → Bindings × ActionSet
  | .perSecond left =>
    (x.bindings.insert Bindings.secondsKey (toString left), x.delay.perSecond.getD [])
  | .finish => (x.bindings, x.main.getD [])
  | .idle => (x.bindings, [])

def next (x : Phased) : Phased :=
  { x with countdown := x.countdown.advance.2 }

theorem tick_eq (playerOnly : String) (p : Platform) (x : Phased) :
    x.tick playerOnly p =
      (!x.next.countdown.isDone, x.next,
        (Executor.run playerOnly p x.sender (x.asks x.countdown.advance.1).1
          (x.asks x.countdown.advance.1).2).2) := by
  obtain ⟨s, delay, main, b, countdown⟩ := x
  cases countdown with
  | done => rfl
  | pending n => cases n <;> rfl

end Phased

/-- The turn of a task in a pump. -/
structure Turn (N : Type) where
  instant : Nat
  item : Timed Task
  /-- The dispatcher without the item. -/
  before : Dispatcher N

namespace Turn

variable {N : Type}

def act (t : Turn N) : Act N Unit :=
  t.before.runTask t.instant t.item.value

/-- The step that a countdown takes; a clean-up takes none. -/
def step (t : Turn N) : Countdown.Step :=
  match t.item.value with
  | .phased x => x.countdown.advance.1
  | .cleanup _ => .idle

/-- The number under which the task is queued again, if it is. -/
def again? (t : Turn N) : Option Nat :=
  if t.act.after.queue.next = t.before.queue.next then none
  else some t.act.after.queue.lastNumber

/-- The turn runs these actions for the sender, and does nothing else that shows. -/
structure Runs (s : Sender) (b : Bindings) (actions : ActionSet) (t : Turn N) : Prop where
  effects : t.act.effects =
    (Executor.run t.before.messages.playerOnly t.before.platform s b actions).2.effects
  notices : t.act.notices =
    (Executor.run t.before.messages.playerOnly t.before.platform s b actions).2.notices
  platform : t.act.after.platform =
    (Executor.run t.before.messages.playerOnly t.before.platform s b actions).2.platform

/-- The turn queues one countdown, for a period later, and nothing else, or nothing at all if it is
the last one. -/
def GoesOn (t : Turn N) : Prop :=
  ∃ x : Phased, t.act.after.queue =
    if t.step = .finish then t.before.queue
    else t.before.queue.insert (t.instant + Dispatcher.tickPeriod) (.phased x)

theorem queue_of_phased {t : Turn N} {x : Phased} (h : t.item.value = .phased x) :
    t.act.after.queue =
      if x.next.countdown.isDone then t.before.queue
      else t.before.queue.insert (t.instant + Dispatcher.tickPeriod) (.phased x.next) := by
  simp only [act, h, Dispatcher.runTask, Phased.tick_eq]
  cases x.next.countdown.isDone <;> rfl

theorem runs_of_phased {t : Turn N} {x : Phased} (h : t.item.value = .phased x) :
    t.step = x.countdown.advance.1 ∧ t.Runs x.sender (x.asks t.step).1 (x.asks t.step).2 := by
  have hstep : t.step = x.countdown.advance.1 := by simp only [step, h]
  refine ⟨hstep, ?_, ?_, ?_⟩ <;> simp only [act, h, Dispatcher.runTask, Phased.tick_eq, hstep]

theorem goesOn_of_phased {t : Turn N} {x : Phased} (h : t.item.value = .phased x)
    (hx : x.countdown.isDone = false) : t.GoesOn := by
  have hlast : x.next.countdown.isDone = true ↔ x.countdown.advance.1 = .finish :=
    Countdown.isDone_advance hx
  refine ⟨x.next, ?_⟩
  rw [queue_of_phased h, (runs_of_phased h).1]
  simp only [hlast]

/-- The turns of the countdown that stands under a number, and from there under the numbers under
which it is queued again. -/
def follow (k : Nat) : List (Turn N) → List (Turn N)
  | [] => []
  | t :: later => if t.item.number = k then t :: follow (t.again?.getD k) later else follow k later

end Turn

namespace Dispatcher

variable {N : Type}

def turns (now : Nat) (d : Dispatcher N) : List (Turn N) :=
  match _h : d.queue.takeDue now with
  | none => []
  | some (e, queue) =>
    let t : Turn N := ⟨now, e, { d with queue }⟩
    t :: t.act.after.turns now
termination_by d.queue.dueCount now
decreasing_by
  have := TimerQueue.dueCount_takeDue _h
  rw [Turn.act, dueCount_runTask]
  simp only
  omega

theorem pump_turns (now : Nat) (d : Dispatcher N) :
    (d.pump now).value = (d.turns now).length ∧
      (d.pump now).effects = (d.turns now).flatMap (fun t => t.act.effects) ∧
      (d.pump now).notices = (d.turns now).flatMap fun t => t.act.notices := by
  fun_induction turns now d with
  | case1 d hq =>
    rw [pump_of_none hq]
    exact ⟨rfl, rfl, rfl⟩
  | case2 d e queue hq t ih =>
    obtain ⟨hv, he, hn⟩ := ih
    rw [pump_of_some hq, List.length_cons, List.flatMap_cons, List.flatMap_cons, ← hv, ← he, ← hn]
    exact ⟨rfl, rfl, rfl⟩

/-! ## What the queue holds for a countdown -/

/-- The countdown stands under the number, due at an instant, or is done and gone. -/
structure Carries (k due : Nat) (x : Phased) (d : Dispatcher N) : Prop where
  given : k < d.queue.next
  item : d.queue.withNumber k = if x.countdown.isDone then [] else [⟨due, k, .phased x⟩]

theorem Carries.grows {k due : Nat} {x : Phased} {d d' : Dispatcher N} (h : Carries k due x d)
    (hg : Grows d.queue d'.queue) : Carries k due x d' := by
  obtain ⟨hw, hlt⟩ := hg.withNumber h.given
  exact ⟨hlt, hw.trans h.item⟩

theorem pump_skips {now k : Nat} {d : Dispatcher N} (hk : k < d.queue.next)
    (hlater : ∀ e ∈ d.queue.withNumber k, now < e.due) (rest : List (Turn N)) :
    Turn.follow k (d.turns now ++ rest) = Turn.follow k rest ∧
      (d.pump now).after.queue.withNumber k = d.queue.withNumber k ∧
      k < (d.pump now).after.queue.next := by
  fun_induction turns now d with
  | case1 d hq =>
    rw [pump_of_none hq]
    exact ⟨rfl, rfl, hk⟩
  | case2 d e queue hq t ih =>
    obtain ⟨-, hdue, hnext⟩ := TimerQueue.takeDue_eq_some hq
    have hw := TimerQueue.withNumber_takeDue hq k
    have hne : e.number ≠ k := by
      intro he
      rw [if_pos he] at hw
      have := hlater e (hw ▸ List.mem_cons_self)
      omega
    rw [if_neg hne] at hw
    obtain ⟨hw', hk'⟩ := (runTask_grows now e.value { d with queue }).withNumber (hnext ▸ hk)
    have hsame : t.act.after.queue.withNumber k = d.queue.withNumber k := hw'.trans hw.symm
    obtain ⟨hf, hafter, hlt⟩ := ih hk' (hsame ▸ hlater)
    rw [pump_of_some hq, List.cons_append, Turn.follow, if_neg hne]
    exact ⟨hf, hafter.trans hsame, hlt⟩

theorem Carries.skips {now k due : Nat} {x : Phased} {d : Dispatcher N} (h : Carries k due x d)
    (hx : x.countdown.isDone = true ∨ now < due) (rest : List (Turn N)) :
    Turn.follow k (d.turns now ++ rest) = Turn.follow k rest ∧
      Carries k due x (d.pump now).after := by
  have hlater : ∀ e ∈ d.queue.withNumber k, now < e.due := by
    intro e he
    rw [h.item] at he
    split at he
    · cases he
    · rename_i hdone
      cases List.mem_singleton.1 he
      exact hx.resolve_left hdone
  obtain ⟨hf, hw, hlt⟩ := pump_skips h.given hlater rest
  exact ⟨hf, hlt, hw.trans h.item⟩

/-- A tick leaves the countdown under its next number, due a period later, or done and gone. -/
theorem tick_carries {t : Turn N} {k due : Nat} {x : Phased} (hitem : t.item = ⟨due, k, .phased x⟩)
    (hk : k < t.before.queue.next) (hgone : t.before.queue.withNumber k = []) :
    Carries (t.again?.getD k) (t.instant + tickPeriod) x.next t.act.after := by
  have hqueue := Turn.queue_of_phased (t := t) (congrArg Timed.value hitem)
  unfold Turn.again?
  cases hdone : x.next.countdown.isDone with
  | true =>
    rw [hdone, if_pos rfl] at hqueue
    rw [hqueue, if_pos rfl]
    refine ⟨?_, ?_⟩
    · rw [hqueue]; exact hk
    · rw [hqueue, hdone]; exact hgone
  | false =>
    rw [hdone, if_neg (by simp)] at hqueue
    have hnext : t.act.after.queue.next = t.before.queue.next + 1 := by rw [hqueue]; rfl
    rw [if_neg (by omega), Option.getD_some, TimerQueue.lastNumber, hnext, Nat.add_sub_cancel]
    refine ⟨?_, ?_⟩
    · rw [hnext]; exact Nat.lt_succ_self _
    · rw [hqueue, TimerQueue.withNumber_insert_next, hdone]; rfl

/-- A countdown that is due has one turn, takes a step, and is not due again before the period is
over. -/
theorem pump_tick {now k due : Nat} {x : Phased} {d : Dispatcher N} (h : Carries k due x d)
    (hx : x.countdown.isDone = false) (hdue : due ≤ now) :
    ∃ (t : Turn N) (k' : Nat), t.instant = now ∧ t.item.value = .phased x ∧
      (∀ rest, Turn.follow k (d.turns now ++ rest) = t :: Turn.follow k' rest) ∧
      Carries k' (now + tickPeriod) x.next (d.pump now).after := by
  have hitem := h.item
  rw [hx, if_neg (by simp)] at hitem
  fun_induction turns now d with
  | case1 d hq =>
    have hmem : (⟨due, k, .phased x⟩ : Timed Task) ∈ d.queue.items :=
      (List.mem_filter.1 (hitem ▸ List.mem_cons_self)).1
    have := TimerQueue.lt_due_of_takeDue hq _ hmem
    simp only at this
    omega
  | case2 d e queue hq t ih =>
    obtain ⟨-, -, hnext⟩ := TimerQueue.takeDue_eq_some hq
    have hk : k < queue.next := hnext ▸ h.given
    have hw := TimerQueue.withNumber_takeDue hq k
    rw [hitem] at hw
    by_cases he : e.number = k
    · rw [if_pos he] at hw
      obtain ⟨rfl, hgone⟩ := List.cons.inj hw
      have hc : Carries (t.again?.getD k) (now + tickPeriod) x.next t.act.after :=
        tick_carries rfl hk hgone.symm
      have hlater := lt_add_tickPeriod now
      refine ⟨t, t.again?.getD k, rfl, rfl, ?_, ?_⟩
      · intro rest
        rw [List.cons_append, Turn.follow, if_pos rfl, (hc.skips (.inr hlater) rest).1]
      · rw [pump_of_some hq]
        exact (hc.skips (.inr hlater) []).2
    · rw [if_neg he] at hw
      have hbefore : Carries k due x t.before := ⟨hk, by rw [hx]; exact hw.symm⟩
      have hafter := hbefore.grows (runTask_grows now e.value t.before)
      obtain ⟨u, k', hu, hv, hf, hc⟩ := ih hafter (by have := hafter.item; rwa [hx] at this)
      refine ⟨u, k', hu, hv, ?_, ?_⟩
      · intro rest
        rw [List.cons_append, Turn.follow, if_neg he, hf]
      · rw [pump_of_some hq]
        exact hc

/-! ## Whole runs -/

def pumps (later : Run N) : List Nat :=
  later.filterMap fun x =>
    match x.2 with
    | .pump => some x.1
    | _ => none

theorem pumps_sublist (later : Run N) : (pumps later).Sublist (later.map Prod.fst) := by
  induction later with
  | nil => exact List.Sublist.slnil
  | cons x later ih =>
    obtain ⟨now, op⟩ := x
    cases op with
    | pump => exact ih.cons_cons now
    | _ => exact ih.cons now

variable [Currency N]

def history (r : UnitReaders) (d : Dispatcher N) : Run N → List (Turn N)
  | [] => []
  | (now, op) :: later =>
    (match op with
      | .pump => d.turns now
      | _ => []) ++ (d.step r now op).history r later

/-- The turns of a countdown are those of its schedule, and what they run was settled when it was
queued. Nothing else comes of them but the countdown that goes on. -/
theorem follow_history (r : UnitReaders) {k due : Nat} {x : Phased} {d : Dispatcher N}
    (h : Carries k due x d) (later : Run N) :
    (Turn.follow k (d.history r later)).map (fun t => (t.instant, t.step)) =
        x.countdown.schedule tickPeriod due (pumps later) ∧
      ∀ t ∈ Turn.follow k (d.history r later),
        t.Runs x.sender (x.asks t.step).1 (x.asks t.step).2 ∧ t.GoesOn := by
  induction later generalizing k due x d with
  | nil =>
    rw [history, Turn.follow]
    exact ⟨rfl, List.forall_mem_nil _⟩
  | cons a later ih =>
    obtain ⟨now, op⟩ := a
    by_cases hop : op = .pump
    · subst hop
      simp only [history, pumps, List.filterMap_cons, step, Countdown.schedule]
      split
      · rename_i hskip
        rw [Bool.or_eq_true, decide_eq_true_eq] at hskip
        obtain ⟨hf, hc⟩ := h.skips hskip ((d.pump now).after.history r later)
        rw [hf]
        exact ih hc
      · rename_i hskip
        obtain ⟨hx, hdue⟩ : x.countdown.isDone = false ∧ due ≤ now := by simp_all
        obtain ⟨t, k', ht, hv, hf, hc⟩ := pump_tick h hx hdue
        obtain ⟨hstep, hruns⟩ := Turn.runs_of_phased hv
        obtain ⟨hticks, hrest⟩ := ih hc
        rw [hf, List.map_cons, hticks, ht, hstep]
        refine ⟨rfl, ?_⟩
        intro u hu
        rcases List.mem_cons.1 hu with rfl | hu
        · exact ⟨hruns, Turn.goesOn_of_phased hv hx⟩
        · exact hrest u hu
    · have hc : Carries k due x (d.step r now op) := h.grows (queue_grows r now d op hop)
      obtain ⟨hticks, hruns⟩ := ih hc
      have hturns : d.history r ((now, op) :: later) = (d.step r now op).history r later := by
        cases op <;> first | rfl | exact absurd rfl hop
      have hpumps : pumps ((now, op) :: later) = pumps later := by
        cases op <;> first | rfl | exact absurd rfl hop
      rw [hturns, hpumps]
      exact ⟨hticks, hruns⟩

/-- The turns of a countdown that was called at an instant, over the pumps that come after. -/
structure Served (s : Sender) (delay : Delay) (main : ActionSet) (b : Bindings) (called : Nat)
    (instants : List Nat) (ticks : List (Turn N)) : Prop where
  /-- From the first second to the finish, none left out and none twice. -/
  inOrder : ticks.map Turn.step <+: Countdown.steps delay.seconds
  perSecond : ∀ t ∈ ticks, ∀ left, t.step = .perSecond left →
    t.Runs s (b.insert Bindings.secondsKey (toString left)) (delay.perSecond.getD [])
  finish : ∀ t ∈ ticks, t.step = .finish → t.Runs s b main
  /-- No two in one pump, nor in pumps that are less than a second apart. -/
  apart : ticks.Pairwise fun t u => t.instant + tickPeriod ≤ u.instant
  notBefore : ∀ first ∈ ticks.head?, ∀ t ∈ ticks, t.step = .finish →
    first.instant + tickPeriod * delay.seconds ≤ t.instant
  /-- With enough pumps a second apart it finishes, once. -/
  once : ∀ spaced : List Nat, spaced.Sublist instants →
    (spaced.Pairwise fun a b => a + tickPeriod ≤ b) → spaced.length = delay.seconds + 1 →
    ticks.map Turn.step = Countdown.steps delay.seconds ∧
      ticks.countP (fun t => t.step = .finish) = 1
  /-- No turn puts in more than the countdown that goes on. -/
  single : ∀ t ∈ ticks, t.GoesOn
  /-- Nothing matters but when the pumps are. -/
  onSchedule : ticks.map (fun t => (t.instant, t.step)) =
    (Countdown.pending delay.seconds).schedule tickPeriod called instants

theorem carries_served (r : UnitReaders) {k called : Nat} {s : Sender} {delay : Delay}
    {main : Option ActionSet} {b : Bindings} {d : Dispatcher N}
    (h : Carries k called (.start s delay main b) d) {later : Run N} (ho : later.InOrder)
    (hfrom : ∀ x ∈ later, called ≤ x.1) :
    Served s delay (main.getD []) b called (pumps later) (Turn.follow k (d.history r later)) := by
  obtain ⟨hticks, hruns⟩ : _ = (Countdown.pending delay.seconds).schedule _ _ _ ∧ _ :=
    follow_history r h later
  generalize Turn.follow k (d.history r later) = ticks at hticks hruns
  have hsteps := congrArg (List.map Prod.snd) hticks
  rw [List.map_map, show Prod.snd ∘ (fun t : Turn N => (t.instant, t.step)) = Turn.step from rfl]
    at hsteps
  refine ⟨?_, ?_, ?_, ?_, ?_, ?_, fun t ht => (hruns t ht).2, hticks⟩
  · rw [hsteps]
    exact Countdown.steps_prefix_of_schedule _ _ _ _
  · intro t ht left hstep
    have := (hruns t ht).1
    rwa [hstep] at this
  · intro t ht hstep
    have := (hruns t ht).1
    rwa [hstep] at this
  · have := Countdown.schedule_spaced tickPeriod called (.pending delay.seconds) (pumps later)
    rwa [← hticks, List.pairwise_map] at this
  · intro first hfirst t ht hstep
    have hhead := congrArg List.head? hticks
    rw [List.head?_map, hfirst] at hhead
    exact Countdown.finish_after_first hhead.symm (hticks ▸ List.mem_map_of_mem ht) hstep
  · intro spaced hsub hspaced hlen
    have hinstants : (pumps later).Pairwise (· ≤ ·) :=
      (List.pairwise_map.2 ho).sublist (pumps_sublist later)
    have hall : ticks.map Turn.step = Countdown.steps delay.seconds := by
      rw [hsteps]
      refine Countdown.schedule_complete hinstants hsub hspaced ?_ ?_
      · intro t ht
        obtain ⟨x, hx, rfl⟩ := List.mem_map.1 ((pumps_sublist later).subset (hsub.subset ht))
        exact hfrom x hx
      · rw [hlen, Countdown.ahead, Countdown.length_steps]
    refine ⟨hall, ?_⟩
    have hcount := Countdown.count_finish_steps delay.seconds
    rwa [← hall, List.count, List.countP_map] at hcount

/-- **Countdowns are served in order, once.** A call that starts a countdown queues it, with the
actions and bindings of the path that was found, and queues no other. Over any later run its turns
are those of its schedule: whatever other calls, loads, reloads and a shutdown do in between, each
step comes at most once and in order, steps are at least a second apart, and each runs what was
settled at the call. A turn queues no countdown but the one that goes on, so there are no other
turns that come of the call. -/
theorem dispatch_served (r : UnitReaders) (d : Dispatcher N) (now : Nat) (s : Sender)
    (label : String) (args : List String) (name : String) (seconds : Nat) (later : Run N)
    (ho : Run.InOrder ((now, .dispatch s label args) :: later))
    (h : (d.dispatch now s label args).value = .ok (.scheduled name seconds)) :
    let called := (d.dispatch now s label args).after
    ∃ c found delay, d.command? label = some c ∧ c.name = name ∧
      (c.tree.matchPath s d.identity args).value = .resolved found ∧
      found.place.node.traits.delay = some delay ∧ delay.seconds = seconds ∧
      called.phasedCount = d.phasedCount + 1 ∧
      Carries called.queue.lastNumber now
        (.start s delay found.place.node.traits.actions found.bindings) called ∧
      Served s delay (found.place.node.traits.actions.getD []) found.bindings now (pumps later)
        (Turn.follow called.queue.lastNumber (called.history r later)) := by
  intro called
  obtain ⟨hfrom, hlater⟩ := List.pairwise_cons.1 ho
  obtain ⟨c, found, hc, hfound, -, hv, hafter, -⟩ := dispatch_ok h
  obtain ⟨-, hscheduled, -⟩ := dispatch_queues h hc
  rcases perform_eq now s c found (d.allow now s c).after with
    ⟨delay, hdelay, hp⟩ | ⟨-, summary, platform, effects, notices, hp⟩
  · rw [hp] at hv
    obtain ⟨rfl, rfl⟩ : name = c.name ∧ seconds = delay.seconds := by simpa using hv
    have hqueue : called.queue = (d.allow now s c).after.queue.insert now
        (.phased (.start s delay found.place.node.traits.actions found.bindings)) := by
      rw [show called = _ from hafter, hp]
    have hcarries : Carries called.queue.lastNumber now
        (.start s delay found.place.node.traits.actions found.bindings) called := by
      refine ⟨?_, ?_⟩
      · rw [hqueue]
        exact Nat.lt_succ_self _
      · rw [hqueue]
        exact TimerQueue.withNumber_insert_next _ _ _
    exact ⟨c, found, delay, hc, rfl, hfound, hdelay, rfl, (hscheduled _ _ rfl).2, hcarries,
      carries_served r hcarries hlater hfrom⟩
  · rw [hp] at hv
    cases hv

def launch : Command where
  name := "launch"
  usageMessage := none
  aliases := []
  price := .free
  cooldown := none
  tree := .mk "launch"
    { actions := some [("message", .list [.text "lift-off"])]
      delay := some
        { length := some "2 seconds"
          perSecond := some [("message", .list [.text "\x7bseconds_remaining\x7d"])] } } []

def withLaunch : Dispatcher Rat :=
  { catalogue := { entries := [{ command := launch, aliases := [] }] } }

/-- Three pumps a second apart finish the countdown, and a shutdown among them does not matter. -/
theorem launch_finishes :
    let called := (withLaunch.dispatch 0 .console "launch" []).after
    (Turn.follow called.queue.lastNumber (called.history .standard
      [(0, .pump), (1000, .pump), (1500, .shutdown), (2000, .pump)])).countP
        (fun t => t.step = .finish) = 1 := by
  intro called
  have hcall : (withLaunch.execute 0 .console "launch" []).value =
      some (.scheduled "launch" 2) := by
    decide +kernel
  have hpumps : pumps (N := Rat) [(0, .pump), (1000, .pump), (1500, .shutdown), (2000, .pump)] =
      [0, 1000, 2000] := rfl
  obtain ⟨c, found, delay, -, -, -, -, hdelay, -, -, hserved⟩ :=
    dispatch_served .standard withLaunch 0 .console "launch" [] "launch" 2
      [(0, .pump), (1000, .pump), (1500, .shutdown), (2000, .pump)] (by simp [Run.InOrder])
      (execute_eq_some.1 hcall)
  rw [hpumps] at hserved
  exact (hserved.once [0, 1000, 2000] (List.Sublist.refl _) (by simp [tickPeriod])
    (by rw [hdelay]; rfl)).2

end Dispatcher

end CustomCommands
