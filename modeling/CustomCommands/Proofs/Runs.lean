import CustomCommands.Proofs.Calls

/-!
# Runs of a dispatcher

A run is a list of operations, each with the reading of the clock at which it
takes place; `InOrder` says that the readings never decrease. Between the
operations of the dispatcher the host may change what is its own. Apart from the
pump every operation only puts tasks in the queue, clean-ups at the instant at
which their entry expires (`queue_grows`); what holds through a pump follows from
what holds through each of its tasks (`pump_induction`).
-/

namespace CustomCommands

/-- What happens to a dispatcher. -/
inductive Operation (N : Type) where
  | dispatch (s : Sender) (label : String) (args : List String)
  | execute (s : Sender) (label : String) (args : List String)
  | complete (s : Sender) (label : String) (args : List String)
  | pump
  | load (commands : List Command)
  | reload
  | reloadFrom (dir : String)
  | shutdown
  /-- The host changes its players, balances, labels or files. -/
  | host (change : Host N → Host N)

def Operation.caller? {N : Type} : Operation N → Option Sender
  | dispatch s _ _ | execute s _ _ => some s
  | _ => none

abbrev Run (N : Type) := List (Nat × Operation N)

def Run.InOrder {N : Type} (run : Run N) : Prop :=
  run.Pairwise fun a b => a.1 ≤ b.1

namespace Dispatcher

variable {N : Type}

section Steps

variable [Currency N]

def step (r : UnitReaders) (now : Nat) (d : Dispatcher N) : Operation N → Dispatcher N
  | .dispatch s label args => (d.dispatch now s label args).after
  | .execute s label args => (d.execute now s label args).after
  | .complete _ _ _ => d
  | .pump => (d.pump now).after
  | .load commands => (d.load commands).after
  | .reload => (d.reload r).after
  | .reloadFrom dir => (d.reloadFrom r dir).after
  | .shutdown => d.shutdown
  | .host change => { d with toHost := change d.toHost }

def run (r : UnitReaders) (d : Dispatcher N) : Run N → Dispatcher N
  | [] => d
  | (now, op) :: rest => (d.step r now op).run r rest

end Steps

/-! ## What operations leave -/

theorem load_frame (commands : List Command) (d : Dispatcher N) :
    ∃ registered registrarMissed registrar, (d.load commands).after =
      { d with
        catalogue := (Catalogue.ofCommands commands).value
        registered
        registrarMissed
        registrar } := by
  simp only [load, Noted.value_bind, claimLabels]
  split
  · split <;> exact ⟨_, _, _, rfl⟩
  · exact ⟨_, _, _, rfl⟩

theorem load_keeps (commands : List Command) (d : Dispatcher N) :
    (d.load commands).after.cooldowns = d.cooldowns ∧
      (d.load commands).after.queue = d.queue := by
  obtain ⟨registered, registrarMissed, registrar, h⟩ := load_frame commands d
  rw [h]
  exact ⟨rfl, rfl⟩

theorem load_catalogue (commands : List Command) (d : Dispatcher N) :
    (d.load commands).after.catalogue = (Catalogue.ofCommands commands).value := by
  obtain ⟨registered, registrarMissed, registrar, h⟩ := load_frame commands d
  rw [h]

/-- A reload that cannot list the directory leaves everything, and any other is a load. -/
theorem reloadFrom_after (r : UnitReaders) (dir : String) (d : Dispatcher N) :
    (d.reloadFrom r dir).after = d ∨ ∃ files commands,
      (d.reloadFrom r dir).after = (({ d with files } : Dispatcher N).load commands).after := by
  unfold reloadFrom
  split
  · exact .inl rfl
  · exact .inr ⟨_, _, rfl⟩

theorem reloadFrom_keeps (r : UnitReaders) (dir : String) (d : Dispatcher N) :
    (d.reloadFrom r dir).after.cooldowns = d.cooldowns ∧
      (d.reloadFrom r dir).after.queue = d.queue := by
  rcases reloadFrom_after r dir d with h | ⟨files, commands, h⟩
  · rw [h]; exact ⟨rfl, rfl⟩
  · rw [h]; exact load_keeps commands _

/-! ## What is put in the queue -/

/-- A clean-up is due when its entry expires. -/
def OnTime (e : Timed Task) : Prop :=
  ∀ x, e.value = .cleanup x → e.due = x.expiry

/-- `q'` is `q` with tasks put in, each clean-up on time. -/
inductive Grows (q : TimerQueue Task) : TimerQueue Task → Prop where
  | refl : Grows q q
  | insert {q' : TimerQueue Task} (due : Nat) (t : Task)
      (onTime : ∀ x, t = .cleanup x → due = x.expiry) :
      Grows q q' → Grows q (q'.insert due t)

theorem Grows.onTime {q q' : TimerQueue Task} (h : Grows q q') (hq : ∀ e ∈ q.items, OnTime e) :
    ∀ e ∈ q'.items, OnTime e := by
  induction h with
  | refl => exact hq
  | insert due t ht _ ih =>
    intro e he
    rcases TimerQueue.mem_insertSorted.1 he with rfl | he
    · exact ht
    · exact ih e he

/-- What was in the queue stays under its number, and no number is given again. -/
theorem Grows.withNumber {q q' : TimerQueue Task} (h : Grows q q') {k : Nat} (hk : k < q.next) :
    q'.withNumber k = q.withNumber k ∧ k < q'.next := by
  induction h with
  | refl => exact ⟨rfl, hk⟩
  | insert due t _ _ ih =>
    obtain ⟨hw, hlt⟩ := ih
    rw [TimerQueue.withNumber_insert hlt]
    exact ⟨hw, Nat.lt_succ_of_lt hlt⟩

theorem runTask_grows (now : Nat) (t : Task) (d : Dispatcher N) :
    Grows d.queue (d.runTask now t).after.queue := by
  cases t with
  | cleanup x => exact .refl
  | phased x =>
    simp only [runTask]
    split
    · exact .insert _ _ (fun y hy => by cases hy) .refl
    · exact .refl

theorem startCooldown_grows (now : Nat) (c : Command) (actor : Uuid) (d : Dispatcher N) :
    Grows d.queue (d.startCooldown now c actor).queue := by
  rw [startCooldown_eq]
  split
  · exact .refl
  · exact .insert _ _ (fun x hx => by cases hx; rfl) .refl

theorem perform_grows (now : Nat) (s : Sender) (c : Command) (r : Resolution) {d : Dispatcher N}
    {q : TimerQueue Task} (h : Grows q d.queue) : Grows q (d.perform now s c r).after.queue := by
  rcases perform_eq now s c r d with
    ⟨delay, -, hp⟩ | ⟨-, summary, platform, effects, notices, hp⟩
  · rw [hp]; exact .insert _ _ (fun y hy => by cases hy) h
  · rw [hp]; exact h

variable [Currency N]

theorem dispatch_grows (now : Nat) (s : Sender) (label : String) (args : List String)
    (d : Dispatcher N) : Grows d.queue (d.dispatch now s label args).after.queue := by
  cases h : (d.dispatch now s label args).value with
  | error e =>
    obtain ⟨-, ha | ⟨c, hc, ha⟩⟩ := dispatch_error h
    · rw [ha]; exact .refl
    · rw [ha]
      obtain ⟨actor, -, ⟨-, -, ha⟩ | ⟨ledger, -, -, ha⟩⟩ := allow_error hc <;>
        rw [ha] <;> exact .refl
  | ok i =>
    obtain ⟨c, r, -, -, ha, -, hafter, -⟩ := dispatch_ok h
    rw [hafter]
    apply perform_grows
    rcases allow_ok ha with ⟨-, hd⟩ | ⟨actor, ledger, -, -, -, hd⟩
    · rw [hd]; exact .refl
    · rw [hd]; exact startCooldown_grows now c actor { d with ledger }

theorem queue_grows (r : UnitReaders) (now : Nat) (d : Dispatcher N) (op : Operation N)
    (h : op ≠ .pump) : Grows d.queue (d.step r now op).queue := by
  cases op with
  | dispatch s label args => exact dispatch_grows now s label args d
  | execute s label args =>
    simp only [step, execute_after]
    exact dispatch_grows now s label args d
  | load commands => simp only [step, load_keeps]; exact .refl
  | reload => simp only [step, reload, reloadFrom_keeps]; exact .refl
  | reloadFrom dir => simp only [step, reloadFrom_keeps]; exact .refl
  | pump => exact absurd rfl h
  | complete | shutdown | host => exact .refl

/-! ## Pumps -/

omit [Currency N] in
theorem pump_of_none {now : Nat} {d : Dispatcher N} (h : d.queue.takeDue now = none) :
    d.pump now = { value := 0, after := d } := by
  rw [pump]
  split
  · rfl
  · rename_i hs
    cases h.symm.trans hs

omit [Currency N] in
theorem pump_of_some {now : Nat} {d : Dispatcher N} {e : Timed Task} {queue : TimerQueue Task}
    (h : d.queue.takeDue now = some (e, queue)) :
    d.pump now =
      let first := ({ d with queue } : Dispatcher N).runTask now e.value
      let rest := first.after.pump now
      { value := rest.value + 1
        after := rest.after
        effects := first.effects ++ rest.effects
        notices := first.notices ++ rest.notices } := by
  rw [pump]
  split
  · rename_i hn
    cases h.symm.trans hn
  · rename_i hs
    cases h.symm.trans hs
    rfl

omit [Currency N] in
/-- What every due task keeps, a pump keeps. -/
theorem pump_induction {P : Dispatcher N → Prop} {now : Nat}
    (task : ∀ (d : Dispatcher N) e queue, P d → d.queue.takeDue now = some (e, queue) →
      P (({ d with queue } : Dispatcher N).runTask now e.value).after)
    {d : Dispatcher N} (h : P d) : P (d.pump now).after := by
  fun_induction pump now d with
  | case1 d hq => exact h
  | case2 d e queue hq first rest ih => exact ih (task d e queue h hq)

omit [Currency N] in
theorem pump_frame (now : Nat) (d : Dispatcher N) : ∃ platform cooldowns queue,
    (d.pump now).after = { d with platform, cooldowns, queue } := by
  refine pump_induction (P := fun d' => ∃ platform cooldowns queue,
    d' = { d with platform, cooldowns, queue }) ?_ ⟨_, _, _, rfl⟩
  rintro _ e queue' ⟨platform, cooldowns, queue, rfl⟩ -
  cases e.value with
  | cleanup x => exact ⟨_, _, _, rfl⟩
  | phased x => exact ⟨_, _, _, rfl⟩

end Dispatcher

end CustomCommands
