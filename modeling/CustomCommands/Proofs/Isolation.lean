import CustomCommands.Proofs.AllOrNothing
import CustomCommands.Proofs.Census
import CustomCommands.Proofs.CooldownGate

/-!
# Players do not meet

What a player's call is answered depends on a part of the dispatcher only: the
commands and settings, who is there, the files, the player's own balance, and how
long the player has to wait. Two dispatchers that agree on it are `Alike`.

* A player's call, a load, a reload, a shutdown or a change of the host takes
  alike dispatchers to alike ones, and both give the player the same answer
  (`Alike.step`, `Alike.answer?`).
* A call of anybody else and a pump take a dispatcher to one that is alike
  (`step_alike`).

So whatever does not concern the player can be left out of a run
(`answers_concerning`).
-/

namespace CustomCommands

variable {N : Type} [Currency N]

/-! ## What a player's calls can tell apart -/

/-- The hosts agree on who is there, on the player's balance and on the files. -/
structure Host.Alike (actor : Uuid) (h h' : Host N) : Prop where
  census : h.platform.census = h'.platform.census
  account : h.ledger.map (Ledger.balance? actor) = h'.ledger.map (Ledger.balance? actor)
  files : h.files = h'.files

/-- The dispatchers agree on all that the answers to the player go by, from the instant on. -/
structure Dispatcher.Alike (actor : Uuid) (now : Nat) (d d' : Dispatcher N) : Prop where
  host : d.toHost.Alike actor d'.toHost
  catalogue : d.catalogue = d'.catalogue
  messages : d.messages = d'.messages
  commandsDir : d.commandsDir = d'.commandsDir
  roster : d.roster = d'.roster
  waits : ∀ command expiry, now < expiry →
    (d.cooldowns.expiry? command actor = some expiry ↔
      d'.cooldowns.expiry? command actor = some expiry)

/-! ## Ledgers -/

theorem Ledger.balance?_withdraw_of_ne {who actor : Uuid} (h : who ≠ actor) (amount : N)
    (l : Ledger N) : (l.withdraw who amount).2.balance? actor = l.balance? actor := by
  cases l with
  | refusing => rfl
  | accounts a =>
    simp only [withdraw, Accounts.withdraw, balance?, accounts?, Option.map_some]
    split <;> rw [Accounts.balance_setBalance, if_neg h]

theorem Ledger.withdraw_congr {actor : Uuid} {l l' : Ledger N}
    (h : l.balance? actor = l'.balance? actor) (amount : N) :
    l.has actor amount = l'.has actor amount ∧
      (l.withdraw actor amount).1 = (l'.withdraw actor amount).1 ∧
      (l.withdraw actor amount).2.balance? actor = (l'.withdraw actor amount).2.balance? actor := by
  cases l with
  | refusing =>
    cases l' with
    | refusing => exact ⟨rfl, rfl, rfl⟩
    | accounts a' => cases h
  | accounts a =>
    cases l' with
    | refusing => cases h
    | accounts a' =>
      have hbalance : a.balance actor = a'.balance actor := Option.some.inj h
      simp only [has, Accounts.has, withdraw, Accounts.withdraw, hbalance]
      split <;> simp [balance?, accounts?, Accounts.balance_setBalance]

namespace Dispatcher

theorem charge_bank (price : Price) (actor : Uuid) (bank : Option (Ledger N)) :
    (charge price actor bank).value.2 = bank ∨
      ∃ l, bank = some l ∧
        (charge price actor bank).value.2 = some (l.withdraw actor (cost N price)).2 := by
  cases h : (charge price actor bank).value with
  | mk result bank' =>
    cases result with
    | ok u =>
      rcases charge_ok h with ⟨-, hb⟩ | ⟨-, l, l', hl, -, hw, hb⟩
      · exact .inl hb
      · exact .inr ⟨l, hl, hb.trans (congrArg (some ·.2) hw.symm)⟩
    | error e =>
      rcases (charge_error h).2 with hb | ⟨l, l', hl, hw, hb⟩
      · exact .inl hb
      · exact .inr ⟨l, hl, hb.trans (congrArg (some ·.2) hw.symm)⟩

theorem charge_of_ne {who actor : Uuid} (h : who ≠ actor) (price : Price)
    (bank : Option (Ledger N)) :
    (charge price who bank).value.2.map (Ledger.balance? actor) =
      bank.map (Ledger.balance? actor) := by
  rcases charge_bank price who bank with hb | ⟨l, rfl, hb⟩
  · rw [hb]
  · rw [hb, Option.map_some, Option.map_some, Ledger.balance?_withdraw_of_ne h]

theorem charge_congr {actor : Uuid} {bank bank' : Option (Ledger N)}
    (h : bank.map (Ledger.balance? actor) = bank'.map (Ledger.balance? actor)) (price : Price) :
    (charge price actor bank).value.1 = (charge price actor bank').value.1 ∧
      (charge price actor bank).value.2.map (Ledger.balance? actor) =
        (charge price actor bank').value.2.map (Ledger.balance? actor) := by
  cases bank with
  | none =>
    cases bank' with
    | none => exact ⟨rfl, rfl⟩
    | some l' => cases h
  | some l =>
    cases bank' with
    | none => cases h
    | some l' =>
      obtain ⟨hhas, hpaid, hafter⟩ := Ledger.withdraw_congr (Option.some.inj h) (cost N price)
      have hbalance : l.balance? actor = l'.balance? actor := Option.some.inj h
      unfold cost at hhas hpaid hafter
      simp only [charge, Bank.has, Bank.withdraw, hhas]
      split
      · exact ⟨rfl, congrArg some hbalance⟩
      · split
        · exact ⟨rfl, congrArg some hbalance⟩
        · generalize l.withdraw actor (Currency.ofPrice price) = w at hpaid hafter ⊢
          generalize l'.withdraw actor (Currency.ofPrice price) = w' at hpaid hafter ⊢
          obtain ⟨paid, after⟩ := w
          obtain ⟨paid', after'⟩ := w'
          obtain rfl : paid = paid' := hpaid
          cases paid <;> exact ⟨rfl, congrArg some hafter⟩

/-! ## Calls of the player -/

section Calls

variable {actor : Uuid} {now : Nat} {d d' : Dispatcher N}

theorem Alike.later (h : Alike actor now d d') {now' : Nat} (hle : now ≤ now') :
    Alike actor now' d d' :=
  { h with waits := fun command expiry hlt => h.waits command expiry (Nat.lt_of_le_of_lt hle hlt) }

theorem Alike.mustWait (h : Alike actor now d d') (c : Command) :
    d.mustWait now c actor = d'.mustWait now c actor := by
  have hactive :
      d.cooldowns.isActive c.name actor now = d'.cooldowns.isActive c.name actor now := by
    rw [Bool.eq_iff_iff]
    simp only [Cooldowns.isActive, Option.any_eq_true, decide_eq_true_eq]
    constructor
    · rintro ⟨expiry, he, hlt⟩
      exact ⟨expiry, (h.waits _ _ hlt).1 he, hlt⟩
    · rintro ⟨expiry, he, hlt⟩
      exact ⟨expiry, (h.waits _ _ hlt).2 he, hlt⟩
  rw [Dispatcher.mustWait, Dispatcher.mustWait, hactive]

theorem Alike.startCooldown (h : Alike actor now d d') (c : Command) (who : Uuid) :
    Alike actor now (d.startCooldown now c who) (d'.startCooldown now c who) := by
  obtain ⟨hhost, hcatalogue, hmessages, hdir, hroster, hwaits⟩ := h
  refine ⟨hhost, hcatalogue, hmessages, hdir, hroster, fun command expiry hlt => ?_⟩
  rw [startCooldown_cooldowns, startCooldown_cooldowns, Cooldowns.expiry?_start,
    Cooldowns.expiry?_start]
  split
  · exact Iff.rfl
  · exact hwaits command expiry hlt

variable {s : Sender}

theorem Alike.allow (h : Alike actor now d d') (hs : s.id = some actor) (c : Command) :
    (d.allow now s c).value = (d'.allow now s c).value ∧
      Alike actor now (d.allow now s c).after (d'.allow now s c).after := by
  obtain ⟨hpaid, haccount⟩ := charge_congr h.host.account c.price
  simp only [Dispatcher.allow, hs, h.mustWait]
  split
  · exact ⟨rfl, h⟩
  · refine ⟨hpaid, ?_⟩
    have hcharged : Alike actor now
        { d with ledger := (charge c.price actor d.ledger).value.2 }
        { d' with ledger := (charge c.price actor d'.ledger).value.2 } :=
      { h with host := { h.host with account := haccount } }
    rw [hpaid]
    split
    · exact hcharged.startCooldown c actor
    · exact hcharged

theorem Alike.perform (h : Alike actor now d d') (c : Command) (r : Resolution) :
    (d.perform now s c r).value = (d'.perform now s c r).value ∧
      Alike actor now (d.perform now s c r).after (d'.perform now s c r).after := by
  simp only [Dispatcher.perform]
  split
  · exact ⟨rfl, { h with }⟩
  · refine ⟨?_, { h with host := { h.host with census := ?_ } }⟩
    · rw [h.messages, Executor.run_fst _ d.platform d'.platform s r.bindings r.bindings]
    · simp only [Executor.run_census]
      exact h.host.census

theorem Alike.invoke (h : Alike actor now d d') (hs : s.id = some actor) (c : Command)
    (r : Resolution) :
    (d.invoke now s c r).value = (d'.invoke now s c r).value ∧
      Alike actor now (d.invoke now s c r).after (d'.invoke now s c r).after := by
  obtain ⟨hvalue, hafter⟩ := h.allow hs c
  simp only [Dispatcher.invoke, Act.noting, hvalue]
  split
  · exact ⟨rfl, hafter⟩
  · obtain ⟨hdone, hlast⟩ := hafter.perform c r
    exact ⟨congrArg Except.ok hdone, hlast⟩

theorem Alike.dispatch (h : Alike actor now d d') (hs : s.id = some actor) (label : String)
    (args : List String) :
    (d.dispatch now s label args).value = (d'.dispatch now s label args).value ∧
      Alike actor now (d.dispatch now s label args).after
        (d'.dispatch now s label args).after := by
  have hcommand : d.command? label = d'.command? label := by
    rw [command?, command?, h.catalogue]
  have hroster : d.identity.roster = d'.identity.roster := by
    simp only [identity, h.roster, h.host.files]
  have hmatch (c : Command) :
      c.tree.matchPath s d.identity args = c.tree.matchPath s d'.identity args :=
    Argument.matchPath_congr h.host.census hroster c.tree s args
  simp only [Dispatcher.dispatch, hcommand]
  split
  · exact ⟨rfl, h⟩
  · simp only [hmatch, Act.noting]
    split
    · exact h.invoke hs _ _
    all_goals exact ⟨rfl, h⟩

/-! ## Loading -/

theorem Alike.load (h : Alike actor now d d') (commands : List Command) :
    Alike actor now (d.load commands).after (d'.load commands).after := by
  obtain ⟨registered, registrarMissed, registrar, hd⟩ := load_frame commands d
  obtain ⟨registered', registrarMissed', registrar', hd'⟩ := load_frame commands d'
  rw [hd, hd']
  exact { h with host := { h.host with }, catalogue := rfl }

theorem Alike.reloadFrom (h : Alike actor now d d') (r : UnitReaders) (dir : String) :
    Alike actor now (d.reloadFrom r dir).after (d'.reloadFrom r dir).after := by
  unfold Dispatcher.reloadFrom
  rw [h.host.files]
  split
  · exact h
  · next report files _ =>
    have hfiles : Alike actor now { d with files } { d' with files } :=
      { h with host := { h.host with files := rfl } }
    exact hfiles.load report.commands

theorem Alike.shutdown (h : Alike actor now d d') :
    Alike actor now d.shutdown d'.shutdown :=
  { h with host := { h.host with }, catalogue := rfl }

end Calls

/-! ## What does not concern the player -/

section Others

variable {actor who : Uuid} {now : Nat} {d : Dispatcher N} {s : Sender}

theorem Alike.refl (actor : Uuid) (now : Nat) (d : Dispatcher N) : Alike actor now d d :=
  ⟨⟨rfl, rfl, rfl⟩, rfl, rfl, rfl, rfl, fun _ _ _ => Iff.rfl⟩

theorem Alike.trans {d₁ d₂ d₃ : Dispatcher N} (h : Alike actor now d₁ d₂)
    (h' : Alike actor now d₂ d₃) : Alike actor now d₁ d₃ where
  host :=
    { census := h.host.census.trans h'.host.census
      account := h.host.account.trans h'.host.account
      files := h.host.files.trans h'.host.files }
  catalogue := h.catalogue.trans h'.catalogue
  messages := h.messages.trans h'.messages
  commandsDir := h.commandsDir.trans h'.commandsDir
  roster := h.roster.trans h'.roster
  waits := fun command expiry hlt =>
    (h.waits command expiry hlt).trans (h'.waits command expiry hlt)

theorem startCooldown_alike (h : who ≠ actor) (c : Command) :
    Alike actor now (d.startCooldown now c who) d := by
  refine ⟨⟨rfl, rfl, rfl⟩, rfl, rfl, rfl, rfl, fun command expiry _ => ?_⟩
  rw [startCooldown_cooldowns, Cooldowns.expiry?_start, if_neg fun hx => h hx.2.2]

theorem allow_alike (hs : s.id ≠ some actor) (c : Command) :
    Alike actor now (d.allow now s c).after d := by
  unfold Dispatcher.allow
  split
  · exact .refl actor now d
  · next who hwho =>
    have hne : who ≠ actor := fun heq => hs (heq ▸ hwho)
    split
    · exact .refl actor now d
    · have hcharged : Alike actor now
          { d with ledger := (charge c.price who d.ledger).value.2 } d :=
        { Alike.refl actor now d with
          host := { census := rfl, account := charge_of_ne hne c.price d.ledger, files := rfl } }
      simp only
      split
      · exact (startCooldown_alike hne c).trans hcharged
      · exact hcharged

theorem perform_alike (actor : Uuid) (now : Nat) (s : Sender) (c : Command) (r : Resolution)
    (d : Dispatcher N) : Alike actor now (d.perform now s c r).after d := by
  simp only [Dispatcher.perform]
  split
  · exact { Alike.refl actor now d with }
  · have hcensus := Executor.run_census d.messages.playerOnly d.platform s r.bindings
      (r.place.node.traits.actions.getD [])
    exact
      { Alike.refl actor now d with host := { census := hcensus, account := rfl, files := rfl } }

/-- A call of anybody else leaves all that the answers to the player go by. -/
theorem dispatch_alike (hs : s.id ≠ some actor) (label : String) (args : List String) :
    Alike actor now (d.dispatch now s label args).after d := by
  unfold Dispatcher.dispatch
  split
  · exact .refl actor now d
  · next c _ =>
    simp only [Act.noting]
    split
    · next r _ =>
      simp only [Dispatcher.invoke, Act.noting]
      split
      · exact allow_alike hs c
      · exact (perform_alike actor now s c r _).trans (allow_alike hs c)
    all_goals exact .refl actor now d

omit [Currency N] in
theorem pump_census (now : Nat) (d : Dispatcher N) :
    (d.pump now).after.platform.census = d.platform.census := by
  refine pump_induction (P := fun d' => d'.platform.census = d.platform.census) ?_ rfl
  intro d' e queue h _
  cases e.value with
  | cleanup x => exact h
  | phased x => exact (Phased.tick_census _ _ x).trans h

/-- So does a pump: countdowns move players at most, and clean-ups come when nobody waits for the
entry any more. -/
theorem pump_alike (actor : Uuid) (now : Nat) (h : ∀ e ∈ d.queue.items, OnTime e) :
    Alike actor now (d.pump now).after d := by
  obtain ⟨platform, cooldowns, queue, hd⟩ := pump_frame now d
  have hcensus := pump_census now d
  have hfind := (pump_cooldowns now h).2
  rw [hd] at hcensus hfind ⊢
  refine ⟨⟨hcensus, rfl, rfl⟩, rfl, rfl, rfl, rfl, fun command expiry hlt => ?_⟩
  obtain ⟨hback, hforth⟩ := hfind command actor expiry
  exact ⟨hback, fun hx => hforth hx hlt⟩

end Others

end Dispatcher

/-! ## Runs -/

/-- Does the operation concern the player? Calls of others and pumps do not. -/
def Operation.concerns (actor : Uuid) : Operation N → Bool
  | .dispatch s _ _ | .execute s _ _ => s.id == some actor
  | .complete _ _ _ | .pump => false
  | .load _ | .reload | .reloadFrom _ | .shutdown | .host _ => true

/-- A change of the host does to what the player's calls can tell apart what it does whatever else
there is. -/
def Operation.Respects (actor : Uuid) : Operation N → Prop
  | .host change => ∀ h h' : Host N, h.Alike actor h' → (change h).Alike actor (change h')
  | _ => True

def Run.concerning (actor : Uuid) (run : Run N) : Run N :=
  run.filter fun x => x.2.concerns actor

/-- What a call comes to: what was done, or why it was rejected and what is said then. -/
inductive Answer where
  | done (i : Invocation)
  | rejected (e : Rejection) (message : String)
  deriving DecidableEq, Repr

def Answer.of (m : Messages) : Except Rejection Invocation → Answer
  | .ok i => .done i
  | .error e => .rejected e (e.message m)

namespace Dispatcher

/-- What the player is answered, if the operation is a call of the player's. -/
def answer? (actor : Uuid) (now : Nat) (d : Dispatcher N) : Operation N → Option Answer
  | .dispatch s label args | .execute s label args =>
    if s.id = some actor then some (.of d.messages (d.dispatch now s label args).value) else none
  | _ => none

def answers (r : UnitReaders) (actor : Uuid) (d : Dispatcher N) : Run N → List Answer
  | [] => []
  | (now, op) :: rest => (d.answer? actor now op).toList ++ (d.step r now op).answers r actor rest

variable {actor : Uuid} {now : Nat} {d d' : Dispatcher N}

theorem Alike.answer? (h : Alike actor now d d') (op : Operation N) :
    d.answer? actor now op = d'.answer? actor now op := by
  have hcall (s : Sender) (label : String) (args : List String) :
      d.answer? actor now (.dispatch s label args) =
        d'.answer? actor now (.dispatch s label args) := by
    simp only [Dispatcher.answer?]
    split
    · next hs => rw [(h.dispatch hs label args).1, h.messages]
    · rfl
  cases op with
  | dispatch s label args => exact hcall s label args
  | execute s label args => exact hcall s label args
  | _ => rfl

theorem Alike.step (r : UnitReaders) (h : Alike actor now d d') {op : Operation N}
    (hop : op.concerns actor = true) (hrespects : op.Respects actor) :
    Alike actor now (d.step r now op) (d'.step r now op) := by
  cases op with
  | dispatch s label args => exact (h.dispatch (beq_iff_eq.1 hop) label args).2
  | execute s label args =>
    simp only [Dispatcher.step, execute_after]
    exact (h.dispatch (beq_iff_eq.1 hop) label args).2
  | complete | pump => cases hop
  | load commands => exact h.load commands
  | reload =>
    simp only [Dispatcher.step, reload, h.commandsDir]
    exact h.reloadFrom r d'.commandsDir
  | reloadFrom dir => exact h.reloadFrom r dir
  | shutdown => exact h.shutdown
  | host change => exact { h with host := hrespects _ _ h.host }

theorem step_alike (r : UnitReaders) (hqueue : ∀ e ∈ d.queue.items, OnTime e) {op : Operation N}
    (hop : op.concerns actor = false) : Alike actor now (d.step r now op) d := by
  cases op with
  | dispatch s label args =>
    have hs : s.id ≠ some actor := by simpa [Operation.concerns] using hop
    exact dispatch_alike hs label args
  | execute s label args =>
    have hs : s.id ≠ some actor := by simpa [Operation.concerns] using hop
    simp only [step, execute_after]
    exact dispatch_alike hs label args
  | complete s label args => exact .refl actor now d
  | pump => exact pump_alike actor now hqueue
  | load | reload | reloadFrom | shutdown | host => cases hop

theorem answer?_of_unconcerned {op : Operation N} (hop : op.concerns actor = false) :
    d.answer? actor now op = none := by
  cases op with
  | dispatch s label args | execute s label args =>
    have hs : s.id ≠ some actor := by simpa [Operation.concerns] using hop
    exact if_neg hs
  | _ => rfl

theorem onTime_step (r : UnitReaders) (now : Nat) (hqueue : ∀ e ∈ d.queue.items, OnTime e)
    (op : Operation N) : ∀ e ∈ (d.step r now op).queue.items, OnTime e := by
  by_cases hop : op = .pump
  · rw [hop]
    exact (pump_cooldowns now hqueue).1
  · exact (queue_grows r now d op hop).onTime hqueue

/-- The answers to the player are those of the operations that concern the player alone. -/
theorem answers_concerning (r : UnitReaders) {before : Nat} (h : Alike actor before d d')
    (hqueue : ∀ e ∈ d.queue.items, OnTime e) {run : Run N} (ho : run.InOrder)
    (hfrom : ∀ x ∈ run, before ≤ x.1) (hrespects : ∀ x ∈ run, x.2.Respects actor) :
    d.answers r actor run = d'.answers r actor (run.concerning actor) := by
  induction run generalizing before d d' with
  | nil => rfl
  | cons x rest ih =>
    obtain ⟨now, op⟩ := x
    obtain ⟨hfirst, ho⟩ := List.pairwise_cons.1 ho
    have hnow : Alike actor now d d' := h.later (hfrom _ List.mem_cons_self)
    have hop : op.Respects actor := hrespects _ List.mem_cons_self
    have hrest : ∀ x ∈ rest, x.2.Respects actor := fun x hx =>
      hrespects x (List.mem_cons_of_mem _ hx)
    have hqueue' := onTime_step r now hqueue op
    rw [answers, Run.concerning, List.filter_cons]
    cases hc : op.concerns actor with
    | true =>
      simp only [↓reduceIte]
      rw [answers, hnow.answer?, ih (hnow.step r hc hop) hqueue' ho hfirst hrest]
      rfl
    | false =>
      have hstep : Alike actor now (d.step r now op) d' := (step_alike r hqueue hc).trans hnow
      rw [answer?_of_unconcerned hc, ih hstep hqueue' ho hfirst hrest]
      rfl

/-- **Players do not meet.** Take two dispatchers that agree on what the answers to a player go by,
and two runs that differ in nothing that concerns the player: the calls of others and of the
console, and the pumps, may be any. Then the player gets the same answers. -/
theorem answers_isolated (r : UnitReaders) {actor : Uuid} {d d' : Dispatcher N}
    (h : Alike actor 0 d d') (hqueue : ∀ e ∈ d.queue.items, OnTime e)
    (hqueue' : ∀ e ∈ d'.queue.items, OnTime e) {run run' : Run N} (ho : run.InOrder)
    (ho' : run'.InOrder) (hrespects : ∀ x ∈ run, x.2.Respects actor)
    (hsame : run.concerning actor = run'.concerning actor) :
    d.answers r actor run = d'.answers r actor run' := by
  have hrespects' : ∀ x ∈ run', x.2.Respects actor := by
    intro x hx
    cases hc : x.2.concerns actor with
    | true =>
      have hmem : x ∈ run.concerning actor := hsame ▸ List.mem_filter.2 ⟨hx, hc⟩
      exact hrespects x (List.mem_filter.1 hmem).1
    | false =>
      cases hop : x.2 with
      | host change => rw [hop] at hc; cases hc
      | _ => trivial
  rw [answers_concerning r h hqueue ho (fun _ _ => Nat.zero_le _) hrespects, hsame,
    answers_concerning r (.refl actor 0 d') hqueue' ho' (fun _ _ => Nat.zero_le _) hrespects']

def runner : Sender :=
  { name := "Bob", id := some ⟨2⟩ }

def runnerLeaves : Operation Rat :=
  .host fun h => { h with platform := h.platform.setOnline runner.name false }

theorem runnerLeaves_respects (actor : Uuid) : runnerLeaves.Respects actor :=
  fun _ _ h => { h with census := Platform.census_setOnline h.census runner.name false }

/-- The walker waits for the walker's own cooldown, whoever else warps. -/
theorem walker_waits_alone :
    withWarp.answers .standard ⟨1⟩
        [(0, .dispatch walker "warp" []), (1000, .dispatch runner "warp" []), (2000, runnerLeaves),
          (9000, .execute walker "warp" []), (10000, .pump), (11000, .dispatch walker "warp" [])] =
      [.done (.completed "warp" { executed := 1 }),
        .rejected .onCooldown withWarp.messages.cooldown,
        .done (.completed "warp" { executed := 1 })] := by
  have hqueue : ∀ e ∈ withWarp.queue.items, OnTime e := by
    simp [withWarp, TimerQueue.empty]
  have halone : withWarp.answers .standard ⟨1⟩
      [(0, .dispatch walker "warp" []), (500, .pump), (2000, runnerLeaves),
        (9000, .execute walker "warp" []), (11000, .dispatch walker "warp" [])] =
      [.done (.completed "warp" { executed := 1 }),
        .rejected .onCooldown withWarp.messages.cooldown,
        .done (.completed "warp" { executed := 1 })] := by
    decide +kernel
  rw [← halone]
  refine answers_isolated .standard (.refl ⟨1⟩ 0 withWarp) hqueue hqueue ?_ ?_ ?_ rfl
  · simp [Run.InOrder]
  · simp [Run.InOrder]
  · intro x hx
    simp only [List.mem_cons, List.not_mem_nil, or_false] at hx
    rcases hx with rfl | rfl | rfl | rfl | rfl | rfl
    case inr.inr.inl => exact runnerLeaves_respects ⟨1⟩
    all_goals trivial

end Dispatcher

end CustomCommands
