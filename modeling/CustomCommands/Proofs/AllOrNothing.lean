import CustomCommands.Proofs.Calls

/-!
# Calls are all or nothing

A rejected call changes nothing and shows nothing, and `execute` adds the one
message that says why (`dispatch_all_or_nothing`). A call that goes through asks
the ledger for one withdrawal of exactly the cost, or for none if there is no
cost, and queues a countdown only if it says so. What a ledger is asked for shows
in a `Watched` one.
-/

namespace CustomCommands

/-! ## Ledgers -/

/-- A bank that writes down the withdrawals it is asked for. -/
structure Watched (L N : Type) where
  bank : L
  asked : List (Uuid × N) := []

instance {L N : Type} [Bank L N] : Bank (Watched L N) N where
  has actor amount w := Bank.has actor amount w.bank
  withdraw actor amount w :=
    let (paid, bank) := Bank.withdraw actor amount w.bank
    (paid, { bank, asked := w.asked ++ [(actor, amount)] })

/-- The bank, if there is one, as one that has been asked for these withdrawals. -/
def watch {L N : Type} (asked : List (Uuid × N)) (bank : Option L) : Option (Watched L N) :=
  bank.map fun l => { bank := l, asked }

section

variable {L N : Type} [Bank L N] (actor : Uuid) (amount : N) (w : Watched L N)

theorem watched_has : Bank.has actor amount w = Bank.has actor amount w.bank := rfl

theorem watched_withdraw :
    Bank.withdraw actor amount w =
      ((Bank.withdraw actor amount w.bank).1,
        { bank := (Bank.withdraw actor amount w.bank).2
          asked := w.asked ++ [(actor, amount)] }) := rfl

end

def Ledger.balance? {N : Type} [Currency N] (actor : Uuid) (l : Ledger N) : Option N :=
  l.accounts?.map (Accounts.balance actor)

theorem Ledger.balance?_of_refused {N : Type} [Currency N] {who : Uuid} {amount : N}
    {l l' : Ledger N} (h : l.withdraw who amount = (false, l')) (actor : Uuid) :
    l'.balance? actor = l.balance? actor := by
  cases l with
  | refusing => cases h; rfl
  | accounts a =>
    simp only [withdraw, Accounts.withdraw] at h
    split at h
    · cases h
      simp only [balance?, accounts?, Option.map_some, Accounts.balance_setBalance]
      split
      · next hw => rw [hw]
      · rfl
    · cases h

namespace Dispatcher

variable {N : Type}

/-! ## The queue of a call -/

theorem countP_insert (p : Timed Task → Bool) (due : Nat) (t : Task) (q : TimerQueue Task) :
    (q.insert due t).items.countP p =
      q.items.countP p + if p ⟨due, q.next, t⟩ then 1 else 0 :=
  TimerQueue.countP_insertSorted p _ _

theorem phasedCount_startCooldown (now : Nat) (c : Command) (actor : Uuid) (d : Dispatcher N) :
    (d.startCooldown now c actor).phasedCount = d.phasedCount := by
  rw [startCooldown_eq]
  split
  · rfl
  · simp [phasedCount, countP_insert, Task.isPhased]

variable [Currency N]

/-- `d'` is `d`, but for a ledger that has the same balances. -/
structure Unchanged (d d' : Dispatcher N) : Prop where
  /-- Commands, aliases, labels, registrar, cooldowns, queue, platform, files and settings. -/
  rest : d' = { d with ledger := d'.ledger }
  balances : ∀ actor, d'.ledger.map (Ledger.balance? actor) = d.ledger.map (Ledger.balance? actor)

theorem Unchanged.refl (d : Dispatcher N) : Unchanged d d :=
  ⟨rfl, fun _ => rfl⟩

variable {now : Nat} {s : Sender} {label : String} {args : List String} {d : Dispatcher N}
  {c : Command}

theorem allow_unchanged {e : Rejection} (h : (d.allow now s c).value = .error e) :
    Unchanged d (d.allow now s c).after := by
  obtain ⟨actor, -, ⟨-, -, ha⟩ | ⟨ledger, -, hc, ha⟩⟩ := allow_error h
  · rw [ha]; exact .refl d
  · rw [ha]
    refine ⟨rfl, fun other => ?_⟩
    rcases (charge_error hc).2 with rfl | ⟨l, l', hl, hw, rfl⟩
    · rfl
    · simp only [hl, Option.map_some]
      exact congrArg some (Ledger.balance?_of_refused hw other)

theorem dispatch_unchanged {e : Rejection} (h : (d.dispatch now s label args).value = .error e) :
    Unchanged d (d.dispatch now s label args).after := by
  obtain ⟨-, ha | ⟨c, hc, ha⟩⟩ := dispatch_error h
  · rw [ha]; exact .refl d
  · rw [ha]; exact allow_unchanged hc

theorem execute_of_error {e : Rejection} (h : (d.dispatch now s label args).value = .error e) :
    (d.execute now s label args).value = none ∧
      Unchanged d (d.execute now s label args).after ∧
      (d.execute now s label args).effects =
        [.message s.name (Colour.translate (e.message d.messages))] := by
  have hu := dispatch_unchanged h
  have he := (dispatch_error h).1
  simp only [execute, h, he, List.nil_append]
  exact ⟨trivial, hu, trivial⟩

/-! ## What a call that goes through asks for and queues -/

/-- The withdrawals that a price asks for. -/
def dues (N : Type) [Currency N] (price : Price) (actor : Uuid) : List (Uuid × N) :=
  if Currency.isPositive (cost N price) then [(actor, cost N price)] else []

/-- A watched bank that was paid was asked once for the whole cost, or for nothing if there was
none. -/
theorem charge_watched {L : Type} [Bank L N] {price : Price} {actor : Uuid} {bank bank' : Option L}
    (h : (charge price actor bank).value = (.ok (), bank')) :
    (charge price actor (watch [] bank)).value = (.ok (), watch (dues N price actor) bank') := by
  unfold dues watch
  rcases charge_ok h with ⟨hp, rfl⟩ | ⟨hp, l, l', rfl, hh, hw, rfl⟩
  · simp only [hp, Bool.false_eq_true, ↓reduceIte]
    unfold cost at hp
    simp [charge, hp]
  · simp only [hp, ↓reduceIte]
    unfold cost at hp hh hw ⊢
    have hw' : Bank.withdraw actor (Currency.ofPrice price) ({ bank := l } : Watched L N) =
        (true, { bank := l', asked := [(actor, Currency.ofPrice price)] }) := by
      simp [watched_withdraw, hw]
    simp [charge, hp, watched_has, hh, hw']

theorem phasedCount_allow (h : (d.allow now s c).value = .ok ()) :
    (d.allow now s c).after.phasedCount = d.phasedCount := by
  rcases allow_ok h with ⟨-, ha⟩ | ⟨actor, ledger, -, -, -, ha⟩
  · rw [ha]
  · rw [ha, phasedCount_startCooldown]; rfl

theorem dispatch_paid {i : Invocation} (h : (d.dispatch now s label args).value = .ok i)
    (hc : d.command? label = some c) {actor : Uuid} (hs : s.id = some actor) :
    (charge c.price actor d.ledger).value =
      (.ok (), (d.dispatch now s label args).after.ledger) := by
  obtain ⟨c', r, hc', -, ha, -, hafter, -⟩ := dispatch_ok h
  cases hc.symm.trans hc'
  rw [hafter, (perform_keeps now s c r _).1]
  rcases allow_ok ha with ⟨hs', -⟩ | ⟨actor', ledger, hs', -, hp, hd⟩
  · rw [hs] at hs'; cases hs'
  · cases hs.symm.trans hs'
    rw [hd, hp, startCooldown_ledger]

theorem dispatch_free {i : Invocation} (h : (d.dispatch now s label args).value = .ok i)
    (hs : s.id = none) :
    (d.dispatch now s label args).after.ledger = d.ledger ∧
      (d.dispatch now s label args).after.cooldowns = d.cooldowns := by
  obtain ⟨c, r, -, -, ha, -, hafter, -⟩ := dispatch_ok h
  have hd : (d.allow now s c).after = d := by
    rcases allow_ok ha with ⟨-, hd⟩ | ⟨actor, ledger, hs', -⟩
    · exact hd
    · rw [hs] at hs'; cases hs'
  rw [hafter, hd]
  exact perform_keeps now s c r d

theorem dispatch_queues {i : Invocation} (h : (d.dispatch now s label args).value = .ok i)
    (hc : d.command? label = some c) :
    i.command = c.name ∧
      (∀ name seconds, i = .scheduled name seconds →
        (d.dispatch now s label args).effects = [] ∧
          (d.dispatch now s label args).after.phasedCount = d.phasedCount + 1) ∧
      (∀ name summary, i = .completed name summary →
        (d.dispatch now s label args).after.phasedCount = d.phasedCount) := by
  obtain ⟨c', r, hc', -, ha, hv, hafter, heff⟩ := dispatch_ok h
  cases hc.symm.trans hc'
  rw [hafter, heff, ← phasedCount_allow ha, hv]
  rcases perform_eq now s c r (d.allow now s c).after with
    ⟨delay, -, hp⟩ | ⟨-, summary, platform, effects, notices, hp⟩
  · rw [hp]
    exact ⟨rfl, fun _ _ _ => ⟨rfl, by simp [phasedCount, countP_insert, Task.isPhased]⟩, nofun⟩
  · rw [hp]
    exact ⟨rfl, nofun, fun _ _ _ => rfl⟩

/-- **Calls are all or nothing.** Whatever the ledger, a rejected call leaves everything as it was
and shows nothing, and `execute` shows the sender the one message of the rejection. A call of a
player that goes through asks the ledger for the cost, once, and for nothing if there is no cost;
nobody else's call touches the ledger or the cooldowns. A call that starts a countdown shows
nothing and queues one countdown, and any other queues none. -/
theorem dispatch_all_or_nothing (now : Nat) (s : Sender) (label : String) (args : List String)
    (d : Dispatcher N) :
    let called := d.dispatch now s label args
    let executed := d.execute now s label args
    (∀ e, called.value = .error e →
      Unchanged d called.after ∧ called.effects = [] ∧
      executed.value = none ∧ Unchanged d executed.after ∧
      executed.effects = [.message s.name (Colour.translate (e.message d.messages))]) ∧
    (∀ i, called.value = .ok i →
      executed.value = some i ∧
      ∃ c, d.command? label = some c ∧ i.command = c.name ∧
      (∀ actor, s.id = some actor →
        (charge c.price actor (watch [] d.ledger)).value =
          (.ok (), watch (dues N c.price actor) called.after.ledger)) ∧
      (s.id = none →
        called.after.ledger = d.ledger ∧ called.after.cooldowns = d.cooldowns) ∧
      (∀ name seconds, i = .scheduled name seconds →
        called.effects = [] ∧ called.after.phasedCount = d.phasedCount + 1) ∧
      (∀ name summary, i = .completed name summary →
        called.after.phasedCount = d.phasedCount)) := by
  intro called executed
  constructor
  · intro e he
    exact ⟨dispatch_unchanged he, (dispatch_error he).1, execute_of_error he⟩
  · intro i hi
    obtain ⟨c, -, hc, -⟩ := dispatch_ok hi
    obtain ⟨hname, hscheduled, hcompleted⟩ := dispatch_queues hi hc
    exact ⟨execute_eq_some.2 hi, c, hc, hname,
      fun actor hs => charge_watched (dispatch_paid hi hc hs), dispatch_free hi, hscheduled,
      hcompleted⟩

def toll : Command where
  name := "toll"
  usageMessage := none
  aliases := []
  price := ⟨5, by decide +kernel⟩
  cooldown := none
  tree := .mk "toll" { actions := some [("message", .list [.text "pass"])] } []

def payer : Sender :=
  { name := "Alice", id := some ⟨1⟩ }

def withToll : Dispatcher Rat :=
  { catalogue := { entries := [{ command := toll, aliases := [] }] }
    ledger := some (.accounts { balances := [(⟨1⟩, 8)] }) }

/-- A call of the toll asks the ledger once, for five. -/
theorem toll_asks_once :
    (charge toll.price ⟨1⟩ (watch ([] : List (Uuid × Rat)) withToll.ledger)).value.2.map
      Watched.asked = some [(⟨1⟩, 5)] := by
  have hcall : (withToll.execute 0 payer "toll" []).value =
      some (.completed "toll" { executed := 1 }) := by
    decide +kernel
  have hledger : (withToll.dispatch 0 payer "toll" []).after.ledger.isSome = true := by
    decide +kernel
  have hcost : cost Rat toll.price = 5 := by
    decide +kernel
  obtain ⟨-, c, hc, -, hpaid, -⟩ :=
    (dispatch_all_or_nothing 0 payer "toll" [] withToll).2 _ (execute_eq_some.1 hcall)
  cases hc
  obtain ⟨l, hl⟩ := Option.isSome_iff_exists.1 hledger
  rw [hpaid ⟨1⟩ rfl, hl, dues, hcost]
  rfl

end Dispatcher

end CustomCommands
