import CustomCommands.Clock
import CustomCommands.Proofs.CooldownGate
import Mathlib.Data.List.Chain

/-!
# Readings of a clock that is moved by hand

The clock goes forwards as long as it can count as far as it is moved, and goes back with the step
that runs over (`Clock.now_le_after_iff`, `Clock.isChain_readings_iff`). While it goes forwards,
what is over stays over. A dispatcher enters no cooldown but those of calls that go through
(`Dispatcher.expiry?_run`) and takes no task out of the queue but in a pump
(`Dispatcher.mem_queue_run`), so a player who does not have to wait does not have to wait later,
and what was due is due (`Dispatcher.over_stays_over`).
-/

namespace CustomCommands

/-- What happens while a clock is moved by hand. -/
inductive Event (N : Type) where
  | advance (milliseconds : Nat)
  | operation (op : Operation N)

namespace Event

variable {N : Type}

def length : Event N → Nat
  | advance milliseconds => min milliseconds Clock.maxStep
  | operation _ => 0

def total : List (Event N) → Nat
  | [] => 0
  | e :: events => e.length + total events

end Event

/-! ## The clock -/

namespace Clock

variable {N : Type}

def after (c : Clock) : Event N → Clock
  | .advance milliseconds => c.advance milliseconds
  | .operation _ => c

def afterAll (c : Clock) (events : List (Event N)) : Clock :=
  events.foldl after c

/-- What the clock reads at first and after each event. -/
def readings (c : Clock) : List (Event N) → List Nat
  | [] => [c.now]
  | e :: events => c.now :: (c.after e).readings events

/-- The operations, each with the reading of the clock at which it takes place. -/
def timed (c : Clock) : List (Event N) → Run N
  | [] => []
  | .advance milliseconds :: events => (c.advance milliseconds).timed events
  | .operation op :: events => (c.now, op) :: c.timed events

theorem now_le (c : Clock) : c.now ≤ maxStep :=
  Nat.le_of_lt_succ c.elapsed.toNat_lt

theorem length_le (e : Event N) : e.length ≤ maxStep := by
  cases e with
  | advance milliseconds => exact Nat.min_le_right ..
  | operation op => exact Nat.zero_le _

theorem now_after (c : Clock) (e : Event N) :
    (c.after e).now = (c.now + e.length) % (maxStep + 1) := by
  cases e with
  | advance milliseconds =>
    show (c.elapsed + UInt64.ofNat (min milliseconds maxStep)).toNat = _
    rw [UInt64.toNat_add, UInt64.toNat_ofNat', Nat.add_mod_mod]
    rfl
  | operation op => exact (Nat.mod_eq_of_lt (Nat.lt_succ_of_le c.now_le)).symm

theorem now_after_of_le {c : Clock} {e : Event N} (h : c.now + e.length ≤ maxStep) :
    (c.after e).now = c.now + e.length := by
  rw [now_after, Nat.mod_eq_of_lt (Nat.lt_succ_of_le h)]

/-- A step goes forwards exactly if the clock can count as far. -/
theorem now_le_after_iff (c : Clock) (e : Event N) :
    c.now ≤ (c.after e).now ↔ c.now + e.length ≤ maxStep := by
  constructor
  · intro hle
    by_contra hover
    -- What runs over is cut off, and no step is long enough to make up for it.
    have hlength := length_le e
    have hnow := c.now_le
    rw [now_after, Nat.mod_eq_sub_mod (by omega), Nat.mod_eq_of_lt (by omega)] at hle
    omega
  · intro h
    rw [now_after_of_le h]
    exact Nat.le_add_right ..

theorem readings_eq_cons (c : Clock) (events : List (Event N)) :
    ∃ later, c.readings events = c.now :: later := by
  cases events with
  | nil => exact ⟨[], rfl⟩
  | cons e events => exact ⟨_, rfl⟩

theorem isChain_readings_iff (c : Clock) (events : List (Event N)) :
    (c.readings events).IsChain (· ≤ ·) ↔ c.now + Event.total events ≤ maxStep := by
  induction events generalizing c with
  | nil => exact iff_of_true (List.isChain_singleton _) c.now_le
  | cons e events ih =>
    obtain ⟨later, hlater⟩ := (c.after e).readings_eq_cons events
    have hstep : (c.readings (e :: events)).IsChain (· ≤ ·) ↔
        c.now ≤ (c.after e).now ∧ ((c.after e).readings events).IsChain (· ≤ ·) := by
      rw [readings, hlater, List.isChain_cons_cons]
    rw [hstep, now_le_after_iff, ih, Event.total]
    constructor
    · rintro ⟨hfirst, hrest⟩
      rw [now_after_of_le hfirst] at hrest
      omega
    · intro h
      have hfirst : c.now + e.length ≤ maxStep := by omega
      rw [now_after_of_le hfirst]
      omega

section Counting

variable {c : Clock} {e : Event N} {events : List (Event N)}

theorem count_cons (h : c.now + Event.total (e :: events) ≤ maxStep) :
    (c.after e).now = c.now + e.length ∧ (c.after e).now + Event.total events ≤ maxStep := by
  rw [Event.total] at h
  have hfirst : (c.after e).now = c.now + e.length := now_after_of_le (by omega)
  exact ⟨hfirst, by omega⟩

theorem now_afterAll (h : c.now + Event.total events ≤ maxStep) :
    (c.afterAll events).now = c.now + Event.total events := by
  induction events generalizing c with
  | nil => rfl
  | cons e events ih =>
    obtain ⟨hfirst, hrest⟩ := count_cons h
    rw [afterAll, List.foldl_cons, ← afterAll, ih hrest, hfirst, Event.total, Nat.add_assoc]

theorem le_of_mem_timed (h : c.now + Event.total events ≤ maxStep) :
    ∀ x ∈ c.timed events, c.now ≤ x.1 := by
  induction events generalizing c with
  | nil => nofun
  | cons e events ih =>
    obtain ⟨hfirst, hrest⟩ := count_cons h
    cases e with
    | advance milliseconds =>
      have hle : c.now ≤ (c.advance milliseconds).now := hfirst ▸ Nat.le_add_right ..
      exact fun x hx => hle.trans (ih hrest x hx)
    | operation op => exact List.forall_mem_cons.2 ⟨Nat.le_refl _, ih hrest⟩

theorem inOrder_timed (h : c.now + Event.total events ≤ maxStep) : (c.timed events).InOrder := by
  induction events generalizing c with
  | nil => exact .nil
  | cons e events ih =>
    obtain ⟨-, hrest⟩ := count_cons h
    cases e with
    | advance milliseconds => exact ih hrest
    | operation op => exact .cons (le_of_mem_timed hrest) (ih hrest)

end Counting

end Clock

namespace Dispatcher

variable {N : Type}

/-! ## What is entered, and what is queued -/

theorem Grows.mem {q q' : TimerQueue Task} {e : Timed Task} (h : Grows q q') (he : e ∈ q.items) :
    e ∈ q'.items := by
  induction h with
  | refl => exact he
  | insert due t _ _ ih => exact TimerQueue.mem_insertSorted.2 (.inr ih)

variable [Currency N]

/-- What is entered after an operation was entered before, or is the wait of the call that the
operation is. -/
theorem expiry?_of_step {r : UnitReaders} {now : Nat} {d : Dispatcher N} {op : Operation N}
    {command : String} {actor : Uuid} {expiry : Nat}
    (h : (d.step r now op).cooldowns.expiry? command actor = some expiry) :
    d.cooldowns.expiry? command actor = some expiry ∨
      ∃ x, d.success? now op = some x ∧ x.Delays command actor := by
  by_cases hop : op = .pump
  · subst hop
    exact .inl (expiry?_of_pump h)
  · rw [expiry?_step r now d op hop] at h
    cases hx : (d.success? now op).filter (Success.Delays command actor) with
    | none => rw [hx] at h; exact .inl h
    | some x =>
      obtain ⟨hsuccess, hdelays⟩ := Option.filter_eq_some_iff.1 hx
      exact .inr ⟨x, hsuccess, of_decide_eq_true hdelays⟩

theorem expiry?_run {r : UnitReaders} {d : Dispatcher N} {run : Run N} {command : String}
    {actor : Uuid} {expiry : Nat} (hnone : ∀ x ∈ d.successes r run, ¬ x.Delays command actor)
    (h : (d.run r run).cooldowns.expiry? command actor = some expiry) :
    d.cooldowns.expiry? command actor = some expiry := by
  induction run generalizing d with
  | nil => exact h
  | cons x run ih =>
    obtain ⟨now, op⟩ := x
    rw [successes, List.forall_mem_append] at hnone
    refine (expiry?_of_step (ih hnone.2 h)).resolve_right ?_
    rintro ⟨x, hx, hdelays⟩
    exact hnone.1 x (Option.mem_toList.2 hx) hdelays

theorem mem_queue_run {r : UnitReaders} {d : Dispatcher N} {run : Run N} {e : Timed Task}
    (hnone : ∀ x ∈ run, x.2 ≠ .pump) (he : e ∈ d.queue.items) : e ∈ (d.run r run).queue.items := by
  induction run generalizing d with
  | nil => exact he
  | cons x run ih =>
    obtain ⟨now, op⟩ := x
    obtain ⟨hop, hnone⟩ := List.forall_mem_cons.1 hnone
    exact ih hnone ((queue_grows r now d op hop).mem he)

omit [Currency N] in
theorem isActive_of_le {command : String} {actor : Uuid} {now now' : Nat} {d d' : Dispatcher N}
    (hle : now ≤ now') (hold : d.cooldowns.isActive command actor now = false)
    (hentered : ∀ expiry, d'.cooldowns.expiry? command actor = some expiry →
      d.cooldowns.expiry? command actor = some expiry) :
    d'.cooldowns.isActive command actor now' = false := by
  by_contra hactive
  rw [Bool.not_eq_false, Cooldowns.isActive, Option.any_eq_true] at hactive
  obtain ⟨expiry, hexpiry, hlt⟩ := hactive
  have hlater : now < expiry := Nat.lt_of_le_of_lt hle (of_decide_eq_true hlt)
  simp [Cooldowns.isActive, hentered expiry hexpiry, hlater] at hold

/-! ## Time -/

/-- **Time that does not run out.** Let a clock be moved by hand while a dispatcher in any state
goes by it. The clock never goes back exactly if what it reads at first and the steps, each cut off
at the longest, come to no more than it can count. Then it has gone as far as it was moved, and
the operations took place in order. A player who did not have to wait does not have to wait
afterwards either, unless a call of this command by this player has gone through and set a
cooldown. A task that was due is due, and is still queued if there was no pump. -/
theorem over_stays_over (r : UnitReaders) (c : Clock) (d : Dispatcher N) (events : List (Event N)) :
    let later := d.run r (c.timed events)
    let now := (c.afterAll events).now
    ((c.readings events).Pairwise (· ≤ ·) ↔ c.now + Event.total events ≤ Clock.maxStep) ∧
    (c.now + Event.total events ≤ Clock.maxStep →
      now = c.now + Event.total events ∧ (c.timed events).InOrder ∧
      (∀ command actor, d.cooldowns.isActive command actor c.now = false →
        (∀ x ∈ d.successes r (c.timed events), ¬ x.Delays command actor) →
        later.cooldowns.isActive command actor now = false) ∧
      ∀ e ∈ d.queue.items, e.due ≤ c.now →
        e.due ≤ now ∧ ((∀ x ∈ c.timed events, x.2 ≠ .pump) → e ∈ later.queue.items)) := by
  intro later now
  rw [← List.isChain_iff_pairwise]
  refine ⟨c.isChain_readings_iff events, fun hcount => ?_⟩
  have hnow : now = c.now + Event.total events := Clock.now_afterAll hcount
  have hle : c.now ≤ now := hnow ▸ Nat.le_add_right ..
  refine ⟨hnow, Clock.inOrder_timed hcount, fun command actor hold hnone => ?_,
    fun e he hdue => ⟨Nat.le_trans hdue hle, fun hnone => mem_queue_run hnone he⟩⟩
  exact isActive_of_le hle hold fun expiry => expiry?_run hnone

def warpAndWait : List (Event Rat) :=
  [.operation (.dispatch walker "warp" []), .advance 10000]

/-- Short of another call, the player does not have to wait any more, however far the clock goes. -/
theorem warp_stays_over :
    let c := Clock.afterAll {} warpAndWait
    let d := withWarp.run .standard (Clock.timed {} warpAndWait)
    let events : List (Event Rat) :=
      [.operation .shutdown, .advance 9000000000000000000, .operation .pump]
    d.cooldowns.isActive "warp" ⟨1⟩ c.now = false ∧
      (d.run .standard (c.timed events)).cooldowns.isActive "warp" ⟨1⟩ (c.afterAll events).now =
        false := by
  intro c d events
  have hold : d.cooldowns.isActive "warp" ⟨1⟩ c.now = false := by decide +kernel
  obtain ⟨-, -, hactive, -⟩ := (over_stays_over .standard c d events).2 (by decide +kernel)
  exact ⟨hold, hactive "warp" ⟨1⟩ hold (by decide +kernel)⟩

/-- A step that is longer than what the clock can still count takes it back to where the player has
to wait, without another call, and to where the clean-up is not due. -/
theorem warp_waits_again :
    let c := Clock.afterAll {} warpAndWait
    let d := withWarp.run .standard (Clock.timed {} warpAndWait)
    let c' := c.advance Clock.maxStep
    c'.now < c.now ∧
      d.cooldowns.isActive "warp" ⟨1⟩ c.now = false ∧
      d.cooldowns.isActive "warp" ⟨1⟩ c'.now = true ∧
      (d.dispatch c'.now walker "warp" []).value = .error .onCooldown ∧
      d.queue.dueCount c.now = 1 ∧ d.queue.dueCount c'.now = 0 := by
  decide +kernel

end Dispatcher

end CustomCommands
