import CustomCommands.Proofs.AllOrNothing
import CustomCommands.Proofs.Runs
import Mathlib.Algebra.Order.Ring.Unbundled.Rat
import Mathlib.Algebra.Ring.Rat

/-!
# Accounting over runs

With balances in exact fractions, what a player has after a run is what there was
before, less the prices of the calls that went through (`balance_run`). One
operation takes the price of one call, from the account of the player who made it,
and from no other (`step_accounts`); the gate has seen to it that the balance
covers the price, so no balance is overdrawn.
-/

namespace CustomCommands

open Decimal

/-! ## Prices -/

theorem exactValue_nonneg {x : Float} (h : (Fraction.ofFloat x).isAmount = true) :
    0 ≤ exactValue x := by
  unfold exactValue
  split
  · rename_i negative m q hx
    rw [hx, Fraction.isAmount, Bool.not_eq_true'] at h
    rw [h]
    exact Rat.mkRat_nonneg (Int.natCast_nonneg _) _
  · exact Rat.le_refl

namespace Dispatcher

theorem cost_nonneg (price : Price) : 0 ≤ cost Rat price :=
  exactValue_nonneg price.valid

theorem charge_accounts {price : Price} {actor : Uuid} {a : Accounts Rat}
    {bank : Option (Ledger Rat)}
    (h : (charge price actor (some (Ledger.accounts a))).value = (.ok (), bank)) :
    ∃ a', bank = some (.accounts a') ∧ ∀ who,
      a'.balance who = a.balance who - (if actor = who then cost Rat price else 0) ∧
        (0 ≤ a.balance who → 0 ≤ a'.balance who) := by
  rcases charge_ok h with ⟨hp, rfl⟩ | ⟨-, l, l', hl, hh, hw, rfl⟩
  · have hfree : cost Rat price = 0 :=
      Rat.le_antisymm (Rat.not_lt.1 (of_decide_eq_false hp)) (cost_nonneg price)
    refine ⟨a, rfl, fun who => ⟨?_, id⟩⟩
    rw [hfree, ite_self, sub_zero]
  · cases hl
    have hcovered : cost Rat price ≤ a.balance actor := of_decide_eq_true hh
    have hshort : ¬ a.balance actor < cost Rat price := Rat.not_lt.2 hcovered
    simp only [Bank.withdraw, Ledger.withdraw, Accounts.withdraw, Currency.isShort, hshort,
      decide_false, Bool.false_eq_true, ↓reduceIte, Prod.mk.injEq, true_and] at hw
    refine ⟨_, congrArg some hw.symm, fun who => ?_⟩
    rw [Accounts.balance_setBalance]
    by_cases hwho : actor = who
    · subst hwho
      simp only [↓reduceIte, Currency.sub]
      exact ⟨trivial, fun _ => (Rat.le_iff_sub_nonneg _ _).1 hcovered⟩
    · simp only [hwho, ↓reduceIte, sub_zero]
      exact ⟨trivial, id⟩

/-! ## One operation -/

section

variable {N : Type} [Currency N]

/-- What a player pays in an operation: the price of the command, if it is a call of the player's
that goes through. -/
def fee? (actor : Uuid) (now : Nat) (d : Dispatcher N) : Operation N → Option N
  | .dispatch s label args | .execute s label args =>
    match d.command? label, (d.dispatch now s label args).value with
    | some c, .ok _ => if s.id = some actor then some (cost N c.price) else none
    | _, _ => none
  | _ => none

def fees (r : UnitReaders) (actor : Uuid) (d : Dispatcher N) : Run N → List N
  | [] => []
  | (now, op) :: rest => (d.fee? actor now op).toList ++ (d.step r now op).fees r actor rest

theorem fee?_of_caller {now : Nat} {d : Dispatcher N} {op : Operation N} (h : op.caller? = none)
    (actor : Uuid) : d.fee? actor now op = none := by
  cases op with
  | dispatch | execute => cases h
  | _ => rfl

theorem fee?_of_error {now : Nat} {d : Dispatcher N} {s : Sender} {label : String}
    {args : List String} {e : Rejection} (h : (d.dispatch now s label args).value = .error e)
    (actor : Uuid) : d.fee? actor now (.dispatch s label args) = none := by
  simp only [fee?, h]
  cases d.command? label <;> rfl

theorem fee?_of_ok {now : Nat} {d : Dispatcher N} {s : Sender} {label : String}
    {args : List String} {i : Invocation} {c : Command}
    (h : (d.dispatch now s label args).value = .ok i) (hc : d.command? label = some c)
    (actor : Uuid) :
    d.fee? actor now (.dispatch s label args) =
      if s.id = some actor then some (cost N c.price) else none := by
  simp only [fee?, h, hc]

/-- Only calls and the host touch the ledger. -/
theorem step_ledger (r : UnitReaders) {now : Nat} {d : Dispatcher N} {op : Operation N}
    (hcall : op.caller? = none)
    (hhost : ∀ change, op = .host change → ∀ h, (change h).ledger = h.ledger) :
    (d.step r now op).ledger = d.ledger := by
  have hload (commands : List Command) (d : Dispatcher N) :
      (d.load commands).after.ledger = d.ledger := by
    obtain ⟨registered, registrarMissed, registrar, h⟩ := load_frame commands d
    rw [h]
  have hreload (dir : String) : (d.reloadFrom r dir).after.ledger = d.ledger := by
    rcases reloadFrom_after r dir d with h | ⟨files, commands, h⟩
    · rw [h]
    · rw [h]; exact hload commands { d with files }
  cases op with
  | dispatch | execute => cases hcall
  | pump =>
    obtain ⟨platform, cooldowns, queue, h⟩ := pump_frame now d
    simp only [step, h]
  | load commands => exact hload commands d
  | reload => exact hreload d.commandsDir
  | reloadFrom dir => exact hreload dir
  | host change => exact hhost change rfl d.toHost
  | complete | shutdown => rfl

end

theorem accounts_of_balances {bank : Option (Ledger Rat)} {a : Accounts Rat}
    (h : ∀ who, bank.map (Ledger.balance? who) = some (some (a.balance who))) :
    ∃ a', bank = some (.accounts a') ∧ ∀ who, a'.balance who = a.balance who := by
  cases bank with
  | none => exact absurd (h default) nofun
  | some l =>
    cases l with
    | refusing => exact absurd (h default) nofun
    | accounts a' =>
      refine ⟨a', rfl, fun who => ?_⟩
      simpa [Ledger.balance?, Ledger.accounts?] using h who

/-- A call takes its price from the caller's account if it goes through, and nothing otherwise. -/
theorem dispatch_accounts {d : Dispatcher Rat} {a : Accounts Rat}
    (h : d.ledger = some (.accounts a)) (now : Nat) (s : Sender) (label : String)
    (args : List String) :
    ∃ a', (d.dispatch now s label args).after.ledger = some (.accounts a') ∧ ∀ who,
      a'.balance who =
          a.balance who - (d.fee? who now (.dispatch s label args)).getD 0 ∧
        (0 ≤ a.balance who → 0 ≤ a'.balance who) := by
  cases hv : (d.dispatch now s label args).value with
  | error e =>
    have hsame := (dispatch_unchanged hv).balances
    rw [h] at hsame
    obtain ⟨a', ha', hbalance⟩ := accounts_of_balances hsame
    refine ⟨a', ha', fun who => ?_⟩
    rw [fee?_of_error hv, hbalance who]
    exact ⟨(sub_zero _).symm, id⟩
  | ok i =>
    obtain ⟨c, r, hc, -⟩ := dispatch_ok hv
    cases hs : s.id with
    | none =>
      refine ⟨a, (dispatch_free hv hs).1.trans h, fun who => ?_⟩
      rw [fee?_of_ok hv hc, hs]
      exact ⟨(sub_zero _).symm, id⟩
    | some actor =>
      have hpaid := dispatch_paid hv hc hs
      rw [h] at hpaid
      obtain ⟨a', ha', hbalance⟩ := charge_accounts hpaid
      refine ⟨a', ha', fun who => ⟨?_, (hbalance who).2⟩⟩
      rw [(hbalance who).1, fee?_of_ok hv hc, hs]
      by_cases hwho : actor = who <;> simp [hwho]

theorem step_accounts (r : UnitReaders) {d : Dispatcher Rat} {a : Accounts Rat}
    (h : d.ledger = some (.accounts a)) (now : Nat) (op : Operation Rat)
    (hhost : ∀ change, op = .host change → ∀ h, (change h).ledger = h.ledger) :
    ∃ a', (d.step r now op).ledger = some (.accounts a') ∧ ∀ who,
      a'.balance who = a.balance who - (d.fee? who now op).getD 0 ∧
        (0 ≤ a.balance who → 0 ≤ a'.balance who) := by
  cases hcall : op.caller? with
  | none =>
    refine ⟨a, (step_ledger r hcall hhost).trans h, fun who => ?_⟩
    rw [fee?_of_caller hcall]
    exact ⟨(sub_zero _).symm, id⟩
  | some s =>
    cases op with
    | dispatch s label args => exact dispatch_accounts h now s label args
    | execute s label args =>
      simp only [step, execute_after]
      exact dispatch_accounts h now s label args
    | _ => cases hcall

/-! ## Whole runs -/

/-- **Accounts are kept exactly.** Take any run from a dispatcher whose ledger keeps accounts, in
which the host itself leaves the ledger alone. At its end every balance is what it was, less the
prices of the player's calls that went through, each as the command was loaded then; and no
balance that was not negative has become so. Rejected calls, calls of the console, pumps and loads
cost nothing. -/
theorem balance_run (r : UnitReaders) (d : Dispatcher Rat) (a : Accounts Rat)
    (h : d.ledger = some (.accounts a)) (run : Run Rat)
    (hhost : ∀ now change, (now, .host change) ∈ run → ∀ h, (change h).ledger = h.ledger) :
    ∃ a', (d.run r run).ledger = some (.accounts a') ∧ ∀ actor,
      a'.balance actor = a.balance actor - (d.fees r actor run).sum ∧
        (0 ≤ a.balance actor → 0 ≤ a'.balance actor) := by
  induction run generalizing d a with
  | nil => exact ⟨a, h, fun actor => ⟨(sub_zero _).symm, id⟩⟩
  | cons x run ih =>
    obtain ⟨now, op⟩ := x
    obtain ⟨b, hb, hstep⟩ := step_accounts r h now op
      fun change hop => hhost now change (hop ▸ List.mem_cons_self)
    obtain ⟨a', ha', hrest⟩ := ih (d.step r now op) b hb
      fun now change hmem => hhost now change (List.mem_cons_of_mem _ hmem)
    refine ⟨a', ha', fun actor => ⟨?_, fun h => (hrest actor).2 ((hstep actor).2 h)⟩⟩
    have hsum : ∀ fee? : Option Rat, fee?.toList.sum = fee?.getD 0 := by
      intro fee?
      cases fee? <;> simp
    rw [(hrest actor).1, (hstep actor).1, fees, List.sum_append, hsum, sub_sub]

def cheaperToll : Command :=
  { toll with price := ⟨3, by decide +kernel⟩ }

/-- Eight pays for the toll once, and then, when it has been lowered, once more. -/
theorem toll_leaves_nothing :
    ∃ a, (withToll.run .standard
        [(0, .dispatch payer "toll" []), (10, .dispatch payer "toll" []), (20, .load [cheaperToll]),
          (30, .dispatch .console "toll" []), (40, .execute payer "toll" [])]).ledger =
        some (.accounts a) ∧ a.balance ⟨1⟩ = 0 := by
  have hfees : withToll.fees .standard ⟨1⟩
      [(0, .dispatch payer "toll" []), (10, .dispatch payer "toll" []), (20, .load [cheaperToll]),
        (30, .dispatch .console "toll" []), (40, .execute payer "toll" [])] = [5, 3] := by
    decide +kernel
  obtain ⟨a, ha, hbalance⟩ := balance_run .standard withToll _ rfl
    [(0, .dispatch payer "toll" []), (10, .dispatch payer "toll" []), (20, .load [cheaperToll]),
      (30, .dispatch .console "toll" []), (40, .execute payer "toll" [])] (by simp)
  refine ⟨a, ha, ?_⟩
  rw [(hbalance ⟨1⟩).1, hfees]
  decide +kernel

end Dispatcher

end CustomCommands
