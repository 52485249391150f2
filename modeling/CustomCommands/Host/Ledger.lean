import CustomCommands.Assoc
import CustomCommands.Price
import CustomCommands.Uuid

/-!
# Ledgers

Balances by identifier. A ledger is asked whether a balance covers an amount and
then to withdraw it; one that refuses approves of everything and pays nothing.
-/

namespace CustomCommands

/-- What keeps balances, as far as it is asked: does it have an amount, and, when it is to
withdraw one, was it paid, and what keeps the balances then? -/
class Bank (L : Type) (N : outParam Type) where
  has : Uuid → N → L → Bool
  withdraw : Uuid → N → L → Bool × L

structure Accounts (N : Type) where
  balances : List (Uuid × N) := []

namespace Accounts

variable {N : Type} [Currency N]

def balance (actor : Uuid) (a : Accounts N) : N :=
  (Assoc.get? actor a.balances).getD Currency.zero

def setBalance (actor : Uuid) (amount : N) (a : Accounts N) : Accounts N :=
  { balances := Assoc.insert actor amount a.balances }

theorem balance_setBalance (who actor : Uuid) (amount : N) (a : Accounts N) :
    (a.setBalance who amount).balance actor = if who = actor then amount else a.balance actor := by
  simp only [balance, setBalance, Assoc.get?_insert]
  split <;> rfl

def has (actor : Uuid) (amount : N) (a : Accounts N) : Bool :=
  Currency.covers (a.balance actor) amount

/-- Takes the amount from the balance, or leaves it alone if it is short. Was it paid? -/
def withdraw (actor : Uuid) (amount : N) (a : Accounts N) : Bool × Accounts N :=
  let balance := a.balance actor
  if Currency.isShort balance amount then (false, a.setBalance actor balance)
  else (true, a.setBalance actor (Currency.sub balance amount))

end Accounts

inductive Ledger (N : Type) where
  | accounts (a : Accounts N)
  | refusing

namespace Ledger

def accounts? {N : Type} : Ledger N → Option (Accounts N)
  | accounts a => some a
  | refusing => none

variable {N : Type} [Currency N]

def has (actor : Uuid) (amount : N) : Ledger N → Bool
  | accounts a => a.has actor amount
  | refusing => true

def withdraw (actor : Uuid) (amount : N) : Ledger N → Bool × Ledger N
  | accounts a =>
    let (paid, a) := a.withdraw actor amount
    (paid, accounts a)
  | refusing => (false, refusing)

instance : Bank (Ledger N) N where
  has := has
  withdraw := withdraw

end Ledger

end CustomCommands
