import CustomCommands.Catalogue
import CustomCommands.Completion
import CustomCommands.Config
import CustomCommands.Cooldowns
import CustomCommands.Executor
import CustomCommands.Files.Loader
import CustomCommands.Host.Ledger

/-!
# The dispatcher

A dispatcher holds the commands, the cooldowns and the timer queue, and works on
a host. A call passes the path and its permissions, then the cooldown, then the
cost; the cooldown starts once the cost is paid, and a call that is rejected on
the way has changed nothing.
-/

namespace CustomCommands

structure Host (N : Type) where
  platform : Platform := {}
  ledger : Option (Ledger N) := none
  registrar : Option Registrar := none
  files : FileTree := {}

/-- What waits in the timer queue. -/
inductive Task where
  | cleanup (x : Cleanup)
  | phased (x : Phased)

def Task.isPhased : Task → Bool
  | phased _ => true
  | cleanup _ => false

structure Dispatcher (N : Type) extends Host N where
  catalogue : Catalogue := {}
  /-- The labels held at the registrar. -/
  registered : List String := []
  /-- Has it been told that there is no registrar? -/
  registrarMissed : Bool := false
  cooldowns : Cooldowns := {}
  queue : TimerQueue Task := .empty
  messages : Messages := {}
  commandsDir : String := "commands"
  roster : Option String := none

/-- A call that went through. -/
inductive Invocation where
  | completed (command : String) (summary : RunSummary)
  /-- A countdown was started; its first tick is due at once. -/
  | scheduled (command : String) (seconds : Nat)
  deriving DecidableEq, Repr

def Invocation.command : Invocation → String
  | completed c _ => c
  | scheduled c _ => c

inductive Rejection where
  | unknownCommand
  | usage (usage : String)
  /-- A permission is missing; the command may have a message for that. -/
  | denied (message : Option String)
  | invalidArgument (message : String)
  | onCooldown
  | insufficientFunds
  | ledgerUnavailable
  deriving DecidableEq, Repr

/-- What the sender is told, before colour codes are translated. -/
def Rejection.message (m : Messages) : Rejection → String
  | unknownCommand => m.unknownCommand
  | usage u => u
  | denied message => message.getD m.noPermission
  | invalidArgument message => message
  | onCooldown => m.cooldown
  | insufficientFunds => m.insufficientFunds
  | ledgerUnavailable => m.ledgerUnavailable

/-- What an operation did: its result, the dispatcher after it, and what was asked and told. -/
structure Act (N α : Type) where
  value : α
  after : Dispatcher N
  effects : List Effect := []
  notices : List Notice := []

namespace Act

variable {N α β : Type}

def map (f : α → β) (a : Act N α) : Act N β :=
  { a with value := f a.value }

def noting (notices : List Notice) (a : Act N α) : Act N α :=
  { a with notices := notices ++ a.notices }

end Act

namespace Dispatcher

variable {N : Type}

def ofConfig (host : Host N) (c : Config) : Dispatcher N :=
  { host with messages := c.messages, commandsDir := c.commandsDir, roster := some c.usercache }

def identity (d : Dispatcher N) : Identity where
  platform := d.platform
  roster := d.roster.map fun path => d.files.roster path

def command? (label : String) (d : Dispatcher N) : Option Command :=
  d.catalogue.find? label

/-! ## Gates -/

section Calls

variable [Currency N]

/-- Has the actor to wait before calling the command again? Only commands with a cooldown ask. -/
def mustWait (now : Nat) (c : Command) (actor : Uuid) (d : Dispatcher N) : Bool :=
  c.cooldown.isSome && d.cooldowns.isActive c.name actor now

/-- Takes a price from an actor's balance, which is kept in a bank if there is one. -/
def charge {L : Type} [Bank L N] (price : Price) (actor : Uuid) (bank : Option L) :
    Noted (Except Rejection Unit × Option L) :=
  let cost : N := Currency.ofPrice price
  if !Currency.isPositive cost then pure (.ok (), bank)
  else
    match bank with
    | none => pure (.error .ledgerUnavailable, none)
    | some l =>
      if !Bank.has actor cost l then pure (.error .insufficientFunds, some l)
      else
        match Bank.withdraw actor cost l with
        | (true, l) => pure (.ok (), some l)
        | (false, l) => .tell .withdrawalRefused (.error .insufficientFunds, some l)

def startCooldown (now : Nat) (c : Command) (actor : Uuid) (d : Dispatcher N) : Dispatcher N :=
  let (cooldowns, cleanup) := d.cooldowns.start c.name actor (1000 * c.cooldownSeconds) now
  { d with
    cooldowns
    queue := match cleanup with
      | none => d.queue
      | some x => d.queue.insert x.expiry (.cleanup x) }

/-- Cooldown, cost, and the start of a new cooldown; who is no player passes freely. -/
def allow (now : Nat) (s : Sender) (c : Command) (d : Dispatcher N) :
    Act N (Except Rejection Unit) :=
  match s.id with
  | none => { value := .ok (), after := d }
  | some actor =>
    if d.mustWait now c actor then { value := .error .onCooldown, after := d }
    else
      let charged := charge c.price actor d.ledger
      let d : Dispatcher N := { d with ledger := charged.value.2 }
      { value := charged.value.1
        after :=
          match charged.value.1 with
          | .ok () => d.startCooldown now c actor
          | .error _ => d
        notices := charged.notices }

/-! ## Calls -/

/-- Runs what stands at the end of a path, at once or after a countdown. -/
def perform (now : Nat) (s : Sender) (c : Command) (r : Resolution) (d : Dispatcher N) :
    Act N Invocation :=
  let traits := r.place.node.traits
  match traits.delay with
  | some delay =>
    { value := .scheduled c.name delay.seconds
      after :=
        { d with queue := d.queue.insert now (.phased (.start s delay traits.actions r.bindings)) } }
  | none =>
    let (summary, p) :=
      Executor.run d.messages.playerOnly d.platform s r.bindings (traits.actions.getD [])
    { value := .completed c.name summary
      after := { d with platform := p.platform }
      effects := p.effects
      notices := p.notices }

def reject (e : Rejection) (d : Dispatcher N) : Act N (Except Rejection Invocation) :=
  { value := .error e, after := d }

def invoke (now : Nat) (s : Sender) (c : Command) (r : Resolution) (d : Dispatcher N) :
    Act N (Except Rejection Invocation) :=
  let allowed := d.allow now s c
  (match allowed.value with
    | .error e => allowed.after.reject e
    | .ok () => (allowed.after.perform now s c r).map .ok).noting allowed.notices

def dispatch (now : Nat) (s : Sender) (label : String) (args : List String) (d : Dispatcher N) :
    Act N (Except Rejection Invocation) :=
  match d.command? label with
  | none => d.reject .unknownCommand
  | some c =>
    let matched := c.tree.matchPath s d.identity args
    (match matched.value with
      | .resolved r => d.invoke now s c r
      | .usage => d.reject (.usage c.usage)
      | .invalid message => d.reject (.invalidArgument message)
      | .denied message => d.reject (.denied message)).noting matched.notices

/-- Calls a command; a sender who is rejected is told why. -/
def execute (now : Nat) (s : Sender) (label : String) (args : List String) (d : Dispatcher N) :
    Act N (Option Invocation) :=
  let a := d.dispatch now s label args
  match a.value with
  | .ok i => { a with value := some i }
  | .error e =>
    { a with
      value := none
      effects := a.effects ++ [.message s.name (Colour.translate (e.message d.messages))] }

end Calls

def complete (s : Sender) (label : String) (args : List String) (d : Dispatcher N) :
    Noted (List String) :=
  match d.command? label with
  | none => pure []
  | some c =>
    if c.permission.any fun p => !s.has p then pure []
    else c.tree.suggest s d.identity args

/-! ## Due tasks -/

/-- The time between two ticks of a countdown, in milliseconds. -/
def tickPeriod : Nat := 1000

theorem lt_add_tickPeriod (now : Nat) : now < now + tickPeriod :=
  Nat.lt_add_of_pos_right (by decide)

/-- Does what a task asks for; a countdown that goes on is queued again. -/
def runTask (now : Nat) (t : Task) (d : Dispatcher N) : Act N Unit :=
  match t with
  | .cleanup x => { value := (), after := { d with cooldowns := (d.cooldowns.clean x).2 } }
  | .phased x =>
    let (more, x, p) := x.tick d.messages.playerOnly d.platform
    { value := ()
      after :=
        { d with
          platform := p.platform
          queue := if more then d.queue.insert (now + tickPeriod) (.phased x) else d.queue }
      effects := p.effects
      notices := p.notices }

theorem dueCount_runTask (now : Nat) (t : Task) (d : Dispatcher N) :
    (d.runTask now t).after.queue.dueCount now = d.queue.dueCount now := by
  cases t with
  | cleanup x => rfl
  | phased x =>
    simp only [runTask]
    split
    · exact TimerQueue.dueCount_insert_later (lt_add_tickPeriod now) _ _
    · rfl

/-- Does everything that is due. How many tasks were that? -/
def pump (now : Nat) (d : Dispatcher N) : Act N Nat :=
  match _h : d.queue.takeDue now with
  | none => { value := 0, after := d }
  | some (e, queue) =>
    let first := ({ d with queue } : Dispatcher N).runTask now e.value
    let rest := first.after.pump now
    { value := rest.value + 1
      after := rest.after
      effects := first.effects ++ rest.effects
      notices := first.notices ++ rest.notices }
termination_by d.queue.dueCount now
decreasing_by
  have := TimerQueue.dueCount_takeDue _h
  rw [dueCount_runTask]
  simp only
  omega

/-! ## Loading -/

def releaseLabels (d : Dispatcher N) : Dispatcher N :=
  { d with
    registered := []
    registrar := d.registrar.map fun r => d.registered.foldl (fun r l => (r.unregister l).2) r }

/-- Registers labels in turn: those that were free, and the registrar after it. -/
def registerAll (r : Registrar) : List (String × Handle) → Noted (List String × Registrar)
  | [] => pure ([], r)
  | (label, handle) :: rest =>
    match r.register label handle with
    | (true, r) => do
      let (labels, r) ← registerAll r rest
      pure (label :: labels, r)
    | (false, r) => do
      Noted.tell .labelTaken ()
      registerAll r rest

/-- Registers the labels of the catalogue. That there is no registrar is told once. -/
def claimLabels (d : Dispatcher N) : Noted (Dispatcher N) :=
  match d.registrar with
  | none =>
    if d.registrarMissed then pure d
    else .tell .registrarMissing { d with registrarMissed := true }
  | some r => do
    let (labels, r) ← registerAll r d.catalogue.labels
    pure { d with registered := labels, registrar := some r }

def load (commands : List Command) (d : Dispatcher N) : Act N Unit :=
  let loaded : Noted (Dispatcher N) := do
    let catalogue ← Catalogue.ofCommands commands
    claimLabels { d.releaseLabels with catalogue }
  { value := (), after := loaded.value, notices := loaded.notices }

/-- Loads the units of a directory; if it cannot be listed, nothing changes. -/
def reloadFrom (r : UnitReaders) (dir : String) (d : Dispatcher N) :
    Act N (Except FileError LoadReport) :=
  match loadDirectory r d.files dir with
  | .error e => { value := .error e, after := d }
  | .ok (report, files) =>
    (({ d with files } : Dispatcher N).load report.commands).map (fun _ => .ok report)
      |>.noting report.notices

def reload (r : UnitReaders) (d : Dispatcher N) : Act N (Except FileError LoadReport) :=
  d.reloadFrom r d.commandsDir

/-- Gives up all labels and commands; countdowns under way go on. -/
def shutdown (d : Dispatcher N) : Dispatcher N :=
  { d.releaseLabels with catalogue := {} }

/-! ## What others see -/

def phasedCount (d : Dispatcher N) : Nat :=
  d.queue.items.countP fun e => e.value.isPhased

end Dispatcher

end CustomCommands
