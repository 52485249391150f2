import CustomCommands.Proofs.Runs

/-!
# The cooldown gate over runs

`successes` lists the calls of players that went through in a run, and
`lastWait?` finds the last one of a player and a command that had a cooldown.
`Tracks` ties the dispatcher to that history: what is entered is what the last
such call set, nothing is missing that has not expired, and no clean-up comes
early. Every operation keeps it (`tracks_step`), and so the gate answers from the
history alone (`onCooldown_iff`).
-/

namespace CustomCommands

/-- A player's call that went through, with the cooldown of its command in milliseconds. -/
structure Success where
  instant : Nat
  actor : Uuid
  command : String
  cooldown : Nat
  deriving DecidableEq, Repr

namespace Success

def expiry (x : Success) : Nat :=
  x.instant + min x.cooldown Cooldowns.maxDuration

/-- Does the call make the player wait before calling the command again? -/
def Delays (command : String) (actor : Uuid) (x : Success) : Prop :=
  x.cooldown ≠ 0 ∧ x.command = command ∧ x.actor = actor

instance (command : String) (actor : Uuid) : DecidablePred (Delays command actor) :=
  fun x => inferInstanceAs (Decidable (x.cooldown ≠ 0 ∧ x.command = command ∧ x.actor = actor))

def lastWait? (command : String) (actor : Uuid) (history : List Success) : Option Success :=
  history.reverse.find? (Delays command actor)

theorem lastWait?_append (command : String) (actor : Uuid) (history : List Success)
    (x? : Option Success) :
    lastWait? command actor (history ++ x?.toList) =
      (x?.filter (Delays command actor)).or (lastWait? command actor history) := by
  unfold lastWait?
  cases x? with
  | none => simp
  | some x => by_cases h : x.Delays command actor <;> simp [Option.filter_some, h]

end Success

/-! ## Cooldowns and their history -/

/-- What is entered was set last, and nothing is missing that has not expired. -/
structure Cooldowns.Follows (history : List Success) (now : Nat) (c : Cooldowns) : Prop where
  entered : ∀ command actor expiry, c.expiry? command actor = some expiry →
    (Success.lastWait? command actor history).map Success.expiry = some expiry
  kept : ∀ command actor x, Success.lastWait? command actor history = some x → now < x.expiry →
    c.expiry? command actor = some x.expiry

namespace Cooldowns.Follows

variable {history : List Success} {now : Nat} {c : Cooldowns}

theorem later (h : Follows history now c) {now' : Nat} (hle : now ≤ now') :
    Follows history now' c :=
  ⟨h.entered, fun command actor x hx hlt => h.kept command actor x hx (by omega)⟩

theorem start (h : Follows history now c) (x : Success) :
    Follows (history ++ [x]) now (c.start x.command x.actor x.cooldown x.instant).1 := by
  have hlast (k : String) (a : Uuid) : Success.lastWait? k a (history ++ [x]) =
      if x.Delays k a then some x else Success.lastWait? k a history := by
    rw [show [x] = (some x).toList from rfl, Success.lastWait?_append, Option.filter_some]
    by_cases hx : x.Delays k a <;> simp [hx]
  have hfind (k : String) (a : Uuid) :
      (c.start x.command x.actor x.cooldown x.instant).1.expiry? k a =
        if x.Delays k a then some x.expiry else c.expiry? k a :=
    Cooldowns.expiry?_start x.command x.actor x.cooldown x.instant c k a
  refine ⟨fun k a expiry he => ?_, fun k a y hy hlt => ?_⟩
  · rw [hfind] at he
    rw [hlast]
    by_cases hx : x.Delays k a
    · rw [if_pos hx] at he ⊢
      exact he
    · rw [if_neg hx] at he ⊢
      exact h.entered k a expiry he
  · rw [hlast] at hy
    rw [hfind]
    by_cases hx : x.Delays k a
    · rw [if_pos hx] at hy ⊢
      rw [Option.some.inj hy]
    · rw [if_neg hx] at hy ⊢
      exact h.kept k a y hy hlt

/-- A clean-up that does not come early takes out nothing that matters. -/
theorem clean (h : Follows history now c) {x : Cleanup} (hx : x.expiry ≤ now) :
    Follows history now (c.clean x).2 := by
  refine ⟨fun k a expiry he => ?_, fun k a y hy hlt => ?_⟩
  · rw [Cooldowns.expiry?_clean] at he
    split at he
    · cases he
    · exact h.entered k a expiry he
  · have hkept := h.kept k a y hy hlt
    rw [Cooldowns.expiry?_clean]
    split
    · rename_i hit
      obtain ⟨hit, rfl, rfl⟩ := hit
      have := Option.some.inj (hkept.symm.trans hit)
      omega
    · exact hkept

theorem isActive_iff (h : Follows history now c) (command : String) (actor : Uuid) :
    c.isActive command actor now = true ↔
      ∃ x, Success.lastWait? command actor history = some x ∧ now < x.expiry := by
  simp only [isActive, Option.any_eq_true, decide_eq_true_eq]
  constructor
  · rintro ⟨expiry, he, hlt⟩
    obtain ⟨x, hx, rfl⟩ := Option.map_eq_some_iff.1 (h.entered _ _ _ he)
    exact ⟨x, hx, hlt⟩
  · rintro ⟨x, hx, hlt⟩
    exact ⟨x.expiry, h.kept _ _ _ hx hlt, hlt⟩

end Cooldowns.Follows

namespace Dispatcher

variable {N : Type} [Currency N]

/-- The call that an operation is, if a player made it and it goes through. -/
def success? (now : Nat) (d : Dispatcher N) : Operation N → Option Success
  | .dispatch s label args | .execute s label args =>
    match s.id, d.command? label, (d.dispatch now s label args).value with
    | some actor, some c, .ok _ =>
      some { instant := now, actor, command := c.name, cooldown := 1000 * c.cooldownSeconds }
    | _, _, _ => none
  | _ => none

def successes (r : UnitReaders) (d : Dispatcher N) : Run N → List Success
  | [] => []
  | (now, op) :: rest => (d.success? now op).toList ++ (d.step r now op).successes r rest

/-! ## Cooldowns after one operation -/

theorem dispatch_cooldowns (now : Nat) (s : Sender) (label : String) (args : List String)
    (d : Dispatcher N) :
    (d.dispatch now s label args).after.cooldowns =
      match d.success? now (.dispatch s label args) with
      | some x => (d.cooldowns.start x.command x.actor x.cooldown now).1
      | none => d.cooldowns := by
  simp only [success?]
  cases h : (d.dispatch now s label args).value with
  | error e =>
    obtain ⟨-, ha | ⟨c, hc, ha⟩⟩ := dispatch_error h
    · rw [ha]; split <;> simp_all
    · obtain ⟨actor, -, ⟨-, -, hd⟩ | ⟨ledger, -, -, hd⟩⟩ := allow_error hc <;>
        rw [ha, hd] <;> split <;> simp_all
  | ok i =>
    obtain ⟨c, r, hc, -, ha, -, hafter, -⟩ := dispatch_ok h
    rw [hafter, (perform_keeps now s c r _).2]
    rcases allow_ok ha with ⟨hs, hd⟩ | ⟨actor, ledger, hs, -, -, hd⟩
    · simp only [hd, hs]
    · simp only [hd, hs, hc, startCooldown_cooldowns]

theorem success?_instant {now : Nat} {d : Dispatcher N} {op : Operation N} {x : Success}
    (h : d.success? now op = some x) : x.instant = now := by
  unfold success? at h
  split at h
  all_goals first | cases h | skip
  all_goals
    split at h
    · cases h; rfl
    · cases h

/-- A look-up after an operation that is no pump finds what the operation entered, or else what
there was before. -/
theorem expiry?_step (r : UnitReaders) (now : Nat) (d : Dispatcher N) (op : Operation N)
    (h : op ≠ .pump) (command : String) (actor : Uuid) :
    (d.step r now op).cooldowns.expiry? command actor =
      (((d.success? now op).filter (Success.Delays command actor)).map Success.expiry).or
        (d.cooldowns.expiry? command actor) := by
  -- Every operation enters its success, if it is one; the others are none.
  have entered : (d.step r now op).cooldowns =
      match d.success? now op with
      | some x => (d.cooldowns.start x.command x.actor x.cooldown now).1
      | none => d.cooldowns := by
    cases op with
    | dispatch s label args => exact dispatch_cooldowns now s label args d
    | execute s label args =>
      simp only [step, execute_after]
      exact dispatch_cooldowns now s label args d
    | load commands => exact (load_keeps commands d).1
    | reload => exact (reloadFrom_keeps r d.commandsDir d).1
    | reloadFrom dir => exact (reloadFrom_keeps r dir d).1
    | pump => exact absurd rfl h
    | complete | shutdown | host => rfl
  rw [entered]
  cases hx : d.success? now op with
  | none => rfl
  | some x =>
    simp only [Cooldowns.expiry?_start, Option.filter_some, decide_eq_true_eq]
    by_cases hd : x.Delays command actor
    · simp only [hd, ↓reduceIte, Option.map_some, Option.some_or, Success.expiry,
        success?_instant hx]
      exact if_pos hd
    · simp only [hd, ↓reduceIte, Option.map_none, Option.none_or]
      exact if_neg hd

/-! ## Cooldowns after a pump -/

omit [Currency N] in
theorem expiry?_of_runTask {now : Nat} {t : Task} {d : Dispatcher N} {command : String}
    {actor : Uuid} {expiry : Nat}
    (h : (d.runTask now t).after.cooldowns.expiry? command actor = some expiry) :
    d.cooldowns.expiry? command actor = some expiry := by
  cases t with
  | phased x => exact h
  | cleanup x =>
    simp only [runTask, Cooldowns.expiry?_clean] at h
    split at h
    · cases h
    · exact h

omit [Currency N] in
theorem expiry?_runTask {now : Nat} {d : Dispatcher N} {e : Timed Task} (ht : OnTime e)
    (hd : e.due ≤ now) {command : String} {actor : Uuid} {expiry : Nat}
    (h : d.cooldowns.expiry? command actor = some expiry) (hlt : now < expiry) :
    (d.runTask now e.value).after.cooldowns.expiry? command actor = some expiry := by
  cases he : e.value with
  | phased x => exact h
  | cleanup x =>
    have hx : x.expiry ≤ now := ht x he ▸ hd
    simp only [runTask, Cooldowns.expiry?_clean]
    split
    · next hit =>
      obtain ⟨hit, rfl, rfl⟩ := hit
      rw [h] at hit
      cases hit
      omega
    · exact h

omit [Currency N] in
theorem expiry?_of_pump {now : Nat} {d : Dispatcher N} {command : String} {actor : Uuid}
    {expiry : Nat} (h : (d.pump now).after.cooldowns.expiry? command actor = some expiry) :
    d.cooldowns.expiry? command actor = some expiry := by
  refine pump_induction (P := fun d' => d'.cooldowns.expiry? command actor = some expiry →
    d.cooldowns.expiry? command actor = some expiry) (fun d' e queue hd' _ he => ?_) id h
  exact hd' (expiry?_of_runTask (d := { d' with queue }) he)

omit [Currency N] in
theorem pump_cooldowns (now : Nat) {d : Dispatcher N} (h : ∀ e ∈ d.queue.items, OnTime e) :
    (∀ e ∈ (d.pump now).after.queue.items, OnTime e) ∧ ∀ command actor expiry,
      ((d.pump now).after.cooldowns.expiry? command actor = some expiry →
        d.cooldowns.expiry? command actor = some expiry) ∧
      (d.cooldowns.expiry? command actor = some expiry → now < expiry →
        (d.pump now).after.cooldowns.expiry? command actor = some expiry) := by
  have hkept : (∀ e ∈ (d.pump now).after.queue.items, OnTime e) ∧ ∀ command actor expiry,
      d.cooldowns.expiry? command actor = some expiry → now < expiry →
        (d.pump now).after.cooldowns.expiry? command actor = some expiry := by
    refine pump_induction (P := fun d' => (∀ e ∈ d'.queue.items, OnTime e) ∧
      ∀ command actor expiry, d.cooldowns.expiry? command actor = some expiry → now < expiry →
        d'.cooldowns.expiry? command actor = some expiry) ?_ ⟨h, fun _ _ _ hx _ => hx⟩
    intro d' e queue ⟨hon, hfind⟩ htake
    obtain ⟨hitems, hdue, -⟩ := TimerQueue.takeDue_eq_some htake
    rw [hitems] at hon
    refine ⟨(runTask_grows now e.value _).onTime fun a ha => hon a (List.mem_cons_of_mem _ ha), ?_⟩
    intro command actor expiry hx hlt
    exact expiry?_runTask (d := { d' with queue }) (hon e List.mem_cons_self) hdue
      (hfind command actor expiry hx hlt) hlt
  exact ⟨hkept.1, fun command actor expiry => ⟨expiry?_of_pump, hkept.2 command actor expiry⟩⟩

/-! ## The invariant -/

/-- What is entered at an instant agrees with the history of calls. -/
structure Tracks (history : List Success) (now : Nat) (d : Dispatcher N) : Prop where
  onTime : ∀ e ∈ d.queue.items, OnTime e
  /-- What is entered was set by the last call that makes the player wait. -/
  entered : ∀ command actor expiry, d.cooldowns.expiry? command actor = some expiry →
    (Success.lastWait? command actor history).map Success.expiry = some expiry
  /-- Nothing is missing that has not expired. -/
  kept : ∀ command actor x, Success.lastWait? command actor history = some x → now < x.expiry →
    d.cooldowns.expiry? command actor = some x.expiry

theorem tracks_step (r : UnitReaders) {history : List Success} {before now : Nat}
    {d : Dispatcher N} (h : Tracks history before d) (hle : before ≤ now) (op : Operation N) :
    Tracks (history ++ (d.success? now op).toList) now (d.step r now op) := by
  by_cases hop : op = .pump
  · subst hop
    obtain ⟨hon, hfind⟩ := pump_cooldowns now h.onTime
    simp only [success?, Option.toList_none, List.append_nil]
    refine ⟨hon, ?_, ?_⟩
    · intro command actor expiry hx
      exact h.entered command actor expiry ((hfind command actor expiry).1 hx)
    · intro command actor x hx hlt
      exact (hfind command actor x.expiry).2 (h.kept command actor x hx (by omega)) hlt
  · refine ⟨(queue_grows r now d op hop).onTime h.onTime, ?_, ?_⟩
    · intro command actor expiry hx
      rw [expiry?_step r now d op hop] at hx
      rw [Success.lastWait?_append, Option.map_or]
      cases hf : (d.success? now op).filter (Success.Delays command actor) with
      | some x => rw [hf] at hx; exact hx
      | none => rw [hf] at hx; exact h.entered command actor expiry hx
    · intro command actor x hx hlt
      rw [expiry?_step r now d op hop]
      rw [Success.lastWait?_append] at hx
      cases hf : (d.success? now op).filter (Success.Delays command actor) with
      | some y => rw [hf] at hx; cases hx; rfl
      | none => rw [hf] at hx; exact h.kept command actor x hx (by omega)

section Histories

variable (r : UnitReaders) {P : List Success → Nat → Dispatcher N → Prop}
  (later : ∀ history before now d, P history before d → before ≤ now → P history now d)
  (step : ∀ history before now d op, P history before d → before ≤ now →
    P (history ++ (d.success? now op).toList) now (d.step r now op))

include later step

/-- What every operation keeps, whatever the history before it, a run keeps. -/
theorem history_induction {history : List Success} {before : Nat} (now : Nat) {d : Dispatcher N}
    (h : P history before d) (run : Run N) (ho : run.InOrder)
    (hfrom : ∀ x ∈ run, before ≤ x.1) (hto : ∀ x ∈ run, x.1 ≤ now) (hle : before ≤ now) :
    P (history ++ d.successes r run) now (d.run r run) := by
  induction run generalizing history before d with
  | nil =>
    rw [successes, List.append_nil]
    exact later _ _ _ _ h hle
  | cons x run ih =>
    obtain ⟨at_, op⟩ := x
    obtain ⟨hfirst, ho⟩ := List.pairwise_cons.1 ho
    rw [successes, ← List.append_assoc]
    exact ih (step _ _ _ _ op h (hfrom _ List.mem_cons_self)) ho hfirst
      (fun x hx => hto x (List.mem_cons_of_mem _ hx)) (hto _ List.mem_cons_self)

/-- What holds before the first call and is kept by every operation holds when the next one
comes. -/
theorem past_induction {first : Dispatcher N} (h : P [] 0 first) {past : Run N} {now : Nat}
    {op : Operation N} (ho : Run.InOrder (past ++ [(now, op)])) :
    P (first.successes r past) now (first.run r past) := by
  obtain ⟨hpast, -, hlast⟩ := List.pairwise_append.1 ho
  exact history_induction r later step now h past hpast (fun _ _ => Nat.zero_le _)
    (fun x hx => hlast x hx _ (List.mem_singleton.2 rfl)) (Nat.zero_le _)

end Histories

omit [Currency N] in
theorem Tracks.later {history : List Success} {before now : Nat} {d : Dispatcher N}
    (h : Tracks history before d) (hle : before ≤ now) : Tracks history now d :=
  { h with kept := fun command actor x hx hlt =>
      h.kept command actor x hx (Nat.lt_of_le_of_lt hle hlt) }

omit [Currency N] in
theorem tracks_start {first : Dispatcher N} (hw : first.cooldowns.commands = [])
    (hq : first.queue.items = []) : Tracks [] 0 first := by
  refine ⟨by simp [hq], ?_, nofun⟩
  intro command actor expiry he
  simp [Cooldowns.expiry?, Cooldowns.actors, hw, Assoc.get?] at he

/-! ## The gate -/

/-- A path that was found is rejected for waiting exactly if its sender is a player who has to
wait. -/
theorem dispatch_onCooldown_iff {now : Nat} {s : Sender} {label : String} {args : List String}
    {d : Dispatcher N} {c : Command} {r : Resolution} {actor : Uuid} (hs : s.id = some actor)
    (hc : d.command? label = some c)
    (hm : (c.tree.matchPath s d.identity args).value = .resolved r) :
    (d.dispatch now s label args).value = .error .onCooldown ↔ d.mustWait now c actor = true := by
  rw [dispatch_of_resolved hc hm]
  simp only [invoke, Act.noting]
  constructor
  · intro h
    split at h
    · next e ha =>
      cases h
      obtain ⟨actor', hs', ⟨hw, -, -⟩ | ⟨ledger, -, hp, -⟩⟩ := allow_error ha
      · cases hs.symm.trans hs'; exact hw
      · exact absurd rfl (charge_error hp).1
    · cases h
  · intro h
    have ha : (d.allow now s c).value = .error .onCooldown := by
      simp only [allow, hs, h, ↓reduceIte]
    rw [ha]; rfl

omit [Currency N] in
theorem mustWait_iff {history : List Success} {now : Nat} {d : Dispatcher N}
    (h : Tracks history now d) (c : Command) (actor : Uuid) :
    d.mustWait now c actor = true ↔
      c.cooldown.isSome ∧
        ∃ x, Success.lastWait? c.name actor history = some x ∧ now < x.expiry := by
  have hfollows : Cooldowns.Follows history now d.cooldowns := ⟨h.entered, h.kept⟩
  rw [mustWait, Bool.and_eq_true, hfollows.isActive_iff]

/-- **The cooldown gate.** Take any run, with readings of the clock that never decrease, from a
dispatcher without cooldowns and without tasks. A player who then calls a command by a path that
matches is told to wait exactly if the command has a cooldown and the player's last successful
call of a command of this name with a cooldown, of at most a hundred years, is not over. Pumps,
other players, rejected calls and loads in between do not matter. -/
theorem onCooldown_iff (r : UnitReaders) (first : Dispatcher N) (hw : first.cooldowns.commands = [])
    (hq : first.queue.items = []) (past : Run N) (now : Nat) (s : Sender) (actor : Uuid)
    (label : String) (args : List String) (c : Command) (found : Resolution)
    (ho : Run.InOrder (past ++ [(now, .dispatch s label args)])) (hs : s.id = some actor)
    (hc : (first.run r past).command? label = some c)
    (hm : (c.tree.matchPath s (first.run r past).identity args).value = .resolved found) :
    ((first.run r past).dispatch now s label args).value = .error .onCooldown ↔
      c.cooldown.isSome ∧
        ∃ x, Success.lastWait? c.name actor (first.successes r past) = some x ∧
          now < x.instant + min x.cooldown Cooldowns.maxDuration := by
  have htracks : Tracks (first.successes r past) now (first.run r past) :=
    past_induction r (P := Tracks) (fun _ _ _ _ => Tracks.later)
      (fun _ _ _ _ op h hle => tracks_step r h hle op) (tracks_start hw hq) ho
  rw [dispatch_onCooldown_iff hs hc hm, mustWait_iff htracks]
  rfl

def warp : Command where
  name := "warp"
  usageMessage := none
  aliases := []
  price := .free
  cooldown := some "10 seconds"
  tree := .mk "warp" { actions := some [("message", .list [.text "off you go"])] } []

def walker : Sender :=
  { name := "Alice", id := some ⟨1⟩ }

def withWarp : Dispatcher Rat :=
  { catalogue := { entries := [{ command := warp, aliases := [] }] } }

/-- Six seconds after a call there are four more to wait. -/
theorem warp_onCooldown :
    let later := withWarp.run .standard [(0, .dispatch walker "warp" [])]
    (later.dispatch 6000 walker "warp" []).value = .error .onCooldown := by
  intro later
  have hc : later.command? "warp" = some warp := by
    simp only [later, command?, run, step, dispatch_catalogue 0 walker "warp" [] withWarp]
    rfl
  have hlast : Success.lastWait? "warp" ⟨1⟩
      (withWarp.successes .standard [(0, .dispatch walker "warp" [])]) =
        some ⟨0, ⟨1⟩, "warp", 10000⟩ := by
    decide +kernel
  exact (onCooldown_iff .standard withWarp rfl rfl [(0, .dispatch walker "warp" [])] 6000 walker ⟨1⟩
    "warp" [] warp ⟨.root warp.tree, .ofSender "Alice"⟩ (by simp [Run.InOrder]) rfl hc rfl).2
    ⟨rfl, _, hlast, by decide⟩

end Dispatcher

end CustomCommands
