import CustomCommands.Proofs.CooldownGate
import Mathlib.Data.List.Dedup

/-!
# Cooldowns and their clean-ups

A registry of cooldowns shares a timer queue with others. Whatever is set, renewed
and drained, in whatever order, an entry is there as long as it matters and its
clean-up is queued for the instant at which it expires (`Agrees`); so a look-up
answers from what was set last, and nothing that has expired outlives a drain
(`cooldowns_agree`).
-/

namespace CustomCommands

/-! ## What is stored -/

namespace Cooldowns

def entries (c : Cooldowns) : List (String × Uuid × Nat) :=
  c.commands.flatMap fun (command, actors) => actors.map fun (actor, expiry) =>
    (command, actor, expiry)

/-- No command and no actor of a command is kept twice, and no command without an actor. -/
structure Tidy (c : Cooldowns) : Prop where
  commands : (Assoc.keys c.commands).Nodup
  actors : ∀ x ∈ c.commands, (Assoc.keys x.2).Nodup
  inhabited : ∀ x ∈ c.commands, x.2 ≠ []

theorem tidy_empty : Tidy {} :=
  ⟨by simp [Assoc.keys], by simp, by simp⟩

theorem Tidy.nodup_actors {c : Cooldowns} (h : Tidy c) (command : String) :
    (Assoc.keys (c.actors command)).Nodup := by
  unfold Cooldowns.actors
  cases hc : Assoc.get? command c.commands with
  | none => simp [Assoc.keys]
  | some m => exact h.actors _ (Assoc.mem_of_get? hc)

theorem mem_entries {c : Cooldowns} (h : Tidy c) {command : String} {actor : Uuid} {expiry : Nat} :
    (command, actor, expiry) ∈ c.entries ↔ c.expiry? command actor = some expiry := by
  unfold entries expiry? actors
  simp only [List.mem_flatMap, List.mem_map, Prod.mk.injEq, Prod.exists]
  constructor
  · rintro ⟨k, m, hm, a, e, he, rfl, rfl, rfl⟩
    rw [(Assoc.mem_iff_get? h.commands).1 hm]
    exact (Assoc.mem_iff_get? (h.actors _ hm)).1 he
  · intro he
    cases hc : Assoc.get? command c.commands with
    | none => rw [hc] at he; cases he
    | some m =>
      rw [hc] at he
      exact ⟨command, m, Assoc.mem_of_get? hc, actor, expiry, Assoc.mem_of_get? he, rfl, rfl, rfl⟩

theorem Tidy.start {c : Cooldowns} (h : Tidy c) (command : String) (actor : Uuid)
    (duration now : Nat) : Tidy (c.start command actor duration now).1 := by
  unfold Cooldowns.start
  split
  · exact h
  · refine ⟨Assoc.nodup_insert h.commands, fun x hx => ?_, fun x hx => ?_⟩
    · rcases Assoc.mem_insert hx with rfl | hx
      · exact Assoc.nodup_insert (h.nodup_actors command)
      · exact h.actors x hx
    · rcases Assoc.mem_insert hx with rfl | hx
      · intro (he : Assoc.insert actor _ (c.actors command) = [])
        have hfound := Assoc.get?_insert actor actor (now + min duration maxDuration)
          (c.actors command)
        rw [he, if_pos rfl] at hfound
        cases hfound
      · exact h.inhabited x hx

theorem Tidy.clean {c : Cooldowns} (h : Tidy c) (x : Cleanup) : Tidy (c.clean x).2 := by
  unfold Cooldowns.clean
  split
  · dsimp only
    split
    · exact ⟨Assoc.nodup_erase h.commands, fun y hy => h.actors y (Assoc.mem_of_mem_erase hy),
        fun y hy => h.inhabited y (Assoc.mem_of_mem_erase hy)⟩
    · rename_i hrest
      refine ⟨Assoc.nodup_insert h.commands, fun y hy => ?_, fun y hy => ?_⟩
      · rcases Assoc.mem_insert hy with rfl | hy
        · exact Assoc.nodup_erase (h.nodup_actors x.command)
        · exact h.actors y hy
      · rcases Assoc.mem_insert hy with rfl | hy
        · exact fun he => hrest (List.isEmpty_iff.2 he)
        · exact h.inhabited y hy
  · exact h

theorem size_eq (c : Cooldowns) : c.size = c.entries.length := by
  obtain ⟨commands⟩ := c
  unfold size entries
  induction commands with
  | nil => rfl
  | cons x commands ih =>
    rw [List.foldr_cons, ih, List.flatMap_cons, List.length_append, List.length_map]

theorem Tidy.mem_commands {c : Cooldowns} (h : Tidy c) (command : String) :
    command ∈ c.entries.map Prod.fst ↔ command ∈ Assoc.keys c.commands := by
  simp only [entries, Assoc.keys, List.mem_map, List.mem_flatMap, Prod.exists]
  constructor
  · rintro ⟨_, _, _, ⟨k, m, hm, a, e, -, heq⟩, rfl⟩
    cases heq
    exact ⟨_, m, hm, rfl⟩
  · rintro ⟨k, m, hm, rfl⟩
    obtain ⟨⟨a, e⟩, hmem⟩ := List.exists_mem_of_ne_nil m (h.inhabited _ hm)
    exact ⟨k, a, e, ⟨k, m, hm, a, e, hmem, rfl⟩, rfl⟩

theorem Tidy.counts {c : Cooldowns} (h : Tidy c) :
    (c.isEmpty = true ↔ c.size = 0) ∧
      c.commandCount = (c.entries.map Prod.fst).dedup.length := by
  have hperm : (c.entries.map Prod.fst).dedup.Perm (Assoc.keys c.commands) :=
    (List.perm_ext_iff_of_nodup (List.nodup_dedup _) h.commands).2 fun command => by
      rw [List.mem_dedup, h.mem_commands]
  have hcount : c.commandCount = (c.entries.map Prod.fst).dedup.length := by
    rw [hperm.length_eq, commandCount, Assoc.keys, List.length_map]
  refine ⟨?_, hcount⟩
  rw [isEmpty, List.isEmpty_iff, size_eq, List.length_eq_zero_iff]
  constructor
  · intro he
    rw [entries, he, List.flatMap_nil]
  · intro he
    rw [he] at hcount
    exact List.eq_nil_of_length_eq_zero hcount

theorem Follows.remaining_eq {history : List Success} {now : Nat} {c : Cooldowns}
    (h : Follows history now c) (command : String) (actor : Uuid) :
    c.remaining command actor now =
      ((Success.lastWait? command actor history).map fun x => x.expiry - now).getD 0 := by
  unfold remaining
  cases hx : c.expiry? command actor with
  | some expiry =>
    obtain ⟨x, hlast, rfl⟩ := Option.map_eq_some_iff.1 (h.entered _ _ _ hx)
    rw [hlast]
    rfl
  | none =>
    -- What has been cleaned up has expired, and there is nothing left to wait.
    cases hlast : Success.lastWait? command actor history with
    | none => rfl
    | some x =>
      have hle : x.expiry ≤ now := by
        by_contra hlt
        rw [h.kept _ _ _ hlast (by omega)] at hx
        cases hx
      simp only [Option.map_none, Option.getD_none, Option.map_some, Option.getD_some]
      omega

end Cooldowns

/-! ## Registries -/

/-- A registry of cooldowns, and the timer queue that it shares. -/
structure Registry where
  cooldowns : Cooldowns := {}
  queue : TimerQueue Task := .empty

namespace Registry

inductive Operation where
  | set (command : String) (actor : Uuid) (duration : Nat)
  /-- Everything that is due is taken from the queue, and its clean-ups are done. -/
  | drain
  /-- Somebody else queues a countdown. -/
  | countdown (due : Nat) (x : Phased)
  /-- Another registry queues a clean-up of its own, for the instant at which its entry expires. -/
  | cleanup (x : Cleanup)

def set (command : String) (actor : Uuid) (duration now : Nat) (g : Registry) : Registry :=
  let (cooldowns, cleanup) := g.cooldowns.start command actor duration now
  { cooldowns
    queue := match cleanup with
      | none => g.queue
      | some x => g.queue.insert x.expiry (.cleanup x) }

/-- Does a clean-up; other tasks do not touch cooldowns. -/
def settle (t : Task) (c : Cooldowns) : Cooldowns :=
  match t with
  | .cleanup x => (c.clean x).2
  | .phased _ => c

def drain (now : Nat) (g : Registry) : Registry :=
  match _h : g.queue.takeDue now with
  | none => g
  | some (e, queue) => ({ cooldowns := settle e.value g.cooldowns, queue } : Registry).drain now
termination_by g.queue.dueCount now
decreasing_by
  have := TimerQueue.dueCount_takeDue _h
  omega

def step (now : Nat) (g : Registry) : Operation → Registry
  | .set command actor duration => g.set command actor duration now
  | .drain => g.drain now
  | .countdown due x => { g with queue := g.queue.insert due (.phased x) }
  | .cleanup x => { g with queue := g.queue.insert x.expiry (.cleanup x) }

def run (g : Registry) : List (Nat × Operation) → Registry
  | [] => g
  | (now, op) :: rest => (g.step now op).run rest

def setting? (now : Nat) : Operation → Option Success
  | .set command actor duration => some { instant := now, actor, command, cooldown := duration }
  | _ => none

def settings (ops : List (Nat × Operation)) : List Success :=
  ops.flatMap fun (now, op) => (setting? now op).toList

theorem set_of_zero {command : String} {actor : Uuid} {duration now : Nat} {g : Registry}
    (h : duration = 0) : g.set command actor duration now = g := by
  simp only [set, Cooldowns.start, if_pos h]

theorem set_of_pos {command : String} {actor : Uuid} {duration now : Nat} {g : Registry}
    (h : duration ≠ 0) :
    g.set command actor duration now =
      let expiry := now + min duration Cooldowns.maxDuration
      { cooldowns := (g.cooldowns.start command actor duration now).1
        queue := g.queue.insert expiry (.cleanup { command, actor, expiry }) } := by
  simp only [set, Cooldowns.start, if_neg h]

theorem startCooldown_registry {N : Type} (now : Nat) (c : Command) (actor : Uuid)
    (d : Dispatcher N) :
    let g := ({ cooldowns := d.cooldowns, queue := d.queue } : Registry).set c.name actor
      (1000 * c.cooldownSeconds) now
    d.startCooldown now c actor = { d with cooldowns := g.cooldowns, queue := g.queue } := rfl

/-! ## The invariant -/

/-- What is stored agrees with what was set, and with what is queued. -/
structure Agrees (history : List Success) (now : Nat) (g : Registry) : Prop where
  follows : g.cooldowns.Follows history now
  tidy : g.cooldowns.Tidy
  onTime : ∀ e ∈ g.queue.items, Dispatcher.OnTime e
  /-- What is entered will be cleaned up when it expires. -/
  queued : ∀ command actor expiry, g.cooldowns.expiry? command actor = some expiry →
    ∃ e ∈ g.queue.items, e.due = expiry ∧ e.value = .cleanup { command, actor, expiry }

theorem agrees_empty (now : Nat) : Agrees [] now {} := by
  have hnone (command : String) (actor : Uuid) :
      ({} : Cooldowns).expiry? command actor = none := rfl
  refine ⟨⟨?_, nofun⟩, Cooldowns.tidy_empty, ?_, ?_⟩
  · simp [hnone]
  · simp [TimerQueue.empty]
  · simp [hnone]

/-- Tasks that are put in do not matter as long as clean-ups are on time. -/
theorem Agrees.insert {history : List Success} {now due : Nat} {t : Task} {g : Registry}
    (h : Agrees history now g) (ht : ∀ x, t = .cleanup x → due = x.expiry) :
    Agrees history now { g with queue := g.queue.insert due t } := by
  refine ⟨h.follows, h.tidy, fun e he => ?_, fun command actor expiry hx => ?_⟩
  · rcases TimerQueue.mem_insertSorted.1 he with rfl | he
    · exact ht
    · exact h.onTime e he
  · obtain ⟨e, he, hdue⟩ := h.queued command actor expiry hx
    exact ⟨e, TimerQueue.mem_insertSorted.2 (.inr he), hdue⟩

theorem agrees_set {history : List Success} {g : Registry} (x : Success)
    (h : Agrees history x.instant g) :
    Agrees (history ++ [x]) x.instant (g.set x.command x.actor x.cooldown x.instant) := by
  by_cases hpos : x.cooldown = 0
  · rw [set_of_zero hpos]
    have := h.follows.start x
    rw [Cooldowns.start, if_pos hpos] at this
    exact ⟨this, h.tidy, h.onTime, h.queued⟩
  · rw [set_of_pos hpos]
    have hdue : ∀ y,
        Task.cleanup { command := x.command, actor := x.actor, expiry := x.expiry } = .cleanup y →
          x.expiry = y.expiry :=
      fun y hy => by cases hy; rfl
    obtain ⟨-, -, hon, hqueued⟩ := h.insert hdue
    refine ⟨h.follows.start x, h.tidy.start _ _ _ _, hon, fun command actor expiry he => ?_⟩
    rw [Cooldowns.expiry?_start] at he
    split at he
    · rename_i hx
      obtain ⟨-, rfl, rfl⟩ := hx
      obtain rfl := Option.some.inj he
      exact ⟨_, TimerQueue.mem_insertSorted.2 (.inl rfl), rfl, rfl⟩
    · exact hqueued command actor expiry he

/-- A task that is due takes out nothing but what has expired. -/
theorem agrees_settle {history : List Success} {now : Nat} {g : Registry} {e : Timed Task}
    {queue : TimerQueue Task} (h : Agrees history now g)
    (htake : g.queue.takeDue now = some (e, queue)) :
    Agrees history now { cooldowns := settle e.value g.cooldowns, queue } := by
  obtain ⟨hitems, hdue, -⟩ := TimerQueue.takeDue_eq_some htake
  have hon := h.onTime
  rw [hitems] at hon
  have hrest : ∀ d ∈ queue.items, Dispatcher.OnTime d :=
    fun d hd => hon d (List.mem_cons_of_mem _ hd)
  have hqueued (command : String) (actor : Uuid) (expiry : Nat)
      (hx : g.cooldowns.expiry? command actor = some expiry) :
      e.value = .cleanup { command, actor, expiry } ∨
        ∃ d ∈ queue.items, d.due = expiry ∧ d.value = .cleanup { command, actor, expiry } := by
    obtain ⟨d, hd, hdd, hdv⟩ := h.queued command actor expiry hx
    rw [hitems] at hd
    rcases List.mem_cons.1 hd with rfl | hd
    · exact .inl hdv
    · exact .inr ⟨d, hd, hdd, hdv⟩
  cases he : e.value with
  | phased x =>
    refine ⟨h.follows, h.tidy, hrest, fun command actor expiry hx => ?_⟩
    exact (hqueued command actor expiry hx).resolve_left fun hv => by rw [he] at hv; cases hv
  | cleanup x =>
    have hx : x.expiry ≤ now := hon e List.mem_cons_self x he ▸ hdue
    refine ⟨h.follows.clean hx, h.tidy.clean x, hrest, fun command actor expiry hk => ?_⟩
    rw [settle, Cooldowns.expiry?_clean] at hk
    split at hk
    · cases hk
    · rename_i hmiss
      refine (hqueued command actor expiry hk).resolve_left fun hv => hmiss ?_
      -- Its own clean-up would have taken the entry out.
      rw [he] at hv
      cases hv
      exact ⟨hk, rfl, rfl⟩

theorem agrees_drain {history : List Success} {now : Nat} {g : Registry}
    (h : Agrees history now g) :
    Agrees history now (g.drain now) ∧ ∀ e ∈ (g.drain now).queue.items, now < e.due := by
  fun_induction drain now g with
  | case1 g hq => exact ⟨h, TimerQueue.lt_due_of_takeDue hq⟩
  | case2 g e queue hq ih => exact ih (agrees_settle h hq)

theorem agrees_step {history : List Success} {before now : Nat} {g : Registry}
    (h : Agrees history before g) (hle : before ≤ now) (op : Operation) :
    Agrees (history ++ (setting? now op).toList) now (g.step now op) := by
  have h : Agrees history now g := ⟨h.follows.later hle, h.tidy, h.onTime, h.queued⟩
  cases op with
  | set command actor duration =>
    exact agrees_set { instant := now, actor, command, cooldown := duration } h
  | drain =>
    simp only [setting?, Option.toList_none, List.append_nil]
    exact (agrees_drain h).1
  | countdown due x =>
    simp only [setting?, Option.toList_none, List.append_nil]
    exact h.insert nofun
  | cleanup x =>
    simp only [setting?, Option.toList_none, List.append_nil]
    exact h.insert fun y hy => by cases hy; rfl

theorem agrees_run {history : List Success} {before now : Nat} {g : Registry}
    (h : Agrees history before g) (ops : List (Nat × Operation))
    (ho : ops.Pairwise fun a b => a.1 ≤ b.1) (hfrom : ∀ x ∈ ops, before ≤ x.1)
    (hto : ∀ x ∈ ops, x.1 ≤ now) (hle : before ≤ now) :
    Agrees (history ++ settings ops) now (g.run ops) := by
  induction ops generalizing history before g with
  | nil =>
    rw [settings, List.flatMap_nil, List.append_nil]
    exact ⟨h.follows.later hle, h.tidy, h.onTime, h.queued⟩
  | cons x ops ih =>
    obtain ⟨at_, op⟩ := x
    obtain ⟨hfirst, ho⟩ := List.pairwise_cons.1 ho
    rw [settings, List.flatMap_cons, ← List.append_assoc]
    exact ih (agrees_step h (hfrom _ List.mem_cons_self) op) ho hfirst
      (fun x hx => hto x (List.mem_cons_of_mem _ hx)) (hto _ List.mem_cons_self)

/-! ## What is seen -/

theorem Agrees.expiry?_drain {history : List Success} {now : Nat} {g : Registry}
    (h : Agrees history now g) (command : String) (actor : Uuid) (expiry : Nat) :
    (g.drain now).cooldowns.expiry? command actor = some expiry ↔
      g.cooldowns.expiry? command actor = some expiry ∧ now < expiry := by
  obtain ⟨hafter, hlater⟩ := agrees_drain h
  constructor
  · intro he
    obtain ⟨x, hx, rfl⟩ := Option.map_eq_some_iff.1 (hafter.follows.entered _ _ _ he)
    obtain ⟨e, hmem, hdue, -⟩ := hafter.queued _ _ _ he
    have hlt : now < x.expiry := hdue ▸ hlater e hmem
    exact ⟨h.follows.kept _ _ _ hx hlt, hlt⟩
  · rintro ⟨he, hlt⟩
    obtain ⟨x, hx, rfl⟩ := Option.map_eq_some_iff.1 (h.follows.entered _ _ _ he)
    exact hafter.follows.kept _ _ _ hx hlt

/-- **Cooldowns and clean-ups agree.** Set cooldowns of any commands, actors and durations, renew
them with longer or shorter ones, drain the queue, and let others queue tasks, at instants that
never decrease. An actor has to wait exactly if the last cooldown that was set, of at most a
hundred years, is not over, and for as long as is left of it, so clean-ups are never seen. Every
entry has its clean-up in the queue, due when it expires; a drain leaves exactly the entries that
have not expired; and no command is kept without one. -/
theorem cooldowns_agree (ops : List (Nat × Operation)) (ho : ops.Pairwise fun a b => a.1 ≤ b.1)
    (now : Nat) (hnow : ∀ x ∈ ops, x.1 ≤ now) :
    let g := ({} : Registry).run ops
    (∀ command actor,
      (g.cooldowns.isActive command actor now = true ↔
        ∃ x, Success.lastWait? command actor (settings ops) = some x ∧
          now < x.instant + min x.cooldown Cooldowns.maxDuration) ∧
      g.cooldowns.remaining command actor now =
        ((Success.lastWait? command actor (settings ops)).map fun x =>
          x.instant + min x.cooldown Cooldowns.maxDuration - now).getD 0) ∧
    (∀ command actor expiry, (command, actor, expiry) ∈ g.cooldowns.entries →
      ∃ e ∈ g.queue.items, e.due = expiry ∧ e.value = .cleanup { command, actor, expiry }) ∧
    (∀ command actor expiry, (command, actor, expiry) ∈ (g.drain now).cooldowns.entries ↔
      (command, actor, expiry) ∈ g.cooldowns.entries ∧ now < expiry) ∧
    (∀ x ∈ g.cooldowns.commands, x.2 ≠ []) ∧
    (g.cooldowns.isEmpty = true ↔ g.cooldowns.size = 0) ∧
    g.cooldowns.commandCount = (g.cooldowns.entries.map Prod.fst).dedup.length := by
  intro g
  have h : Agrees (settings ops) now g := by
    have := agrees_run (agrees_empty 0) ops ho (fun _ _ => Nat.zero_le _) hnow (Nat.zero_le _)
    rwa [List.nil_append] at this
  refine ⟨fun command actor =>
      ⟨h.follows.isActive_iff command actor, h.follows.remaining_eq command actor⟩,
    fun command actor expiry he => ?_, fun command actor expiry => ?_, h.tidy.inhabited,
    h.tidy.counts⟩
  · exact h.queued _ _ _ ((Cooldowns.mem_entries h.tidy).1 he)
  · rw [Cooldowns.mem_entries (agrees_drain h).1.tidy, Cooldowns.mem_entries h.tidy]
    exact h.expiry?_drain command actor expiry

/-- A cooldown that was cut short and set again, to end when the first one would have, holds in
spite of the clean-ups of the ones before it. -/
theorem renewed_holds :
    let g := ({} : Registry).run
      [(0, .set "warp" ⟨1⟩ 10000), (2000, .set "warp" ⟨1⟩ 3000), (5000, .drain),
        (9000, .set "warp" ⟨1⟩ 1000), (9400, .drain)]
    g.cooldowns.isActive "warp" ⟨1⟩ 9500 = true ∧ g.cooldowns.remaining "warp" ⟨1⟩ 9500 = 500 := by
  intro g
  have hlast : Success.lastWait? "warp" ⟨1⟩ (settings
      [(0, .set "warp" ⟨1⟩ 10000), (2000, .set "warp" ⟨1⟩ 3000), (5000, .drain),
        (9000, .set "warp" ⟨1⟩ 1000), (9400, .drain)]) = some ⟨9000, ⟨1⟩, "warp", 1000⟩ := by
    decide +kernel
  obtain ⟨hactive, hremaining⟩ := (cooldowns_agree
    [(0, .set "warp" ⟨1⟩ 10000), (2000, .set "warp" ⟨1⟩ 3000), (5000, .drain),
      (9000, .set "warp" ⟨1⟩ 1000), (9400, .drain)] (by simp) 9500 (by simp)).1 "warp" ⟨1⟩
  refine ⟨hactive.2 ⟨_, hlast, by decide⟩, ?_⟩
  rw [hremaining, hlast]
  rfl

end Registry

end CustomCommands
