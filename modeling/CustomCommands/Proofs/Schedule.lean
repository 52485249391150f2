import CustomCommands.Countdown

/-!
# Countdowns on a schedule

`schedule` is what a countdown does that is looked at from time to time, takes at
most one step each time, and rests for a period after each step. The steps come
in the order in which the countdown has them (`steps_prefix_of_schedule`), a
period apart (`schedule_spaced`), and all of them come if it is looked at often
enough (`schedule_complete`).
-/

namespace CustomCommands.Countdown

def steps : Nat → List Step
  | 0 => [.finish]
  | n + 1 => .perSecond (n + 1) :: steps n

def ahead : Countdown → List Step
  | pending n => steps n
  | done => []

def left : Countdown → Nat
  | pending n => n
  | done => 0

/-- The steps of a countdown that is due at an instant and looked at in turn. -/
def schedule (period due : Nat) (c : Countdown) : List Nat → List (Nat × Step)
  | [] => []
  | now :: later =>
    if c.isDone || now < due then c.schedule period due later
    else (now, c.advance.1) :: c.advance.2.schedule period (now + period) later

/-! ## Steps -/

theorem length_steps (n : Nat) : (steps n).length = n + 1 := by
  induction n with
  | zero => rfl
  | succ n ih => rw [steps, List.length_cons, ih]

theorem count_finish_steps (n : Nat) : (steps n).count .finish = 1 := by
  induction n with
  | zero => rfl
  | succ n ih => rw [steps, List.count_cons_of_ne (by simp), ih]

theorem ahead_of_isDone {c : Countdown} (h : c.isDone = true) : c.ahead = [] := by
  cases c with
  | pending n => cases h
  | done => rfl

theorem ahead_advance {c : Countdown} (h : c.isDone = false) :
    c.ahead = c.advance.1 :: c.advance.2.ahead := by
  cases c with
  | done => cases h
  | pending n => cases n <;> rfl

theorem isDone_advance {c : Countdown} (h : c.isDone = false) :
    c.advance.2.isDone = true ↔ c.advance.1 = .finish := by
  cases c with
  | done => cases h
  | pending n => cases n <;> simp [advance, isDone]

/-- A step takes one second off, and only the last one finishes. -/
theorem left_advance (c : Countdown) :
    c.left ≤ c.advance.2.left + 1 ∧ (c.advance.1 = .finish → c.left = 0) := by
  cases c with
  | done => exact ⟨Nat.zero_le _, fun _ => rfl⟩
  | pending n =>
    cases n with
    | zero => exact ⟨Nat.zero_le _, fun _ => rfl⟩
    | succ n => exact ⟨Nat.le_refl _, nofun⟩

/-! ## Schedules -/

variable {period due : Nat} {c : Countdown} {instants : List Nat}

theorem steps_prefix_of_schedule (period due : Nat) (c : Countdown) (instants : List Nat) :
    (c.schedule period due instants).map Prod.snd <+: c.ahead := by
  induction instants generalizing due c with
  | nil => exact List.nil_prefix
  | cons now later ih =>
    unfold schedule
    split
    · exact ih due c
    · rename_i h
      have hc : c.isDone = false := by simp_all
      rw [List.map_cons, ahead_advance hc, List.cons_prefix_cons]
      exact ⟨rfl, ih _ _⟩

theorem due_le_of_mem_schedule {x : Nat × Step} (h : x ∈ c.schedule period due instants) :
    due ≤ x.1 := by
  induction instants generalizing due c with
  | nil => cases h
  | cons now later ih =>
    unfold schedule at h
    split at h
    · exact ih h
    · rename_i hdue
      have hle : due ≤ now := by simp_all
      rcases List.mem_cons.1 h with rfl | h
      · exact hle
      · have := ih h
        omega

theorem schedule_spaced (period due : Nat) (c : Countdown) (instants : List Nat) :
    (c.schedule period due instants).Pairwise fun a b => a.1 + period ≤ b.1 := by
  induction instants generalizing due c with
  | nil => exact List.Pairwise.nil
  | cons now later ih =>
    unfold schedule
    split
    · exact ih due c
    · exact List.pairwise_cons.2 ⟨fun x hx => due_le_of_mem_schedule hx, ih _ _⟩

theorem finish_le_of_mem_schedule {x : Nat × Step} (h : x ∈ c.schedule period due instants)
    (hx : x.2 = .finish) : due + period * c.left ≤ x.1 := by
  induction instants generalizing due c with
  | nil => cases h
  | cons now later ih =>
    unfold schedule at h
    split at h
    · exact ih h
    · rename_i hdue
      have hle : due ≤ now := by simp_all
      obtain ⟨hleft, hlast⟩ := left_advance c
      rcases List.mem_cons.1 h with rfl | h
      · rw [hlast hx, Nat.mul_zero]
        exact hle
      · have hrest := ih h
        have hmul := Nat.mul_le_mul_left period hleft
        rw [Nat.mul_succ] at hmul
        omega

/-- A countdown of `n` seconds finishes `n` periods after its first step at the earliest. -/
theorem finish_after_first {first x : Nat × Step}
    (hfirst : (c.schedule period due instants).head? = some first)
    (h : x ∈ c.schedule period due instants) (hx : x.2 = .finish) :
    first.1 + period * c.left ≤ x.1 := by
  induction instants generalizing due with
  | nil => cases h
  | cons now later ih =>
    unfold schedule at h hfirst
    split at h
    · rename_i hskip
      rw [if_pos hskip] at hfirst
      exact ih hfirst h
    · rename_i hskip
      rw [if_neg hskip] at hfirst
      cases hfirst
      obtain ⟨hleft, hlast⟩ := left_advance c
      rcases List.mem_cons.1 h with rfl | h
      · rw [hlast hx, Nat.mul_zero]
        exact Nat.le_refl _
      · have hrest := finish_le_of_mem_schedule h hx
        have hmul := Nat.mul_le_mul_left period hleft
        rw [Nat.mul_succ] at hmul
        omega

/-- Each of the instants that are a period apart sees a step, as long as there are any. -/
theorem length_le_schedule {spaced : List Nat} (ho : instants.Pairwise (· ≤ ·))
    (hsub : spaced.Sublist instants) (hs : spaced.Pairwise fun a b => a + period ≤ b)
    (hdue : ∀ t ∈ spaced, due ≤ t) (hlen : spaced.length ≤ c.ahead.length) :
    spaced.length ≤ (c.schedule period due instants).length := by
  induction instants generalizing due c spaced with
  | nil => rw [List.sublist_nil.1 hsub]; exact Nat.zero_le _
  | cons now later ih =>
    obtain ⟨hnow, ho⟩ := List.pairwise_cons.1 ho
    unfold schedule
    split
    · rename_i hskip
      rcases Bool.or_eq_true_iff.1 hskip with hc | hlt
      · rw [ahead_of_isDone hc] at hlen
        exact Nat.le_trans hlen (Nat.zero_le _)
      · have hlt : now < due := of_decide_eq_true hlt
        -- An instant before the countdown is due is none of those that are spaced.
        have hsub : spaced.Sublist later := by
          cases hsub with
          | cons _ h => exact h
          | cons_cons _ h =>
            have := hdue now List.mem_cons_self
            omega
        exact ih ho hsub hs hdue hlen
    · rename_i hskip
      have hc : c.isDone = false := by simp_all
      cases spaced with
      | nil => exact Nat.zero_le _
      | cons t spaced =>
        obtain ⟨ht, hs⟩ := List.pairwise_cons.1 hs
        have hle : now ≤ t := by
          rcases List.mem_cons.1 (hsub.subset List.mem_cons_self) with rfl | hmem
          · exact Nat.le_refl _
          · exact hnow t hmem
        rw [ahead_advance hc, List.length_cons, List.length_cons] at hlen
        rw [List.length_cons, List.length_cons]
        refine Nat.succ_le_succ (ih ho hsub.tail hs ?_ (Nat.le_of_succ_le_succ hlen))
        intro u hu
        have := ht u hu
        omega

theorem schedule_complete {spaced : List Nat} (ho : instants.Pairwise (· ≤ ·))
    (hsub : spaced.Sublist instants) (hs : spaced.Pairwise fun a b => a + period ≤ b)
    (hdue : ∀ t ∈ spaced, due ≤ t) (hlen : spaced.length = c.ahead.length) :
    (c.schedule period due instants).map Prod.snd = c.ahead := by
  refine (steps_prefix_of_schedule period due c instants).eq_of_length_le ?_
  rw [List.length_map, ← hlen]
  exact length_le_schedule ho hsub hs hdue (Nat.le_of_eq hlen)

end CustomCommands.Countdown
