/-!
# Timer queues

Items that fall due at instants, in the order of the instants and among equal
ones in the order in which they were put in. Items are numbered as they come in,
and no number is given twice.
-/

namespace CustomCommands

structure Timed (α : Type) where
  due : Nat
  number : Nat
  value : α

/-- Is `a` due before `b`, or at the same instant and was put in earlier? -/
def Timed.Before {α : Type} (a b : Timed α) : Prop :=
  a.due < b.due ∨ a.due = b.due ∧ a.number < b.number

structure TimerQueue (α : Type) where
  items : List (Timed α) := []
  /-- The number of the next item. -/
  next : Nat := 0
  sorted : items.Pairwise Timed.Before := by simp
  numbered : ∀ e ∈ items, e.number < next := by simp

namespace TimerQueue

variable {α : Type}

def empty : TimerQueue α := {}

/-- Puts an item behind all that fall due no later. -/
def insertSorted (e : Timed α) : List (Timed α) → List (Timed α)
  | [] => [e]
  | d :: items => if d.due ≤ e.due then d :: insertSorted e items else e :: d :: items

theorem mem_insertSorted {a e : Timed α} {items : List (Timed α)} :
    a ∈ insertSorted e items ↔ a = e ∨ a ∈ items := by
  induction items with
  | nil => simp [insertSorted]
  | cons d items ih =>
    rw [insertSorted]
    split
    · rw [List.mem_cons, ih, List.mem_cons, or_left_comm]
    · rw [List.mem_cons]

theorem pairwise_insertSorted {e : Timed α} {items : List (Timed α)}
    (hn : ∀ d ∈ items, d.number < e.number) (h : items.Pairwise Timed.Before) :
    (insertSorted e items).Pairwise Timed.Before := by
  induction items with
  | nil => simp [insertSorted]
  | cons d items ih =>
    rw [List.pairwise_cons] at h
    have hd := hn d List.mem_cons_self
    simp only [insertSorted]
    split
    · rename_i hle
      refine List.pairwise_cons.2 ⟨?_, ih (fun b hb => hn b (List.mem_cons_of_mem _ hb)) h.2⟩
      intro b hb
      rcases mem_insertSorted.1 hb with rfl | hb
      · unfold Timed.Before; omega
      · exact h.1 b hb
    · refine List.pairwise_cons.2 ⟨?_, List.pairwise_cons.2 h⟩
      intro b hb
      rcases List.mem_cons.1 hb with rfl | hb
      · unfold Timed.Before; omega
      · have := h.1 b hb
        unfold Timed.Before at this ⊢; omega

def insert (due : Nat) (a : α) (q : TimerQueue α) : TimerQueue α where
  items := insertSorted ⟨due, q.next, a⟩ q.items
  next := q.next + 1
  sorted := pairwise_insertSorted q.numbered q.sorted
  numbered e he := by
    rcases mem_insertSorted.1 he with rfl | he
    · exact Nat.lt_succ_self _
    · exact Nat.lt_succ_of_lt (q.numbered e he)

/-- The first item that is due at `now`, and the queue without it. -/
def takeDue (now : Nat) (q : TimerQueue α) : Option (Timed α × TimerQueue α) :=
  match h : q.items with
  | [] => none
  | e :: items =>
    if e.due ≤ now then
      some (e,
        { items
          next := q.next
          sorted := (List.pairwise_cons.1 (h ▸ q.sorted)).2
          numbered := fun a ha => q.numbered a (h ▸ List.mem_cons_of_mem _ ha) })
    else none

def popDue (now : Nat) (q : TimerQueue α) : Option (α × TimerQueue α) :=
  (q.takeDue now).map fun (e, q) => (e.value, q)

def nextDue (q : TimerQueue α) : Option Nat :=
  q.items.head?.map Timed.due

def size (q : TimerQueue α) : Nat :=
  q.items.length

def dueCount (now : Nat) (q : TimerQueue α) : Nat :=
  q.items.countP fun e => e.due ≤ now

/-! ## Counting what is due -/

theorem countP_insertSorted (p : Timed α → Bool) (e : Timed α) (items : List (Timed α)) :
    (insertSorted e items).countP p = items.countP p + if p e then 1 else 0 := by
  induction items with
  | nil => simp [insertSorted, List.countP_cons]
  | cons d items ih =>
    rw [insertSorted]
    split
    · rw [List.countP_cons, ih, List.countP_cons, Nat.add_right_comm]
    · rw [List.countP_cons]

theorem dueCount_insert_later {now due : Nat} (h : now < due) (a : α) (q : TimerQueue α) :
    (q.insert due a).dueCount now = q.dueCount now := by
  simp [insert, dueCount, countP_insertSorted, Nat.not_le.2 h]

/-! ## Taking items out -/

theorem takeDue_eq_some {now : Nat} {q q' : TimerQueue α} {e : Timed α}
    (h : q.takeDue now = some (e, q')) :
    q.items = e :: q'.items ∧ e.due ≤ now ∧ q'.next = q.next := by
  unfold takeDue at h
  split at h
  · cases h
  · rename_i e' items hq
    split at h
    · simp only [Option.some.injEq, Prod.mk.injEq] at h
      obtain ⟨rfl, rfl⟩ := h
      exact ⟨hq, ‹_›, rfl⟩
    · cases h

theorem lt_due_of_takeDue {now : Nat} {q : TimerQueue α} (h : q.takeDue now = none) :
    ∀ e ∈ q.items, now < e.due := by
  have hs := q.sorted
  unfold takeDue at h
  split at h
  · rename_i hq; simp [hq]
  · rename_i d items hq
    split at h
    · cases h
    · rw [hq, List.pairwise_cons] at hs
      intro e he
      rw [hq] at he
      rcases List.mem_cons.1 he with rfl | he
      · omega
      · have := hs.1 e he
        unfold Timed.Before at this; omega

theorem dueCount_takeDue {now : Nat} {q q' : TimerQueue α} {e : Timed α}
    (h : q.takeDue now = some (e, q')) : q'.dueCount now + 1 = q.dueCount now := by
  obtain ⟨hq, hd, -⟩ := takeDue_eq_some h
  simp [dueCount, hq, hd]

/-! ## Items by their numbers -/

def withNumber (k : Nat) (q : TimerQueue α) : List (Timed α) :=
  q.items.filter fun e => e.number = k

def lastNumber (q : TimerQueue α) : Nat :=
  q.next - 1

theorem filter_insertSorted {p : Timed α → Bool} {e : Timed α} (h : p e = false)
    (items : List (Timed α)) : (insertSorted e items).filter p = items.filter p := by
  induction items with
  | nil => simp [insertSorted, h]
  | cons d items ih =>
    simp only [insertSorted]
    split
    · rw [List.filter_cons, ih, List.filter_cons]
    · rw [List.filter_cons_of_neg (by simp [h])]

theorem filter_insertSorted_self {p : Timed α → Bool} {e : Timed α} (h : p e = true)
    {items : List (Timed α)} (hn : ∀ d ∈ items, p d = false) :
    (insertSorted e items).filter p = [e] := by
  induction items with
  | nil => simp [insertSorted, h]
  | cons d items ih =>
    have hd := hn d List.mem_cons_self
    have hi : ∀ a ∈ items, p a = false := fun a ha => hn a (List.mem_cons_of_mem _ ha)
    simp only [insertSorted]
    split
    · rw [List.filter_cons_of_neg (by simp [hd]), ih hi]
    · rw [List.filter_cons_of_pos h, List.filter_eq_nil_iff.2 (by simpa using hn)]

theorem withNumber_insert {k : Nat} {q : TimerQueue α} (h : k < q.next) (due : Nat) (a : α) :
    (q.insert due a).withNumber k = q.withNumber k := by
  refine filter_insertSorted ?_ q.items
  simp only [decide_eq_false_iff_not]
  omega

theorem withNumber_insert_next (due : Nat) (a : α) (q : TimerQueue α) :
    (q.insert due a).withNumber q.next = [⟨due, q.next, a⟩] := by
  refine filter_insertSorted_self (by simp) ?_
  intro d hd
  have := q.numbered d hd
  simp only [decide_eq_false_iff_not]
  omega

theorem withNumber_takeDue {now : Nat} {q q' : TimerQueue α} {e : Timed α}
    (h : q.takeDue now = some (e, q')) (k : Nat) :
    q.withNumber k = if e.number = k then e :: q'.withNumber k else q'.withNumber k := by
  obtain ⟨hq, -, -⟩ := takeDue_eq_some h
  unfold withNumber
  rw [hq, List.filter_cons]
  simp only [decide_eq_true_eq]

end TimerQueue

end CustomCommands
