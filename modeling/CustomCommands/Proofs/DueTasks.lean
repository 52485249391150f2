import CustomCommands.Proofs.Countdowns

/-!
# Due tasks

A pump takes one task after the other from the queue, and puts countdowns back into
it as it goes. What it puts back is due later than now, so it might as well have
taken out all that was due first and then done it in order (`Dispatcher.pump_eq`):
what is put back is never taken again, and what is due is not reached any sooner or
later for it. Afterwards the queue holds what was due later as it stood, and the
countdowns that go on behind all that is due in a second (`Dispatcher.serve_queue`,
`TimerQueue.items_insertEach`).
-/

namespace CustomCommands

/-! ## Queues -/

namespace TimerQueue

variable {α : Type} {now due : Nat} {a : α} {q q' : TimerQueue α} {e : Timed α}

theorem eq_of_items (hitems : q.items = q'.items) (hnext : q.next = q'.next) : q = q' := by
  cases q
  cases q'
  cases hitems
  cases hnext
  rfl

def dueItems (now : Nat) (q : TimerQueue α) : List (Timed α) :=
  q.items.filter fun e => e.due ≤ now

def later (now : Nat) (q : TimerQueue α) : TimerQueue α where
  items := q.items.filter fun e => now < e.due
  next := q.next
  sorted := q.sorted.filter _
  numbered e he := q.numbered e (List.mem_filter.1 he).1

theorem filter_of_lt {items : List (Timed α)} (h : ∀ e ∈ items, now < e.due) :
    (items.filter fun e => e.due ≤ now) = [] ∧ (items.filter fun e => now < e.due) = items :=
  ⟨List.filter_eq_nil_iff.2 fun e he => by simpa using h e he,
    List.filter_eq_self.2 fun e he => by simpa using h e he⟩

theorem lt_due_of_mem {items : List (Timed α)} (h : e ∈ items.filter fun e => now < e.due) :
    now < e.due := by
  simpa using (List.mem_filter.1 h).2

theorem dueItems_of_none (h : q.takeDue now = none) : q.dueItems now = [] ∧ q.later now = q := by
  obtain ⟨hdue, hlater⟩ := filter_of_lt (lt_due_of_takeDue h)
  exact ⟨hdue, eq_of_items hlater rfl⟩

theorem dueItems_of_some (h : q.takeDue now = some (e, q')) :
    q.dueItems now = e :: q'.dueItems now ∧ q.later now = q'.later now := by
  obtain ⟨hitems, hdue, hnext⟩ := takeDue_eq_some h
  refine ⟨?_, eq_of_items ?_ hnext.symm⟩
  · rw [dueItems, hitems, List.filter_cons_of_pos (by simpa using hdue)]
    rfl
  · simp only [later]
    rw [hitems, List.filter_cons_of_neg (by simpa using hdue)]

theorem dueItems_insert (h : now < due) : (q.insert due a).dueItems now = q.dueItems now :=
  filter_insertSorted (by simpa using h) q.items

theorem filter_insertSorted_later (h : now < e.due) (items : List (Timed α)) :
    (insertSorted e items).filter (fun d => now < d.due) =
      insertSorted e (items.filter fun d => now < d.due) := by
  induction items with
  | nil => simp [insertSorted, h]
  | cons d items ih =>
    by_cases hle : d.due ≤ e.due
    · rw [insertSorted, if_pos hle]
      by_cases hd : now < d.due
      · rw [List.filter_cons_of_pos (by simpa using hd), ih,
          List.filter_cons_of_pos (by simpa using hd), insertSorted, if_pos hle]
      · rw [List.filter_cons_of_neg (by simpa using hd), ih,
          List.filter_cons_of_neg (by simpa using hd)]
    · have hd : now < d.due := by omega
      rw [insertSorted, if_neg hle, List.filter_cons_of_pos (by simpa using h),
        List.filter_cons_of_pos (by simpa using hd), insertSorted, if_neg hle]

theorem later_insert (h : now < due) :
    (q.insert due a).later now = (q.later now).insert due a :=
  eq_of_items (filter_insertSorted_later (e := ⟨due, q.next, a⟩) h q.items) rfl

theorem lt_due_of_head {d : Timed α} {items : List (Timed α)}
    (h : (d :: items).Pairwise Timed.Before) (hlt : due < d.due) : ∀ x ∈ d :: items, due < x.due := by
  intro x hx
  rcases List.mem_cons.1 hx with rfl | hx
  · exact hlt
  · have := List.rel_of_pairwise_cons h hx
    unfold Timed.Before at this
    omega

/-- In order, what falls due up to an instant stands before what falls due later. -/
theorem filter_append_filter {items : List (Timed α)} (h : items.Pairwise Timed.Before)
    (due : Nat) :
    (items.filter fun e => e.due ≤ due) ++ (items.filter fun e => due < e.due) = items := by
  induction items with
  | nil => rfl
  | cons d items ih =>
    by_cases hle : d.due ≤ due
    · rw [List.filter_cons_of_pos (by simpa using hle),
        List.filter_cons_of_neg (by simpa using hle), List.cons_append, ih h.of_cons]
    · obtain ⟨hnone, hall⟩ := filter_of_lt (lt_due_of_head h (by omega : due < d.due))
      rw [hnone, hall, List.nil_append]

/-- An item stands behind all that fall due no later, and before all others. -/
theorem insertSorted_eq {items : List (Timed α)} (h : items.Pairwise Timed.Before) (e : Timed α) :
    insertSorted e items =
      (items.filter fun d => d.due ≤ e.due) ++ e :: items.filter fun d => e.due < d.due := by
  induction items with
  | nil => rfl
  | cons d items ih =>
    by_cases hle : d.due ≤ e.due
    · rw [insertSorted, if_pos hle, ih h.of_cons, List.filter_cons_of_pos (by simpa using hle),
        List.filter_cons_of_neg (by simpa using hle), List.cons_append]
    · obtain ⟨hnone, hall⟩ := filter_of_lt (lt_due_of_head h (by omega : e.due < d.due))
      rw [insertSorted, if_neg hle, hnone, hall, List.nil_append]

theorem filter_insert (due : Nat) (a : α) (q : TimerQueue α) :
    (q.insert due a).items.filter (fun e => e.due ≤ due) =
        (q.items.filter fun e => e.due ≤ due) ++ [⟨due, q.next, a⟩] ∧
      (q.insert due a).items.filter (fun e => due < e.due) =
        q.items.filter fun e => due < e.due := by
  refine ⟨?_, filter_insertSorted (by simp) q.items⟩
  have hitems : (q.insert due a).items = _ := insertSorted_eq q.sorted ⟨due, q.next, a⟩
  have hlater : (q.items.filter fun e => due < e.due).filter (fun e => e.due ≤ due) = [] :=
    (filter_of_lt fun _ he => lt_due_of_mem he).1
  rw [hitems, List.filter_append, List.filter_cons_of_pos (by simp), hlater, List.filter_filter]
  simp only [Bool.and_self]

def insertEach (due : Nat) (q : TimerQueue α) (values : List α) : TimerQueue α :=
  values.foldl (fun q a => q.insert due a) q

/-- They stand together, in the order in which they came, behind all that was there for that
instant. -/
theorem items_insertEach (due : Nat) (q : TimerQueue α) (values : List α) :
    (q.insertEach due values).items =
      (q.items.filter fun e => e.due ≤ due) ++
        (values.zipIdx q.next).map (fun (a, n) => ⟨due, n, a⟩) ++
          q.items.filter fun e => due < e.due := by
  induction values generalizing q with
  | nil => rw [List.zipIdx_nil, List.map_nil, List.append_nil, filter_append_filter q.sorted]; rfl
  | cons a values ih =>
    have hstep : q.insertEach due (a :: values) = (q.insert due a).insertEach due values := rfl
    have hnext : (q.insert due a).next = q.next + 1 := rfl
    obtain ⟨hle, hlt⟩ := filter_insert due a q
    rw [hstep, ih, hle, hlt, hnext, List.zipIdx_cons, List.map_cons, List.append_assoc _ [_],
      List.singleton_append]

end TimerQueue

/-! ## Tasks in turn -/

/-- What is left of a task that was done and goes on. -/
def Task.again? : Task → Option Task
  | .cleanup _ => none
  | .phased x => if x.next.countdown.isDone then none else some (.phased x.next)

namespace Dispatcher

variable {N : Type} {now : Nat}

/-- Does tasks in turn, whenever they may be due. -/
def serve (now : Nat) (d : Dispatcher N) : List Task → Act N Unit
  | [] => { value := (), after := d }
  | t :: tasks =>
    let first := d.runTask now t
    let rest := first.after.serve now tasks
    { value := ()
      after := rest.after
      effects := first.effects ++ rest.effects
      notices := first.notices ++ rest.notices }

theorem runTask_queue (now : Nat) (t : Task) (d : Dispatcher N) :
    (d.runTask now t).after.queue = d.queue.insertEach (now + tickPeriod) t.again?.toList := by
  cases t with
  | cleanup x => rfl
  | phased x =>
    simp only [runTask, Phased.tick_eq, Task.again?]
    cases x.next.countdown.isDone <;> rfl

theorem serve_queue (now : Nat) (d : Dispatcher N) (tasks : List Task) :
    (d.serve now tasks).after.queue =
      d.queue.insertEach (now + tickPeriod) (tasks.filterMap Task.again?) := by
  induction tasks generalizing d with
  | nil => rfl
  | cons t tasks ih =>
    have hagain : (t :: tasks).filterMap Task.again? =
        t.again?.toList ++ tasks.filterMap Task.again? := by
      cases h : t.again? with
      | none => rw [List.filterMap_cons_none h]; rfl
      | some u => rw [List.filterMap_cons_some h]; rfl
    rw [serve, ih, runTask_queue, hagain, TimerQueue.insertEach, TimerQueue.insertEach,
      TimerQueue.insertEach, List.foldl_append]

/-- What is left of a task is not due yet, so it makes no difference to a task whether what is due
is out of the queue. -/
theorem runTask_later (now : Nat) (t : Task) (d : Dispatcher N) :
    ({ d with queue := d.queue.later now } : Dispatcher N).runTask now t =
      { d.runTask now t with
        after :=
          { (d.runTask now t).after with queue := (d.runTask now t).after.queue.later now } } := by
  cases t with
  | cleanup x => rfl
  | phased x =>
    simp only [runTask]
    split
    · rw [TimerQueue.later_insert (lt_add_tickPeriod now)]
    · rfl

theorem dueItems_runTask (now : Nat) (t : Task) (d : Dispatcher N) :
    (d.runTask now t).after.queue.dueItems now = d.queue.dueItems now := by
  rw [runTask_queue]
  cases t.again? with
  | none => rfl
  | some u => exact TimerQueue.dueItems_insert (lt_add_tickPeriod now)

/-- A pump does what was due at its start, in order, with all of it out of the queue. -/
theorem pump_eq (now : Nat) (d : Dispatcher N) :
    d.pump now =
      (({ d with queue := d.queue.later now } : Dispatcher N).serve now
        ((d.queue.dueItems now).map Timed.value)).map fun _ => (d.queue.dueItems now).length := by
  fun_induction pump now d with
  | case1 d hq =>
    obtain ⟨hdue, hlater⟩ := TimerQueue.dueItems_of_none hq
    rw [hdue, hlater]
    rfl
  | case2 d e queue hq first rest ih =>
    obtain ⟨hdue, hlater⟩ := TimerQueue.dueItems_of_some hq
    have hfirst : ({ d with queue := queue.later now } : Dispatcher N).runTask now e.value =
        { first with after := { first.after with queue := first.after.queue.later now } } :=
      runTask_later now e.value { d with queue }
    have hsame : first.after.queue.dueItems now = queue.dueItems now :=
      dueItems_runTask now e.value { d with queue }
    rw [hdue, hlater, List.map_cons, serve, hfirst]
    simp only [rest, ih, hsame, Act.map, List.length_cons]

/-- **A pump drains what is due.** It does what was due at its start and nothing else, once each
and in order, and says how much that was. Afterwards the queue holds the rest as it stood, with the
countdowns that go on behind all that is due in a second, and nothing in it is due. -/
theorem pump_drains (now : Nat) (d : Dispatcher N) :
    let due := d.queue.items.filter fun e => e.due ≤ now
    let later := d.queue.items.filter fun e => now < e.due
    let next := now + tickPeriod
    let again := (due.map Timed.value).filterMap Task.again?
    due.Pairwise Timed.Before ∧
      (d.pump now).value = due.length ∧
      d.pump now =
        (({ d with queue := d.queue.later now } : Dispatcher N).serve now
          (due.map Timed.value)).map (fun _ => due.length) ∧
      (∃ front back, later = front ++ back ∧
        (∀ e ∈ front, e.due ≤ next) ∧ (∀ e ∈ back, next < e.due) ∧
        (d.pump now).after.queue.items =
          front ++ (again.zipIdx d.queue.next).map (fun (t, n) => ⟨next, n, t⟩) ++ back) ∧
      ∀ e ∈ (d.pump now).after.queue.items, now < e.due := by
  intro due later next again
  have hpump : d.pump now = _ := pump_eq now d
  have hqueue : (d.pump now).after.queue = (d.queue.later now).insertEach next again := by
    rw [hpump, Act.map, serve_queue]
    rfl
  have hitems := TimerQueue.items_insertEach next (d.queue.later now) again
  rw [← hqueue] at hitems
  refine ⟨d.queue.sorted.filter _, by rw [hpump]; rfl, hpump,
    ⟨later.filter fun e => e.due ≤ next, later.filter fun e => next < e.due,
      (TimerQueue.filter_append_filter (d.queue.later now).sorted next).symm,
      fun e he => by simpa using (List.mem_filter.1 he).2,
      fun e he => TimerQueue.lt_due_of_mem he, hitems⟩, ?_⟩
  intro e he
  rw [hitems, List.mem_append, List.mem_append] at he
  rcases he with (he | he) | he
  · exact TimerQueue.lt_due_of_mem (List.mem_filter.1 he).1
  · obtain ⟨⟨t, n⟩, -, rfl⟩ := List.mem_map.1 he
    exact lt_add_tickPeriod now
  · exact TimerQueue.lt_due_of_mem (List.mem_filter.1 he).1

end Dispatcher

end CustomCommands
