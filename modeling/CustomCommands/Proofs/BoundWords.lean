import CustomCommands.Proofs.Selection

/-!
# What a path binds

A match binds the sender's name first and then, on the way down, the name of each
placeholder to the word that it took. A name that comes again on the path is bound
again, so it stands for the word of the deepest step at a placeholder of that name
(`Place.binder?`), and what has no such step is bound as it was for the sender
(`Argument.get?_of_resolved`). The key of the sender is no exception: a node in
braces may have it for its name, and then it stands for the word that was typed and
no longer for the sender.
-/

namespace CustomCommands

namespace Place

/-- The last step of a path at a placeholder of its name. -/
def Deepest (path : List (String × Place)) (x : String × Place) : Prop :=
  x.2.node.kind ≠ .literal ∧ ∃ above below, path = above ++ x :: below ∧
    ∀ y ∈ below, y.2.node.kind ≠ .literal → y.2.node.name ≠ x.2.node.name

theorem Deepest.mem {path : List (String × Place)} {x : String × Place} (h : Deepest path x) :
    x ∈ path := by
  obtain ⟨-, above, below, rfl, -⟩ := h
  exact List.mem_append_right above List.mem_cons_self

/-- The step whose word a name is bound to, if the path has a placeholder of that name. -/
def binder? (key : String) (path : List (String × Place)) : Option (String × Place) :=
  path.reverse.find? fun x => x.2.node.kind != .literal && x.2.node.name == key

theorem binder?_eq_some_iff {key : String} {path : List (String × Place)} {x : String × Place} :
    binder? key path = some x ↔ Deepest path x ∧ x.2.node.name = key := by
  rw [binder?, List.find?_eq_some_iff_append]
  simp only [Bool.and_eq_true, bne_iff_ne, beq_iff_eq, Bool.not_eq_true', Bool.and_eq_false_imp,
    beq_eq_false_iff_ne]
  constructor
  · rintro ⟨⟨hkind, rfl⟩, below, above, hpath, hbelow⟩
    refine ⟨⟨hkind, above.reverse, below.reverse, ?_, fun y hy => ?_⟩, rfl⟩
    · rw [← List.reverse_inj, hpath]
      simp
    · exact hbelow y (List.mem_reverse.1 hy)
  · rintro ⟨⟨hkind, above, below, rfl, hbelow⟩, rfl⟩
    refine ⟨⟨hkind, rfl⟩, below.reverse, above.reverse, by simp, fun y hy => ?_⟩
    exact hbelow y (List.mem_reverse.1 hy)

theorem isSome_binder?_iff {key : String} {path : List (String × Place)} :
    (binder? key path).isSome ↔
      ∃ x ∈ path, x.2.node.kind ≠ .literal ∧ x.2.node.name = key := by
  rw [binder?, List.find?_isSome]
  simp only [List.mem_reverse, Bool.and_eq_true, bne_iff_ne, beq_iff_eq]

end Place

namespace Argument

variable {tree : Argument} {s : Sender} {i : Identity} {words : List String} {r : Resolution}

theorem walk_of_resolved (h : (tree.matchPath s i words).value = .resolved r) :
    ((Place.root tree).walk tree s i (.ofSender s.name) words).value = .resolved r := by
  unfold matchPath at h
  split at h
  · rename_i d hd
    obtain ⟨message, rfl⟩ := Place.denied_of_denial hd
    cases h
  · exact h

theorem get?_of_resolved (h : (tree.matchPath s i words).value = .resolved r) (key : String) :
    r.bindings.get? key =
      ((Place.binder? key ((Place.root tree).trail i words)).map Prod.fst).or
        (if Bindings.senderKey = key then some s.name else none) := by
  obtain ⟨-, -, hb⟩ := Place.walk_resolved (walk_of_resolved h)
  rw [hb, Place.get?_foldl_bind, Bindings.ofSender, Bindings.get?_insert, Place.binder?]
  rfl

/-- **What a resolution binds.** Let a path resolve, with a step for each of its words. The name of
each placeholder on it, with its brackets or braces, is bound to the word of the deepest step at a
placeholder of that name. The key of the sender is bound to the sender's name exactly if no
placeholder on the path has that key for its name, or the deepest that has took the sender's name
for its word. And nothing else is bound than these names and that key. -/
theorem matchPath_binds (h : (tree.matchPath s i words).value = .resolved r) :
    let path := (Place.root tree).trail i words
    path.map Prod.fst = words ∧
    r.place = (path.getLast?.map Prod.snd).getD (.root tree) ∧
    (∀ x, Place.Deepest path x → r.bindings.get? x.2.node.name = some x.1) ∧
    (r.bindings.get? Bindings.senderKey = some s.name ↔
      ∀ x, Place.Deepest path x → x.2.node.name = Bindings.senderKey → x.1 = s.name) ∧
    ∀ key, (r.bindings.get? key).isSome ↔
      key = Bindings.senderKey ∨ ∃ x ∈ path, x.2.node.kind ≠ .literal ∧ x.2.node.name = key := by
  intro path
  obtain ⟨hwords, hplace, -⟩ := Place.walk_resolved (walk_of_resolved h)
  have hget := get?_of_resolved h
  refine ⟨hwords, hplace, fun x hx => ?_, ?_, fun key => ?_⟩
  · rw [hget, Place.binder?_eq_some_iff.2 ⟨hx, rfl⟩]
    rfl
  · rw [hget]
    cases hlast : Place.binder? Bindings.senderKey ((Place.root tree).trail i words) with
    | none =>
      refine iff_of_true rfl fun x hx hname => ?_
      rw [Place.binder?_eq_some_iff.2 ⟨hx, hname⟩] at hlast
      cases hlast
    | some y =>
      simp only [Option.map_some, Option.some_or, Option.some.injEq]
      constructor
      · intro hy x hx hname
        rw [Place.binder?_eq_some_iff.2 ⟨hx, hname⟩, Option.some.injEq] at hlast
        rw [hlast, hy]
      · intro hall
        obtain ⟨hy, hname⟩ := Place.binder?_eq_some_iff.1 hlast
        exact hall y hy hname
  · rw [hget, Option.isSome_or, Bool.or_eq_true, Option.isSome_map, Place.isSome_binder?_iff,
      or_comm]
    refine or_congr ?_ Iff.rfl
    by_cases hkey : Bindings.senderKey = key
    · simp [hkey]
    · simp [hkey, Ne.symm hkey]

def relayWhom : Argument :=
  .mk "[who]" { actions := some [("console", .list [.text "tell [who] hello"])] } []

def relayTo : Argument :=
  .mk "to" {} [relayWhom]

def relayWho : Argument :=
  .mk "[who]" {} [relayTo]

def relay : Argument :=
  .mk "relay" {} [relayWho]

/-- The name stands for the word of the deeper node, and the literal between them for nothing. -/
theorem relay_binds_last :
    ∃ r, (relay.matchPath .console { platform := {} } ["Bob", "to", "Carol"]).value =
        .resolved r ∧
      r.bindings.get? "[who]" = some "Carol" ∧
      r.bindings.get? Bindings.senderKey = some Sender.console.name ∧
      (r.bindings.get? "to").isSome = false := by
  have h : (relay.matchPath .console { platform := {} } ["Bob", "to", "Carol"]).value =
      .resolved _ := rfl
  obtain ⟨-, -, hdeepest, hsender, hbound⟩ := matchPath_binds h
  have hpath : (Place.root relay).trail { platform := {} } ["Bob", "to", "Carol"] =
      [("Bob", ⟨1, relayWho⟩), ("to", ⟨2, relayTo⟩), ("Carol", ⟨3, relayWhom⟩)] := rfl
  rw [hpath] at hdeepest hsender hbound
  refine ⟨_, h, ?_, ?_, ?_⟩
  · exact hdeepest ("Carol", ⟨3, relayWhom⟩)
      ⟨by decide, [("Bob", ⟨1, relayWho⟩), ("to", ⟨2, relayTo⟩)], [], rfl, nofun⟩
  · refine hsender.2 fun x hx hname => ?_
    have hother : ∀ x ∈ [("Bob", (⟨1, relayWho⟩ : Place)), ("to", ⟨2, relayTo⟩),
        ("Carol", ⟨3, relayWhom⟩)], x.2.node.name ≠ Bindings.senderKey := by
      decide
    exact absurd hname (hother x hx.mem)
  · rw [Bool.eq_false_iff, ne_eq, hbound]
    decide

/-- A command with an argument in braces that has the name of the sender's key. -/
def report : Argument :=
  .mk "report" {}
    [.mk Bindings.senderKey { actions := some [("console", .list [.text "warn \x7bsender\x7d"])] } []]

/-- The word that was typed takes the place of the sender's name. -/
theorem report_sender_replaced :
    let alice : Sender := { name := "Alice", id := some ⟨1⟩ }
    ∃ r, (report.matchPath alice { platform := {} } ["SENDER"]).value = .resolved r ∧
      r.bindings.get? Bindings.senderKey = some "SENDER" ∧
      r.bindings.get? Bindings.senderKey ≠ some alice.name :=
  ⟨_, rfl, by decide +kernel, by decide +kernel⟩

end Argument

end CustomCommands
