import CustomCommands.Dispatcher
import CustomCommands.Proofs.Siblings
import CustomCommands.Proofs.Verdicts

/-!
# Chains of literals

A child of exactly the name that is typed comes before whatever else could take
the word, so the names of a chain of literals lead down it and bind nothing
(`Place.walk_of_literalChain`). The permissions on the chain are all that can
stop a match (`Place.walk_of_closed`). The console has every permission, and
what stands at the end is run for it with no binding but its own name.
-/

namespace CustomCommands

theorem Argument.isOpen_console (a : Argument) : a.IsOpen .console :=
  fun _ _ => rfl

namespace Place

/-- Children that are literals lead from `p` to `v`, by their names and as they stand. -/
inductive LiteralChain : Place → List String → List Place → Place → Prop where
  | here (p : Place) : LiteralChain p [] [] p
  | down {p q v : Place} {keys : List String} {nodes : List Place} (child : q ∈ p.children)
      (literal : q.node.kind = .literal) (rest : LiteralChain q keys nodes v) :
      LiteralChain p (q.node.name :: keys) (q :: nodes) v

variable {root : Argument} {s : Sender} {i : Identity} {p q v : Place} {keys : List String}
  {nodes : List Place}

theorem select_name (h : p.node.Distinct) (hq : q ∈ p.children) :
    p.select i q.node.name = pure (some q) := by
  rw [select, find?_child h hq]

theorem bind_of_literal (h : q.node.kind = .literal) (word : String) (b : Bindings) :
    q.bind word b = b := by
  simp [bind, h]

theorem walk_name (h : p.node.Distinct) (hq : q ∈ p.children) (b : Bindings)
    (words : List String) :
    p.walk root s i b (q.node.name :: words) =
      match root.denial s q.node with
      | some d => pure d
      | none => q.walk root s i (q.bind q.node.name b) words := by
  rw [walk, select_name h hq]
  rfl

/-- A chain that the sender may use is walked to its end, and nothing is bound or told. -/
theorem walk_of_literalChain (hdistinct : p.node.Distinct) (h : p.LiteralChain keys nodes v)
    (hopen : ∀ q ∈ nodes, q.node.IsOpen s) (b : Bindings) :
    p.walk root s i b keys = pure (v.arrive b) := by
  induction h with
  | here p => rfl
  | down child literal rest ih =>
    obtain ⟨hq, hrest⟩ := List.forall_mem_cons.1 hopen
    rw [walk_name hdistinct child, Argument.denial_of_isOpen hq, bind_of_literal literal]
    exact ih (distinct_child hdistinct child) hrest

theorem walk_of_closed (hdistinct : p.node.Distinct) (h : p.LiteralChain keys nodes v)
    (hclosed : ∃ q ∈ nodes, ¬ q.node.IsOpen s) (b : Bindings) :
    ∃ message, (p.walk root s i b keys).value = .denied message := by
  induction h generalizing b with
  | here p => simp at hclosed
  | @down p q v keys nodes child literal rest ih =>
    rw [walk_name hdistinct child]
    by_cases hq : q.node.IsOpen s
    · rw [Argument.denial_of_isOpen hq]
      obtain ⟨q', hq', hclosed⟩ := hclosed
      rcases List.mem_cons.1 hq' with rfl | hq'
      · exact absurd hq hclosed
      · exact ih (distinct_child hdistinct child) ⟨q', hq', hclosed⟩ _
    · rw [Argument.denial_of_not_isOpen hq]
      exact ⟨_, rfl⟩

end Place

/-! ## Calls from the console -/

namespace Dispatcher

variable {N : Type} {now : Nat} {s : Sender} {c : Command} {r : Resolution} {d : Dispatcher N}

theorem perform_of_actions {actions : ActionSet} (hactions : r.place.node.traits.actions = some actions)
    (hdelay : r.place.node.traits.delay = none) :
    let once := Executor.run d.messages.playerOnly d.platform s r.bindings actions
    d.perform now s c r =
      { value := .completed c.name once.1
        after := { d with platform := once.2.platform }
        effects := once.2.effects
        notices := once.2.notices } := by
  simp only [perform, hdelay, hactions, Option.getD_some]

theorem dispatch_console [Currency N] {label : String} {args : List String}
    (hcommand : d.command? label = some c)
    (hmatched : c.tree.matchPath .console d.identity args = pure (.resolved r)) :
    d.dispatch now .console label args = (d.perform now .console c r).map .ok := by
  unfold dispatch
  simp only [hcommand, hmatched]
  rfl

end Dispatcher

/-! ## Matches and calls down a chain -/

namespace Argument

variable {tree : Argument} {s : Sender} {i : Identity} {keys : List String} {nodes : List Place}
  {v : Place}

theorem matchPath_of_literalChain (hdistinct : tree.Distinct)
    (h : (Place.root tree).LiteralChain keys nodes v) (hroot : tree.IsOpen s)
    (hnodes : ∀ q ∈ nodes, q.node.IsOpen s) :
    tree.matchPath s i keys = pure (v.arrive (.ofSender s.name)) := by
  rw [matchPath, denial_of_isOpen hroot]
  exact Place.walk_of_literalChain hdistinct h hnodes _

theorem matchPath_of_closed (hdistinct : tree.Distinct)
    (h : (Place.root tree).LiteralChain keys nodes v)
    (hclosed : ¬ (tree.IsOpen s ∧ ∀ q ∈ nodes, q.node.IsOpen s)) :
    ∃ message, (tree.matchPath s i keys).value = .denied message := by
  rw [matchPath]
  by_cases hroot : tree.IsOpen s
  · rw [denial_of_isOpen hroot]
    refine Place.walk_of_closed hdistinct h ?_ _
    simpa [hroot] using hclosed
  · rw [denial_of_not_isOpen hroot]
    exact ⟨_, rfl⟩

/-- **Literal chains.** In a tree in which no two siblings have one name, as in that of every unit
(`Command.distinct_ofText`), the names of a chain of literals resolve at its end and bind nothing
but the sender, whatever siblings take, exactly if the sender has the permissions of the root and
of all nodes of the chain, and the end has actions or a countdown. If it has actions and no
countdown, a call of a command with this tree from the console completes: the actions have been run
once, and nothing else was done, asked or told. -/
theorem literal_chain_runs {N : Type} [Currency N] (hdistinct : tree.Distinct)
    (hchain : (Place.root tree).LiteralChain keys nodes v) :
    (∀ s i, (tree.matchPath s i keys).value =
          .resolved { place := v, bindings := .ofSender s.name } ↔
        tree.IsOpen s ∧ (∀ q ∈ nodes, q.node.IsOpen s) ∧
          (v.node.traits.actions.isSome ∨ v.node.traits.delay.isSome)) ∧
    ∀ (d : Dispatcher N) (now : Nat) (label : String) (c : Command) (actions : ActionSet),
      d.command? label = some c → c.tree = tree →
      v.node.traits.actions = some actions → v.node.traits.delay = none →
      let once := Executor.run d.messages.playerOnly d.platform .console
        (.ofSender Sender.console.name) actions
      d.dispatch now .console label keys =
        { value := .ok (.completed c.name once.1)
          after := { d with platform := once.2.platform }
          effects := once.2.effects
          notices := once.2.notices } := by
  constructor
  · intro s i
    by_cases hopen : tree.IsOpen s ∧ ∀ q ∈ nodes, q.node.IsOpen s
    · rw [matchPath_of_literalChain hdistinct hchain hopen.1 hopen.2, ← isExecutable_iff,
        Noted.value_pure, Place.arrive]
      cases v.node.isExecutable with
      | false => simp
      | true => exact ⟨fun _ => ⟨hopen.1, hopen.2, rfl⟩, fun _ => rfl⟩
    · obtain ⟨message, hdenied⟩ := matchPath_of_closed (i := i) hdistinct hchain hopen
      rw [hdenied]
      constructor
      · intro h
        cases h
      · intro h
        exact absurd ⟨h.1, h.2.1⟩ hopen
  · intro d now label c actions hcommand htree hactions hdelay once
    have hmatched : c.tree.matchPath .console d.identity keys =
        pure (.resolved { place := v, bindings := .ofSender Sender.console.name }) := by
      rw [htree, matchPath_of_literalChain hdistinct hchain (isOpen_console tree)
        fun q _ => isOpen_console q.node, Place.arrive, isExecutable, hactions]
      rfl
    rw [Dispatcher.dispatch_console hcommand hmatched,
      Dispatcher.perform_of_actions hactions hdelay]
    rfl

theorem distinct_leaf (name : String) (traits : Traits) : (mk name traits []).Distinct :=
  .mk List.nodup_nil nofun

def departure : Argument :=
  .mk "now"
    { permission := some "warp.now"
      actions := some [("console", .list [.text "spawn \x7bsender\x7d"])] } []

def spawn : Argument :=
  .mk "spawn" {} [.mk "[when]" {} [], departure]

/-- Warps, of which the last has a name that those before it would take as well. -/
def warps : Argument :=
  .mk "warp" {}
    [.mk "\x7bspawn\x7d" { actions := some [("message", .list [.text "by another name"])] } [],
    .mk "[target]" { actions := some [("message", .list [.text "to [target]"])] } [],
    .mk "Spawn" {} [],
    spawn]

theorem distinct_warps : warps.Distinct := by
  refine .mk (by decide) ?_
  simp only [List.forall_mem_cons, List.not_mem_nil, false_implies, implies_true, and_true]
  refine ⟨distinct_leaf _ _, distinct_leaf _ _, distinct_leaf _ _, .mk (by decide) ?_⟩
  simp only [List.forall_mem_cons, List.not_mem_nil, false_implies, implies_true, and_true]
  exact ⟨distinct_leaf _ _, distinct_leaf _ _⟩

theorem literalChain_warps :
    (Place.root warps).LiteralChain ["spawn", "now"] [⟨4, spawn⟩, ⟨6, departure⟩]
      ⟨6, departure⟩ := by
  have hspawn : ⟨4, spawn⟩ ∈ (Place.root warps).children := List.mem_of_getElem? (i := 3) rfl
  have hnow : ⟨6, departure⟩ ∈ Place.children ⟨4, spawn⟩ := List.mem_of_getElem? (i := 1) rfl
  exact .down hspawn (by decide) (.down hnow (by decide) (.here _))

/-- A visitor without the permission does not get to the last warp; from the console, one is sent
there once. -/
theorem warps_spawn_now :
    let c : Command :=
      { name := "warp", usageMessage := none, aliases := [], price := .free, cooldown := none,
        tree := warps }
    let d : Dispatcher Rat := { catalogue := { entries := [{ command := c, aliases := [] }] } }
    let visitor : Sender := { name := "Alice", id := some ⟨1⟩ }
    let called := d.dispatch 0 .console "warp" ["spawn", "now"]
    (∀ i, (warps.matchPath visitor i ["spawn", "now"]).value ≠
        .resolved { place := ⟨6, departure⟩, bindings := .ofSender "Alice" }) ∧
      called.value = .ok (.completed "warp" { executed := 1, skipped := 0 }) ∧
      called.effects.length = 1 ∧ called.notices = [] := by
  intro c d visitor called
  obtain ⟨hresolved, hruns⟩ :=
    literal_chain_runs (N := Rat) distinct_warps literalChain_warps
  refine ⟨fun i hmatched => ?_, ?_⟩
  · obtain ⟨-, hnodes, -⟩ := (hresolved visitor i).1 hmatched
    have hnow := hnodes ⟨6, departure⟩ (by simp) "warp.now" rfl
    exact absurd hnow (by decide)
  · have hcommand : d.command? "warp" = some c := by
      simp [d, c, Dispatcher.command?, Catalogue.find?, Catalogue.Entry.answersTo,
        Catalogue.Entry.labels]
    have hcalled := hruns d 0 "warp" c _ hcommand rfl rfl rfl
    simp only [called, hcalled]
    exact ⟨by decide +kernel, by decide +kernel, by decide +kernel⟩

end Argument

end CustomCommands
