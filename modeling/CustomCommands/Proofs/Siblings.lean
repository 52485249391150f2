import CustomCommands.Files.Loader
import CustomCommands.Matching

/-!
# Names of siblings

The children of a node stand in a mapping under their names, so no two of them
have one name. That holds of every definition that can be read
(`Definition.distinct_read`), since a name that is given again replaces what it
stood for before, and so of the tree of every command that a unit defines
(`Command.distinct_ofText`). In such a tree a name leads to one child
(`Place.find?_child`).
-/

namespace CustomCommands

/-! ## Definitions -/

/-- No two arguments side by side have one name, at any level. -/
inductive Definition.Distinct : Definition → Prop where
  | mk {traits : Traits} {arguments : List (String × Definition)}
      (names : (Assoc.keys arguments).Nodup) (below : ∀ a ∈ arguments, Distinct a.2) :
      Distinct (.mk traits arguments)

theorem mem_of_mapM {α β : Type} {f : α → Option β} {as : List α} {bs : List β}
    (h : as.mapM f = some bs) {b : β} (hb : b ∈ bs) : ∃ a ∈ as, f a = some b := by
  induction as generalizing bs with
  | nil => cases h; cases hb
  | cons a as ih =>
    simp only [List.mapM_cons, Option.bind_eq_bind, Option.bind_eq_some_iff, Option.pure_def,
      Option.some.injEq] at h
    obtain ⟨b', hb', bs', hbs', rfl⟩ := h
    rcases List.mem_cons.1 hb with rfl | hb
    · exact ⟨a, List.mem_cons_self, hb'⟩
    · obtain ⟨a', ha', hfa'⟩ := ih hbs' hb
      exact ⟨a', List.mem_cons_of_mem _ ha', hfa'⟩

namespace Markup.Node

/-- The entries of a mapping have distinct keys, and each was read from a node. -/
theorem dictionary?_spec {α : Type} {read : Node → Option α} {n : Node} {es : List (String × α)}
    (h : n.dictionary? read = some es) :
    (Assoc.keys es).Nodup ∧ ∀ e ∈ es, ∃ m, read m = some e.2 := by
  simp only [dictionary?, Option.bind_eq_bind, Option.bind_eq_some_iff, Option.some.injEq] at h
  obtain ⟨entries, -, given, hgiven, rfl⟩ := h
  refine ⟨Assoc.nodup_ofList given, fun e he => ?_⟩
  obtain ⟨⟨key, m⟩, -, hm⟩ := mem_of_mapM hgiven (Assoc.mem_of_mem_ofList he)
  obtain ⟨a, ha, rfl⟩ := Option.map_eq_some_iff.1 hm
  exact ⟨m, ha⟩

theorem fieldOr_dictionary?_spec {α : Type} {read : Node → Option α} {field : Option Node}
    {es : List (String × α)} (h : fieldOr [] (dictionary? read) field = some es) :
    (Assoc.keys es).Nodup ∧ ∀ e ∈ es, ∃ m, read m = some e.2 := by
  cases field with
  | none => cases h; exact ⟨List.nodup_nil, nofun⟩
  | some n => exact dictionary?_spec h

end Markup.Node

open Markup (Node)

theorem Definition.distinct_mk {read : Node → Option Definition}
    (hread : ∀ m d, read m = some d → d.Distinct) {field : Option Node} {traits : Traits}
    {arguments : List (String × Definition)}
    (h : Node.fieldOr [] (Node.dictionary? read) field = some arguments) :
    (Definition.mk traits arguments).Distinct := by
  obtain ⟨hnames, hentries⟩ := Node.fieldOr_dictionary?_spec h
  refine .mk hnames fun a ha => ?_
  obtain ⟨m, hm⟩ := hentries a ha
  exact hread m a.2 hm

theorem Definition.distinct_read {fuel : Nat} {n : Node} {d : Definition}
    (h : Definition.read fuel n = some d) : d.Distinct := by
  induction fuel generalizing n d with
  | zero => cases h
  | succ fuel ih =>
    simp only [Definition.read, Option.bind_eq_bind, Option.bind_eq_some_iff] at h
    obtain ⟨fields, -, h⟩ := h
    split at h
    · simp only [Option.bind_eq_some_iff, Option.some.injEq] at h
      obtain ⟨traits, -, arguments, harguments, rfl⟩ := h
      exact distinct_mk (fun _ _ => ih) harguments
    · cases h

theorem CommandDefinition.distinct_read {n : Node} {d : CommandDefinition}
    (h : CommandDefinition.read n = some d) : d.root.Distinct := by
  simp only [CommandDefinition.read, Option.bind_eq_bind, Option.bind_eq_some_iff] at h
  obtain ⟨fields, -, h⟩ := h
  split at h
  · simp only [Option.bind_eq_some_iff, Option.some.injEq] at h
    obtain ⟨traits, -, usage, -, aliases, -, cost, -, cooldown, -, arguments, harguments, rfl⟩ := h
    exact Definition.distinct_mk (fun _ _ => Definition.distinct_read) harguments
  · cases h

/-! ## Trees -/

namespace Argument

/-- No two children of a node have one name, at any level. -/
inductive Distinct : Argument → Prop where
  | mk {name : String} {traits : Traits} {children : List Argument}
      (names : (children.map Argument.name).Nodup) (below : ∀ a ∈ children, Distinct a) :
      Distinct (.mk name traits children)

theorem Distinct.names {a : Argument} (h : a.Distinct) : (a.children.map Argument.name).Nodup := by
  cases h with
  | mk names below => exact names

theorem Distinct.of_mem_children {a b : Argument} (h : a.Distinct) (hb : b ∈ a.children) :
    b.Distinct := by
  cases h with
  | mk names below => exact below b hb

theorem name_ofDefinition (name : String) (d : Definition) :
    (ofDefinition name d).name = name := by
  cases d; rfl

theorem ofArguments_eq (ds : List (String × Definition)) :
    ofArguments ds = ds.map fun e => ofDefinition e.1 e.2 := by
  induction ds with
  | nil => rfl
  | cons e ds ih => rw [ofArguments, ih]; rfl

theorem distinct_ofDefinition {d : Definition} (h : d.Distinct) (name : String) :
    (ofDefinition name d).Distinct := by
  induction h generalizing name with
  | @mk traits arguments names below ih =>
    rw [ofDefinition, ofArguments_eq]
    refine .mk ?_ fun a ha => ?_
    · rw [List.map_map]
      have hname : Argument.name ∘ (fun e : String × Definition => ofDefinition e.1 e.2) =
          Prod.fst := funext fun e => name_ofDefinition e.1 e.2
      rw [hname]
      exact names
    · obtain ⟨e, he, rfl⟩ := List.mem_map.1 ha
      exact ih e he e.1

end Argument

theorem Command.tree_ofDefinition {name : String} {d : CommandDefinition} {c : Command}
    (h : Command.ofDefinition name d = .ok c) : c.tree = .ofDefinition name d.root := by
  unfold Command.ofDefinition at h
  split at h
  · cases h
  · split at h
    · cases h
    · split at h
      · cases h
      · cases h; rfl

/-- Every command that a unit defines has a tree in which no two siblings have one name. -/
theorem Command.distinct_ofText {format : UnitFormat} {name text : String} {c : Command}
    (h : Command.ofText .standard format name text = .ok c) : c.tree.Distinct := by
  unfold Command.ofText at h
  split at h
  · cases h
  · rename_i d hd
    have hread : ∃ n, CommandDefinition.read n = some d := by
      cases format <;>
      · obtain ⟨n, -, hn⟩ := Option.bind_eq_some_iff.1 hd
        exact ⟨n, hn⟩
    obtain ⟨n, hn⟩ := hread
    cases hc : Command.ofDefinition name d with
    | error e => rw [hc] at h; cases h
    | ok c' =>
      rw [hc] at h
      cases h
      rw [Command.tree_ofDefinition hc]
      exact Argument.distinct_ofDefinition (CommandDefinition.distinct_read hn) name

/-! ## Children by their names -/

namespace Place

variable {p q : Place}

theorem node_mem_children (hq : q ∈ p.children) : q.node ∈ p.node.children := by
  rw [← map_node_children]
  exact List.mem_map_of_mem hq

theorem distinct_child (h : p.node.Distinct) (hq : q ∈ p.children) : q.node.Distinct :=
  h.of_mem_children (node_mem_children hq)

theorem find?_child (h : p.node.Distinct) (hq : q ∈ p.children) :
    (p.children.find? fun c => c.node.name == q.node.name) = some q := by
  have hnames := h.names
  rw [← map_node_children, List.map_map] at hnames
  exact Assoc.find?_of_nodup hnames hq rfl

end Place

end CustomCommands
