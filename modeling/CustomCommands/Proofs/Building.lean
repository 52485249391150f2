import CustomCommands.Proofs.BoundWords
import CustomCommands.Proofs.Rows

/-!
# Building rows

The rows can be put down while the definition is read: the row of a node comes first,
and is told of each child once the child stands there with all that is below it
(`Arena.build`). What stands before is left alone but for the parent's row
(`pushAll_eq`), so the rows are those of the finished tree (`build_eq_arena`). The
places that words lead to have their rows among them, at their numbers
(`Place.StandsIn.trail`).
-/

namespace CustomCommands

namespace Arena

open Argument (rowsFrom rowsOf numbered ofDefinition ofArguments)

def adopt (parent : Nat) (name : String) (id : Nat) (rows : Arena) : Arena :=
  rows.modify parent fun row => { row with children := Assoc.insert name id row.children }

mutual

/-- Puts a node behind the rows, and all that is below it behind the node. -/
def push (name : String) (rows : Arena) : Definition → Arena
  | .mk traits arguments =>
    pushAll rows.length (rows ++ [{ name, traits := traits.normal, children := [] }]) arguments

def pushAll (parent : Nat) (rows : Arena) : List (String × Definition) → Arena
  | [] => rows
  | (name, d) :: ds => pushAll parent (adopt parent name rows.length (push name rows d)) ds

end

def build (name : String) (d : Definition) : Arena :=
  push name [] d

theorem adopt_append (before after : Arena) (row : Row) (name : String) (id : Nat) :
    adopt before.length name id (before ++ row :: after) =
      before ++ { row with children := Assoc.insert name id row.children } :: after := by
  induction before with
  | nil => rfl
  | cons r before ih =>
    rw [adopt] at ih ⊢
    rw [List.cons_append, List.length_cons, List.modify_succ_cons, ih, List.cons_append]

/-- Children are put behind all rows, and only the row of their parent is told of them. -/
theorem pushAll_eq {ds : List (String × Definition)} (hnames : (Assoc.keys ds).Nodup)
    (hpush : ∀ e ∈ ds, ∀ name rows,
      push name rows e.2 = rows ++ (ofDefinition name e.2).rowsFrom rows.length)
    (before after : Arena) (row : Row)
    (hfree : ∀ name ∈ Assoc.keys ds, name ∉ Assoc.keys row.children) :
    let first := (before ++ row :: after).length
    pushAll before.length (before ++ row :: after) ds =
      before ++ { row with children := row.children ++ childrenFrom first (ofArguments ds) } ::
        after ++ rowsOf first (ofArguments ds) := by
  induction ds generalizing after row with
  | nil => simp [pushAll, ofArguments, rowsOf, childrenFrom, numbered]
  | cons e ds ih =>
    obtain ⟨name, d⟩ := e
    obtain ⟨hname, hnames⟩ := List.nodup_cons.1 hnames
    intro first
    -- the child's rows go behind all others, and then its parent's row gets one more entry
    have hnew : name ∉ Assoc.keys row.children := hfree name List.mem_cons_self
    have hpushed := hpush (name, d) List.mem_cons_self name (before ++ row :: after)
    rw [pushAll, hpushed, List.append_assoc, List.cons_append, adopt_append,
      Assoc.insert_of_not_mem _ hnew]
    have hrest : ∀ n ∈ Assoc.keys ds, n ∉ Assoc.keys (row.children ++ [(name, first)]) := by
      intro n hn
      rw [Assoc.keys, List.map_append, List.mem_append, not_or, List.map_singleton,
        List.mem_singleton]
      exact ⟨hfree n (List.mem_cons_of_mem _ hn), fun heq => hname (heq ▸ hn)⟩
    have htail := ih hnames (fun e he => hpush e (List.mem_cons_of_mem _ he))
      (after ++ (ofDefinition name d).rowsFrom first)
      { row with children := row.children ++ [(name, first)] } hrest
    have hlength (r : Row) :
        (before ++ r :: (after ++ (ofDefinition name d).rowsFrom first)).length =
          first + (ofDefinition name d).size := by
      simp only [first, ← Argument.length_rowsFrom first, List.length_append, List.length_cons]
      omega
    rw [htail]
    simp only [hlength, ofArguments, rowsOf, childrenFrom_cons, Argument.name_ofDefinition,
      List.append_assoc, List.cons_append, List.nil_append]

theorem push_eq {d : Definition} (h : d.Distinct) (name : String) (rows : Arena) :
    push name rows d = rows ++ (ofDefinition name d).rowsFrom rows.length := by
  induction h generalizing name rows with
  | @mk traits arguments names below ih =>
    -- the parent's row is the last one when its children come
    have hall := pushAll_eq names (fun e he name rows => ih e he name rows) rows []
      { name, traits := traits.normal, children := [] } fun _ _ => List.not_mem_nil
    have hfirst (r : Row) : (rows ++ [r]).length = rows.length + 1 := by simp
    rw [push, hall]
    simp only [hfirst, List.nil_append, List.append_assoc, List.cons_append, ofDefinition, rowsFrom]
    rfl

theorem build_eq_arena {d : Definition} (h : d.Distinct) (name : String) :
    build name d = (ofDefinition name d).arena :=
  push_eq h name []

end Arena

/-! ## Places -/

namespace Place

/-- The rows of a place and of all below it stand from its number on. -/
def StandsIn (rows : Arena) (p : Place) : Prop :=
  rows.StandsAt p.id (p.node.rowsFrom p.id)

variable {rows : Arena} {p q : Place}

theorem StandsIn.getElem? (h : p.StandsIn rows) :
    ∃ row, rows[p.id]? = some row ∧ row.name = p.node.name ∧ row.traits = p.node.traits := by
  obtain ⟨id, n, t, cs⟩ := p
  exact ⟨_, Arena.StandsAt.getElem? h, rfl, rfl⟩

theorem standsAt_of_mem_numbered {first : Nat} {as : List Argument} {x : Nat × Argument}
    (h : rows.StandsAt first (Argument.rowsOf first as)) (hx : x ∈ Argument.numbered first as) :
    rows.StandsAt x.1 (x.2.rowsFrom x.1) := by
  induction as generalizing first with
  | nil => cases hx
  | cons a as ih =>
    rw [Argument.rowsOf] at h
    rcases List.mem_cons.1 hx with rfl | hx
    · exact h.left
    · have hnext := h.right
      rw [Argument.length_rowsFrom] at hnext
      exact ih hnext hx

theorem StandsIn.child (h : p.StandsIn rows) (hq : q ∈ p.children) : q.StandsIn rows := by
  obtain ⟨x, hx, rfl⟩ := List.mem_map.1 hq
  obtain ⟨id, n, t, cs⟩ := p
  exact standsAt_of_mem_numbered (Arena.StandsAt.tail h) hx

theorem StandsIn.trail {i : Identity} {words : List String} (h : p.StandsIn rows) :
    ∀ x ∈ p.trail i words, x.2.StandsIn rows := by
  induction words generalizing p with
  | nil => exact nofun
  | cons word words ih =>
    unfold Place.trail
    split
    · exact nofun
    · rename_i q hq
      have hqrows := h.child (mem_children_of_select hq)
      exact List.forall_mem_cons.2 ⟨hqrows, ih hqrows⟩

end Place

/-- The number that a path resolves to is that of its node in the rows of the tree. -/
theorem Argument.getElem?_arena_of_resolved {tree : Argument} {s : Sender} {i : Identity}
    {words : List String} {r : Resolution} (h : (tree.matchPath s i words).value = .resolved r) :
    ∃ row, tree.arena[r.place.id]? = some row ∧ row.name = r.place.node.name ∧
      row.traits = r.place.node.traits := by
  have hroot : (Place.root tree).StandsIn tree.arena := List.prefix_refl tree.arena
  obtain ⟨-, hplace, -⟩ := Place.walk_resolved (walk_of_resolved h)
  rw [hplace]
  cases hlast : ((Place.root tree).trail i words).getLast? with
  | none => exact hroot.getElem?
  | some x => exact (hroot.trail x (List.mem_of_getLast? hlast)).getElem?

/-! ## Definitions as rows -/

/-- **Definitions as rows.** Where no two arguments side by side have one name, as in every
definition that can be read (`Definition.distinct_read`), the rows that are built from a definition
encode it. They are those of the tree that is matched against, which is read back from them, and the
outline by way of the numbers is that of the tree. So the number that a path resolves to is that of
its node. -/
theorem Arena.build_encodes {d : Definition} (h : d.Distinct) (name : String) :
    let rows := Arena.build name d
    let tree := Argument.ofDefinition name d
    rows.Encodes name d ∧ rows = tree.arena ∧ rows.tree? = some tree ∧
    rows.outline? = some tree.outline ∧
    ∀ s i words r, (tree.matchPath s i words).value = .resolved r →
      ∃ row, rows[r.place.id]? = some row ∧ row.name = r.place.node.name ∧
        row.traits = r.place.node.traits := by
  intro rows tree
  have hrows : rows = tree.arena := Arena.build_eq_arena h name
  rw [hrows]
  exact ⟨encodes_arena name d, rfl, tree?_arena tree, outline?_arena tree,
    fun s i words r hresolved => Argument.getElem?_arena_of_resolved hresolved⟩

def kit : Definition :=
  .mk {}
    [("zeta", .mk { actions := some [("message", .list [.text "z"])] } []),
    ("alpha", .mk { actions := some [] }
      [("[n]", .mk { declaredType := some "integer" } [])])]

theorem distinct_kit : kit.Distinct := by
  refine .mk (by decide) ?_
  simp only [List.forall_mem_cons, List.not_mem_nil, false_implies, implies_true, and_true]
  refine ⟨.mk (by decide) nofun, .mk (by decide) ?_⟩
  simp only [List.forall_mem_cons, List.not_mem_nil, false_implies, implies_true, and_true]
  exact .mk (by decide) nofun

/-- The number is the child of `alpha` alone, which stands before it. -/
theorem kit_numbered :
    let rows := Arena.build "kit" kit
    kit.Distinct ∧ rows.map Arena.Row.name = ["kit", "zeta", "alpha", "[n]"] ∧
      rows.Encodes "kit" kit ∧
      (∀ i name, (∃ parent, rows[i]? = some parent ∧ (name, 3) ∈ parent.children) ↔
        i = 2 ∧ name = "[n]") := by
  intro rows
  obtain ⟨hencodes, -⟩ := Arena.build_encodes distinct_kit "kit"
  refine ⟨distinct_kit, rfl, hencodes, ?_⟩
  obtain ⟨i, hi⟩ := hencodes.parent 3 _ rfl (by decide)
  obtain ⟨rfl, -⟩ := (hi 2 "[n]").1 ⟨_, rfl, by decide⟩
  exact hi

end CustomCommands
