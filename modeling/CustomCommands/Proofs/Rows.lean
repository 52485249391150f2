import CustomCommands.Proofs.Siblings
import Mathlib.Data.List.Nodup

/-!
# The rows of a tree

The rows of a tree's nodes stand in one list, and what is said of a part of them is
said of where that part stands (`StandsAt`). They are the nodes in order
(`forall₂_rowsFrom`), and a child stands behind its parent (`lt_of_mem_rowsFrom`).
The root and all children that rows name are all rows (`perm_entriesFrom_rowsFrom`),
so every other row has one parent (`exists_parent`) and one depth (`Depth.unique`).
-/

namespace CustomCommands

mutual

/-- The nodes of a definition, each before those below it, and side by side as declared. -/
def Definition.preorder (name : String) : Definition → List (String × Traits)
  | .mk traits arguments => (name, traits) :: preorders arguments

def Definition.preorders : List (String × Definition) → List (String × Traits)
  | [] => []
  | (name, d) :: ds => d.preorder name ++ preorders ds

end

namespace Argument

mutual

theorem length_rowsFrom (id : Nat) : (a : Argument) → (a.rowsFrom id).length = a.size
  | .mk n t cs => by rw [rowsFrom, size, List.length_cons, length_rowsOf]

theorem length_rowsOf (first : Nat) : (as : List Argument) → (rowsOf first as).length = sizes as
  | [] => rfl
  | a :: as => by rw [rowsOf, sizes, List.length_append, length_rowsFrom, length_rowsOf]

end

end Argument

namespace Arena

open Argument (rowsFrom rowsOf numbered ofDefinition ofArguments)

/-- The children of a row, from the nodes that stand behind it. -/
def childrenFrom (first : Nat) (as : List Argument) : List (String × Nat) :=
  (numbered first as).map fun (i, a) => (a.name, i)

theorem childrenFrom_cons (first : Nat) (a : Argument) (as : List Argument) :
    childrenFrom first (a :: as) = (a.name, first) :: childrenFrom (first + a.size) as := rfl

/-! ## Parts of the rows -/

/-- The rows from number `id` on begin with `part`. -/
def StandsAt (rows : Arena) (id : Nat) (part : Arena) : Prop :=
  part <+: rows.drop id

section StandsAt

variable {rows part part' : Arena} {row : Row} {id : Nat}

theorem StandsAt.getElem? (h : rows.StandsAt id (row :: part)) : rows[id]? = some row := by
  obtain ⟨rest, hrest⟩ := h
  rw [← List.head?_drop, ← hrest]
  rfl

theorem StandsAt.tail (h : rows.StandsAt id (row :: part)) : rows.StandsAt (id + 1) part := by
  obtain ⟨rest, hrest⟩ := h
  exact ⟨rest, by rw [← List.tail_drop, ← hrest]; rfl⟩

theorem StandsAt.left (h : rows.StandsAt id (part ++ part')) : rows.StandsAt id part :=
  (List.prefix_append part part').trans h

theorem StandsAt.right (h : rows.StandsAt id (part ++ part')) :
    rows.StandsAt (id + part.length) part' := by
  obtain ⟨rest, hrest⟩ := h
  exact ⟨rest, by rw [← List.drop_drop, ← hrest, List.append_assoc, List.drop_left]⟩

end StandsAt

/-! ## Reading back -/

mutual

theorem treeFrom?_of_standsAt {rows : Arena} {fuel id : Nat} : (a : Argument) →
    rows.StandsAt id (a.rowsFrom id) → a.size ≤ fuel → rows.treeFrom? fuel id = some a
  | .mk n t cs, hrows, hfuel => by
    rw [rowsFrom] at hrows
    rw [Argument.size] at hfuel
    obtain ⟨fuel, rfl⟩ : ∃ k, fuel = k + 1 := ⟨fuel - 1, by omega⟩
    have hbelow := mapM_treeFrom?_of_standsAt cs hrows.tail (Nat.le_of_succ_le_succ hfuel)
    rw [childrenFrom] at hbelow
    simp only [treeFrom?, hrows.getElem?, hbelow, Option.bind_eq_bind, Option.bind_some]

theorem mapM_treeFrom?_of_standsAt {rows : Arena} {fuel first : Nat} : (as : List Argument) →
    rows.StandsAt first (rowsOf first as) → Argument.sizes as ≤ fuel →
      ((childrenFrom first as).mapM fun (_, child) => rows.treeFrom? fuel child) = some as
  | [], _, _ => rfl
  | a :: as, hrows, hfuel => by
    rw [rowsOf] at hrows
    rw [Argument.sizes] at hfuel
    have hnext := hrows.right
    rw [Argument.length_rowsFrom] at hnext
    have hhere : rows.treeFrom? fuel first = some a :=
      treeFrom?_of_standsAt a hrows.left (by omega)
    have hrest := mapM_treeFrom?_of_standsAt as hnext (Nat.le_of_add_left_le hfuel)
    simp only [childrenFrom_cons, List.mapM_cons, hhere, hrest, Option.bind_eq_bind,
      Option.bind_some, Option.pure_def]

end

theorem tree?_arena (a : Argument) : a.arena.tree? = some a :=
  treeFrom?_of_standsAt a (List.prefix_refl a.arena)
    (Nat.le_of_eq (Argument.length_rowsFrom 0 a).symm)

/-- What a definition says of a node is in its row; actions and a delay that say nothing are not. -/
structure Row.Keeps (row : Row) (t : Traits) : Prop where
  permission : row.traits.permission = t.permission
  permissionMessage : row.traits.permissionMessage = t.permissionMessage
  declaredType : row.traits.declaredType = t.declaredType
  typeError : row.traits.typeError = t.typeError
  actions : ∀ actions, row.traits.actions = some actions ↔ t.actions = some actions ∧ actions ≠ []
  delay : ∀ delay, row.traits.delay = some delay ↔ t.delay = some delay ∧ delay.isEmpty = false

theorem Row.keeps_normal {row : Row} {t : Traits} (h : row.traits = t.normal) : row.Keeps t := by
  constructor
  any_goals rw [h]; rfl
  · intro actions
    rw [h, Traits.normal, Option.filter_eq_some_iff]
    simp
  · intro delay
    rw [h, Traits.normal, Option.filter_eq_some_iff]
    simp

def IsRowOf (row : Row) (node : String × Traits) : Prop :=
  row.name = node.1 ∧ row.Keeps node.2

mutual

theorem forall₂_rowsFrom (name : String) (id : Nat) : (d : Definition) →
    List.Forall₂ IsRowOf ((ofDefinition name d).rowsFrom id) (d.preorder name)
  | .mk traits arguments => by
    rw [ofDefinition, rowsFrom, Definition.preorder]
    exact .cons ⟨rfl, Row.keeps_normal rfl⟩ (forall₂_rowsOf (id + 1) arguments)

theorem forall₂_rowsOf (first : Nat) : (ds : List (String × Definition)) →
    List.Forall₂ IsRowOf (rowsOf first (ofArguments ds)) (Definition.preorders ds)
  | [] => .nil
  | (name, d) :: ds => by
    rw [ofArguments, rowsOf, Definition.preorders]
    exact List.rel_append (forall₂_rowsFrom name first d) (forall₂_rowsOf _ ds)

end

/-- Row `id` and the rows that it leads to say what the definition says. -/
inductive Unfolds (rows : Arena) : Nat → String → Definition → Prop where
  | mk {id : Nat} {name : String} {traits : Traits} {arguments : List (String × Definition)}
      {row : Row} (here : rows[id]? = some row) (name_eq : row.name = name)
      (keeps : row.Keeps traits) (names : row.children.map Prod.fst = arguments.map Prod.fst)
      (below : List.Forall₂ (fun child argument => Unfolds rows child.2 argument.1 argument.2)
        row.children arguments) :
      Unfolds rows id name (.mk traits arguments)

theorem map_fst_childrenFrom (first : Nat) (as : List Argument) :
    (childrenFrom first as).map Prod.fst = as.map Argument.name := by
  induction as generalizing first with
  | nil => rfl
  | cons a as ih => rw [childrenFrom_cons, List.map_cons, ih, List.map_cons]

theorem map_name_ofArguments (ds : List (String × Definition)) :
    (ofArguments ds).map Argument.name = ds.map Prod.fst := by
  rw [Argument.ofArguments_eq, List.map_map]
  exact List.map_congr_left fun e _ => Argument.name_ofDefinition e.1 e.2

mutual

theorem unfolds_of_standsAt {rows : Arena} {id : Nat} {name : String} : (d : Definition) →
    rows.StandsAt id ((ofDefinition name d).rowsFrom id) → rows.Unfolds id name d
  | .mk traits arguments, hrows => by
    rw [ofDefinition, rowsFrom] at hrows
    refine .mk hrows.getElem? rfl (Row.keeps_normal rfl) ?_ (forall₂_unfolds arguments hrows.tail)
    exact (map_fst_childrenFrom (id + 1) _).trans (map_name_ofArguments arguments)

theorem forall₂_unfolds {rows : Arena} {first : Nat} : (ds : List (String × Definition)) →
    rows.StandsAt first (rowsOf first (ofArguments ds)) →
      List.Forall₂ (fun child argument => rows.Unfolds child.2 argument.1 argument.2)
        (childrenFrom first (ofArguments ds)) ds
  | [], _ => .nil
  | (name, d) :: ds, hrows => by
    rw [ofArguments, rowsOf] at hrows
    have hnext := hrows.right
    rw [Argument.length_rowsFrom] at hnext
    rw [ofArguments, childrenFrom_cons]
    exact .cons (unfolds_of_standsAt d hrows.left) (forall₂_unfolds ds hnext)

end

/-! ## Children and their parents -/

theorem le_of_mem_childrenFrom {first : Nat} {as : List Argument} {c : String × Nat}
    (h : c ∈ childrenFrom first as) : first ≤ c.2 := by
  induction as generalizing first with
  | nil => cases h
  | cons a as ih =>
    rw [childrenFrom_cons] at h
    rcases List.mem_cons.1 h with rfl | h
    · exact Nat.le_refl _
    · exact Nat.le_of_add_right_le (ih h)

mutual

theorem lt_of_mem_rowsFrom {id k : Nat} {row : Row} {c : String × Nat} (hc : c ∈ row.children) :
    (a : Argument) → (a.rowsFrom id)[k]? = some row → id + k < c.2
  | .mk n t cs, hrow => by
    rw [rowsFrom] at hrow
    cases k with
    | zero =>
      rw [List.getElem?_cons_zero, Option.some.injEq] at hrow
      subst hrow
      exact le_of_mem_childrenFrom hc
    | succ k =>
      rw [List.getElem?_cons_succ] at hrow
      have := lt_of_mem_rowsOf hc cs hrow
      omega

theorem lt_of_mem_rowsOf {first k : Nat} {row : Row} {c : String × Nat} (hc : c ∈ row.children) :
    (as : List Argument) → (rowsOf first as)[k]? = some row → first + k < c.2
  | [], hrow => by cases hrow
  | a :: as, hrow => by
    rw [rowsOf] at hrow
    by_cases hk : k < a.size
    · rw [List.getElem?_append_left (by rwa [Argument.length_rowsFrom])] at hrow
      exact lt_of_mem_rowsFrom hc a hrow
    · rw [List.getElem?_append_right (by rw [Argument.length_rowsFrom]; omega),
        Argument.length_rowsFrom] at hrow
      have := lt_of_mem_rowsOf hc as hrow
      omega

end

/-- The names of the rows with the numbers that they have, the first of them `first`. -/
def entriesFrom (first : Nat) (rows : Arena) : List (String × Nat) :=
  (rows.zipIdx first).map fun (row, i) => (row.name, i)

theorem entriesFrom_append (first : Nat) (rows rows' : Arena) :
    entriesFrom first (rows ++ rows') =
      entriesFrom first rows ++ entriesFrom (first + rows.length) rows' := by
  rw [entriesFrom, List.zipIdx_append, List.map_append]
  rfl

mutual

/-- The root and all children that rows name are all rows. -/
theorem perm_entriesFrom_rowsFrom (id : Nat) : (a : Argument) →
    ((a.name, id) :: (a.rowsFrom id).flatMap Row.children).Perm (entriesFrom id (a.rowsFrom id))
  | .mk n t cs => by
    rw [rowsFrom]
    exact (perm_entriesFrom_rowsOf (id + 1) cs).cons (n, id)

theorem perm_entriesFrom_rowsOf (first : Nat) : (as : List Argument) →
    (childrenFrom first as ++ (rowsOf first as).flatMap Row.children).Perm
      (entriesFrom first (rowsOf first as))
  | [] => .nil
  | a :: as => by
    rw [rowsOf, entriesFrom_append, Argument.length_rowsFrom, childrenFrom_cons,
      List.flatMap_append, List.cons_append]
    exact ((List.perm_append_comm_assoc ..).cons _).trans
      ((perm_entriesFrom_rowsFrom first a).append (perm_entriesFrom_rowsOf (first + a.size) as))

end

theorem mem_entriesFrom_zero {rows : Arena} {name : String} {j : Nat} :
    (name, j) ∈ entriesFrom 0 rows ↔ ∃ row, rows[j]? = some row ∧ row.name = name := by
  simp only [entriesFrom, List.mem_map, Prod.exists, Prod.mk.injEq, List.mem_zipIdx_iff_getElem?]
  constructor
  · rintro ⟨row, j', hrow, rfl, rfl⟩
    exact ⟨row, hrow, rfl⟩
  · rintro ⟨row, hrow, rfl⟩
    exact ⟨row, j, hrow, rfl, rfl⟩

theorem nodup_entriesFrom (first : Nat) (rows : Arena) : (entriesFrom first rows).Nodup := by
  refine .of_map Prod.snd ?_
  rw [entriesFrom, List.map_map]
  show ((rows.zipIdx first).map Prod.snd).Nodup
  rw [List.zipIdx_map_snd]
  exact List.nodup_range'

section Parents

variable {a : Argument} {row parent : Row} {i j : Nat} {name : String}

theorem mem_flatMap_children (hparent : a.arena[i]? = some parent)
    (hc : (name, j) ∈ parent.children) : (name, j) ∈ a.arena.flatMap Row.children :=
  List.mem_flatMap.2 ⟨parent, List.mem_of_getElem? hparent, hc⟩

theorem getElem?_of_mem_children (hparent : a.arena[i]? = some parent)
    (hc : (name, j) ∈ parent.children) : ∃ row, a.arena[j]? = some row ∧ row.name = name :=
  mem_entriesFrom_zero.1 ((perm_entriesFrom_rowsFrom 0 a).mem_iff.1
    (List.mem_cons_of_mem _ (mem_flatMap_children hparent hc)))

/-- Every row but the first is a child of one row, and under its own name. -/
theorem exists_parent (hrow : a.arena[j]? = some row) (hj : 0 < j) :
    ∃ i, ∀ (i' : Nat) (name : String),
      (∃ parent, a.arena[i']? = some parent ∧ (name, j) ∈ parent.children) ↔
        i' = i ∧ name = row.name := by
  have hperm := perm_entriesFrom_rowsFrom 0 a
  have hnodup := (List.nodup_cons.1 (hperm.nodup_iff.2 (nodup_entriesFrom 0 a.arena))).2
  obtain ⟨-, hapart⟩ := List.nodup_flatMap.1 hnodup
  have hmem : (row.name, j) ∈ a.arena.flatMap Row.children := by
    have hentry := hperm.mem_iff.2 (mem_entriesFrom_zero.2 ⟨row, hrow, rfl⟩)
    refine (List.mem_cons.1 hentry).resolve_left fun heq => ?_
    exact Nat.ne_of_gt hj (congrArg Prod.snd heq)
  obtain ⟨parent, hparent, hchild⟩ := List.mem_flatMap.1 hmem
  obtain ⟨i, hi⟩ := List.mem_iff_getElem?.1 hparent
  refine ⟨i, fun i' name => ⟨?_, ?_⟩⟩
  · rintro ⟨parent', hi', hchild'⟩
    obtain ⟨row', hrow', rfl⟩ := getElem?_of_mem_children hi' hchild'
    obtain rfl := Option.some.inj (hrow.symm.trans hrow')
    refine ⟨?_, rfl⟩
    -- two rows that name the same child would not be apart
    rw [List.pairwise_iff_getElem] at hapart
    obtain ⟨hlt, rfl⟩ := List.getElem?_eq_some_iff.1 hi
    obtain ⟨hlt', rfl⟩ := List.getElem?_eq_some_iff.1 hi'
    rcases Nat.lt_trichotomy i' i with h | h | h
    · exact absurd hchild (hapart i' i hlt' hlt h hchild')
    · exact h
    · exact absurd hchild' (hapart i i' hlt hlt' h hchild)
  · rintro ⟨rfl, rfl⟩
    exact ⟨parent, hi, hchild⟩

end Parents

/-! ## Depth and outline -/

/-- So many steps down from the root is row `id`. -/
inductive Depth (rows : Arena) : Nat → Nat → Prop where
  | root : Depth rows 0 0
  | child {id depth j : Nat} {name : String} {row : Row} (parent : Depth rows id depth)
      (here : rows[id]? = some row) (child : (name, j) ∈ row.children) : Depth rows j (depth + 1)

def Row.line (row : Row) : String :=
  (Argument.mk row.name row.traits []).line

/-- The outline below a row, by way of the numbers of children; the fuel bounds its height. -/
def outlineFrom? (rows : Arena) : Nat → Nat → Nat → Option (List String)
  | 0, _, _ => none
  | fuel + 1, depth, id => do
    let row ← rows[id]?
    let below ← row.children.mapM fun (_, child) => outlineFrom? rows fuel (depth + 1) child
    some ((Argument.indentation depth ++ row.line) :: below.flatten)

def outline? (rows : Arena) : Option (List String) :=
  rows.outlineFrom? rows.length 0 0

theorem Depth.unique {a : Argument} {id depth depth' : Nat} (h : a.arena.Depth id depth)
    (h' : a.arena.Depth id depth') : depth = depth' := by
  induction h generalizing depth' with
  | root =>
    cases h' with
    | root => rfl
    | child parent here child => exact absurd (lt_of_mem_rowsFrom child a here) (by simp)
  | @child id depth j name row parent here child ih =>
    have hlt := lt_of_mem_rowsFrom child a here
    cases h' with
    | root => exact absurd hlt (by simp)
    | @child id' depth' _ name' row' parent' here' child' =>
      obtain ⟨row, hrow, -⟩ := getElem?_of_mem_children here child
      obtain ⟨i, hi⟩ := exists_parent hrow (Nat.zero_lt_of_lt hlt)
      obtain ⟨rfl, -⟩ := (hi id name).1 ⟨_, here, child⟩
      obtain ⟨rfl, -⟩ := (hi id' name').1 ⟨_, here', child'⟩
      rw [ih parent']

theorem mapM_option_map {α β γ : Type} (f : α → Option β) (g : β → γ) (l : List α) :
    (l.mapM fun a => (f a).map g) = (l.mapM f).map (List.map g) := by
  induction l with
  | nil => rfl
  | cons a l ih =>
    simp only [List.mapM_cons, ih, Option.pure_def, Option.bind_eq_bind]
    cases f a <;> cases l.mapM f <;> rfl

theorem outlinesAt_eq (depth : Nat) (as : List Argument) :
    Argument.outlinesAt depth as = (as.map (Argument.outlineAt depth)).flatten := by
  induction as with
  | nil => rfl
  | cons a as ih => rw [Argument.outlinesAt, ih]; rfl

/-- By way of the numbers one comes to the outline of the tree that is read back. -/
theorem outlineFrom?_eq (rows : Arena) (fuel depth id : Nat) :
    rows.outlineFrom? fuel depth id = (rows.treeFrom? fuel id).map (Argument.outlineAt depth) := by
  induction fuel generalizing depth id with
  | zero => rfl
  | succ fuel ih =>
    simp only [outlineFrom?, treeFrom?, ih, mapM_option_map, Option.bind_eq_bind]
    cases rows[id]? with
    | none => rfl
    | some row =>
      simp only [Option.bind_some]
      cases row.children.mapM fun c => rows.treeFrom? fuel c.2 with
      | none => rfl
      | some below =>
        simp only [Option.map_some, Option.bind_some, Argument.outlineAt, outlinesAt_eq]
        rfl

theorem outline?_arena (a : Argument) : a.arena.outline? = some a.outline := by
  have htree := tree?_arena a
  rw [tree?] at htree
  rw [outline?, outlineFrom?_eq, htree]
  rfl

/-- The line is that of the row, set in by the row's depth. -/
def IsLineOf (rows : Arena) (x : Row × Nat) (line : String) : Prop :=
  ∃ depth, rows.Depth x.2 depth ∧ line = Argument.indentation depth ++ x.1.line

mutual

theorem forall₂_outlineAt {rows : Arena} {id depth : Nat} : (a : Argument) →
    rows.StandsAt id (a.rowsFrom id) → rows.Depth id depth →
      List.Forall₂ rows.IsLineOf ((a.rowsFrom id).zipIdx id) (a.outlineAt depth)
  | .mk n t cs, hrows, hdepth => by
    rw [rowsFrom] at hrows ⊢
    rw [Argument.outlineAt, List.zipIdx_cons]
    refine .cons ⟨depth, hdepth, rfl⟩ (forall₂_outlinesAt cs hrows.tail fun c hc => ?_)
    exact hdepth.child hrows.getElem? hc

theorem forall₂_outlinesAt {rows : Arena} {first depth : Nat} : (as : List Argument) →
    rows.StandsAt first (rowsOf first as) →
      (∀ c ∈ childrenFrom first as, rows.Depth c.2 depth) →
      List.Forall₂ rows.IsLineOf ((rowsOf first as).zipIdx first) (Argument.outlinesAt depth as)
  | [], _, _ => .nil
  | a :: as, hrows, hdepth => by
    rw [rowsOf] at hrows ⊢
    rw [childrenFrom_cons] at hdepth
    have hnext := hrows.right
    rw [Argument.length_rowsFrom] at hnext
    rw [Argument.outlinesAt, List.zipIdx_append, Argument.length_rowsFrom]
    exact List.rel_append (forall₂_outlineAt a hrows.left (hdepth _ List.mem_cons_self))
      (forall₂_outlinesAt as hnext fun c hc => hdepth c (List.mem_cons_of_mem _ hc))

end

/-- What rows that stand for a definition are. -/
structure Encodes (rows : Arena) (name : String) (d : Definition) : Prop where
  /-- There is a row for each node, in order. -/
  nodes : List.Forall₂ IsRowOf rows (d.preorder name)
  /-- From row 0 on, the children lead through the definition. -/
  unfolds : rows.Unfolds 0 name d
  /-- Children stand behind their parent, and they are there. -/
  children : ∀ (i : Nat) (row : Row), rows[i]? = some row →
    ∀ c ∈ row.children, i < c.2 ∧ c.2 < rows.length
  /-- Every row but the first is a child of one row, under its own name. -/
  parent : ∀ (j : Nat) (row : Row), rows[j]? = some row → 0 < j →
    ∃ i, ∀ (i' : Nat) (name : String),
      (∃ parent, rows[i']? = some parent ∧ (name, j) ∈ parent.children) ↔
        i' = i ∧ name = row.name
  /-- The outline ends, and has one line for each row, set in by its depth. -/
  outline : ∃ lines, rows.outline? = some lines ∧ lines.length = rows.length ∧
    ∀ (i : Nat) (row : Row), rows[i]? = some row → (∃ depth, rows.Depth i depth) ∧
      ∀ depth, rows.Depth i depth → lines[i]? = some (Argument.indentation depth ++ row.line)

theorem lines_arena (a : Argument) : a.outline.length = a.arena.length ∧
    ∀ (i : Nat) (row : Row), a.arena[i]? = some row → (∃ depth, a.arena.Depth i depth) ∧
      ∀ depth, a.arena.Depth i depth →
        a.outline[i]? = some (Argument.indentation depth ++ row.line) := by
  have hlines : List.Forall₂ a.arena.IsLineOf (a.arena.zipIdx 0) a.outline :=
    forall₂_outlineAt a (List.prefix_refl a.arena) .root
  have hlength : a.outline.length = a.arena.length := by
    simpa using hlines.length_eq.symm
  refine ⟨hlength, fun i row hrow => ?_⟩
  obtain ⟨hi, rfl⟩ := List.getElem?_eq_some_iff.1 hrow
  have hi' : i < (a.arena.zipIdx 0).length := by rwa [List.length_zipIdx]
  have hget : (a.arena.zipIdx 0).get ⟨i, hi'⟩ = (a.arena[i], i) := by simp
  obtain ⟨depth, hdepth, hline⟩ := (List.forall₂_iff_get.1 hlines).2 i hi' (hlength.symm ▸ hi)
  rw [hget] at hdepth hline
  refine ⟨⟨depth, hdepth⟩, fun depth' hdepth' => ?_⟩
  rw [hdepth'.unique hdepth, ← hline]
  exact List.getElem?_eq_getElem _

theorem encodes_arena (name : String) (d : Definition) :
    (ofDefinition name d).arena.Encodes name d := by
  refine ⟨forall₂_rowsFrom name 0 d, unfolds_of_standsAt d (List.prefix_refl _), ?_,
    fun j row hrow hj => exists_parent hrow hj, ?_⟩
  · intro i row hrow c hc
    refine ⟨by simpa using lt_of_mem_rowsFrom hc _ hrow, ?_⟩
    obtain ⟨child, hchild, -⟩ := getElem?_of_mem_children hrow hc
    exact (List.getElem?_eq_some_iff.1 hchild).1
  · exact ⟨_, outline?_arena _, lines_arena _⟩

end Arena

end CustomCommands
