import CustomCommands.Dispatcher
import CustomCommands.Proofs.Selection
import Mathlib.Data.List.Forall2

/-!
# What a refusal hides

Two trees are `Veiled` from a sender if they are equal but for what a node does
and what stands below it, at a node that the sender may not use. A match that
comes to such a node ends there, and a completion neither offers it nor goes past
it, before anything behind it is looked at. So two nodes that were both reached
are `Abreast`: they do the same, and their children are veiled in pairs
(`Veiled.opened`). From there a word leads both to children that are veiled again
(`Place.select_veiled`), and a whole path to the same answer (`Place.walk_veiled`,
`Place.follow_veiled`).
-/

namespace CustomCommands

/-! ## Lists in pairs -/

section Pairs

variable {α β : Type} {R : α → β → Prop}

theorem find?_rel {f : α → Bool} {g : β → Bool} (hfg : ∀ a b, R a b → f a = g b) {as : List α}
    {bs : List β} (h : List.Forall₂ R as bs) : Option.Rel R (as.find? f) (bs.find? g) := by
  induction h with
  | nil => exact .none
  | @cons a b as bs hab _ ih =>
    rw [List.find?_cons, List.find?_cons, ← hfg a b hab]
    cases f a with
    | true => exact .some hab
    | false => exact ih

theorem or_rel {x y : Option α} {x' y' : Option β} (h : Option.Rel R x x')
    (h' : Option.Rel R y y') : Option.Rel R (x.or y) (x'.or y') := by
  cases h with
  | some hab => exact .some hab
  | none => exact h'

theorem rel_cases {x : Option α} {y : Option β} (h : Option.Rel R x y) :
    (x = none ∧ y = none) ∨ ∃ a b, x = some a ∧ y = some b ∧ R a b := by
  cases h with
  | none => exact .inl ⟨rfl, rfl⟩
  | some hab => exact .inr ⟨_, _, rfl, rfl, hab⟩

theorem flatMap_rel {γ : Type} {f : α → List γ} {g : β → List γ} (hfg : ∀ a b, R a b → f a = g b)
    {as : List α} {bs : List β} (h : List.Forall₂ R as bs) : as.flatMap f = bs.flatMap g := by
  induction h with
  | nil => rfl
  | @cons a b as bs hab _ ih => rw [List.flatMap_cons, List.flatMap_cons, hfg a b hab, ih]

end Pairs

/-! ## Trees -/

/-- What a node shows before its permission is asked: all but what happens there. -/
def Traits.front (t : Traits) : Traits :=
  { t with actions := none, delay := none }

namespace Argument

/-- The trees are equal, except for the actions, the delay and the nodes below of one node that
the sender may not use. -/
inductive Veiled (s : Sender) : Argument → Argument → Prop where
  | same (a : Argument) : Veiled s a a
  | behind {name permission : String} {t t' : Traits} {as as' : List Argument}
      (front : t.front = t'.front) (needed : t.permission = some permission)
      (lacking : s.has permission = false) :
      Veiled s (mk name t as) (mk name t' as')
  | deeper {name : String} {t : Traits} {before after : List Argument} {a a' : Argument}
      (inner : Veiled s a a') :
      Veiled s (mk name t (before ++ a :: after)) (mk name t (before ++ a' :: after))

/-- The nodes do the same, and their children are veiled in pairs. -/
structure Abreast (s : Sender) (a a' : Argument) : Prop where
  name : a.name = a'.name
  traits : a.traits = a'.traits
  children : List.Forall₂ (Veiled s) a.children a'.children

variable {s : Sender} {a a' root root' : Argument}

namespace Veiled

theorem name (h : a.Veiled s a') : a.name = a'.name := by
  cases h <;> rfl

theorem front (h : a.Veiled s a') : a.traits.front = a'.traits.front := by
  cases h with
  | same => rfl
  | behind front => exact front
  | deeper => rfl

theorem kind (h : a.Veiled s a') : a.kind = a'.kind :=
  congrArg ArgumentKind.ofName h.name

theorem isDynamic (h : a.Veiled s a') : a.isDynamic = a'.isDynamic :=
  congrArg ArgumentKind.isDynamic h.kind

theorem traits (h : a.Veiled s a') :
    a.traits.permission = a'.traits.permission ∧
      a.traits.permissionMessage = a'.traits.permissionMessage ∧
      a.traits.declaredType = a'.traits.declaredType ∧
      a.traits.typeError = a'.traits.typeError := by
  have hfront := h.front
  simpa [Traits.front] using hfront

theorem type (h : a.Veiled s a') : a.type = a'.type := by
  rw [Argument.type, Argument.type, h.traits.2.2.1]

theorem typeErrorTemplate (h : a.Veiled s a') : a.typeErrorTemplate = a'.typeErrorTemplate := by
  obtain ⟨-, -, hdeclared, herror⟩ := h.traits
  rw [Argument.typeErrorTemplate, Argument.typeErrorTemplate, hdeclared, herror]

theorem offers (h : a.Veiled s a') (p : Platform) (partly : List Char) :
    a.offers p partly = a'.offers p partly := by
  simp only [Argument.offers, h.kind, h.type, h.name]

/-- A refusal is the same in both trees, since the node shows it before anything behind it. -/
theorem denial (h : a.Veiled s a') (hroot : root.Veiled s root') :
    root.denial s a = root'.denial s a' := by
  obtain ⟨hpermission, hmessage, -⟩ := h.traits
  simp only [Argument.denial, hpermission, hmessage, hroot.traits.2.1]

theorem opened (h : a.Veiled s a') (hopen : root.denial s a = none) : a.Abreast s a' := by
  cases h with
  | same => exact ⟨rfl, rfl, List.forall₂_same.2 fun a _ => .same a⟩
  | @behind name permission t t' as as' front needed lacking =>
    have hneeded : (mk name t as).traits.permission = some permission := needed
    simp [Argument.denial, hneeded, lacking] at hopen
  | @deeper name t before after a a' inner =>
    have hsame (as : List Argument) : List.Forall₂ (Veiled s) as as :=
      List.forall₂_same.2 fun a _ => .same a
    exact ⟨rfl, rfl, List.rel_append (hsame before) (.cons inner (hsame after))⟩

end Veiled

theorem Abreast.unmatched (h : a.Abreast s a') (word : String) :
    a.unmatched word = a'.unmatched word := by
  have hasked : List.Forall₂ (Veiled s) (a.children.filter Argument.isDynamic)
      (a'.children.filter Argument.isDynamic) :=
    List.rel_filter (fun b b' hb => by simp only [hb.isDynamic]) h.children
  unfold Argument.unmatched
  revert hasked
  generalize a.children.filter Argument.isDynamic = asked
  generalize a'.children.filter Argument.isDynamic = asked'
  intro hasked
  cases hasked with
  | nil => rfl
  | cons hb hrest =>
    cases hrest with
    | nil => simp only [hb.typeErrorTemplate]
    | cons => rfl

end Argument

/-! ## Paths -/

namespace MatchOutcome

/-- The outcomes are the same to whoever called: the places they resolve at have the same name,
actions, delay and other traits, and the same bindings, though perhaps other numbers. -/
def Alike : MatchOutcome → MatchOutcome → Prop
  | resolved r, resolved r' =>
    r.place.node.name = r'.place.node.name ∧ r.place.node.traits = r'.place.node.traits ∧
      r.bindings = r'.bindings
  | usage, usage => True
  | invalid message, invalid message' => message = message'
  | denied message, denied message' => message = message'
  | _, _ => False

theorem Alike.refl (o : MatchOutcome) : o.Alike o := by
  cases o with
  | resolved r => exact ⟨rfl, rfl, rfl⟩
  | usage => trivial
  | invalid | denied => rfl

end MatchOutcome

namespace Place

variable {s : Sender} {i : Identity} {p p' : Place} {root root' : Argument}

theorem children_veiled (h : p.node.Abreast s p'.node) :
    List.Forall₂ (fun q q' : Place => q.node.Veiled s q'.node) p.children p'.children := by
  have hnodes := h.children
  rw [← map_node_children, ← map_node_children, List.forall₂_map_left_iff,
    List.forall₂_map_right_iff] at hnodes
  exact hnodes

theorem select_veiled (h : p.node.Abreast s p'.node) (word : String) :
    Option.Rel (fun q q' : Place => q.node.Veiled s q'.node) (p.select i word).value
      (p'.select i word).value := by
  have hchildren := children_veiled h
  rw [select_eq, select_eq]
  -- Each of the four rules looks only at what a child shows.
  refine or_rel (find?_rel ?_ hchildren) (or_rel (find?_rel ?_ hchildren)
    (or_rel (find?_rel ?_ hchildren) (find?_rel ?_ hchildren))) <;> intro q q' hq
  · simp only [hq.kind, hq.name]
  · simp only [hq.kind, hq.name]
  · simp only [isStaticMatch, hq.kind]
  · simp only [isTaking, hq.isDynamic, hq.type]

theorem walk_veiled (hroot : root.Veiled s root') (b : Bindings) (h : p.node.Abreast s p'.node)
    (words : List String) :
    (p.walk root s i b words).value.Alike (p'.walk root' s i b words).value := by
  induction words generalizing b p p' with
  | nil =>
    have hexec : p.node.isExecutable = p'.node.isExecutable := by
      rw [Argument.isExecutable, Argument.isExecutable, h.traits]
    simp only [walk, Noted.value_pure, arrive, hexec]
    cases p'.node.isExecutable with
    | true => exact ⟨h.name, h.traits, rfl⟩
    | false => trivial
  | cons word words ih =>
    simp only [walk, Noted.value_bind]
    obtain ⟨hnone, hnone'⟩ | ⟨q, q', hsome, hsome', hq⟩ := rel_cases (select_veiled (i := i) h word)
    · simp only [hnone, hnone', Noted.value_pure, h.unmatched]
      exact .refl _
    · simp only [hsome, hsome', ← hq.denial hroot]
      cases hd : root.denial s q.node with
      | some d => exact .refl d
      | none =>
        have hbind : q.bind word b = q'.bind word b := by
          simp only [bind, hq.kind, hq.name]
        rw [← hbind]
        exact ih _ (hq.opened hd)

theorem follow_veiled (hroot : root.Veiled s root') (h : p.node.Abreast s p'.node)
    (words : List String) :
    Option.Rel (fun q q' : Place => q.node.Abreast s q'.node) (p.follow root s i words).value
      (p'.follow root' s i words).value := by
  induction words generalizing p p' with
  | nil => exact .some h
  | cons word words ih =>
    simp only [follow, Noted.value_bind]
    obtain ⟨hnone, hnone'⟩ | ⟨q, q', hsome, hsome', hq⟩ := rel_cases (select_veiled (i := i) h word)
    · simp only [hnone, hnone']
      exact .none
    · simp only [hsome, hsome', ← hq.denial hroot]
      cases hd : root.denial s q.node with
      | some d => simp only [Option.isSome_some, Bool.or_true]; exact .none
      | none =>
        have hopened := hq.opened hd
        have hleaf : q.node.children.isEmpty = q'.node.children.isEmpty := by
          rw [Bool.eq_iff_iff, List.isEmpty_iff_length_eq_zero, List.isEmpty_iff_length_eq_zero,
            hopened.children.length_eq]
        rw [← hleaf]
        split
        · exact .none
        · exact ih hopened

end Place

/-! ## Trees seen from outside -/

namespace Argument

variable {s : Sender} {tree tree' : Argument}

theorem Veiled.matchPath (h : tree.Veiled s tree') (i : Identity) (words : List String) :
    (tree.matchPath s i words).value.Alike (tree'.matchPath s i words).value := by
  simp only [Argument.matchPath, ← h.denial h]
  cases hd : tree.denial s tree with
  | some d => exact .refl d
  | none => exact Place.walk_veiled h _ (h.opened hd) words

theorem Veiled.suggest (h : tree.Veiled s tree') (hopen : tree.denial s tree = none) (i : Identity)
    (words : List String) : (tree.suggest s i words).value = (tree'.suggest s i words).value := by
  unfold Argument.suggest
  cases words.getLast? with
  | none => rfl
  | some partly =>
    simp only [Noted.value_bind]
    have hroots : (Place.root tree).node.Abreast s (Place.root tree').node := h.opened hopen
    obtain ⟨hnone, hnone'⟩ | ⟨p, p', hsome, hsome', hp⟩ :=
      rel_cases (Place.follow_veiled (i := i) h hroots words.dropLast)
    · simp only [hnone, hnone']
    · simp only [hsome, hsome', Noted.value_pure]
      refine flatMap_rel (R := Veiled s) (fun a a' ha => ha.offers i.platform _) ?_
      exact List.rel_filter (fun a a' ha => by simp only [ha.denial h]) hp.children

theorem denial_eq_none_iff {root a : Argument} :
    root.denial s a = none ↔ a.traits.permission.any (fun p => !s.has p) = false := by
  unfold denial
  cases a.traits.permission with
  | none => simp
  | some p => cases s.has p <;> simp

/-- **A refusal hides what is behind it.** Let two trees be equal, except for the actions, the
delay and the nodes below of one node whose permission the sender lacks; it may be the root. On
any host and with any roster, all words are answered alike by both. And two dispatchers there
that have commands of these trees under one label offer the sender the same completions. -/
theorem denied_hides {N : Type} (h : tree.Veiled s tree') :
    (∀ i words, (tree.matchPath s i words).value.Alike (tree'.matchPath s i words).value) ∧
    ∀ (d d' : Dispatcher N) (label : String) (c c' : Command) (args : List String),
      d.command? label = some c → c.tree = tree → d'.command? label = some c' → c'.tree = tree' →
      d.identity = d'.identity →
      (d.complete s label args).value = (d'.complete s label args).value := by
  refine ⟨h.matchPath, ?_⟩
  rintro d d' label c c' args hc rfl hc' rfl hidentity
  have hpermission : c.permission = c'.permission := h.traits.1
  simp only [Dispatcher.complete, hc, hc', ← hpermission, ← hidentity]
  cases hlacks : c.permission.any fun p => !s.has p with
  | true => rfl
  | false => exact h.suggest (denial_eq_none_iff.2 hlacks) d.identity args

def vault (actions : Option ActionSet) (below : List Argument) : Argument :=
  .mk "vault" {}
    [.mk "[who]" { declaredType := some "online_player" } [],
      .mk "keeper" { permission := some "vault.keeper", actions } below]

/-- A vault whose keepers have something to do and a door to go through. -/
def fullVault : Argument :=
  vault (some [("message", .list [.text "Welcome"])])
    [.mk "door" { actions := some [("console", .list [.text "open"])] } []]

def vaultCommand (tree : Argument) : Command where
  name := "vault"
  usageMessage := none
  aliases := []
  price := .free
  cooldown := none
  tree

def withVault (tree : Argument) : Dispatcher Rat where
  catalogue := { entries := [{ command := vaultCommand tree, aliases := [] }] }

/-- A visitor cannot tell an empty vault from a full one. -/
theorem vault_hides_door :
    let visitor : Sender := { name := "Alice", id := some ⟨1⟩ }
    (vault none []).Veiled visitor fullVault ∧
      ((vault none []).matchPath visitor { platform := {} } ["keeper", "door"]).value.Alike
        (fullVault.matchPath visitor { platform := {} } ["keeper", "door"]).value ∧
      ((withVault (vault none [])).complete visitor "vault" ["keeper", ""]).value =
        ((withVault fullVault).complete visitor "vault" ["keeper", ""]).value := by
  intro visitor
  have h : (vault none []).Veiled visitor fullVault :=
    @Veiled.deeper visitor "vault" {} [.mk "[who]" _ []] [] _ _ (.behind rfl rfl rfl)
  have hfind (tree : Argument) : (withVault tree).command? "vault" = some (vaultCommand tree) := by
    simp [withVault, vaultCommand, Dispatcher.command?, Catalogue.find?, Catalogue.Entry.answersTo,
      Catalogue.Entry.labels]
  obtain ⟨hmatch, hcomplete⟩ := denied_hides (N := Rat) h
  exact ⟨h, hmatch _ _, hcomplete _ _ _ _ _ _ (hfind _) rfl (hfind _) rfl rfl⟩

end Argument

end CustomCommands
