import CustomCommands.Proofs.Siblings
import CustomCommands.Proofs.Verdicts
import CustomCommands.Proofs.WordEnds
import Mathlib.Data.List.Basic

/-!
# Partly typed words

A partly typed word is offered the names that the children of the node reached can be
called by, in their order, without those that do not begin with the word when both are
in lower case (`Argument.suggest_of_reached`). So whether a name is offered for its
own beginnings, and whether more text leaves fewer names, depends on lower case alone:
it does unless the text cuts a word at a capital sigma (`Text.beginsWith_iff`,
`Text.beginsWith_of_beginsWith`).
-/

namespace CustomCommands

namespace Text

def beginsWith (word name : String) : Bool :=
  startsWith (lowerChars name.toList) (lowerChars word.toList)

variable {word more name : String} {rest : List Char}

theorem beginsWith_iff (h : name.toList = word.toList ++ rest) :
    beginsWith word name = true ↔ ¬ CutsWord word.toList rest := by
  rw [beginsWith, startsWith_iff, h, lowerChars_prefix_iff]

theorem beginsWith_of_beginsWith (h : more.toList = word.toList ++ rest)
    (hcuts : ¬ CutsWord word.toList rest) (hmore : beginsWith more name = true) :
    beginsWith word name = true := by
  rw [beginsWith, startsWith_iff, h] at hmore
  rw [beginsWith, startsWith_iff]
  exact (lowerChars_prefix_iff.2 hcuts).trans hmore

/-- Where the text cuts a word, nothing begins with it that begins with more text. -/
theorem not_beginsWith_of_cutsWord (h : more.toList = word.toList ++ rest)
    (hcuts : CutsWord word.toList rest) (hmore : beginsWith more name = true) :
    beginsWith word name = false := by
  rw [beginsWith, startsWith_iff, h] at hmore
  rw [← Bool.not_eq_true, beginsWith, startsWith_iff]
  intro hword
  exact lowerChars_prefix_iff.1
    (List.prefix_of_prefix_length_le hword hmore (length_lowerAfter_le [] _ rest)) hcuts

end Text

namespace Argument

/-- The names that a node can be called by, as far as they can be listed. -/
def callNames (p : Platform) (a : Argument) : List String :=
  match a.kind with
  | .literal => [a.name]
  | .static inner => [inner]
  | .dynamic _ =>
    match a.type with
    | .onlinePlayer => p.onlineNames
    | .world => p.worldNames
    | _ => []

theorem offers_eq (p : Platform) (word : String) (a : Argument) :
    a.offers p (Text.lowerChars word.toList) = (a.callNames p).filter (Text.beginsWith word) := by
  unfold offers callNames
  cases a.kind with
  | literal => rw [List.filter_singleton, cond_eq_ite]; rfl
  | static inner => rw [List.filter_singleton, cond_eq_ite]; rfl
  | dynamic inner =>
    unfold ArgumentType.suggestions
    cases a.type <;> rfl

def mayUse (s : Sender) (a : Argument) : Bool :=
  a.traits.permission.all s.has

theorem mayUse_iff {s : Sender} {a : Argument} : a.mayUse s = true ↔ a.IsOpen s := by
  unfold mayUse IsOpen
  cases a.traits.permission <;> simp

theorem isNone_denial (root : Argument) (s : Sender) (a : Argument) :
    (root.denial s a).isNone = a.mayUse s := by
  unfold denial mayUse
  cases a.traits.permission with
  | none => rfl
  | some permission => cases h : s.has permission <;> simp [h]

end Argument

namespace Place

variable {root : Argument} {s : Sender} {i : Identity} {p q : Place} {words : List String}

def namesFor (s : Sender) (platform : Platform) (p : Place) : List String :=
  (p.node.children.filter (Argument.mayUse s)).flatMap (Argument.callNames platform)

theorem children_of_reached (h : p.reached? i words = some q) (hq : q.node.children ≠ []) :
    p.node.children ≠ [] := by
  cases words with
  | nil =>
    cases h
    exact hq
  | cons word words =>
    obtain ⟨child, hchild, -⟩ := Option.bind_eq_some_iff.1 h
    exact List.ne_nil_of_mem (node_mem_children (mem_children_of_select hchild))

/-- A completion follows all words that a match can follow to a node with children. -/
theorem follow_of_reached (h : p.reached? i words = some q)
    (hopen : ∀ x ∈ p.trail i words, x.2.node.IsOpen s) (hq : q.node.children ≠ []) :
    (p.follow root s i words).value = some q := by
  induction words generalizing p with
  | nil => exact h
  | cons word words ih =>
    obtain ⟨child, hchild, hrest⟩ := Option.bind_eq_some_iff.1 h
    rw [trail_cons hchild] at hopen
    obtain ⟨hhere, hbelow⟩ := List.forall_mem_cons.1 hopen
    have hchildren := children_of_reached hrest hq
    simp only [follow, Noted.value_bind, hchild, Argument.denial_of_isOpen hhere,
      Option.isSome_none, Bool.or_false, List.isEmpty_iff, hchildren, if_false]
    exact ih hrest hbelow

end Place

namespace Argument

variable {tree : Argument} {s : Sender} {i : Identity} {walked : List String} {p : Place}

theorem suggest_of_reached (hreached : (Place.root tree).reached? i walked = some p)
    (hopen : ∀ x ∈ (Place.root tree).trail i walked, x.2.node.IsOpen s)
    (hchildren : p.node.children ≠ []) (word : String) :
    (tree.suggest s i (walked ++ [word])).value =
      (p.namesFor s i.platform).filter (Text.beginsWith word) := by
  have hfollow : ((Place.root tree).follow tree s i walked).value = some p :=
    Place.follow_of_reached hreached hopen hchildren
  rw [suggest, List.getLast?_concat, List.dropLast_concat]
  simp only [Noted.value_bind, hfollow, Noted.value_pure, Place.namesFor, List.filter_flatMap,
    isNone_denial, ← offers_eq]

/-- **Partly typed words.** Let the words walked lead to a node with children, through nodes that
the sender may use. For every word after them,

* a name that a child open to the sender can be called by is offered for a beginning of it exactly
  if the beginning does not cut a word at a capital sigma;
* more text leaves of the names those that fit it, in their order, unless the shorter text cuts a
  word there, and then it offers none of the names that the longer text offers;
* nothing is offered but names that such children can be called by, in the order of the children. -/
theorem partial_words (hreached : (Place.root tree).reached? i walked = some p)
    (hopen : ∀ x ∈ (Place.root tree).trail i walked, x.2.node.IsOpen s)
    (hchildren : p.node.children ≠ []) :
    let suggested (word : String) := (tree.suggest s i (walked ++ [word])).value
    (∀ a ∈ p.node.children, a.IsOpen s → ∀ name ∈ a.callNames i.platform,
      ∀ word rest, name.toList = word.toList ++ rest →
        (name ∈ suggested word ↔ ¬ Text.CutsWord word.toList rest)) ∧
    (∀ word more rest, more.toList = word.toList ++ rest →
      (¬ Text.CutsWord word.toList rest → (suggested more).Sublist (suggested word)) ∧
      (Text.CutsWord word.toList rest → ∀ name ∈ suggested more, name ∉ suggested word)) ∧
    ∀ word, (suggested word).Sublist (p.namesFor s i.platform) := by
  intro suggested
  have heq (word : String) : suggested word =
      (p.namesFor s i.platform).filter (Text.beginsWith word) :=
    suggest_of_reached hreached hopen hchildren word
  refine ⟨?_, ?_, ?_⟩
  · intro a ha haopen name hname word rest hword
    have hlisted : name ∈ p.namesFor s i.platform :=
      List.mem_flatMap.2 ⟨a, List.mem_filter.2 ⟨ha, mayUse_iff.2 haopen⟩, hname⟩
    rw [heq, List.mem_filter, and_iff_right hlisted, Text.beginsWith_iff hword]
  · intro word more rest hmore
    rw [heq, heq]
    -- the same names are filtered twice, and by less text less strictly
    refine ⟨fun hcuts => ?_, fun hcuts name hname => ?_⟩
    · exact List.monotone_filter_right _ fun name => Text.beginsWith_of_beginsWith hmore hcuts
    · rw [List.mem_filter] at hname ⊢
      rw [Text.not_beginsWith_of_cutsWord hmore hcuts hname.2]
      simp
  · intro word
    rw [heq]
    exact List.filter_sublist

def lantern : Argument :=
  .mk "ΦΩΣΤΗΡΑΣ" { actions := some [("console", .list [.text "light"])] } []

def lanternsLight : Argument :=
  .mk "light" {} [lantern]

def lanterns : Argument :=
  .mk "lanterns" {} [lanternsLight]

/-- What four letters of a name offer, two letters of it offer as well. -/
theorem lanterns_two_letters :
    (Place.root lanterns).reached? { platform := {} } ["light"] = some ⟨1, lanternsLight⟩ ∧
      (∀ x ∈ (Place.root lanterns).trail { platform := {} } ["light"], x.2.node.IsOpen .console) ∧
      lanternsLight.children ≠ [] ∧
      "ΦΩΣΤΗΡΑΣ" ∈
        (lanterns.suggest .console { platform := {} } (["light"] ++ ["ΦΩ"])).value := by
  have hreached : (Place.root lanterns).reached? { platform := {} } ["light"] =
      some ⟨1, lanternsLight⟩ := rfl
  have hopen : ∀ x ∈ (Place.root lanterns).trail { platform := {} } ["light"],
      x.2.node.IsOpen .console := by
    rintro x (_ | ⟨_, ⟨⟩⟩)
    exact nofun
  have hchildren : lanternsLight.children ≠ [] := nofun
  obtain ⟨hoffered, hfewer, -⟩ := partial_words hreached hopen hchildren
  have hfour := (hoffered lantern (by simp [lanternsLight, children]) nofun "ΦΩΣΤΗΡΑΣ"
    (by decide +kernel) "ΦΩΣΤ" "ΗΡΑΣ".toList (by decide +kernel)).2 (by decide +kernel)
  have htwo := (hfewer "ΦΩ" "ΦΩΣΤ" "ΣΤ".toList (by decide +kernel)).1 (by decide +kernel)
  exact ⟨hreached, hopen, hchildren, htwo.subset hfour⟩

/-- Three letters end in a sigma, which in the name is followed by another letter: what three
letters offer is not what fits them, and not all that four letters offer. -/
theorem lanterns_three_letters :
    let suggested (word : String) :=
      (lanterns.suggest .console { platform := {} } ["light", word]).value
    "ΦΩΣ".toList <+: "ΦΩΣΤΗΡΑΣ".toList ∧ suggested "ΦΩΣ" = [] ∧
      "ΦΩΣ".toList <+: "ΦΩΣΤ".toList ∧ suggested "ΦΩΣΤ" = ["ΦΩΣΤΗΡΑΣ"] := by
  decide +kernel

end Argument

end CustomCommands
