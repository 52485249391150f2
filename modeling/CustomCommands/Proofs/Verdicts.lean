import CustomCommands.Proofs.Suggestions
import Mathlib.Data.Nat.Find

/-!
# Where a match is decided

A word fails where the node that the words before it lead to has no child for it,
or one that the sender may not use. The first word that fails decides the outcome
(`Place.walk_of_firstFailure`), whatever follows it; if none fails, the node at the
end of the path does (`Place.walk_of_noFailure`). So an outcome that tells of a
refusal or of a wrong type stands for all longer paths too
(`Place.walk_append`).
-/

namespace CustomCommands

/-! ## Nodes that may be used -/

namespace Argument

def IsOpen (s : Sender) (a : Argument) : Prop :=
  ∀ permission, a.traits.permission = some permission → s.has permission = true

variable {s : Sender} {root a : Argument}

theorem denial_of_isOpen (h : a.IsOpen s) : root.denial s a = none := by
  unfold denial
  split
  · rfl
  · rename_i permission hp
    rw [if_pos (h permission hp)]

/-- A refusal has the message of the node, or else that of the root. -/
theorem denial_of_not_isOpen (h : ¬ a.IsOpen s) :
    root.denial s a =
      some (.denied (a.traits.permissionMessage.or root.traits.permissionMessage)) := by
  unfold denial
  split
  · rename_i hp
    exact absurd (fun permission hsome => by rw [hp] at hsome; cases hsome) h
  · rename_i permission hp
    rw [if_neg]
    intro hhas
    refine h fun permission' hsome => ?_
    rw [hp, Option.some.injEq] at hsome
    exact hsome ▸ hhas

/-! ## Words that lead nowhere -/

theorem unmatched_of_single {d : Argument} (h : a.children.filter isDynamic = [d])
    (word : String) :
    a.unmatched word = .invalid (Text.replaceAll inputToken word d.typeErrorTemplate) := by
  unfold unmatched
  rw [h]

theorem unmatched_of_length_ne (h : (a.children.filter isDynamic).length ≠ 1) (word : String) :
    a.unmatched word = .usage := by
  unfold unmatched
  split
  · rename_i d hd
    exact absurd (by rw [hd]; rfl) h
  · rfl

end Argument

def MatchOutcome.IsFinal : MatchOutcome → Prop
  | .denied _ | .invalid _ => True
  | .resolved _ | .usage => False

namespace Place

variable {root : Argument} {s : Sender} {i : Identity} {p q : Place} {word : String}
  {words : List String}

/-! ## Words that fail -/

/-- The node that words lead to, whoever types them. -/
def reached? (i : Identity) (p : Place) : List String → Option Place
  | [] => some p
  | word :: words => (p.select i word).value.bind fun q => q.reached? i words

/-- The words before number `k` lead to `q`, and that word leads to no child of it that the sender
may use. -/
def FailsAt (s : Sender) (i : Identity) (p : Place) (words : List String) (k : Nat)
    (q : Place) (word : String) : Prop :=
  p.reached? i (words.take k) = some q ∧ words[k]? = some word ∧
    ∀ child, (q.select i word).value = some child → ¬ child.node.IsOpen s

structure FirstFailure (s : Sender) (i : Identity) (p : Place) (words : List String) (k : Nat)
    (q : Place) (word : String) : Prop where
  fails : p.FailsAt s i words k q word
  first : ∀ j < k, ∀ q word, ¬ p.FailsAt s i words j q word

theorem select_of_not_failsAt (h : ∀ q' word', ¬ p.FailsAt s i (word :: words) 0 q' word') :
    ∃ q, (p.select i word).value = some q ∧ q.node.IsOpen s := by
  refine Classical.byContradiction fun hnone => h p word ⟨rfl, rfl, fun child hchild hopen => ?_⟩
  exact hnone ⟨child, hchild, hopen⟩

theorem failsAt_succ (hq : (p.select i word).value = some q) {k : Nat} {q' : Place}
    {word' : String} :
    p.FailsAt s i (word :: words) (k + 1) q' word' ↔ q.FailsAt s i words k q' word' := by
  simp only [FailsAt, List.take_succ_cons, reached?, hq, Option.bind_some, List.getElem?_cons_succ]

theorem exists_firstFailure (s : Sender) (i : Identity) (p : Place) (words : List String) :
    (∃ k q word, p.FirstFailure s i words k q word) ∨
      ∀ k q word, ¬ p.FailsAt s i words k q word := by
  classical
  by_cases h : ∃ k, ∃ q word, p.FailsAt s i words k q word
  · obtain ⟨q, word, hfails⟩ := Nat.find_spec h
    exact .inl ⟨Nat.find h, q, word, hfails, fun j hj q' word' hj' =>
      Nat.find_min h hj ⟨q', word', hj'⟩⟩
  · exact .inr fun k q word hfails => h ⟨k, q, word, hfails⟩

/-! ## Outcomes -/

theorem walk_of_select_none (h : (p.select i word).value = none) (b : Bindings)
    (words : List String) :
    (p.walk root s i b (word :: words)).value = p.node.unmatched word := by
  simp only [walk, Noted.value_bind, h, Noted.value_pure]

/-- The first word that fails decides: there is no child for it, or the child's refusal is told. -/
theorem walk_of_firstFailure {k : Nat} (h : p.FirstFailure s i words k q word) (b : Bindings) :
    (p.walk root s i b words).value =
      match (q.select i word).value with
      | none => q.node.unmatched word
      | some child =>
        .denied (child.node.traits.permissionMessage.or root.traits.permissionMessage) := by
  induction words generalizing p b k with
  | nil => cases h.fails.2.1
  | cons w words ih =>
    cases k with
    | zero =>
      obtain ⟨hreached, hword, hclosed⟩ := h.fails
      cases hreached
      cases hword
      cases hselect : (q.select i word).value with
      | none => exact walk_of_select_none hselect b words
      | some child =>
        rw [walk_cons hselect, Argument.denial_of_not_isOpen (hclosed child hselect)]
        rfl
    | succ k =>
      obtain ⟨next, hnext, hopen⟩ := select_of_not_failsAt (h.first 0 k.succ_pos)
      have hrest : next.FirstFailure s i words k q word :=
        ⟨(failsAt_succ hnext).1 h.fails, fun j hj q' word' hfails =>
          h.first (j + 1) (Nat.succ_lt_succ hj) q' word' ((failsAt_succ hnext).2 hfails)⟩
      rw [walk_cons hnext, Argument.denial_of_isOpen hopen]
      exact ih hrest _

theorem walk_of_noFailure (h : ∀ k q word, ¬ p.FailsAt s i words k q word) (b : Bindings) :
    ∃ q b', p.reached? i words = some q ∧ (p.walk root s i b words).value = q.arrive b' := by
  induction words generalizing p b with
  | nil => exact ⟨p, b, rfl, rfl⟩
  | cons w words ih =>
    obtain ⟨next, hnext, hopen⟩ := select_of_not_failsAt (h 0)
    obtain ⟨q, b', hreached, hwalk⟩ := ih
      (fun k q' word' hfails => h (k + 1) q' word' ((failsAt_succ hnext).2 hfails)) (next.bind w b)
    refine ⟨q, b', ?_, ?_⟩
    · rw [reached?, hnext]
      exact hreached
    · rw [walk_cons hnext, Argument.denial_of_isOpen hopen]
      exact hwalk

/-- A refusal or an error of type stands whatever words are added. -/
theorem walk_append {b : Bindings} (h : (p.walk root s i b words).value.IsFinal)
    (more : List String) :
    (p.walk root s i b (words ++ more)).value = (p.walk root s i b words).value := by
  induction words generalizing p b with
  | nil =>
    simp only [walk, Noted.value_pure, arrive] at h
    split at h <;> cases h
  | cons w words ih =>
    rw [List.cons_append]
    cases hselect : (p.select i w).value with
    | none => rw [walk_of_select_none hselect, walk_of_select_none hselect]
    | some child =>
      rw [walk_cons hselect] at h ⊢
      rw [walk_cons hselect]
      cases hd : root.denial s child.node with
      | some d => rfl
      | none =>
        rw [hd] at h
        exact ih h

end Place

namespace Argument

/-- **Where a match is decided.** Who lacks the permission of the command is refused with its
message. Else the first word that fails decides. If it leads to a child, the outcome is a refusal
with the message of the child or, if it has none, of the command. If it leads to none, the outcome
is an error of type if a single type is asked for there, the child's own with the word in it or one
that names the type, and usage otherwise. If no word fails, the path resolves at its end if that has
actions or a countdown, and usage is shown otherwise. And a refusal or an error of type stands
whatever words are added. -/
theorem matchPath_decided (tree : Argument) (s : Sender) (i : Identity) (words : List String) :
    let outcome := (tree.matchPath s i words).value
    let root := Place.root tree
    (¬ tree.IsOpen s → outcome = .denied tree.traits.permissionMessage) ∧
    (tree.IsOpen s →
      (∀ k q word, root.FirstFailure s i words k q word →
        (∀ child, (q.select i word).value = some child →
          outcome =
            .denied (child.node.traits.permissionMessage.or tree.traits.permissionMessage)) ∧
        ((q.select i word).value = none →
          (∀ d, q.node.children.filter isDynamic = [d] →
            let generic := "&cInvalid input for <" ++ d.traits.declaredType.getD "text" ++ ">."
            outcome = .invalid (Text.replaceAll "%input%" word (d.traits.typeError.getD generic))) ∧
          ((q.node.children.filter isDynamic).length ≠ 1 → outcome = .usage))) ∧
      ((∀ k q word, ¬ root.FailsAt s i words k q word) →
        ∃ q, root.reached? i words = some q ∧
          ((q.node.traits.actions.isSome ∨ q.node.traits.delay.isSome) →
            ∃ b, outcome = .resolved { place := q, bindings := b }) ∧
          (¬ (q.node.traits.actions.isSome ∨ q.node.traits.delay.isSome) → outcome = .usage))) ∧
    ((∃ k q word, root.FirstFailure s i words k q word) ∨
      ∀ k q word, ¬ root.FailsAt s i words k q word) ∧
    (outcome.IsFinal → ∀ more, (tree.matchPath s i (words ++ more)).value = outcome) := by
  intro outcome root
  have hwalk (hopen : tree.IsOpen s) (words : List String) :
      (tree.matchPath s i words).value = (root.walk tree s i (.ofSender s.name) words).value := by
    rw [matchPath, denial_of_isOpen hopen]
  have hrefused (hclosed : ¬ tree.IsOpen s) (words : List String) :
      (tree.matchPath s i words).value = .denied tree.traits.permissionMessage := by
    rw [matchPath, denial_of_not_isOpen hclosed, Option.or_self]
    rfl
  refine ⟨fun hclosed => hrefused hclosed words, fun hopen => ⟨?_, ?_⟩,
    Place.exists_firstFailure s i root words, ?_⟩
  · intro k q word hfirst
    have houtcome := (hwalk hopen words).trans (Place.walk_of_firstFailure hfirst _)
    refine ⟨fun child hchild => ?_, fun hnone => ?_⟩
    · rw [hchild] at houtcome
      exact houtcome
    · rw [hnone] at houtcome
      exact ⟨fun d hd => houtcome.trans (unmatched_of_single hd word),
        fun hmany => houtcome.trans (unmatched_of_length_ne hmany word)⟩
  · intro hnone
    obtain ⟨q, b, hreached, harrive⟩ := Place.walk_of_noFailure hnone (.ofSender s.name)
    have houtcome := (hwalk hopen words).trans harrive
    rw [Place.arrive] at houtcome
    refine ⟨q, hreached, fun h => ⟨b, ?_⟩, fun h => ?_⟩
    · rw [if_pos (isExecutable_iff.2 h)] at houtcome
      exact houtcome
    · rw [if_neg (mt isExecutable_iff.1 h)] at houtcome
      exact houtcome
  · intro hfinal more
    by_cases hopen : tree.IsOpen s
    · simp only [outcome, hwalk hopen] at hfinal ⊢
      exact Place.walk_append hfinal more
    · simp only [outcome, hrefused hopen]

end Argument

end CustomCommands
