import CustomCommands.Matching

/-!
# Which child a word leads to

`Place.documented` is the child that the rules name: a literal of that name, else
the first one in braces that agrees up to letter case, else the first one in
brackets whose type takes the word. `Place.select` goes by it but for one thing:
a placeholder whose own name, with its brackets or braces, is the word comes
before all others, and its type is not asked (`select_eq`). `Place.trail` lists
the children of a whole path; a path that resolves ends at the last of them, and
each placeholder is bound to the word of the last one of its name
(`walk_resolved`).
-/

namespace CustomCommands

namespace Place

/-! ## One word -/

def isTaking (i : Identity) (word : String) (q : Place) : Bool :=
  q.node.isDynamic && (q.node.type.takes i word).value

/-- The child that a word leads to by the rules. -/
def documented (i : Identity) (word : String) (p : Place) : Option Place :=
  (p.children.find? fun q => q.node.kind == .literal && q.node.name == word).or
    ((p.children.find? (isStaticMatch word)).or (p.children.find? (isTaking i word)))

/-- The first placeholder whose own name is the word. -/
def spelled? (word : String) (p : Place) : Option Place :=
  p.children.find? fun q => q.node.kind != .literal && q.node.name == word

theorem firstTaking_value (i : Identity) (word : String) (ps : List Place) :
    (firstTaking i word ps).value = ps.find? (isTaking i word) := by
  induction ps with
  | nil => rfl
  | cons p ps ih =>
    rw [firstTaking, List.find?_cons]
    cases hd : p.node.isDynamic with
    | false => simp only [isTaking, hd, Bool.false_and]; exact ih
    | true =>
      simp only [isTaking, hd, Bool.true_and, ↓reduceIte, Noted.value_bind]
      cases (p.node.type.takes i word).value with
      | false => exact ih
      | true => rfl

theorem find?_kind (f : ArgumentKind → Bool) (word : String) (p : Place) :
    (p.children.find? fun q => f q.node.kind && q.node.name == word) =
      if f (.ofName word) then p.children.find? fun q => q.node.name == word else none := by
  have hsame : (fun q : Place => f q.node.kind && q.node.name == word) =
      fun q => f (.ofName word) && q.node.name == word := by
    funext q
    by_cases hq : q.node.name = word
    · rw [Argument.kind, hq]
    · rw [beq_false_of_ne hq, Bool.and_false, Bool.and_false]
  rw [hsame]
  cases f (.ofName word) <;> simp

/-- A child of the word's name is a literal if the word is one, and else a placeholder. -/
theorem find?_name (word : String) (p : Place) :
    (p.children.find? fun q => q.node.name == word) =
      (p.spelled? word).or
        (p.children.find? fun q => q.node.kind == .literal && q.node.name == word) := by
  rw [spelled?, find?_kind (· != .literal), find?_kind (· == .literal)]
  by_cases hword : ArgumentKind.ofName word = .literal <;> simp [hword]

/-- The child is that of the rules, unless a placeholder's own name is the word. -/
theorem select_eq (i : Identity) (word : String) (p : Place) :
    (p.select i word).value = (p.spelled? word).or (p.documented i word) := by
  rw [documented, ← Option.or_assoc, ← find?_name, select]
  split
  · rename_i q hq
    rw [hq]; rfl
  · rename_i hq
    rw [hq, Option.none_or]
    split
    · rename_i q hq
      rw [hq]; rfl
    · rename_i hq
      rw [hq, Option.none_or]
      exact firstTaking_value i word p.children

/-! ## What the child has to do with the word -/

/-- The word is one that the child asks for. -/
def Agrees (i : Identity) (word : String) (q : Place) : Prop :=
  match q.node.kind with
  | .literal => q.node.name = word
  | .static inner => Text.lower inner = Text.lower word
  | .dynamic _ => (q.node.type.takes i word).value = true

def Spelled (word : String) (q : Place) : Prop :=
  q.node.kind ≠ .literal ∧ q.node.name = word

theorem agrees_iff {i : Identity} {word : String} {q : Place} :
    q.Agrees i word ↔ (q.node.kind == .literal && q.node.name == word) = true ∨
      q.isStaticMatch word = true ∨ q.isTaking i word = true := by
  unfold Agrees isStaticMatch isTaking Argument.isDynamic
  cases q.node.kind <;> simp [ArgumentKind.isDynamic]

theorem agrees_of_documented {i : Identity} {word : String} {p q : Place}
    (h : p.documented i word = some q) : q.Agrees i word := by
  rw [documented, Option.or_eq_some_iff, Option.or_eq_some_iff] at h
  rw [agrees_iff]
  rcases h with h | ⟨-, h | ⟨-, h⟩⟩ <;> have hq := List.find?_some h
  · exact .inl hq
  · exact .inr (.inl hq)
  · exact .inr (.inr hq)

theorem isSome_documented_iff {i : Identity} {word : String} {p : Place} :
    (p.documented i word).isSome ↔ ∃ q ∈ p.children, q.Agrees i word := by
  simp only [documented, Option.isSome_or, Bool.or_eq_true, List.find?_isSome, agrees_iff,
    and_or_left, exists_or]

theorem select_agrees {i : Identity} {word : String} {p q : Place}
    (h : (p.select i word).value = some q) : q.Agrees i word ∨ q.Spelled word := by
  rw [select_eq, Option.or_eq_some_iff] at h
  rcases h with h | ⟨-, h⟩
  · right
    have := List.find?_some h
    simpa [Spelled] using this
  · exact .inl (agrees_of_documented h)

theorem mem_children_of_select {i : Identity} {word : String} {p q : Place}
    (h : (p.select i word).value = some q) : q ∈ p.children := by
  rw [select_eq, spelled?, documented, Option.or_eq_some_iff, Option.or_eq_some_iff,
    Option.or_eq_some_iff] at h
  rcases h with h | ⟨-, h | ⟨-, h | ⟨-, h⟩⟩⟩ <;> exact List.mem_of_find?_eq_some h

/-! ## Paths -/

/-- The words of a path, as far as they lead, with the children that they lead to. -/
def trail (i : Identity) (p : Place) : List String → List (String × Place)
  | [] => []
  | word :: words =>
    match (p.select i word).value with
    | none => []
    | some q => (word, q) :: q.trail i words

theorem trail_cons {i : Identity} {p q : Place} {word : String}
    (h : (p.select i word).value = some q) (words : List String) :
    p.trail i (word :: words) = (word, q) :: q.trail i words := by
  rw [trail, h]

theorem mem_trail {i : Identity} {p : Place} {words : List String} {x : String × Place}
    (h : x ∈ p.trail i words) : ∃ p' : Place, (p'.select i x.1).value = some x.2 := by
  induction words generalizing p with
  | nil => cases h
  | cons word words ih =>
    unfold trail at h
    split at h
    · cases h
    · rename_i q hq
      rcases List.mem_cons.1 h with rfl | h
      · exact ⟨p, hq⟩
      · exact ih h

theorem denied_of_denial {root a : Argument} {s : Sender} {o : MatchOutcome}
    (h : root.denial s a = some o) : ∃ message, o = .denied message := by
  unfold Argument.denial at h
  split at h
  · cases h
  · split at h
    · cases h
    · cases h; exact ⟨_, rfl⟩

/-- A path that resolves has been walked to its end, binding each placeholder on it. -/
theorem walk_resolved {root : Argument} {s : Sender} {i : Identity} {b : Bindings} {p : Place}
    {words : List String} {r : Resolution} (h : (p.walk root s i b words).value = .resolved r) :
    (p.trail i words).map Prod.fst = words ∧
      r.place = ((p.trail i words).getLast?.map Prod.snd).getD p ∧
      r.bindings = (p.trail i words).foldl (fun b x => x.2.bind x.1 b) b := by
  induction words generalizing b p with
  | nil =>
    simp only [walk, Noted.value_pure, arrive] at h
    split at h
    · cases h; exact ⟨rfl, rfl, rfl⟩
    · cases h
  | cons word words ih =>
    rw [walk, Noted.value_bind] at h
    split at h
    · rename_i hq
      unfold Argument.unmatched at h
      split at h <;> cases h
    · rename_i q hq
      rw [trail_cons hq]
      split at h
      · rename_i d hd
        obtain ⟨message, rfl⟩ := denied_of_denial hd
        cases h
      · obtain ⟨hwords, hplace, hb⟩ := ih h
        refine ⟨?_, ?_, ?_⟩
        · rw [List.map_cons, hwords]
        · rw [hplace, List.getLast?_cons]
          cases (q.trail i words).getLast? <;> rfl
        · rw [List.foldl_cons, hb]

theorem get?_foldl_bind (key : String) (xs : List (String × Place)) (b : Bindings) :
    (xs.foldl (fun b x => x.2.bind x.1 b) b).get? key =
      ((xs.reverse.find? fun x => x.2.node.kind != .literal && x.2.node.name == key).map
        Prod.fst).or (b.get? key) := by
  induction xs generalizing b with
  | nil => rfl
  | cons x xs ih =>
    rw [List.foldl_cons, ih, List.reverse_cons, List.find?_append, Option.map_or, Option.or_assoc]
    congr 1
    unfold bind
    by_cases hk : x.2.node.kind = .literal
    · simp [hk]
    · by_cases hn : x.2.node.name = key
      · simp [hk, hn, Bindings.get?_insert]
      · simp [hk, hn, Bindings.get?_insert]

end Place

/-- **Which children a path leads to.** The child that a word leads to is that of the rules,
except where a placeholder's own name is the word, which then leads to the first such placeholder.
So each word of a path that resolves is one that its child asks for, or the own name of a
placeholder; and each name is bound to the word of the last placeholder of that name. -/
theorem Argument.matchPath_selects (tree : Argument) (s : Sender) (i : Identity)
    (words : List String) :
    (∀ (p : Place) (word : String),
      (p.select i word).value = (p.spelled? word).or (p.documented i word) ∧
      ((p.select i word).value = p.documented i word ↔
        ∀ q, p.spelled? word = some q → p.documented i word = some q)) ∧
    ∀ r, (tree.matchPath s i words).value = .resolved r →
      let trail := (Place.root tree).trail i words
      trail.map Prod.fst = words ∧
      r.place = (trail.getLast?.map Prod.snd).getD (.root tree) ∧
      (∀ x ∈ trail, x.2.Agrees i x.1 ∨ x.2.Spelled x.1) ∧
      ∀ key, r.bindings.get? key =
        ((trail.reverse.find? fun x => x.2.node.kind != .literal && x.2.node.name == key).map
          Prod.fst).or ((Bindings.ofSender s.name).get? key) := by
  constructor
  · intro p word
    refine ⟨Place.select_eq i word p, ?_⟩
    rw [Place.select_eq]
    cases p.spelled? word with
    | none => simp
    | some q =>
      rw [Option.some_or]
      exact ⟨fun h q' hq => by rw [← h, hq], fun h => (h q rfl).symm⟩
  · intro r h
    unfold matchPath at h
    split at h
    · rename_i d hd
      obtain ⟨message, rfl⟩ := Place.denied_of_denial hd
      cases h
    · obtain ⟨hwords, hplace, hb⟩ := Place.walk_resolved h
      refine ⟨hwords, hplace, ?_, ?_⟩
      · intro x hx
        obtain ⟨p, hp⟩ := Place.mem_trail hx
        exact Place.select_agrees hp
      · intro key
        rw [hb, Place.get?_foldl_bind]

def askNumber : Argument :=
  .mk "give" {}
    [.mk "[n]"
      { declaredType := some "integer", actions := some [("message", .list [.text "x [n]"])] } []]

/-- No child of the rules takes `[n]`, which is no number, and yet it resolves. -/
theorem askNumber_takes_own_name :
    ((Place.root askNumber).documented { platform := {} } "[n]").isNone = true ∧
      ((Place.root askNumber).select { platform := {} } "[n]").value.isSome = true ∧
      (ArgumentType.integer.takes { platform := {} } "[n]").value = false ∧
      ∃ r, (askNumber.matchPath .console { platform := {} } ["[n]"]).value = .resolved r ∧
        r.bindings.get? "[n]" = some "[n]" :=
  ⟨by decide +kernel, by decide +kernel, by decide +kernel, _, rfl, by decide +kernel⟩

end CustomCommands
