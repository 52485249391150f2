import CustomCommands.Completion
import CustomCommands.Proofs.Selection

/-!
# Where a suggestion leads

A completion is offered by a child that the sender may use, and that child asks
for it (`Place.agrees_of_offers`). Typed as the next word it is matched after the
same steps as the completion took (`Place.walk_followed`), and leads to the first
child that takes it, by the order in which they are asked. That need not be the
child that offered it, and the sender may lack its permission.
-/

namespace CustomCommands

theorem ArgumentType.takes_of_mem_suggestions {i : Identity} {partly : List Char}
    {t : ArgumentType} {word : String} (h : word ∈ t.suggestions i.platform partly) :
    (t.takes i word).value = true := by
  have hlisted := (List.mem_filter.1 h).1
  cases t with
  | onlinePlayer => exact Platform.isSome_onlinePlayer_iff.2 hlisted
  | world => exact Platform.hasWorld_iff.2 hlisted
  | player | integer | double | text => cases hlisted

namespace Place

variable {root : Argument} {s : Sender} {i : Identity} {p p' q : Place} {word : String}

theorem agrees_of_offers {partly : List Char} (h : word ∈ q.node.offers i.platform partly) :
    q.Agrees i word := by
  unfold Argument.offers at h
  unfold Agrees
  cases hkind : q.node.kind with
  | literal =>
    simp only [hkind, List.mem_ite_nil_right, List.mem_singleton] at h
    exact h.2.symm
  | static inner =>
    simp only [hkind, List.mem_ite_nil_right, List.mem_singleton] at h
    rw [h.2]
  | dynamic inner =>
    rw [hkind] at h
    exact ArgumentType.takes_of_mem_suggestions h

theorem exists_select (hq : q ∈ p.children) (h : q.Agrees i word) :
    ∃ q', (p.select i word).value = some q' := by
  rw [← Option.isSome_iff_exists, select_eq, Option.isSome_or, Bool.or_eq_true]
  exact .inr (isSome_documented_iff.2 ⟨q, hq, h⟩)

/-! ## Steps -/

theorem walk_cons (hq : (p.select i word).value = some q) (b : Bindings) (words : List String) :
    (p.walk root s i b (word :: words)).value =
      (root.denial s q.node).getD (q.walk root s i (q.bind word b) words).value := by
  simp only [walk, Noted.value_bind, hq]
  cases root.denial s q.node <;> rfl

theorem follow_cons {words : List String}
    (h : (p.follow root s i (word :: words)).value = some p') :
    ∃ q, (p.select i word).value = some q ∧ root.denial s q.node = none ∧
      (q.follow root s i words).value = some p' := by
  rw [follow, Noted.value_bind] at h
  split at h
  · cases h
  · rename_i q hq
    split at h
    · cases h
    · rename_i hopen
      rw [Bool.or_eq_true, not_or, Option.not_isSome_iff_eq_none] at hopen
      exact ⟨q, hq, hopen.2, h⟩

/-- What is followed for a completion is walked by a match. -/
theorem walk_followed {words : List String} (h : (p.follow root s i words).value = some p')
    (b : Bindings) (more : List String) :
    ∃ b', (p.walk root s i b (words ++ more)).value = (p'.walk root s i b' more).value := by
  induction words generalizing p b with
  | nil =>
    cases h
    exact ⟨b, rfl⟩
  | cons word words ih =>
    obtain ⟨q, hq, hopen, h⟩ := follow_cons h
    obtain ⟨b', hb⟩ := ih h (q.bind word b)
    refine ⟨b', ?_⟩
    rw [List.cons_append, walk_cons hq, hopen, Option.getD_none, hb]

end Place

namespace Argument

variable {tree : Argument} {s : Sender} {i : Identity} {walked : List String}
  {partly word : String}

theorem mem_suggest (h : word ∈ (tree.suggest s i (walked ++ [partly])).value) :
    ∃ p offering : Place, ((Place.root tree).follow tree s i walked).value = some p ∧
      offering ∈ p.children ∧ tree.denial s offering.node = none ∧
      word ∈ offering.node.offers i.platform (Text.lowerChars partly.toList) := by
  rw [suggest, List.getLast?_concat, List.dropLast_concat] at h
  simp only [Noted.value_bind] at h
  split at h
  · cases h
  · rename_i p hp
    obtain ⟨a, ha, hword⟩ := List.mem_flatMap.1 h
    obtain ⟨ha, hopen⟩ := List.mem_filter.1 ha
    rw [← Place.map_node_children] at ha
    obtain ⟨offering, hoffering, rfl⟩ := List.mem_map.1 ha
    exact ⟨p, offering, hp, hoffering, Option.isNone_iff_eq_none.1 hopen, hword⟩

/-- The outcome of one more word after a completion's. -/
theorem matchPath_followed {p q : Place} (hopen : tree.denial s tree = none)
    (hp : ((Place.root tree).follow tree s i walked).value = some p)
    (hq : (p.select i word).value = some q) :
    ∃ b, (tree.matchPath s i (walked ++ [word])).value =
      (tree.denial s q.node).getD (q.arrive b) := by
  obtain ⟨b, hb⟩ := Place.walk_followed hp (.ofSender s.name) [word]
  refine ⟨q.bind word b, ?_⟩
  rw [matchPath, hopen]
  exact hb.trans (Place.walk_cons hq b [])

/-- **Where a suggestion leads.** Let a sender who may use the command be offered a word. A child
of the node reached offers it that the sender may use and that asks for it. Typed in full, the word
is never of a wrong type. It leads to a child, the first that takes it; and if the sender lacks the
permission of this one, which is then another child than the one that offered it, the outcome is
its refusal. Else the path resolves there, or nothing happens there and usage is shown. -/
theorem suggestion_leads (hopen : tree.denial s tree = none)
    (h : word ∈ (tree.suggest s i (walked ++ [partly])).value) :
    ∃ p offering q : Place,
      ((Place.root tree).follow tree s i walked).value = some p ∧
      offering ∈ p.children ∧ tree.denial s offering.node = none ∧ offering.Agrees i word ∧
      q ∈ p.children ∧ (p.select i word).value = some q ∧
      let outcome := (tree.matchPath s i (walked ++ [word])).value
      (∀ message, outcome ≠ .invalid message) ∧
        ((∃ message, outcome = .denied message) ↔ (tree.denial s q.node).isSome) ∧
        ((tree.denial s q.node).isSome → q ≠ offering ∧ tree.denial s q.node = some outcome) ∧
        (tree.denial s q.node = none →
          (q.node.isExecutable = true ∧ ∃ b, outcome = .resolved { place := q, bindings := b }) ∨
            (q.node.isExecutable = false ∧ outcome = .usage)) := by
  obtain ⟨p, offering, hp, hoffering, hoffers, hword⟩ := mem_suggest h
  have hagrees := Place.agrees_of_offers hword
  obtain ⟨q, hq⟩ := Place.exists_select hoffering hagrees
  refine ⟨p, offering, q, hp, hoffering, hoffers, hagrees, Place.mem_children_of_select hq, hq, ?_⟩
  obtain ⟨b, hb⟩ := matchPath_followed hopen hp hq
  simp only [hb]
  cases hd : tree.denial s q.node with
  | some d =>
    obtain ⟨message, rfl⟩ := Place.denied_of_denial hd
    have hne : q ≠ offering := by
      rintro rfl
      rw [hoffers] at hd
      cases hd
    simp [hne]
  | none =>
    unfold Place.arrive
    cases q.node.isExecutable <;> simp

/-- Homes, of which only an administrator sees all, and everyone an own one. -/
def homes : Argument :=
  .mk "home" {}
    [.mk "admin"
      { permission := some "home.admin", actions := some [("message", .list [.text "all homes"])] }
      [],
    .mk "\x7badmin\x7d" { actions := some [("message", .list [.text "your home"])] } []]

/-- The child in braces offers `admin` to a visitor, and typed out it does not become an error of
type. -/
theorem homes_admin_leads :
    let visitor : Sender := { name := "Alice", id := some ⟨1⟩ }
    let outcome := (homes.matchPath visitor { platform := {} } ["admin"]).value
    homes.denial visitor homes = none ∧
      "admin" ∈ (homes.suggest visitor { platform := {} } ["adm"]).value ∧
      ∃ offering q : Place, homes.denial visitor offering.node = none ∧
        offering.Agrees { platform := {} } "admin" ∧ (∀ message, outcome ≠ .invalid message) ∧
        ((∃ message, outcome = .denied message) ↔ (homes.denial visitor q.node).isSome) := by
  intro visitor outcome
  have hopen : homes.denial visitor homes = none := rfl
  have hoffered : "admin" ∈ (homes.suggest visitor { platform := {} } ([] ++ ["adm"])).value := by
    decide +kernel
  obtain ⟨_, offering, q, -, -, hoffers, hagrees, -, -, hinvalid, hdenied, -⟩ :=
    suggestion_leads hopen hoffered
  exact ⟨hopen, hoffered, offering, q, hoffers, hagrees, hinvalid, hdenied⟩

/-- What a visitor is offered there leads to a refusal: `admin` is first of all the name of the
child that is closed to visitors. -/
theorem homes_admin_denied :
    let visitor : Sender := { name := "Alice", id := some ⟨1⟩ }
    homes.denial visitor homes = none ∧
      (homes.suggest visitor { platform := {} } ["adm"]).value = ["admin"] ∧
      (homes.matchPath visitor { platform := {} } ["admin"]).value = .denied none :=
  ⟨rfl, by decide +kernel, rfl⟩

end Argument

end CustomCommands
