import CustomCommands.Text.Replace
import CustomCommands.Value

/-!
# Bindings

Placeholders, with their brackets, and the text each stands for. A text is
rewritten in one pass from left to right: the longest placeholder wins, and the
text put in its place is not looked at again.
-/

namespace CustomCommands

/-- Bindings sorted by key, each key once. -/
structure Bindings where
  entries : List (String × String) := []
  sorted : entries.Pairwise (fun a b => a.1 < b.1) := by simp

namespace Bindings

def insertSorted (key value : String) : List (String × String) → List (String × String)
  | [] => [(key, value)]
  | (k, v) :: es =>
    if key < k then (key, value) :: (k, v) :: es
    else if k < key then (k, v) :: insertSorted key value es
    else (key, value) :: es

theorem mem_insertSorted {e : String × String} {key value : String} {es : List (String × String)}
    (h : e ∈ insertSorted key value es) : e = (key, value) ∨ e ∈ es := by
  induction es with
  | nil => simp_all [insertSorted]
  | cons d es ih =>
    simp only [insertSorted] at h
    split at h
    · simp_all
    · split at h <;> simp only [List.mem_cons] at h ⊢ <;> grind

theorem pairwise_insertSorted {key value : String} {es : List (String × String)}
    (h : es.Pairwise (fun a b => a.1 < b.1)) :
    (insertSorted key value es).Pairwise (fun a b => a.1 < b.1) := by
  induction es with
  | nil => simp [insertSorted]
  | cons d es ih =>
    obtain ⟨k, v⟩ := d
    rw [List.pairwise_cons] at h
    simp only [insertSorted]
    split
    · rename_i hk
      refine List.pairwise_cons.2 ⟨?_, List.pairwise_cons.2 h⟩
      intro e he
      rcases List.mem_cons.1 he with rfl | he
      · exact hk
      · exact String.lt_trans hk (h.1 e he)
    · split
      · rename_i hk
        refine List.pairwise_cons.2 ⟨?_, ih h.2⟩
        intro e he
        rcases mem_insertSorted he with rfl | he
        · exact hk
        · exact h.1 e he
      · rename_i h₁ h₂
        have : key = k := String.le_antisymm (String.not_lt.1 h₂) (String.not_lt.1 h₁)
        subst this
        exact List.pairwise_cons.2 h

def insert (key value : String) (b : Bindings) : Bindings where
  entries := insertSorted key value b.entries
  sorted := pairwise_insertSorted b.sorted

def get? (key : String) (b : Bindings) : Option String :=
  Assoc.get? key b.entries

theorem get?_insert (key value k : String) (b : Bindings) :
    (b.insert key value).get? k = if key = k then some value else b.get? k := by
  unfold get? insert
  simp only
  induction b.entries with
  | nil => simp [insertSorted, Assoc.get?]
  | cons e es ih =>
    obtain ⟨k', v⟩ := e
    simp only [insertSorted]
    split
    · rfl
    · split
      · rename_i hlt
        simp only [Assoc.get?, ih]
        by_cases hk : key = k
        · have hne : k' ≠ k := fun h => String.lt_irrefl k (by rw [h, hk] at hlt; exact hlt)
          simp only [hk, hne, ↓reduceIte]
        · simp only [hk, ↓reduceIte]
      · rename_i h₁ h₂
        have heq : key = k' := String.le_antisymm (String.not_lt.1 h₂) (String.not_lt.1 h₁)
        subst heq
        simp only [Assoc.get?]
        by_cases hk : key = k <;> simp only [hk, ↓reduceIte]

def senderKey : String := "\x7bsender\x7d"

def secondsKey : String := "\x7bseconds_remaining\x7d"

def ofSender (name : String) : Bindings :=
  ({} : Bindings).insert senderKey name

/-! ## Substitution -/

/-- The longer of two keys, the first if they are equally long. -/
def longer (a b : String × String) : String × String :=
  if a.1.length < b.1.length then b else a

/-- The entry with the longest key that the text starts with; an empty key counts for nothing. -/
def longest? (cs : List Char) (entries : List (String × String)) : Option (String × String) :=
  (entries.filter fun (k, _) => !k.isEmpty && Text.startsWith cs k.toList).foldl
    (fun best e => some (match best with
      | none => e
      | some b => longer b e)) none

/-- What replaces the start of a text, and how many characters that is. -/
def find? (b : Bindings) (cs : List Char) : Option (List Char × Nat) :=
  (longest? cs b.entries).map fun (k, v) => (v.toList, k.length)

def apply (b : Bindings) (s : String) : String :=
  String.ofList (Text.rewrite b.find? s.toList)

def substitute (b : Bindings) (v : Value) : Value :=
  v.mapText b.apply

end Bindings

end CustomCommands
