/-!
# Association lists

Finite maps whose entries stay in the order in which their keys came in.
Inserting under a known key replaces the value where it stands.
-/

namespace CustomCommands.Assoc

variable {K V : Type} [DecidableEq K]

def get? (k : K) : List (K × V) → Option V
  | [] => none
  | (k', v) :: m => if k' = k then some v else get? k m

def insert (k : K) (v : V) : List (K × V) → List (K × V)
  | [] => [(k, v)]
  | (k', v') :: m => if k' = k then (k, v) :: m else (k', v') :: insert k v m

def erase (k : K) : List (K × V) → List (K × V)
  | [] => []
  | (k', v) :: m => if k' = k then erase k m else (k', v) :: erase k m

/-- The map of a list of entries, where a later value of a key wins at the key's first place. -/
def ofList (entries : List (K × V)) : List (K × V) :=
  entries.foldl (fun m (k, v) => insert k v m) []

def keys (m : List (K × V)) : List K :=
  m.map Prod.fst

/-! ## What each operation does to look-up -/

theorem get?_insert (k j : K) (v : V) (m : List (K × V)) :
    get? j (insert k v m) = if k = j then some v else get? j m := by
  induction m with
  | nil => simp [insert, get?]
  | cons e m ih =>
    obtain ⟨k', v'⟩ := e
    simp only [insert]
    split <;> simp only [get?] <;> grind

theorem get?_erase (k j : K) (m : List (K × V)) :
    get? j (erase k m) = if k = j then none else get? j m := by
  induction m with
  | nil => simp [erase, get?]
  | cons e m ih =>
    obtain ⟨k', v'⟩ := e
    simp only [erase]
    split <;> simp only [get?] <;> grind

/-! ## Keys -/

theorem isSome_get? (k : K) (m : List (K × V)) : (get? k m).isSome ↔ k ∈ keys m := by
  induction m with
  | nil => simp [get?, keys]
  | cons e m ih =>
    obtain ⟨k', v'⟩ := e
    simp only [get?, keys, List.map_cons, List.mem_cons]
    split
    · next h => simp [h]
    · next h => rw [ih, keys, eq_comm]; simp [h]

theorem mem_of_get? {k : K} {v : V} {m : List (K × V)} (h : get? k m = some v) : (k, v) ∈ m := by
  induction m with
  | nil => cases h
  | cons e m ih =>
    obtain ⟨k', v'⟩ := e
    rw [get?] at h
    split at h
    · next hk => cases h; rw [hk]; exact List.mem_cons_self
    · exact List.mem_cons_of_mem _ (ih h)

/-- Where keys are distinct, what is stored is what is found. -/
theorem mem_iff_get? {k : K} {v : V} {m : List (K × V)} (hm : (keys m).Nodup) :
    (k, v) ∈ m ↔ get? k m = some v := by
  refine ⟨fun h => ?_, mem_of_get?⟩
  induction m with
  | nil => cases h
  | cons e m ih =>
    obtain ⟨k', v'⟩ := e
    obtain ⟨hk, hm⟩ := List.nodup_cons.1 hm
    rw [get?]
    rcases List.mem_cons.1 h with he | h
    · cases he; exact if_pos rfl
    · have hmem : k ∈ keys m := List.mem_map.2 ⟨(k, v), h, rfl⟩
      have hne : k' ≠ k := fun heq => hk (heq ▸ hmem)
      rw [if_neg hne]
      exact ih hm h

theorem get?_append (k : K) (m m' : List (K × V)) :
    get? k (m ++ m') = (get? k m).or (get? k m') := by
  induction m with
  | nil => rfl
  | cons e m ih =>
    obtain ⟨k', v⟩ := e
    rw [List.cons_append, get?, get?, ih]
    split <;> rfl

/-- Look-up where only entries of some keys are left. -/
theorem get?_filter (p : K → Bool) (k : K) (m : List (K × V)) :
    get? k (m.filter fun e => p e.1) = if p k then get? k m else none := by
  induction m with
  | nil => simp [get?]
  | cons e m ih =>
    obtain ⟨k', v⟩ := e
    rw [List.filter_cons]
    by_cases hk : k' = k
    · subst hk
      cases hp : p k' <;> simp [get?, hp, ih]
    · cases hp : p k' <;> simp [get?, hk, ih]

theorem keys_insert (k : K) (v : V) (m : List (K × V)) :
    keys (insert k v m) = if k ∈ keys m then keys m else keys m ++ [k] := by
  induction m with
  | nil => rfl
  | cons e m ih =>
    obtain ⟨k', v'⟩ := e
    unfold keys at ih
    simp only [insert, keys, List.map_cons, List.mem_cons]
    split
    · next h => simp [h]
    · next h =>
      have h' : k ≠ k' := fun heq => h heq.symm
      simp only [List.map_cons, ih, h', false_or]
      split <;> rfl

theorem insert_of_not_mem {k : K} (v : V) {m : List (K × V)} (h : k ∉ keys m) :
    insert k v m = m ++ [(k, v)] := by
  induction m with
  | nil => rfl
  | cons e m ih =>
    obtain ⟨k', v'⟩ := e
    simp only [keys, List.map_cons, List.mem_cons, not_or] at h
    rw [insert, if_neg (Ne.symm h.1), ih h.2]
    rfl

theorem nodup_insert {k : K} {v : V} {m : List (K × V)} (hm : (keys m).Nodup) :
    (keys (insert k v m)).Nodup := by
  rw [keys_insert]
  split
  · exact hm
  · next h =>
    refine List.nodup_append.2 ⟨hm, by simp, ?_⟩
    intro a ha b hb heq
    rw [heq, List.mem_singleton.1 hb] at ha
    exact h ha

theorem keys_erase (k : K) (m : List (K × V)) : keys (erase k m) = (keys m).filter (· ≠ k) := by
  induction m with
  | nil => rfl
  | cons e m ih =>
    obtain ⟨k', v'⟩ := e
    unfold keys at ih
    simp only [erase, keys, List.map_cons, List.filter_cons]
    split
    · next h => simp [h, ih]
    · next h => simp [h, ih]

theorem nodup_erase {k : K} {m : List (K × V)} (hm : (keys m).Nodup) :
    (keys (erase k m)).Nodup := by
  rw [keys_erase]
  exact hm.filter _

theorem mem_insert {e : K × V} {k : K} {v : V} {m : List (K × V)} (h : e ∈ insert k v m) :
    e = (k, v) ∨ e ∈ m := by
  induction m with
  | nil => simpa [insert] using h
  | cons d m ih =>
    obtain ⟨k', v'⟩ := d
    simp only [insert] at h
    split at h <;> simp only [List.mem_cons] at h ⊢ <;> grind

theorem mem_of_mem_erase {e : K × V} {k : K} {m : List (K × V)} (h : e ∈ erase k m) : e ∈ m := by
  induction m with
  | nil => cases h
  | cons d m ih =>
    obtain ⟨k', v'⟩ := d
    simp only [erase] at h
    split at h
    · exact List.mem_cons_of_mem _ (ih h)
    · rcases List.mem_cons.1 h with rfl | h
      · exact List.mem_cons_self
      · exact List.mem_cons_of_mem _ (ih h)

/-! ## Lists of entries -/

theorem nodup_ofList (entries : List (K × V)) : (keys (ofList entries)).Nodup := by
  suffices h : ∀ m : List (K × V), (keys m).Nodup →
      (keys (entries.foldl (fun m (k, v) => insert k v m) m)).Nodup from h [] List.nodup_nil
  induction entries with
  | nil => exact fun _ hm => hm
  | cons e entries ih => exact fun m hm => ih _ (nodup_insert hm)

/-- Entries of other keys make no difference to a look-up. -/
theorem get?_foldl_insert_of_ne {k : K} {entries : List (K × V)} (h : ∀ e ∈ entries, e.1 ≠ k)
    (m : List (K × V)) : get? k (entries.foldl (fun m (k, v) => insert k v m) m) = get? k m := by
  induction entries generalizing m with
  | nil => rfl
  | cons e entries ih =>
    obtain ⟨he, hrest⟩ := List.forall_mem_cons.1 h
    rw [List.foldl_cons, ih hrest, get?_insert, if_neg he]

/-- Of values with their keys, the last one of a key is found. -/
theorem get?_ofList_of_last {α : Type} (key : α → K) (value : α → V) {front back : List α} {a : α}
    (hlast : ∀ x ∈ back, key x ≠ key a) :
    get? (key a) (ofList ((front ++ a :: back).map fun x => (key x, value x))) =
      some (value a) := by
  have hother : ∀ e ∈ back.map (fun x => (key x, value x)), e.1 ≠ key a := by
    intro e he
    obtain ⟨x, hx, rfl⟩ := List.mem_map.1 he
    exact hlast x hx
  rw [ofList, List.map_append, List.map_cons, List.foldl_append, List.foldl_cons,
    get?_foldl_insert_of_ne hother, get?_insert, if_pos rfl]

theorem mem_of_mem_ofList {e : K × V} {entries : List (K × V)} (h : e ∈ ofList entries) :
    e ∈ entries := by
  suffices hall : ∀ m : List (K × V), e ∈ entries.foldl (fun m (k, v) => insert k v m) m →
      e ∈ m ∨ e ∈ entries from (hall [] h).resolve_left List.not_mem_nil
  clear h
  induction entries with
  | nil => exact fun _ hm => .inl hm
  | cons d entries ih =>
    intro m hm
    rcases ih _ hm with hm | hm
    · rcases mem_insert hm with rfl | hm
      · exact .inr List.mem_cons_self
      · exact .inl hm
    · exact .inr (List.mem_cons_of_mem _ hm)

/-- Of values with distinct keys, the one of a key is the first. -/
theorem find?_of_nodup {f : V → K} {k : K} {v : V} {vs : List V} (h : (vs.map f).Nodup)
    (hv : v ∈ vs) (hk : f v = k) : vs.find? (fun x => f x == k) = some v := by
  induction vs with
  | nil => cases hv
  | cons x vs ih =>
    obtain ⟨hx, hvs⟩ := List.nodup_cons.1 h
    rcases List.mem_cons.1 hv with rfl | hv
    · exact List.find?_cons_of_pos (beq_iff_eq.2 hk)
    · have hne : f x ≠ k := fun heq => hx (List.mem_map.2 ⟨v, hv, hk.trans heq.symm⟩)
      rw [List.find?_cons_of_neg (by simpa using hne)]
      exact ih hvs hv

end CustomCommands.Assoc
