import CustomCommands.Bindings

/-!
# Substitution

`Split` takes a text apart from left to right: where keys begin, the longest of
them is a piece, and where none does, a single character. There is one way to do so
(`exists_split`, `Split.unique`), and it goes by the text and the keys alone. A text
with its placeholders replaced is the bound texts and the kept characters of its
pieces, one after the other (`rewrite_of_split`). So nothing that is put in is
looked at, and all that matters of bindings is what each key is bound to
(`apply_congr`).
-/

namespace CustomCommands.Bindings

/-! ## Pieces -/

/-- A piece of a text: a placeholder, or a character that stays. -/
inductive Piece where
  | key (k : String)
  | kept (c : Char)

def Piece.source : Piece → List Char
  | .key k => k.toList
  | .kept c => [c]

/-- Is the text a key that can be replaced? The empty one cannot. -/
def IsKey (b : Bindings) (k : String) : Prop :=
  k ≠ "" ∧ (b.get? k).isSome

/-- The key begins the text, and no key that does is longer. -/
structure Longest (b : Bindings) (cs : List Char) (k : String) : Prop where
  isKey : b.IsKey k
  starts : k.toList <+: cs
  longest : ∀ k', b.IsKey k' → k'.toList <+: cs → k'.length ≤ k.length

/-- The pieces of a text, from left to right. -/
inductive Split (b : Bindings) : List Char → List Piece → Prop where
  | nil : Split b [] []
  | key {cs : List Char} {k : String} {pieces : List Piece} (longest : b.Longest cs k)
      (rest : Split b (cs.drop k.length) pieces) : Split b cs (.key k :: pieces)
  | kept {c : Char} {cs : List Char} {pieces : List Piece}
      (free : ∀ k, b.IsKey k → ¬ k.toList <+: c :: cs) (rest : Split b cs pieces) :
      Split b (c :: cs) (.kept c :: pieces)

def fill (b : Bindings) : Piece → List Char
  | .key k => ((b.get? k).getD "").toList
  | .kept c => [c]

variable {b b' : Bindings} {cs : List Char} {k k' : String} {pieces pieces' : List Piece}

theorem Longest.eq (h : b.Longest cs k) (h' : b.Longest cs k') : k = k' := by
  have hlen : k.length = k'.length :=
    Nat.le_antisymm (h'.longest k h.isKey h.starts) (h.longest k' h'.isKey h'.starts)
  have hpre : k.toList <+: k'.toList :=
    List.prefix_of_prefix_length_le h.starts h'.starts (Nat.le_of_eq hlen)
  exact String.toList_inj.1 (hpre.eq_of_length hlen)

theorem Longest.length_pos (h : b.Longest cs k) : 0 < k.length := by
  rw [Nat.pos_iff_ne_zero, ne_eq, String.length_eq_zero_iff]
  exact h.isKey.1

theorem Split.source (h : b.Split cs pieces) : pieces.flatMap Piece.source = cs := by
  induction h with
  | nil => rfl
  | @key cs k pieces longest _ ih =>
    obtain ⟨rest, rfl⟩ := longest.starts
    have hdrop : (k.toList ++ rest).drop k.length = rest := List.drop_left
    rw [hdrop] at ih
    rw [List.flatMap_cons, ih]
    rfl
  | kept _ _ ih =>
    rw [List.flatMap_cons, ih]
    rfl

theorem Split.unique (h : b.Split cs pieces) (h' : b.Split cs pieces') : pieces = pieces' := by
  induction h generalizing pieces' with
  | nil =>
    cases h' with
    | nil => rfl
    | key longest _ =>
      exact absurd (String.toList_eq_nil_iff.1 (List.prefix_nil.1 longest.starts)) longest.isKey.1
  | key longest _ ih =>
    cases h' with
    | nil =>
      exact absurd (String.toList_eq_nil_iff.1 (List.prefix_nil.1 longest.starts)) longest.isKey.1
    | key longest' rest' =>
      obtain rfl := longest.eq longest'
      rw [ih rest']
    | kept free _ => exact absurd longest.starts (free _ longest.isKey)
  | kept free _ ih =>
    cases h' with
    | key longest _ => exact absurd longest.starts (free _ longest.isKey)
    | kept _ rest' => rw [ih rest']

/-! ## The longest key -/

/-- The entries whose keys begin the text; an empty key counts for nothing. -/
def candidates (b : Bindings) (cs : List Char) : List (String × String) :=
  b.entries.filter fun e => !e.1.isEmpty && Text.startsWith cs e.1.toList

/-- Of the entry kept so far, if there is one, and the next, the one with the longer key. -/
def keepLonger (best : Option (String × String)) (e : String × String) :
    Option (String × String) :=
  some (best.elim e fun d => longer d e)

theorem find?_eq (b : Bindings) (cs : List Char) :
    b.find? cs =
      ((b.candidates cs).foldl keepLonger none).map fun e => (e.2.toList, e.1.length) := by
  unfold find? longest? candidates
  congr
  funext best e
  cases best <;> rfl

theorem longer_eq (e d : String × String) : longer e d = e ∨ longer e d = d := by
  unfold longer
  split
  · exact .inr rfl
  · exact .inl rfl

theorem length_le_longer (e d : String × String) :
    e.1.length ≤ (longer e d).1.length ∧ d.1.length ≤ (longer e d).1.length := by
  unfold longer
  split
  · exact ⟨by omega, Nat.le_refl _⟩
  · exact ⟨Nat.le_refl _, by omega⟩

theorem foldl_keepLonger (es : List (String × String)) (e : String × String) :
    ∃ e', es.foldl keepLonger (some e) = some e' ∧
      e' ∈ e :: es ∧ ∀ d ∈ e :: es, d.1.length ≤ e'.1.length := by
  induction es generalizing e with
  | nil => exact ⟨e, rfl, List.mem_cons_self, by simp⟩
  | cons d es ih =>
    obtain ⟨e', hfold, hmem, hle⟩ := ih (longer e d)
    obtain ⟨hfirst, hsecond⟩ := length_le_longer e d
    have hbest : (longer e d).1.length ≤ e'.1.length := hle _ List.mem_cons_self
    refine ⟨e', hfold, ?_, ?_⟩
    · rcases List.mem_cons.1 hmem with rfl | hmem
      · rcases longer_eq e d with h | h <;> rw [h] <;> simp
      · exact List.mem_cons_of_mem _ (List.mem_cons_of_mem _ hmem)
    · intro x hx
      rcases List.mem_cons.1 hx with rfl | hx
      · omega
      · rcases List.mem_cons.1 hx with rfl | hx
        · omega
        · exact hle x (List.mem_cons_of_mem _ hx)

theorem nodup_keys (b : Bindings) : (Assoc.keys b.entries).Nodup := by
  rw [Assoc.keys, List.nodup_iff_pairwise_ne, List.pairwise_map]
  refine b.sorted.imp fun {e d} hlt heq => ?_
  rw [heq] at hlt
  exact String.lt_irrefl _ hlt

theorem get?_eq_some_iff {v : String} : b.get? k = some v ↔ (k, v) ∈ b.entries :=
  (Assoc.mem_iff_get? b.nodup_keys).symm

theorem mem_candidates {e : String × String} :
    e ∈ b.candidates cs ↔ b.get? e.1 = some e.2 ∧ e.1 ≠ "" ∧ e.1.toList <+: cs := by
  rw [candidates, List.mem_filter, get?_eq_some_iff, Bool.and_eq_true, Text.startsWith_iff]
  simp

theorem IsKey.candidate (h : b.IsKey k) (starts : k.toList <+: cs) :
    ∃ v, (k, v) ∈ b.candidates cs := by
  obtain ⟨v, hv⟩ := Option.isSome_iff_exists.1 h.2
  exact ⟨v, mem_candidates.2 ⟨hv, h.1, starts⟩⟩

/-- Where no key begins nothing is found, and else the longest key that does. -/
theorem find?_spec (b : Bindings) (cs : List Char) :
    (b.find? cs = none ∧ ∀ k, b.IsKey k → ¬ k.toList <+: cs) ∨
      ∃ k, b.Longest cs k ∧ b.find? cs = some (b.fill (.key k), k.length) := by
  rw [find?_eq]
  cases hes : b.candidates cs with
  | nil =>
    refine .inl ⟨rfl, fun k hk hstarts => ?_⟩
    obtain ⟨v, hv⟩ := hk.candidate hstarts
    rw [hes] at hv
    cases hv
  | cons e es =>
    obtain ⟨best, hfold, hmem, hle⟩ := foldl_keepLonger es e
    obtain ⟨hget, hne, hstarts⟩ := mem_candidates.1 (hes ▸ hmem)
    refine .inr ⟨best.1, ⟨⟨hne, by rw [hget]; rfl⟩, hstarts, fun k hk hk' => ?_⟩, ?_⟩
    · obtain ⟨v, hv⟩ := hk.candidate hk'
      exact hle (k, v) (hes ▸ hv)
    · have hfill : b.fill (.key best.1) = best.2.toList := by
        rw [fill, hget]
        rfl
      have hfirst : (e :: es).foldl keepLonger none = some best := hfold
      rw [hfirst, hfill]
      rfl

/-! ## Splitting a text -/

theorem find?_of_longest (h : b.Longest cs k) :
    b.find? cs = some (b.fill (.key k), k.length) := by
  rcases find?_spec b cs with ⟨-, hfree⟩ | ⟨k', hk', hfind⟩
  · exact absurd h.starts (hfree k h.isKey)
  · rw [h.eq hk', hfind]

theorem find?_of_free (h : ∀ k, b.IsKey k → ¬ k.toList <+: cs) : b.find? cs = none := by
  rcases find?_spec b cs with ⟨hfind, -⟩ | ⟨k, hk, -⟩
  · exact hfind
  · exact absurd hk.starts (h k hk.isKey)

theorem exists_split (b : Bindings) (cs : List Char) : ∃ pieces, b.Split cs pieces := by
  induction hlen : cs.length using Nat.strongRecOn generalizing cs with
  | ind n ih =>
    subst hlen
    rcases find?_spec b cs with ⟨-, hfree⟩ | ⟨k, hk, -⟩
    · cases cs with
      | nil => exact ⟨[], .nil⟩
      | cons c cs =>
        obtain ⟨pieces, hpieces⟩ := ih cs.length (by simp) cs rfl
        exact ⟨.kept c :: pieces, .kept hfree hpieces⟩
    · have hpos := hk.length_pos
      have hle : k.length ≤ cs.length := hk.starts.length_le
      have hless : (cs.drop k.length).length < cs.length := by
        rw [List.length_drop]
        omega
      obtain ⟨pieces, hpieces⟩ := ih _ hless (cs.drop k.length) rfl
      exact ⟨.key k :: pieces, .key hk hpieces⟩

/-- The pass over a text fills in its pieces, one after the other. -/
theorem rewrite_of_split (h : b.Split cs pieces) :
    Text.rewrite b.find? cs = pieces.flatMap b.fill := by
  induction h with
  | nil => rfl
  | @key cs k pieces longest rest ih =>
    have hfind := find?_of_longest longest
    obtain ⟨n, hn⟩ := Nat.exists_eq_add_one.2 longest.length_pos
    cases cs with
    | nil => exact absurd (List.prefix_nil.1 longest.starts) (by simpa using longest.isKey.1)
    | cons c cs =>
      rw [hn] at hfind
      rw [hn, List.drop_succ_cons] at ih
      rw [Text.rewrite_of_some hfind, ih, List.flatMap_cons]
  | @kept c cs pieces free rest ih =>
    rw [Text.rewrite_of_none (find?_of_free free), ih]
    rfl

theorem apply_of_split {text : String} (h : b.Split text.toList pieces) :
    b.apply text = String.ofList (pieces.flatMap b.fill) := by
  rw [apply, rewrite_of_split h]

/-! ## What matters of bindings -/

theorem Split.of_keys (hkeys : ∀ k, b'.IsKey k ↔ b.IsKey k) (h : b.Split cs pieces) :
    b'.Split cs pieces := by
  induction h with
  | nil => exact .nil
  | key longest _ ih =>
    refine .key ⟨(hkeys _).2 longest.isKey, longest.starts, fun k hk => ?_⟩ ih
    exact longest.longest k ((hkeys k).1 hk)
  | kept free _ ih => exact .kept (fun k hk => free k ((hkeys k).1 hk)) ih

theorem fill_congr (hget : ∀ k ≠ "", b'.get? k = b.get? k) (h : b.Split cs pieces) :
    pieces.flatMap b'.fill = pieces.flatMap b.fill := by
  induction h with
  | nil => rfl
  | key longest _ ih =>
    rw [List.flatMap_cons, List.flatMap_cons, ih, fill, fill, hget _ longest.isKey.1]
  | kept _ _ ih => rw [List.flatMap_cons, List.flatMap_cons, ih]; rfl

theorem apply_congr (hget : ∀ k ≠ "", b'.get? k = b.get? k) (text : String) :
    b'.apply text = b.apply text := by
  obtain ⟨pieces, h⟩ := exists_split b text.toList
  have hkeys (k : String) : b'.IsKey k ↔ b.IsKey k :=
    and_congr_right fun hk => by rw [hget k hk]
  rw [apply_of_split h, apply_of_split (h.of_keys hkeys), fill_congr hget h]

def insertAll (es : List (String × String)) (b : Bindings) : Bindings :=
  es.foldl (fun b e => b.insert e.1 e.2) b

theorem get?_insertAll {es : List (String × String)} (h : (Assoc.keys es).Nodup) (b : Bindings)
    (k : String) : (b.insertAll es).get? k = (Assoc.get? k es).or (b.get? k) := by
  induction es generalizing b with
  | nil => rfl
  | cons e es ih =>
    obtain ⟨hnew, hes⟩ := List.nodup_cons.1 h
    have hstep : b.insertAll (e :: es) = (b.insert e.1 e.2).insertAll es := rfl
    rw [hstep, ih hes, get?_insert, Assoc.get?]
    by_cases hk : e.1 = k
    · have hnone : Assoc.get? k es = none := by
        rw [← Option.not_isSome_iff_eq_none, Assoc.isSome_get?, ← hk]
        exact hnew
      rw [if_pos hk, if_pos hk, hnone]
      rfl
    · rw [if_neg hk, if_neg hk]

theorem get?_of_perm {es es' : List (String × String)} (h : es.Perm es')
    (hes : (Assoc.keys es).Nodup) (k : String) : Assoc.get? k es = Assoc.get? k es' := by
  have hes' : (Assoc.keys es').Nodup := (h.map Prod.fst).nodup_iff.1 hes
  refine Option.ext fun v => ?_
  rw [← Assoc.mem_iff_get? hes, ← Assoc.mem_iff_get? hes', h.mem_iff]

/-- **Substitution takes the longest key, once, from the left.** A text splits in one way into
pieces: where keys that are not empty begin, the longest of them, and where none does, a single
character. Whatever texts those keys are bound to, the same pieces are filled in, one after the
other, and what is put in is not looked at. An empty key has no effect, and neither has the order
in which distinct keys were bound. -/
theorem apply_leftmost_longest (b : Bindings) (text : String) :
    (∃ pieces, b.Split text.toList pieces ∧ pieces.flatMap Piece.source = text.toList ∧
      (∀ pieces', b.Split text.toList pieces' → pieces' = pieces) ∧
      ∀ b' : Bindings, (∀ k, b'.IsKey k ↔ b.IsKey k) →
        b'.apply text = String.ofList (pieces.flatMap b'.fill)) ∧
    (∀ value, (b.insert "" value).apply text = b.apply text) ∧
    ∀ es es' : List (String × String), (Assoc.keys es).Nodup → es.Perm es' →
      (b.insertAll es).apply text = (b.insertAll es').apply text := by
  refine ⟨?_, fun value => ?_, fun es es' hes hperm => ?_⟩
  · obtain ⟨pieces, hsplit⟩ := exists_split b text.toList
    refine ⟨pieces, hsplit, hsplit.source, fun pieces' h => h.unique hsplit, fun b' hkeys => ?_⟩
    exact apply_of_split (hsplit.of_keys hkeys)
  · refine apply_congr (fun k hk => ?_) text
    rw [get?_insert, if_neg hk.symm]
  · have hes' : (Assoc.keys es').Nodup := (hperm.map Prod.fst).nodup_iff.1 hes
    refine apply_congr (fun k _ => ?_) text
    rw [get?_insertAll hes, get?_insertAll hes', get?_of_perm hperm hes]

/-- Of two keys the longer one wins, what it stands for is not replaced, and neither the order nor
an empty key matters. -/
theorem longer_key_wins :
    let es := [("", "nothing"), ("[a", "x"), ("[a]", "[a")]
    ((Bindings.ofSender "Bob").insertAll es).apply "[[a][a" = "[[ax" ∧
      ((Bindings.ofSender "Bob").insertAll es.reverse).apply "[[a][a" = "[[ax" := by
  intro es
  have hkeys : (Assoc.keys es).Nodup := by decide
  have hforth : ((Bindings.ofSender "Bob").insertAll es).apply "[[a][a" = "[[ax" := by decide +kernel
  have horder := (apply_leftmost_longest (.ofSender "Bob") "[[a][a").2.2 es es.reverse hkeys
    (List.reverse_perm es).symm
  exact ⟨hforth, horder.symm.trans hforth⟩

end CustomCommands.Bindings
