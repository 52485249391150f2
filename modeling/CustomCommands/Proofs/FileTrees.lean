import CustomCommands.Files.FileTree
import CustomCommands.Proofs.JoinedPaths
import Mathlib.Data.List.Perm.Basic

/-!
# Files as they stand on a disk

In the directories of a disk no name stands twice, and every name is one that a file can
have (`FileTree.Proper`). The order of the names does not count: two trees have the same
files if what stands under every list of names agrees (`FileTree.SameFiles`), and then
every operation that reads answers alike (`SameFiles.readText`, `SameFiles.list`), and
making a directory ends alike (`SameFiles.prepared`).

What a directory lists is what its path, joined with the names, leads to
(`FileTree.find?_join`).
-/

namespace CustomCommands

/-! ## Entries -/

namespace FileEntry

/-- No name stands twice in a directory, and every name is one that a file can have. -/
inductive Proper : FileEntry → Prop
  | file (text : Option String) : Proper (file text)
  | dir {es : List (String × FileEntry)} (names : (Assoc.keys es).Nodup)
      (possible : ∀ n ∈ Assoc.keys es, Path.IsName n) (below : ∀ e ∈ es, e.2.Proper) :
      Proper (dir es)

def content : FileEntry → Option (Option String)
  | file text => some text
  | dir _ => none

/-- The same files stand under the same names. -/
def Alike (e f : FileEntry) : Prop :=
  ∀ names, (e.get? names).map content = (f.get? names).map content

variable {e f new new' : FileEntry} {es fs : List (String × FileEntry)}

theorem get?_append (e : FileEntry) (ns ms : List String) :
    e.get? (ns ++ ms) = (e.get? ns).bind fun f => f.get? ms := by
  induction ns generalizing e with
  | nil => rfl
  | cons n ns ih =>
    rw [List.cons_append, get?, get?, Option.bind_assoc]
    exact Option.bind_congr fun f _ => ih f

theorem Proper.empty : (FileEntry.dir []).Proper :=
  .dir List.nodup_nil nofun nofun

theorem Proper.entries (h : e.Proper) :
    (Assoc.keys e.entries).Nodup ∧ (∀ n ∈ Assoc.keys e.entries, Path.IsName n) ∧
      ∀ x ∈ e.entries, x.2.Proper := by
  cases h with
  | file text => exact ⟨List.nodup_nil, nofun, nofun⟩
  | dir names possible below => exact ⟨names, possible, below⟩

theorem Proper.get? (h : e.Proper) {ns : List String} (hf : e.get? ns = some f) :
    f.Proper ∧ ∀ n ∈ ns, Path.IsName n := by
  induction ns generalizing e with
  | nil =>
    cases hf
    exact ⟨h, nofun⟩
  | cons n ns ih =>
    obtain ⟨child, hchild, hrest⟩ := Option.bind_eq_some_iff.1 hf
    obtain ⟨-, hpossible, hbelow⟩ := h.entries
    have hmem := Assoc.mem_of_get? hchild
    obtain ⟨hproper, hnames⟩ := ih (hbelow _ hmem) hrest
    exact ⟨hproper, List.forall_mem_cons.2 ⟨hpossible n (List.mem_map_of_mem hmem), hnames⟩⟩

theorem Proper.put (h : e.Proper) (hnew : new.Proper) {ns : List String}
    (hns : ∀ n ∈ ns, Path.IsName n) : (e.put ns new).Proper := by
  induction ns generalizing e with
  | nil => exact hnew
  | cons n ns ih =>
    obtain ⟨hn, hns⟩ := List.forall_mem_cons.1 hns
    obtain ⟨hnames, hpossible, hbelow⟩ := h.entries
    have hchild : ((Assoc.get? n e.entries).getD (.dir [])).Proper := by
      cases hfound : Assoc.get? n e.entries with
      | none => exact .empty
      | some child => exact hbelow _ (Assoc.mem_of_get? hfound)
    refine .dir (Assoc.nodup_insert hnames) (fun m hm => ?_) fun x hx => ?_
    · rw [Assoc.keys_insert] at hm
      split at hm
      · exact hpossible m hm
      · rcases List.mem_append.1 hm with hm | hm
        · exact hpossible m hm
        · cases List.mem_singleton.1 hm
          exact hn
    · rcases Assoc.mem_insert hx with rfl | hx
      · exact ih hchild hns
      · exact hbelow x hx

theorem Alike.isDir (h : e.Alike f) : e.isDir = f.isDir := by
  have h := h []
  cases e <;> cases f <;> simp_all [FileEntry.get?, content, FileEntry.isDir]

theorem Alike.file {text : Option String} (h : (file text).Alike f) : f = .file text := by
  have h := h []
  cases f <;> simp_all [FileEntry.get?, content]

/-- Nothing is there on either side, or entries that are alike. -/
def BothAlike (x y : Option FileEntry) : Prop :=
  (x = none ∧ y = none) ∨ ∃ a b, x = some a ∧ y = some b ∧ a.Alike b

theorem Alike.get? (h : e.Alike f) (ns : List String) : BothAlike (e.get? ns) (f.get? ns) := by
  have hhere := h ns
  cases he : e.get? ns with
  | none =>
    rw [he, Option.map_none, eq_comm, Option.map_eq_none_iff] at hhere
    exact .inl ⟨rfl, hhere⟩
  | some a =>
    rw [he, Option.map_some, eq_comm, Option.map_eq_some_iff] at hhere
    obtain ⟨b, hb, -⟩ := hhere
    refine .inr ⟨a, b, rfl, hb, fun ms => ?_⟩
    have hbelow := h (ns ++ ms)
    rwa [get?_append, get?_append, he, hb] at hbelow

theorem get?_singleton (e : FileEntry) (n : String) : e.get? [n] = Assoc.get? n e.entries :=
  Option.bind_fun_some _

theorem Alike.dir (h : (dir es).Alike f) :
    ∃ fs, f = .dir fs ∧ ∀ n, BothAlike (Assoc.get? n es) (Assoc.get? n fs) := by
  cases f with
  | file text => cases h []
  | dir fs => exact ⟨fs, rfl, fun n => by simpa only [get?_singleton, entries] using h.get? [n]⟩

theorem Alike.mem_keys (h : (FileEntry.dir es).Alike (.dir fs)) (n : String) :
    n ∈ Assoc.keys es ↔ n ∈ Assoc.keys fs := by
  obtain ⟨_, heq, hentries⟩ := h.dir
  cases heq
  rw [← Assoc.isSome_get?, ← Assoc.isSome_get?]
  rcases hentries n with ⟨hes, hfs⟩ | ⟨a, b, hes, hfs, -⟩ <;> simp [hes, hfs]

theorem Alike.put (h : e.Alike f) (hnew : new.Alike new') (ns : List String) :
    (e.put ns new).Alike (f.put ns new') := by
  induction ns generalizing e f with
  | nil => exact hnew
  | cons n ns ih =>
    have hchild : ((Assoc.get? n e.entries).getD (.dir [])).Alike
        ((Assoc.get? n f.entries).getD (.dir [])) := by
      rw [← get?_singleton, ← get?_singleton]
      rcases h.get? [n] with ⟨he, hf⟩ | ⟨a, b, he, hf, hab⟩ <;> rw [he, hf]
      · exact fun _ => rfl
      · exact hab
    -- off the way that is put along, both are as before
    intro names
    cases names with
    | nil => rfl
    | cons m ms =>
      simp only [FileEntry.put, FileEntry.get?, FileEntry.entries, Assoc.get?_insert]
      split
      · exact ih hchild ms
      · exact h (m :: ms)

theorem Proper.perm (h : (FileEntry.dir es).Proper) (hperm : es.Perm fs) :
    (FileEntry.dir fs).Proper := by
  cases h with
  | dir names possible below =>
    have hkeys := hperm.map Prod.fst
    exact .dir (hkeys.nodup_iff.1 names) (fun n hn => possible n (hkeys.mem_iff.2 hn))
      fun e he => below e (hperm.mem_iff.2 he)

/-- The order in a directory does not count. -/
theorem alike_of_perm (hnames : (Assoc.keys es).Nodup) (h : es.Perm fs) :
    (dir es).Alike (dir fs) := by
  have hnames' : (Assoc.keys fs).Nodup := (h.map Prod.fst).nodup_iff.1 hnames
  have hget (n : String) : Assoc.get? n es = Assoc.get? n fs := by
    refine Option.ext fun x => ?_
    rw [← Assoc.mem_iff_get? hnames, ← Assoc.mem_iff_get? hnames', h.mem_iff]
  intro names
  cases names with
  | nil => rfl
  | cons n ns => simp only [FileEntry.get?, FileEntry.entries, hget n]

end FileEntry

/-! ## Trees -/

/-- Two results fail with one error, or both succeed and are related. -/
def Together {E A B : Type} (R : A → B → Prop) (x : Except E A) (y : Except E B) : Prop :=
  (∃ e, x = .error e ∧ y = .error e) ∨ ∃ a b, x = .ok a ∧ y = .ok b ∧ R a b

namespace Together

variable {E A B : Type} {R : A → B → Prop}

theorem error (e : E) : Together R (.error e) (.error e) :=
  .inl ⟨e, rfl, rfl⟩

theorem ok {a : A} {b : B} (h : R a b) : Together (E := E) R (.ok a) (.ok b) :=
  .inr ⟨a, b, rfl, rfl, h⟩

end Together

namespace FileTree

def Proper (t : FileTree) : Prop :=
  t.root.Proper

/-- Two trees with the same files, listed in any order. -/
structure SameFiles (t u : FileTree) : Prop where
  root : t.root.Alike u.root
  here : t.here = u.here

def hasFile (path : String) (t : FileTree) : Bool :=
  (t.find? path).any fun e => !e.isDir

/-- The files once a directory is there, which is made if it is missing. -/
def prepared (dir : String) (t : FileTree) : Except FileError FileTree :=
  if t.hasPath dir then .ok t else t.makeDirectory dir

variable {t u made : FileTree} {root : FileEntry} {path dir : String}

theorem refusal?_eq_none :
    refusal? path = none ↔
      '\x00' ∉ path.toList ∧ path ≠ "" ∧ Path.isTooLong path = false := by
  unfold refusal?
  by_cases hnul : '\x00' ∈ path.toList
  · simp [hnul]
  · by_cases hempty : path = ""
    · simp [hempty]
    · cases Path.isTooLong path <;> simp [hnul, hempty]

/-- Of a directory's path and a possible name only the length can be refused. -/
theorem refusal?_join {n : String} (h : refusal? dir = none) (hn : Path.IsName n) :
    refusal? (Path.join dir n) =
      if Path.isTooLong (Path.join dir n) then some .nameTooLong else none := by
  obtain ⟨hnul, hnonempty, -⟩ := refusal?_eq_none.1 h
  have htext := Path.toList_join hnonempty hn
  have hjoint : '\x00' ∉ Path.joint dir := by
    unfold Path.joint
    split <;> decide
  have hnul' : '\x00' ∉ (Path.join dir n).toList := by
    rw [htext]
    simp [hnul, hjoint, hn.2.1]
  have hnonempty' : Path.join dir n ≠ "" := by
    intro hempty
    rw [hempty] at htext
    have hhere := hn.2.2.1
    rw [(List.append_eq_nil_iff.1 htext.symm).2] at hhere
    cases hhere
  simp [refusal?, hnul', hnonempty']

theorem follow_append (root : FileEntry) (at_ : List String) (ws vs : List (List Char)) :
    follow root at_ (ws ++ vs) = (follow root at_ ws).bind fun names => follow root names vs := by
  induction ws generalizing at_ with
  | nil => rfl
  | cons w ws ih =>
    rw [List.cons_append, follow, follow]
    repeat' split
    all_goals first | rfl | exact ih _

/-! ### Reading -/

namespace SameFiles

theorem follow {other : FileEntry} (h : root.Alike other) (at_ : List String)
    (ws : List (List Char)) : FileTree.follow root at_ ws = FileTree.follow other at_ ws := by
  induction ws generalizing at_ with
  | nil => rfl
  | cons w ws ih =>
    rw [FileTree.follow, FileTree.follow]
    rcases h.get? at_ with ⟨ha, hb⟩ | ⟨a, b, ha, hb, hab⟩ <;> rw [ha, hb]
    cases a with
    | file text => rw [hab.file]
    | dir es =>
      obtain ⟨fs, rfl, hentries⟩ := hab.dir
      rcases hentries (String.ofList w) with ⟨hes, hfs⟩ | ⟨a, b, hes, hfs, -⟩ <;>
        simp only [ih, hes, hfs]

theorem locate (h : t.SameFiles u) (path : String) : t.locate path = u.locate path := by
  rw [FileTree.locate, FileTree.locate, start, start, h.here]
  simp only [follow h.root]

theorem find? (h : t.SameFiles u) (path : String) :
    FileEntry.BothAlike (t.find? path) (u.find? path) := by
  rw [FileTree.find?, FileTree.find?, h.locate]
  cases u.locate path with
  | error e => exact .inl ⟨rfl, rfl⟩
  | ok names => exact h.root.get? names

theorem hasPath (h : t.SameFiles u) (path : String) : t.hasPath path = u.hasPath path := by
  rw [FileTree.hasPath, FileTree.hasPath]
  rcases h.find? path with ⟨ha, hb⟩ | ⟨a, b, ha, hb, -⟩ <;> rw [ha, hb]
  rfl

/-- What cannot tell entries that are alike cannot tell what a path leads to. -/
theorem any_find? (h : t.SameFiles u) (path : String) {p : FileEntry → Bool}
    (hp : ∀ a b : FileEntry, a.Alike b → p a = p b) :
    (t.find? path).any p = (u.find? path).any p := by
  rcases h.find? path with ⟨ha, hb⟩ | ⟨a, b, ha, hb, hab⟩ <;> rw [ha, hb]
  exact hp a b hab

theorem hasDirectory (h : t.SameFiles u) (path : String) :
    t.hasDirectory path = u.hasDirectory path :=
  h.any_find? path fun _ _ hab => hab.isDir

theorem hasFile (h : t.SameFiles u) (path : String) : t.hasFile path = u.hasFile path :=
  h.any_find? path fun _ _ hab => congrArg (!·) hab.isDir

theorem readText (h : t.SameFiles u) (path : String) : t.readText path = u.readText path := by
  rw [FileTree.readText, FileTree.readText, h.locate]
  cases u.locate path with
  | error e => rfl
  | ok names =>
    rcases h.root.get? names with ⟨ha, hb⟩ | ⟨a, b, ha, hb, hab⟩ <;>
      simp only [Except.bind, bind, ha, hb]
    cases a with
    | file text => rw [hab.file]
    | dir es =>
      obtain ⟨fs, rfl, -⟩ := hab.dir
      rfl

theorem list (h : t.SameFiles u) (path : String) :
    Together (fun es fs => (FileEntry.dir es).Alike (.dir fs)) (t.list path) (u.list path) := by
  rw [FileTree.list, FileTree.list, h.locate]
  cases u.locate path with
  | error e => exact .error e
  | ok names =>
    rcases h.root.get? names with ⟨ha, hb⟩ | ⟨a, b, ha, hb, hab⟩ <;>
      simp only [Except.bind, bind, ha, hb]
    · exact .error _
    cases a with
    | file text =>
      rw [hab.file]
      exact .error _
    | dir es =>
      obtain ⟨fs, rfl, -⟩ := hab.dir
      exact .ok hab

/-! ### Making directories -/

theorem makeLast (h : t.SameFiles u) (path : String) :
    Together SameFiles (t.makeLast path) (u.makeLast path) := by
  rw [FileTree.makeLast, FileTree.makeLast, start, start, h.here]
  cases refusal? path with
  | some e => exact .error e
  | none =>
    simp only [follow h.root]
    generalize (Path.pieces path.toList).reverse.dropWhile List.isEmpty = ws
    cases FileTree.follow u.root _ ws.tail.reverse with
    | error e => exact .error e
    | ok names =>
      rcases h.root.get? names with ⟨ha, hb⟩ | ⟨a, b, ha, hb, hab⟩ <;>
        simp only [Except.bind, bind, ha, hb]
      · exact .error _
      cases a with
      | file text =>
        rw [hab.file]
        exact .error _
      | dir es =>
        obtain ⟨fs, rfl, hentries⟩ := hab.dir
        cases ws.head? with
        | none => exact .error _
        | some w =>
          have hfree : (Assoc.get? (String.ofList w) es).isSome =
              (Assoc.get? (String.ofList w) fs).isSome := by
            rcases hentries (String.ofList w) with ⟨hes, hfs⟩ | ⟨a, b, hes, hfs, -⟩ <;>
              rw [hes, hfs]
            rfl
          simp only [hfree]
          repeat' split
          all_goals first | exact .error _ | exact .ok ⟨h.root.put (fun _ => rfl) _, rfl⟩

theorem makeInward (h : t.SameFiles u) (paths : List String) :
    Together SameFiles (FileTree.makeInward paths t) (FileTree.makeInward paths u) := by
  induction paths generalizing t u with
  | nil => exact .ok h
  | cons path paths ih =>
    -- a directory that was there after all is no error
    have hsettle {t u : FileTree} (h : t.SameFiles u) (e : FileError) :
        Together SameFiles (if t.hasDirectory path then .ok t else .error e)
          (if u.hasDirectory path then .ok u else .error e) := by
      rw [h.hasDirectory]
      split
      · exact .ok h
      · exact .error e
    rw [FileTree.makeInward, FileTree.makeInward]
    split
    · exact .ok h
    · rcases h.makeLast path with ⟨e, ht, hu⟩ | ⟨t', u', ht, hu, hmade⟩ <;> rw [ht, hu]
      · cases e with
        | notFound =>
          rcases ih h with ⟨e, ht, hu⟩ | ⟨t', u', ht, hu, hout⟩ <;>
            simp only [Except.bind, bind, ht, hu]
          · exact .error e
          · rcases hout.makeLast path with ⟨e, ht, hu⟩ | ⟨t', u', ht, hu, hmade⟩ <;> rw [ht, hu]
            · exact hsettle hout e
            · exact .ok hmade
        | _ => exact hsettle h _
      · exact .ok hmade

theorem prepared (h : t.SameFiles u) (dir : String) :
    Together SameFiles (t.prepared dir) (u.prepared dir) := by
  rw [FileTree.prepared, FileTree.prepared, h.hasPath]
  split
  · exact .ok h
  · exact h.makeInward (Path.outward dir)

end SameFiles

/-- All that making a directory does is to put an empty one under a possible name. -/
theorem makeLast_ok (h : t.makeLast path = .ok made) :
    ∃ names n es, t.root.get? names = some (.dir es) ∧ Path.IsName n ∧
      made = { t with root := t.root.put (names ++ [n]) (.dir []) } := by
  unfold makeLast at h
  split at h
  · cases h
  rename_i hrefusal
  generalize hws : (Path.pieces path.toList).reverse.dropWhile List.isEmpty = ws at h
  dsimp only at h
  cases hnames : follow t.root (t.start path) ws.tail.reverse with
  | error e => rw [hnames] at h; cases h
  | ok names =>
    rw [hnames] at h
    simp only [bind, Except.bind] at h
    repeat' split at h
    all_goals try cases h
    rename_i es hes _ w hw hplain hshort _
    have hpiece : w ∈ Path.pieces path.toList := by
      have hmem : w ∈ ws := List.mem_of_mem_head? hw
      rw [← hws] at hmem
      exact List.mem_reverse.1 ((List.dropWhile_suffix _).mem hmem)
    obtain ⟨hslash, hchars⟩ := Path.mem_of_mem_pieces hpiece
    rw [Bool.or_eq_true, not_or, Bool.not_eq_true, Bool.not_eq_true] at hplain
    refine ⟨names, String.ofList w, es, hes, ?_, rfl⟩
    rw [Path.IsName, String.toList_ofList]
    exact ⟨hslash, fun hnul => (refusal?_eq_none.1 hrefusal).1 (hchars _ hnul), hplain.1, hplain.2,
      Bool.not_eq_true _ ▸ hshort⟩

theorem Proper.makeLast (h : t.Proper) (hmade : t.makeLast path = .ok made) : made.Proper := by
  obtain ⟨names, n, es, hes, hn, rfl⟩ := makeLast_ok hmade
  refine FileEntry.Proper.put h .empty fun m hm => ?_
  rcases List.mem_append.1 hm with hm | hm
  · exact (FileEntry.Proper.get? h hes).2 m hm
  · cases List.mem_singleton.1 hm
    exact hn

theorem Proper.makeInward {paths : List String} (h : t.Proper)
    (hmade : FileTree.makeInward paths t = .ok made) : made.Proper := by
  induction paths generalizing t made with
  | nil =>
    cases hmade
    exact h
  | cons path paths ih =>
    have hsettle {t : FileTree} (h : t.Proper) {e : FileError}
        (hmade : (if t.hasDirectory path then Except.ok t else .error e) = .ok made) :
        made.Proper := by
      split at hmade <;> cases hmade
      exact h
    rw [FileTree.makeInward] at hmade
    split at hmade
    · cases hmade
      exact h
    · split at hmade
      · rename_i hlast
        cases hmade
        exact h.makeLast hlast
      · cases hout : FileTree.makeInward paths t with
        | error e => rw [hout] at hmade; cases hmade
        | ok t' =>
          rw [hout] at hmade
          simp only [bind, Except.bind] at hmade
          split at hmade
          · rename_i hlast
            cases hmade
            exact (ih h hout).makeLast hlast
          · exact hsettle (ih h hout) hmade
      · exact hsettle h hmade

theorem Proper.prepared (h : t.Proper) (hmade : t.prepared dir = .ok made) : made.Proper := by
  unfold FileTree.prepared at hmade
  split at hmade
  · cases hmade
    exact h
  · exact h.makeInward hmade

/-! ### What a directory lists -/

theorem list_ok {es : List (String × FileEntry)} (h : t.list dir = .ok es) :
    ∃ names, t.locate dir = .ok names ∧ t.root.get? names = some (.dir es) := by
  unfold list at h
  cases hnames : t.locate dir with
  | error e => rw [hnames] at h; cases h
  | ok names =>
    refine ⟨names, rfl, ?_⟩
    rw [hnames] at h
    simp only [bind, Except.bind] at h
    split at h <;> cases h
    assumption

theorem locate_ok {names : List String} (h : t.locate path = .ok names) :
    refusal? path = none ∧ follow t.root (t.start path) (Path.pieces path.toList) = .ok names := by
  unfold locate at h
  split at h
  · cases h
  · rename_i hrefusal
    exact ⟨hrefusal, h⟩

/-- An empty piece at the end asks for a directory and changes nothing. -/
theorem follow_of_trailing {at_ names : List String} {ws : List (List Char)}
    (h : follow root at_ (ws ++ [[]]) = .ok names) : follow root at_ ws = .ok names := by
  rw [follow_append] at h
  cases hws : follow root at_ ws with
  | error e => rw [hws] at h; cases h
  | ok names' =>
    rw [hws] at h
    simp only [Except.bind, follow, Path.isHere] at h
    split at h <;> cases h
    rfl

theorem follow_name {names : List String} {es : List (String × FileEntry)} {n : String}
    (hn : Path.IsName n) (hdir : root.get? names = some (.dir es))
    (hsome : (Assoc.get? n es).isSome = true) :
    follow root names [n.toList] = .ok (names ++ [n]) := by
  obtain ⟨e, he⟩ := Option.isSome_iff_exists.1 hsome
  obtain ⟨-, -, hhere, haround, hshort⟩ := hn
  simp [follow, hdir, hhere, haround, hshort, String.ofList_toList, he]

/-- What a directory lists stands under its path joined with the name, if that is not too long. -/
theorem find?_join (h : t.Proper) {es : List (String × FileEntry)} (hes : t.list dir = .ok es)
    {n : String} {e : FileEntry} (he : (n, e) ∈ es) :
    t.find? (Path.join dir n) = if Path.isTooLong (Path.join dir n) then none else some e := by
  obtain ⟨names, hlocate, hdir⟩ := list_ok hes
  obtain ⟨hrefusal, hfollow⟩ := locate_ok hlocate
  obtain ⟨hnul, hnonempty, -⟩ := refusal?_eq_none.1 hrefusal
  obtain ⟨hnodup, hpossible, -⟩ := (FileEntry.Proper.get? h hdir).1.entries
  have hn : Path.IsName n := hpossible n (List.mem_map_of_mem he)
  have hget : Assoc.get? n es = some e := (Assoc.mem_iff_get? hnodup).1 he
  obtain ⟨ws, hjoined, hbase⟩ := Path.pieces_join hnonempty hn
  -- without what stands behind its last slash the directory's path ends at the directory as well
  have hwalked : follow t.root (t.start dir) ws = .ok names := by
    rcases hbase with hbase | hbase <;> rw [hbase] at hfollow
    · exact hfollow
    · exact follow_of_trailing hfollow
  rw [find?, locate, refusal?_join hrefusal hn]
  by_cases hlong : Path.isTooLong (Path.join dir n) = true
  · rw [if_pos hlong, if_pos hlong]
    rfl
  · rw [if_neg hlong, if_neg hlong]
    rw [start] at hwalked
    simp only [start, Path.isAbsolute_join hnonempty hn, hjoined, follow_append, hwalked,
      Except.bind, follow_name hn hdir (by rw [hget]; rfl), Except.toOption, Option.bind_some,
      FileEntry.get?_append, hdir, FileEntry.get?_singleton]
    exact hget

end FileTree

end CustomCommands
