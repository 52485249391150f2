import CustomCommands.Proofs.Catalogues
import CustomCommands.Proofs.Runs

/-!
# Labels at the registrar

The registrar holds labels of its host and labels that the dispatcher registered.
A load gives up the latter, which leaves what is the host's (`Mirrors.release`),
and then registers what is free among the labels of the new catalogue
(`registerAll_labels`, `get?_registerAll`). So at all times the registrar is the
host's part with the catalogue behind it (`Mirrors`), in any run in which the
host only adds to its part (`mirrors_run`).
-/

namespace CustomCommands

namespace Registrar

theorem mem_labels {k : String} {r : Registrar} :
    k ∈ r.labels ↔ (Assoc.get? k r.entries).isSome = true := by
  rw [labels, List.mem_mergeSort, Assoc.isSome_get?]

theorem not_mem_labels {k : String} {r : Registrar} :
    k ∉ r.labels ↔ Assoc.get? k r.entries = none := by
  rw [mem_labels, Option.not_isSome_iff_eq_none]

theorem get?_unregisterAll (ls : List String) (r : Registrar) (k : String) :
    Assoc.get? k (ls.foldl (fun r l => (r.unregister l).2) r).entries =
      if k ∈ ls.map Catalogue.key then none else Assoc.get? k r.entries := by
  induction ls generalizing r with
  | nil => rfl
  | cons l ls ih =>
    rw [List.foldl_cons, ih, unregister, Assoc.get?_erase, List.map_cons]
    simp only [List.mem_cons, Catalogue.key, eq_comm (a := k)]
    by_cases hl : Text.lower l = k <;> simp [hl]

/-! ## The host's part -/

/-- The host's part after the host took `before` to `after`: labels that were free and are taken
now are the host's as well. -/
def join (held before after : Registrar) : Registrar where
  entries := held.entries ++
    after.entries.filter fun e => (Assoc.get? e.1 before.entries).isNone

theorem get?_join (held before after : Registrar) (k : String) :
    Assoc.get? k (held.join before after).entries =
      (Assoc.get? k held.entries).or
        (if (Assoc.get? k before.entries).isNone then Assoc.get? k after.entries else none) := by
  unfold join
  rw [Assoc.get?_append, Assoc.get?_filter fun k => (Assoc.get? k before.entries).isNone]

/-- All labels of `r` are in `r'` with their handles. -/
def Keeps (r r' : Registrar) : Prop :=
  ∀ k h, Assoc.get? k r.entries = some h → Assoc.get? k r'.entries = some h

theorem keeps_register (label : String) (h : Handle) (r : Registrar) :
    r.Keeps (r.register label h).2 := by
  intro k x hk
  unfold register
  split
  · exact hk
  · next hfree =>
    rw [handle?, Option.not_isSome_iff_eq_none] at hfree
    have hne : Text.lower label ≠ k := by
      rintro rfl
      cases hfree.symm.trans hk
    rw [Assoc.get?_insert, if_neg hne]
    exact hk

end Registrar

namespace Catalogue

/-- What a registrar would find under a key if the catalogue had all its labels. -/
def route? (c : Catalogue) (k : String) : Option Handle :=
  Assoc.get? k (c.labels.map fun x => (key x.1, x.2))

theorem keys_routes (c : Catalogue) :
    Assoc.keys (c.labels.map fun x => (key x.1, x.2)) = c.keys := by
  rw [keys_eq, Assoc.keys, List.map_map, List.map_map]
  rfl

theorem isSome_route? {c : Catalogue} {k : String} : (c.route? k).isSome = true ↔ k ∈ c.keys := by
  rw [route?, Assoc.isSome_get?, keys_routes]

theorem route?_of_mem {c : Catalogue} (h : c.keys.Nodup) {x : String × Handle}
    (hx : x ∈ c.labels) : c.route? (key x.1) = some x.2 := by
  rw [← keys_routes] at h
  exact (Assoc.mem_iff_get? h).1 (List.mem_map.2 ⟨x, hx, rfl⟩)

end Catalogue

namespace Dispatcher

variable {N : Type}

/-! ## Registering -/

theorem registerAll_labels (r : Registrar) {xs : List (String × Handle)}
    (h : ((xs.map Prod.fst).map Catalogue.key).Nodup) :
    (registerAll r xs).value.1 =
      (xs.map Prod.fst).filter fun l => (r.handle? l).isNone := by
  induction xs generalizing r with
  | nil => rfl
  | cons x xs ih =>
    obtain ⟨label, handle⟩ := x
    obtain ⟨hlabel, hrest⟩ := List.nodup_cons.1 h
    rw [List.map_cons, List.filter_cons, registerAll, Registrar.register]
    cases hfree : r.handle? label with
    | some taken => exact ih r hrest
    | none =>
      simp only [Option.isSome_none, Bool.false_eq_true, ↓reduceIte, Noted.value_bind,
        Noted.value_pure, Option.isNone_none]
      rw [ih _ hrest]
      congr 1
      refine List.filter_congr fun l hl => ?_
      -- the label that was just registered is none of the others
      have hne : Text.lower label ≠ Text.lower l := by
        intro heq
        exact hlabel (List.mem_map.2 ⟨l, hl, heq.symm⟩)
      rw [Registrar.handle?, Assoc.get?_insert, if_neg hne]
      rfl

/-- A label leads where it led before, and else where the list says. -/
theorem get?_registerAll (r : Registrar) (xs : List (String × Handle)) (k : String) :
    Assoc.get? k (registerAll r xs).value.2.entries =
      (Assoc.get? k r.entries).or
        (Assoc.get? k (xs.map fun x => (Catalogue.key x.1, x.2))) := by
  induction xs generalizing r with
  | nil => rw [registerAll, List.map_nil, Assoc.get?, Option.or_none]; rfl
  | cons x xs ih =>
    obtain ⟨label, handle⟩ := x
    rw [registerAll, Registrar.register, List.map_cons, Assoc.get?, Catalogue.key]
    cases hfree : r.handle? label with
    | some taken =>
      rw [Registrar.handle?] at hfree
      simp only [Option.isSome_some, ↓reduceIte, Noted.value_bind]
      rw [ih]
      split
      · next hk => rw [← hk, hfree]; rfl
      · rfl
    | none =>
      rw [Registrar.handle?] at hfree
      simp only [Option.isSome_none, Bool.false_eq_true, ↓reduceIte, Noted.value_bind,
        Noted.value_pure]
      rw [ih, Assoc.get?_insert]
      split
      · next hk => rw [← hk, hfree]; rfl
      · rfl

/-! ## The invariant -/

/-- The registrar is the host's part `held` with the labels of the catalogue behind it, and those
that are not the host's are registered. -/
structure Mirrors (held : Registrar) (d : Dispatcher N) : Prop where
  distinct : d.catalogue.keys.Nodup
  registered : d.registered =
    (d.catalogue.labels.map Prod.fst).filter fun l => (held.handle? l).isNone
  routes : ∃ r, d.registrar = some r ∧ ∀ k,
    Assoc.get? k r.entries = (Assoc.get? k held.entries).or (d.catalogue.route? k)

variable {held : Registrar} {d : Dispatcher N}

theorem Mirrors.mem_registered (h : Mirrors held d) {k : String} :
    k ∈ d.registered.map Catalogue.key ↔
      k ∈ d.catalogue.keys ∧ Assoc.get? k held.entries = none := by
  have hfree (l : String) :
      (held.handle? l).isNone = true ↔ Assoc.get? (Catalogue.key l) held.entries = none := by
    rw [Option.isNone_iff_eq_none]; rfl
  rw [h.registered, Catalogue.keys_eq, List.mem_map, List.mem_map]
  simp only [List.mem_filter, hfree]
  constructor
  · rintro ⟨l, ⟨hl, hnone⟩, rfl⟩
    exact ⟨⟨l, hl, rfl⟩, hnone⟩
  · rintro ⟨⟨l, hl, rfl⟩, hnone⟩
    exact ⟨l, ⟨hl, hnone⟩, rfl⟩

/-- What is left when the dispatcher gives up its labels is the host's part. -/
theorem Mirrors.release (h : Mirrors held d) :
    ∃ r, d.releaseLabels.registrar = some r ∧
      ∀ k, Assoc.get? k r.entries = Assoc.get? k held.entries := by
  obtain ⟨r, hr, hroutes⟩ := h.routes
  refine ⟨_, by rw [releaseLabels, hr]; rfl, fun k => ?_⟩
  rw [Registrar.get?_unregisterAll, hroutes]
  split
  · next hk => exact (h.mem_registered.1 hk).2.symm
  · next hk =>
    cases hheld : Assoc.get? k held.entries with
    | some handle => rfl
    | none =>
      have hnone : d.catalogue.route? k = none := by
        rw [← Option.not_isSome_iff_eq_none, Catalogue.isSome_route?]
        exact fun hmem => hk (h.mem_registered.2 ⟨hmem, hheld⟩)
      rw [hnone]
      rfl

/-! ## Steps -/

theorem Mirrors.of_eq {d' : Dispatcher N} (h : Mirrors held d)
    (hcatalogue : d'.catalogue = d.catalogue) (hregistered : d'.registered = d.registered)
    (hregistrar : d'.registrar = d.registrar) : Mirrors held d' := by
  constructor
  · rw [hcatalogue]; exact h.distinct
  · rw [hregistered, hcatalogue]; exact h.registered
  · rw [hregistrar, hcatalogue]; exact h.routes

theorem Mirrors.load (h : Mirrors held d) (commands : List Command) :
    Mirrors held (d.load commands).after := by
  obtain ⟨r, hr, hfree⟩ := h.release
  have hdistinct := Catalogue.nodup_keys_ofCommands commands
  have hafter : (d.load commands).after =
      let catalogue := (Catalogue.ofCommands commands).value
      let all := (registerAll r catalogue.labels).value
      { d.releaseLabels with catalogue, registered := all.1, registrar := some all.2 } := by
    simp only [Dispatcher.load, claimLabels, Noted.value_bind, hr]
    rfl
  rw [hafter]
  constructor
  · exact hdistinct
  · have hlabels := registerAll_labels r (Catalogue.keys_eq _ ▸ hdistinct)
    simp only [hlabels, Registrar.handle?, hfree]
  · refine ⟨_, rfl, fun k => ?_⟩
    rw [get?_registerAll, hfree]
    rfl

theorem Mirrors.shutdown (h : Mirrors held d) : Mirrors held d.shutdown := by
  obtain ⟨r, hr, hfree⟩ := h.release
  constructor
  · exact List.nodup_nil
  · rfl
  · refine ⟨r, hr, fun k => ?_⟩
    rw [hfree]
    exact (Option.or_none).symm

theorem Mirrors.host (h : Mirrors held d) {before after : Registrar}
    (hbefore : d.registrar = some before) (hkeeps : before.Keeps after) {host : Host N}
    (hafter : host.registrar = some after) :
    Mirrors (held.join before after) { d with toHost := host } := by
  obtain ⟨r, hr, hroutes⟩ := h.routes
  obtain rfl := Option.some.inj (hbefore.symm.trans hr)
  -- what the catalogue routes was taken before, so the host cannot have added it
  have hsame (k : String) (hk : k ∈ d.catalogue.keys) :
      Assoc.get? k (held.join before after).entries = Assoc.get? k held.entries := by
    obtain ⟨handle, hhandle⟩ := Option.isSome_iff_exists.1 (Catalogue.isSome_route?.2 hk)
    have htaken : (Assoc.get? k before.entries).isNone = false := by
      rw [hroutes, hhandle]
      cases Assoc.get? k held.entries <;> rfl
    rw [Registrar.get?_join, htaken]
    simp
  refine ⟨h.distinct, ?_, after, hafter, fun k => ?_⟩
  · show d.registered = _
    rw [h.registered]
    refine List.filter_congr fun l hl => ?_
    rw [Registrar.handle?, Registrar.handle?, hsame]
    rw [Catalogue.keys_eq]
    exact List.mem_map_of_mem hl
  · rw [Registrar.get?_join]
    show _ = Option.or _ (d.catalogue.route? k)
    have hold := hroutes k
    cases hb : Assoc.get? k before.entries with
    | some handle =>
      rw [hb] at hold
      simp only [Option.isNone_some, Bool.false_eq_true, ↓reduceIte, Option.or_none]
      rw [hkeeps k handle hb, hold]
    | none =>
      rw [hb] at hold
      obtain ⟨hheld, hroute⟩ := Option.or_eq_none_iff.1 hold.symm
      rw [hheld, hroute]
      simp only [Option.isNone_none, ↓reduceIte, Option.none_or, Option.or_none]

end Dispatcher

/-! ## Runs -/

/-- A change of the host leaves all labels, and the registrar in its place. -/
def Operation.AddsLabels {N : Type} : Operation N → Prop
  | .host change => ∀ h before, h.registrar = some before →
      ∃ after, (change h).registrar = some after ∧ before.Keeps after
  | _ => True

namespace Dispatcher

variable {N : Type}

def hostPartAfter (held : Registrar) (d : Dispatcher N) : Operation N → Registrar
  | .host change =>
    match d.registrar, (change d.toHost).registrar with
    | some before, some after => held.join before after
    | _, _ => held
  | _ => held

variable [Currency N]

/-- The host's part after a run: what it held at first and what it added since. -/
def hostPart (r : UnitReaders) (held : Registrar) (d : Dispatcher N) : Run N → Registrar
  | [] => held
  | (now, op) :: rest => (d.step r now op).hostPart r (d.hostPartAfter held op) rest

omit [Currency N] in
theorem keeps_hostPartAfter (held : Registrar) (d : Dispatcher N) (op : Operation N) :
    held.Keeps (d.hostPartAfter held op) := by
  unfold hostPartAfter
  split
  · split
    · intro k handle hk
      rw [Registrar.get?_join, hk]
      rfl
    · exact fun _ _ => id
  · exact fun _ _ => id

theorem keeps_hostPart (r : UnitReaders) (held : Registrar) (d : Dispatcher N) (run : Run N) :
    held.Keeps (d.hostPart r held run) := by
  induction run generalizing held d with
  | nil => exact fun _ _ => id
  | cons x rest ih =>
    intro k handle hk
    exact ih _ _ k handle (keeps_hostPartAfter held d x.2 k handle hk)

variable {held : Registrar} {d : Dispatcher N}

theorem mirrors_step (r : UnitReaders) (now : Nat) {op : Operation N} (h : Mirrors held d)
    (hadds : op.AddsLabels) : Mirrors (d.hostPartAfter held op) (d.step r now op) := by
  have hreload (dir : String) : Mirrors held (d.reloadFrom r dir).after := by
    rcases reloadFrom_after r dir d with hd | ⟨files, commands, hd⟩
    · rw [hd]; exact h
    · rw [hd]
      have hfiles : Mirrors held { d with files } := h.of_eq rfl rfl rfl
      exact hfiles.load commands
  cases op with
  | dispatch s label args =>
    obtain ⟨platform, ledger, cooldowns, queue, hd⟩ := dispatch_frame now s label args d
    rw [step, hd]
    exact h.of_eq rfl rfl rfl
  | execute s label args =>
    obtain ⟨platform, ledger, cooldowns, queue, hd⟩ := dispatch_frame now s label args d
    rw [step, execute_after, hd]
    exact h.of_eq rfl rfl rfl
  | complete s label args => exact h
  | pump =>
    obtain ⟨platform, cooldowns, queue, hd⟩ := pump_frame now d
    rw [step, hd]
    exact h.of_eq rfl rfl rfl
  | load commands => exact h.load commands
  | reload => exact hreload d.commandsDir
  | reloadFrom dir => exact hreload dir
  | shutdown => exact h.shutdown
  | host change =>
    obtain ⟨before, hbefore, -⟩ := h.routes
    obtain ⟨after, hafter, hkeeps⟩ := hadds d.toHost before hbefore
    rw [hostPartAfter, hbefore, hafter]
    exact h.host hbefore hkeeps hafter

theorem mirrors_run (r : UnitReaders) (run : Run N) (h : Mirrors held d)
    (hadds : ∀ x ∈ run, x.2.AddsLabels) : Mirrors (d.hostPart r held run) (d.run r run) := by
  induction run generalizing held d with
  | nil => exact h
  | cons x rest ih =>
    obtain ⟨now, op⟩ := x
    have hop : op.AddsLabels := hadds _ List.mem_cons_self
    exact ih (mirrors_step r now h hop) fun y hy => hadds y (List.mem_cons_of_mem _ hy)

/-! ## What the registrar shows -/

/-- The labels at the registrar are those of the host, as the host registered them, and those of
the catalogue that the host does not hold, each of which leads to its command. -/
structure Shared (foreign registrar : Registrar) (d : Dispatcher N) : Prop where
  labels : ∀ k, k ∈ registrar.labels ↔ k ∈ foreign.labels ∨ k ∈ d.registered.map Catalogue.key
  apart : ∀ k ∈ d.registered.map Catalogue.key, k ∉ foreign.labels
  unchanged : foreign.Keeps registrar
  registered : ∀ k, k ∈ d.registered.map Catalogue.key ↔
    (∃ e ∈ d.catalogue.entries, ∃ l ∈ e.labels, Catalogue.key l = k) ∧ k ∉ foreign.labels
  once : (d.registered.map Catalogue.key).Nodup
  routed : ∀ label ∈ d.registered, ∃ command,
    d.command? label = some command ∧
      registrar.handle? label =
        some { command := command.name, permission := command.permission, usage := command.usage }

omit [Currency N] in
theorem Mirrors.shared (h : Mirrors held d) :
    ∃ registrar, d.registrar = some registrar ∧ Shared held registrar d := by
  obtain ⟨registrar, hr, hroutes⟩ := h.routes
  have hmem (k : String) : k ∈ d.registered.map Catalogue.key ↔
      k ∈ d.catalogue.keys ∧ k ∉ held.labels := by
    rw [h.mem_registered, Registrar.not_mem_labels]
  refine ⟨registrar, hr, ?_, fun k hk => ((hmem k).1 hk).2, ?_, ?_, ?_, ?_⟩
  · intro k
    rw [hmem, ← Catalogue.isSome_route?, Registrar.mem_labels, Registrar.mem_labels, hroutes,
      Option.isSome_or, Bool.or_eq_true]
    tauto
  · intro k handle hk
    rw [hroutes, hk]
    rfl
  · intro k
    rw [hmem, Catalogue.mem_keys]
  · have hdistinct := h.distinct
    rw [Catalogue.keys_eq] at hdistinct
    rw [h.registered]
    exact hdistinct.sublist (List.filter_sublist.map _)
  · intro label hlabel
    have hfree := (h.mem_registered.1 (List.mem_map_of_mem hlabel)).2
    rw [h.registered] at hlabel
    obtain ⟨x, hx, rfl⟩ := List.mem_map.1 (List.mem_filter.1 hlabel).1
    obtain ⟨e, he, hl, hhandle⟩ := Catalogue.mem_labels.1 hx
    refine ⟨e.command, ?_, ?_⟩
    · exact (Catalogue.find?_eq_some_iff h.distinct).2 ⟨e, he, List.mem_map_of_mem hl, rfl⟩
    · have hroute := Catalogue.route?_of_mem h.distinct hx
      rw [Catalogue.key] at hfree hroute
      rw [Registrar.handle?, hroutes, hfree, hroute, hhandle]
      rfl

/-- **The registrar mirrors the catalogue.** At the end of any run of a dispatcher that started
without commands, in which its host only added labels, the host's labels and those of the
catalogue share the registrar; and once the dispatcher is shut down, the host's are left and no
label leads to a command. -/
theorem registrar_mirrors (r : UnitReaders) {first : Dispatcher N}
    (hempty : first.catalogue.entries = []) (hnone : first.registered = [])
    (hheld : first.registrar = some held) (run : Run N) (hadds : ∀ x ∈ run, x.2.AddsLabels) :
    let last := first.run r run
    let foreign := first.hostPart r held run
    held.Keeps foreign ∧
    (∃ registrar, last.registrar = some registrar ∧ Shared foreign registrar last) ∧
    ∃ registrar, last.shutdown.registrar = some registrar ∧
      (∀ label, registrar.handle? label = foreign.handle? label) ∧
      (∀ k, k ∈ registrar.labels ↔ k ∈ foreign.labels) ∧
      last.shutdown.registered = [] ∧
      ∀ label, last.shutdown.command? label = none := by
  intro last foreign
  have hfirst : Mirrors held first := by
    have hlabels : first.catalogue.labels = [] := by
      rw [Catalogue.labels, hempty]; rfl
    refine ⟨?_, ?_, held, hheld, fun k => ?_⟩
    · rw [Catalogue.keys_eq, hlabels]; exact List.nodup_nil
    · rw [hnone, hlabels]; rfl
    · rw [Catalogue.route?, hlabels]; exact (Option.or_none).symm
  have hlast : Mirrors foreign last := mirrors_run r run hfirst hadds
  refine ⟨keeps_hostPart r held first run, hlast.shared, ?_⟩
  obtain ⟨registrar, hr, hrest⟩ := hlast.release
  refine ⟨registrar, hr, fun label => hrest _, fun k => ?_, rfl, fun label => rfl⟩
  rw [Registrar.mem_labels, Registrar.mem_labels, hrest]

def named (name : String) (aliases : List String) : Command where
  name
  usageMessage := none
  aliases
  price := .free
  cooldown := none
  tree := .mk name {} []

def withSpawn : Dispatcher Rat :=
  { registrar := some { entries := [("spawn", ⟨"spawn", none, "/spawn"⟩)] } }

def addFly : Operation Rat :=
  .host fun h =>
    { h with registrar := h.registrar.map fun r => (r.register "Fly" ⟨"fly", none, "/fly"⟩).2 }

theorem addFly_addsLabels : addFly.AddsLabels := by
  intro h before hbefore
  refine ⟨_, ?_, Registrar.keeps_register "Fly" ⟨"fly", none, "/fly"⟩ before⟩
  show Option.map _ h.registrar = _
  rw [hbefore]
  rfl

/-- While the hub is loaded `h` is its alias, then that of the home. What is the host's stays the
host's, whatever the aliases are. -/
theorem home_takes_over_alias :
    let first : Run Rat := [(0, .load [named "Hub" ["h", "Spawn"], named "home" ["H"]])]
    let run := first ++ [(1, addFly), (2, .load [named "home" ["H", "FLY"]])]
    (withSpawn.run .standard first).registered = ["Hub", "h", "home"] ∧
      (withSpawn.run .standard run).registered = ["home", "H"] ∧
      ∃ registrar, (withSpawn.run .standard run).registrar = some registrar ∧
        ∀ k, k ∈ registrar.labels ↔ k ∈ ["spawn", "fly"] ∨ k ∈ ["home", "h"] := by
  intro first run
  have hlast : (withSpawn.run .standard run).registered = ["home", "H"] := by
    decide +kernel
  have hforeign : (withSpawn.hostPart .standard
      { entries := [("spawn", ⟨"spawn", none, "/spawn"⟩)] } run).entries =
        [("spawn", ⟨"spawn", none, "/spawn"⟩), ("fly", ⟨"fly", none, "/fly"⟩)] := by
    decide +kernel
  have hadds : ∀ x ∈ run, x.2.AddsLabels := by
    intro x hx
    simp only [run, first, List.cons_append, List.nil_append, List.mem_cons, List.not_mem_nil,
      or_false] at hx
    rcases hx with rfl | rfl | rfl
    · trivial
    · exact addFly_addsLabels
    · trivial
  have hempty : withSpawn.catalogue.entries = [] := rfl
  obtain ⟨-, ⟨registrar, hr, hshared⟩, -⟩ :=
    registrar_mirrors .standard hempty rfl rfl run hadds
  refine ⟨by decide +kernel, hlast, registrar, hr, fun k => ?_⟩
  have hkeys : ["home", "H"].map Catalogue.key = ["home", "h"] := by decide +kernel
  rw [hshared.labels, hlast, hkeys, Registrar.mem_labels, hforeign, Assoc.isSome_get?]
  rfl

end Dispatcher

end CustomCommands
