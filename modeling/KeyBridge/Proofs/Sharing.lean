-- SUMMARY: Which generators share a registry, and what laying out leaves as it was.
import KeyBridge.Generator
import KeyBridge.Proofs.CallSites
import KeyBridge.Proofs.Reentrancy

/-!
# Sharing

Generators are made, cloned and given the registries of others while they lay out actions and answer
messages. Which of them share a registry is read off these steps alone (`Sharing`):
`Workshop.registries_follow_classes` says that it is so, what a registry holds in the end, and that
laying out changes nothing outside of the class of its generator.
-/

namespace KeyBridge

open Registration

/-! ## Workshops -/

/-- Generators, and the host that has their registries. -/
structure Workshop where
  host : Host
  generators : List Generator

namespace Workshop

/-- One thing that is done with the generators, which have their numbers. -/
inductive Step where
  | create (config : GeneratorConfig)
  | clone (i : Nat)
  /-- Gives a generator the registry of another one. -/
  | adopt (i source : Nat)
  | generate (i : Nat) (actions : List Action) (level : Nat)
  | dispatch (i : Nat) (message : String)

/-- The workshop after a step. -/
def step (w : Workshop) : Step → Workshop
  | .create config =>
    let (g, host) := Generator.create config w.host
    ⟨host, w.generators ++ [g]⟩
  | .clone i =>
    match w.generators[i]? with
    | some g => { w with generators := w.generators ++ [g] }
    | none => w
  | .adopt i source =>
    match w.generators[i]?, w.generators[source]? with
    | some g, some g' => { w with generators := w.generators.set i (g.withRegistry g'.registry) }
    | _, _ => w
  | .generate i actions level =>
    match w.generators[i]? with
    | some g => { w with host := (g.generate actions level w.host).2 }
    | none => w
  | .dispatch i message =>
    match w.generators[i]? with
    | some g => { w with host := (w.host.dispatch g.registry message).2 }
    | none => w

/-- The workshop after steps. -/
def run (w : Workshop) (steps : List Step) : Workshop := steps.foldl step w

/-- The text that a step gives. -/
def text? (w : Workshop) : Step → Option String
  | .generate i actions level => w.generators[i]?.map fun g => (g.generate actions level w.host).1
  | _ => none

/-- The texts that steps give. -/
def texts (w : Workshop) : List Step → List String
  | [] => []
  | a :: more => (w.text? a).toList ++ (w.step a).texts more

/-- The registrations that a step makes. -/
def registrations (w : Workshop) : Step → List Registration
  | .generate i actions _ =>
    match w.generators[i]? with
    | some g => actionsDue g.registry actions
    | none => []
  | .dispatch i message =>
    match w.generators[i]? with
    | some g => Deed.registrations [w.host.deed (.dispatch g.registry message)]
    | none => []
  | .create _ | .clone _ | .adopt _ _ => []

/-- The registrations that steps make. -/
def log (w : Workshop) : List Step → List Registration
  | [] => []
  | a :: more => w.registrations a ++ (w.step a).log more

end Workshop

/-! ## Classes -/

/-- The classes of generators: how many there were, and that of each generator. -/
structure Sharing where
  classes : Nat
  labels : List Nat

namespace Sharing

/-- The classes after a step. A new generator has a class of its own, a clone that of its source,
and who gets the registry of another one goes over to its class. -/
def step (s : Sharing) : Workshop.Step → Sharing
  | .create _ => ⟨s.classes + 1, s.labels ++ [s.classes]⟩
  | .clone i =>
    match s.labels[i]? with
    | some c => { s with labels := s.labels ++ [c] }
    | none => s
  | .adopt i source =>
    match s.labels[source]? with
    | some c => { s with labels := s.labels.set i c }
    | none => s
  | .generate _ _ _ => s
  | .dispatch _ _ => s

/-- The classes after steps. -/
def after (steps : List Workshop.Step) : Sharing := steps.foldl step ⟨0, []⟩

end Sharing

/-! ## Registries of classes -/

/-- Every class has a registry of its own, which its generators have. -/
structure Workshop.Housed (w : Workshop) (s : Sharing) (homes : List RegistryId) : Prop where
  classes : homes.length = s.classes
  distinct : homes.Nodup
  opened : ∀ id ∈ homes, id.index < w.host.registries.length
  registries : w.generators.map (fun g => some g.registry) = s.labels.map (homes[·]?)

namespace Workshop

variable {w : Workshop} {s : Sharing} {homes : List RegistryId}

/-- A step makes its registrations, and it may open a registry. -/
theorem registries_step (w : Workshop) (a : Step) : ∃ opened,
    (w.step a).host.registries = (w.registrations a).foldl enter w.host.registries ++ opened := by
  cases a with
  | create config => exact ⟨[Table.empty], rfl⟩
  | clone i =>
    refine ⟨[], ?_⟩
    rw [step, List.append_nil]
    split <;> rfl
  | adopt i source =>
    refine ⟨[], ?_⟩
    rw [step, List.append_nil]
    split <;> rfl
  | generate i actions level =>
    refine ⟨[], ?_⟩
    rw [step, registrations, List.append_nil]
    split
    · rw [← registrations_sequenceEffects]
      exact Host.registries_performAll _ _ _
    · rfl
  | dispatch i message =>
    refine ⟨[], ?_⟩
    rw [step, registrations, List.append_nil]
    split
    · exact (w.host.logged_operate (.dispatch _ message)).registries
    · rfl

theorem last?_append (log more : List Registration) (id : RegistryId) (header : String) :
    last? (log ++ more) id header = (last? more id header).or (last? log id header) := by
  induction log with
  | nil => exact (Option.or_none).symm
  | cons r log ih => rw [List.cons_append, last?_cons, last?_cons, ih, Option.or_assoc]

theorem length_registries_step (w : Workshop) (a : Step) :
    w.host.registries.length ≤ (w.step a).host.registries.length := by
  obtain ⟨opened, hopened⟩ := w.registries_step a
  rw [hopened, List.length_append, length_foldl_enter]
  exact Nat.le_add_right _ _

theorem get?_step (w : Workshop) (a : Step) {id : RegistryId}
    (hid : id.index < w.host.registries.length) (header : String) :
    ((w.step a).host.registry id).get? header
      = (last? (w.registrations a) id header).or ((w.host.registry id).get? header) := by
  obtain ⟨opened, hopened⟩ := w.registries_step a
  have hlength : id.index < ((w.registrations a).foldl enter w.host.registries).length := by
    rwa [length_foldl_enter]
  rw [Host.registry, hopened, List.getD_eq_getElem?_getD, List.getElem?_append_left hlength,
    ← List.getD_eq_getElem?_getD, get?_foldl_enter _ hid, Host.registry]

/-- A registry holds what was registered last, else what it held before. -/
theorem get?_run (w : Workshop) (steps : List Step) {id : RegistryId}
    (hid : id.index < w.host.registries.length) (header : String) :
    ((w.run steps).host.registry id).get? header
      = (last? (w.log steps) id header).or ((w.host.registry id).get? header) := by
  induction steps generalizing w with
  | nil => rfl
  | cons a more ih =>
    have hstep := ih (w.step a) (Nat.lt_of_lt_of_le hid (w.length_registries_step a))
    rw [get?_step w a hid] at hstep
    rw [log, last?_append, Option.or_assoc]
    exact hstep

/-! ## Housing -/

/-- A generator has the registry of its class. -/
theorem Housed.label (hw : w.Housed s homes) {i : Nat} {g : Generator}
    (hg : w.generators[i]? = some g) :
    ∃ c, s.labels[i]? = some c ∧ homes[c]? = some g.registry := by
  have hregistry := congrArg (·[i]?) hw.registries
  simp only [List.getElem?_map, hg, Option.map_some] at hregistry
  obtain ⟨c, hc, hhome⟩ := Option.map_eq_some_iff.1 hregistry.symm
  exact ⟨c, hc, hhome⟩

theorem Housed.length (hw : w.Housed s homes) : w.generators.length = s.labels.length := by
  simpa using congrArg List.length hw.registries

theorem Housed.label_eq_none (hw : w.Housed s homes) {i : Nat} (hg : w.generators[i]? = none) :
    s.labels[i]? = none := by
  rw [List.getElem?_eq_none_iff] at hg ⊢
  exact hw.length ▸ hg

theorem Housed.lt (hw : w.Housed s homes) {c : Nat} (hc : c ∈ s.labels) : c < homes.length := by
  have hmem : homes[c]? ∈ s.labels.map (homes[·]?) := List.mem_map_of_mem hc
  rw [← hw.registries] at hmem
  obtain ⟨g, -, hg⟩ := List.mem_map.1 hmem
  exact (List.getElem?_eq_some_iff.1 hg.symm).1

/-- Generators have the same registry if they are of the same class, and only then, also when time
has passed between. -/
theorem Housed.registry_eq_iff (hw : w.Housed s homes) {w' : Workshop} {s' : Sharing}
    {more : List RegistryId} (hw' : w'.Housed s' (homes ++ more)) {i j : Nat} {g g' : Generator}
    (hg : w.generators[i]? = some g) (hg' : w'.generators[j]? = some g') :
    g.registry = g'.registry ↔ s.labels[i]? = s'.labels[j]? := by
  obtain ⟨c, hc, hhome⟩ := hw.label hg
  obtain ⟨c', hc', hhome'⟩ := hw'.label hg'
  have hlt := (List.getElem?_eq_some_iff.1 hhome).1
  have hlater : (homes ++ more)[c]? = some g.registry := by
    rw [List.getElem?_append_left hlt, hhome]
  have hlt' : c < (homes ++ more).length := (List.getElem?_eq_some_iff.1 hlater).1
  rw [hc, hc', Option.some_inj, ← List.getElem?_inj hlt' hw'.distinct, hlater, hhome',
    Option.some_inj]

/-! ## Housing through a run -/

/-- A class that is added changes nothing about the registries of the others. -/
theorem Housed.map_append (hw : w.Housed s homes) (more : List RegistryId) :
    s.labels.map ((homes ++ more)[·]?) = s.labels.map (homes[·]?) :=
  List.map_congr_left fun _ hc => List.getElem?_append_left (hw.lt hc)

theorem Housed.withHost (hw : w.Housed s homes) {host : Host}
    (hlength : w.host.registries.length ≤ host.registries.length) :
    Housed ⟨host, w.generators⟩ s homes :=
  ⟨hw.classes, hw.distinct, fun id hid => Nat.lt_of_lt_of_le (hw.opened id hid) hlength,
    hw.registries⟩

theorem Housed.create (hw : w.Housed s homes) (config : GeneratorConfig) :
    (w.step (.create config)).Housed (s.step (.create config))
      (homes ++ [w.host.newRegistry.1]) := by
  have hnew : ∀ id ∈ homes, id ≠ w.host.newRegistry.1 := by
    rintro id hid rfl
    exact Nat.lt_irrefl _ (hw.opened _ hid)
  constructor
  · rw [List.length_append, hw.classes]
    rfl
  · rw [List.nodup_append]
    refine ⟨hw.distinct, by simp, fun id hid id' hid' => ?_⟩
    rw [List.mem_singleton.1 hid']
    exact hnew id hid
  · intro id hid
    have hlength : (w.step (.create config)).host.registries.length
        = w.host.registries.length + 1 := List.length_append
    rw [hlength]
    rcases List.mem_append.1 hid with hid | hid
    · exact Nat.lt_succ_of_lt (hw.opened id hid)
    · rw [List.mem_singleton.1 hid]
      exact Nat.lt_succ_self _
  · have hlast : (homes ++ [w.host.newRegistry.1])[s.classes]? = some w.host.newRegistry.1 := by
      rw [← hw.classes, List.getElem?_concat_length]
    have hgenerators : (w.step (.create config)).generators
        = w.generators ++ [⟨config, w.host.newRegistry.1⟩] := rfl
    have hlabels : (s.step (.create config)).labels = s.labels ++ [s.classes] := rfl
    rw [hgenerators, hlabels, List.map_append, List.map_append, hw.map_append, hw.registries,
      List.map_singleton, List.map_singleton, hlast]

theorem Housed.clone (hw : w.Housed s homes) (i : Nat) :
    (w.step (.clone i)).Housed (s.step (.clone i)) homes := by
  rw [step, Sharing.step]
  rcases hg : w.generators[i]? with _ | g
  · rw [hw.label_eq_none hg]
    exact hw
  · obtain ⟨c, hc, hhome⟩ := hw.label hg
    rw [hc]
    refine ⟨hw.classes, hw.distinct, hw.opened, ?_⟩
    rw [List.map_append, List.map_append, hw.registries, List.map_singleton, List.map_singleton,
      hhome]

theorem Housed.adopt (hw : w.Housed s homes) (i source : Nat) :
    (w.step (.adopt i source)).Housed (s.step (.adopt i source)) homes := by
  rw [step, Sharing.step]
  rcases hsource : w.generators[source]? with _ | g'
  · rw [hw.label_eq_none hsource]
    rcases w.generators[i]? with _ | g <;> exact hw
  · obtain ⟨c, hc, hhome⟩ := hw.label hsource
    rw [hc]
    rcases hg : w.generators[i]? with _ | g
    · -- there is no such generator, so its label is not there to be changed, either
      have hout : s.labels.set i c = s.labels := by
        refine List.set_eq_of_length_le ?_
        rw [← hw.length]
        exact List.getElem?_eq_none_iff.1 hg
      refine ⟨hw.classes, hw.distinct, hw.opened, ?_⟩
      dsimp only
      rw [hout]
      exact hw.registries
    · refine ⟨hw.classes, hw.distinct, hw.opened, ?_⟩
      rw [List.map_set, List.map_set, hw.registries, hhome]
      rfl

/-- A step leaves every class its registry. -/
theorem Housed.step (hw : w.Housed s homes) (a : Step) :
    ∃ more, (w.step a).Housed (s.step a) (homes ++ more) := by
  have hlength := w.length_registries_step a
  cases a with
  | create config => exact ⟨_, hw.create config⟩
  | clone i => exact ⟨[], (List.append_nil homes).symm ▸ hw.clone i⟩
  | adopt i source => exact ⟨[], (List.append_nil homes).symm ▸ hw.adopt i source⟩
  | generate i actions level =>
    refine ⟨[], ?_⟩
    rw [List.append_nil]
    rw [Workshop.step] at hlength ⊢
    split at hlength
    · exact hw.withHost hlength
    · exact hw
  | dispatch i message =>
    refine ⟨[], ?_⟩
    rw [List.append_nil]
    rw [Workshop.step] at hlength ⊢
    split at hlength
    · exact hw.withHost hlength
    · exact hw

theorem Housed.run (hw : w.Housed s homes) (steps : List Step) :
    ∃ more, (w.run steps).Housed (steps.foldl Sharing.step s) (homes ++ more) := by
  induction steps generalizing w s homes with
  | nil => exact ⟨[], (List.append_nil homes).symm ▸ hw⟩
  | cons a steps ih =>
    obtain ⟨more, hstep⟩ := hw.step a
    obtain ⟨more', hrun⟩ := ih hstep
    exact ⟨more ++ more', List.append_assoc homes more more' ▸ hrun⟩

/-! ## Laying out -/

end Workshop

namespace Host

theorem registry_register (h : Host) (into : RegistryId) (header : String) (callback : Callback)
    (id' : RegistryId) : (h.register into header callback).2.registry id'
      = if id' = into ∧ into.index < h.registries.length
        then (h.registry into).insert header callback else h.registry id' := by
  have hregistries : (h.register into header callback).2.registry id'
      = (h.registries.set into.index ((h.registry into).insert header callback)).getD id'.index
          Table.empty := rfl
  rw [hregistries, List.getD_eq_getElem?_getD]
  by_cases hid : id' = into
  · subst hid
    by_cases hlt : id'.index < h.registries.length
    · rw [List.getElem?_set_self hlt, if_pos ⟨rfl, hlt⟩, Option.getD_some]
    · rw [List.set_eq_of_length_le (Nat.le_of_not_lt hlt), if_neg fun hlt' => hlt hlt'.2, registry,
        List.getD_eq_getElem?_getD]
  · rw [List.getElem?_set_ne (RegistryId.index_ne (Ne.symm hid)), if_neg fun hid' => hid hid'.1,
      registry, List.getD_eq_getElem?_getD]

/-- Two hosts are alike but for the logs and one registry. -/
structure AlikeBut (id : RegistryId) (h k : Host) : Prop where
  counters : k.counters = h.counters
  depth : k.depth = h.depth
  length : k.registries.length = h.registries.length
  registries : ∀ id', id' ≠ id → k.registry id' = h.registry id'

namespace AlikeBut

variable {id : RegistryId} {h k l : Host}

theorem refl (id : RegistryId) (h : Host) : h.AlikeBut id h := ⟨rfl, rfl, rfl, fun _ _ => rfl⟩

theorem trans (hk : h.AlikeBut id k) (hl : k.AlikeBut id l) : h.AlikeBut id l :=
  ⟨hl.counters.trans hk.counters, hl.depth.trans hk.depth, hl.length.trans hk.length,
    fun id' hne => (hl.registries id' hne).trans (hk.registries id' hne)⟩

theorem mirrors (id : RegistryId) : Mirrors (AlikeBut id) fun d => d.operation.registry ≠ id where
  depth := fun hr => ⟨Nat.le_of_eq hr.depth.symm, fun _ _ _ _ => hr.depth.symm⟩
  called := fun hr _ => ⟨hr.counters, hr.depth, hr.length, hr.registries⟩
  increment := by
    intro h k hr counter
    have hcount : (k.increment counter).1 = (h.increment counter).1 := by
      rw [increment, increment, hr.counters]
    refine ⟨hcount, ?_, hr.depth, hr.length, hr.registries⟩
    rw [increment, increment, hr.counters]
  register := by
    intro h k hr into header callback hok
    have hinto := hr.registries into hok
    have hreplaced : (k.register into header callback).1 = (h.register into header callback).1 :=
      congrArg (Table.contains · header) hinto
    have hafter : ∀ id', id' ≠ id → (k.register into header callback).2.registry id'
        = (h.register into header callback).2.registry id' := by
      intro id' hne
      rw [registry_register, registry_register, hr.length, hinto, hr.registries id' hne]
    refine ⟨?_, hr.counters, hr.depth, ?_, hafter⟩
    · simp only [deedOfRegister, headers]
      rw [hreplaced, hafter into hok]
    · exact List.length_set.trans (hr.length.trans List.length_set.symm)
  found := by
    intro h k hr d through message hok hd
    rw [hd] at hok
    rw [hr.registries through hok]
  miss := fun hr _ => ⟨hr.counters, hr.depth, hr.length, hr.registries⟩

theorem register (h : Host) (header : String) (callback : Callback) :
    h.AlikeBut id (h.register id header callback).2 := by
  refine ⟨rfl, rfl, List.length_set, fun id' hne => ?_⟩
  rw [registry_register, if_neg fun hid => hne hid.1]

/-- Laying out changes one registry. -/
theorem performAll (h : Host) (effects : List Effect) :
    h.AlikeBut id (h.performAll id effects) := by
  induction effects generalizing h with
  | nil => exact refl id h
  | cons e effects ih =>
    refine trans ?_ (ih _)
    cases e with
    | register header callback => exact register h header callback
    | unresolved trigger => exact ⟨rfl, rfl, rfl, fun _ _ => rfl⟩
    | letGo key => exact ⟨rfl, rfl, rfl, fun _ _ => rfl⟩

end AlikeBut

end Host

/-- The table of a registry after registrations in it. -/
theorem Registration.table_foldl_enter {id : RegistryId} {log : List Registration}
    (hinto : ∀ r ∈ log, r.into = id) {tables : List (Table Callback)}
    (hid : id.index < tables.length) :
    (log.foldl enter tables).getD id.index Table.empty
      = log.foldl (fun t r => t.insert r.header r.callback)
          (tables.getD id.index Table.empty) := by
  induction log generalizing tables with
  | nil => rfl
  | cons r log ih =>
    have hlength : id.index < (enter tables r).length := by rwa [enter, List.length_set]
    rw [List.foldl_cons, List.foldl_cons, ih (fun r' hr' => hinto r' (List.mem_cons_of_mem r hr'))
      hlength, table_enter hid, if_pos (hinto r List.mem_cons_self)]

theorem Generator.registry_generate (g : Generator) (actions : List Action) (level : Nat)
    (host : Host) (hregistry : g.registry.index < host.registries.length) :
    (g.generate actions level host).2.registry g.registry
      = (actionsDue g.registry actions).foldl (fun t r => t.insert r.header r.callback)
          (host.registry g.registry) := by
  rw [generate, Host.registry, Host.registries_performAll, registrations_sequenceEffects]
  exact table_foldl_enter (fun _ hr => into_of_mem_actionsDue hr) hregistry

namespace Workshop

/-! ## Texts -/

/-- The configurations of generators after a step; registries play no part in it. -/
def configsAfter (configs : List GeneratorConfig) : Step → List GeneratorConfig
  | .create config => configs ++ [config]
  | .clone i => configs ++ configs[i]?.toList
  | .adopt _ _ | .generate _ _ _ | .dispatch _ _ => configs

/-- The text that a step gives, by the configuration of its generator. -/
def textBy? (configs : List GeneratorConfig) : Step → Option String
  | .generate i actions level =>
    configs[i]?.map fun config => sequenceText config.indentWidth level actions
  | _ => none

/-- The texts that steps give, by the configurations of generators. -/
def textsBy (configs : List GeneratorConfig) : List Step → List String
  | [] => []
  | a :: more => (textBy? configs a).toList ++ textsBy (configsAfter configs a) more

theorem configs_step (w : Workshop) (a : Step) :
    (w.step a).generators.map Generator.config
      = configsAfter (w.generators.map Generator.config) a := by
  cases a with
  | create config => exact List.map_append
  | clone i =>
    rw [step, configsAfter, List.getElem?_map]
    rcases w.generators[i]? with _ | g
    · exact (List.append_nil _).symm
    · exact List.map_append
  | adopt i source =>
    rw [step, configsAfter]
    split
    · rename_i g g' hg hg'
      obtain ⟨hlt, hi⟩ := List.getElem?_eq_some_iff.1 hg
      have hlt' : i < (w.generators.map Generator.config).length := by rwa [List.length_map]
      have hsame : (g.withRegistry g'.registry).config
          = (w.generators.map Generator.config)[i] := by
        rw [List.getElem_map, hi]
        rfl
      rw [List.map_set, hsame, List.set_getElem_self]
    · rfl
  | generate i actions level =>
    rw [step, configsAfter]
    split <;> rfl
  | dispatch i message =>
    rw [step, configsAfter]
    split <;> rfl

theorem text?_eq (w : Workshop) (a : Step) :
    w.text? a = textBy? (w.generators.map Generator.config) a := by
  cases a with
  | generate i actions level =>
    rw [text?, textBy?, List.getElem?_map, Option.map_map]
    rfl
  | _ => rfl

/-- Texts depend on the configurations of generators, and not on their registries. -/
theorem texts_eq (w : Workshop) (steps : List Step) :
    w.texts steps = textsBy (w.generators.map Generator.config) steps := by
  induction steps generalizing w with
  | nil => rfl
  | cons a more ih => rw [texts, textsBy, text?_eq, ih, configs_step]

/-! ## Sharing -/

/-- The registries of generators follow their classes at all times: whoever is of a class, now or
later, has its registry and nobody else, so that one finds what another one registers exactly if
they are of the same class. A registry is new when its class is, and holds from then on what was
registered last. Laying out enters what is due into the registry of the generator's
class, in order, and leaves those of the others and what is dispatched through them as they were.
The texts follow from the configurations of the generators alone. -/
theorem registries_follow_classes (host : Host) (past more : List Step) :
    let w := run ⟨host, []⟩ past
    let w' := w.run more
    let labels := (Sharing.after past).labels
    (∀ (i j : Nat) (g g' : Generator), w.generators[i]? = some g →
      w'.generators[j]? = some g' →
      (g.registry = g'.registry ↔ labels[i]? = (Sharing.after (past ++ more)).labels[j]?))
    ∧ (∀ (i j : Nat) (g g' : Generator), w.generators[i]? = some g →
      w.generators[j]? = some g' → ∀ header callback,
      ((w.host.register g.registry header callback).2.registry g'.registry).get? header
        = if labels[i]? = labels[j]? then some callback
          else (w.host.registry g'.registry).get? header)
    ∧ (∀ config, ∃ g, (w.step (.create config)).generators = w.generators ++ [g]
      ∧ (w.step (.create config)).host.registry g.registry = Table.empty)
    ∧ (∀ (i : Nat) (g : Generator), w.generators[i]? = some g → ∀ header,
      (w'.host.registry g.registry).get? header
        = (last? (w.log more) g.registry header).or ((w.host.registry g.registry).get? header))
    ∧ (∀ (i j : Nat) (g g' : Generator) actions level, w.generators[i]? = some g →
      w.generators[j]? = some g' →
      let due := actionsDue g.registry actions
      let laid := (w.step (.generate i actions level)).host
      (labels[i]? = labels[j]? →
        laid.registry g'.registry
          = due.foldl (fun t r => t.insert r.header r.callback) (w.host.registry g'.registry)
        ∧ ∀ message callback, last? due g'.registry message = some callback →
          laid.dispatch g'.registry message = laid.invoke callback message)
      ∧ (labels[i]? ≠ labels[j]? → laid.registry g'.registry = w.host.registry g'.registry)
      ∧ ∀ ops, (∀ d ∈ Deed.inOrder (w.host.record ops), d.operation.registry ≠ g.registry) →
        laid.record ops = w.host.record ops ∧ (laid.session ops).1 = (w.host.session ops).1)
    ∧ w.texts more = textsBy (w.generators.map Generator.config) more := by
  intro w w' labels
  have hstart : Housed ⟨host, []⟩ ⟨0, []⟩ [] := ⟨rfl, List.nodup_nil, by simp, rfl⟩
  obtain ⟨homes, hw⟩ : ∃ homes, w.Housed (Sharing.after past) homes :=
    (hstart.run past).imp' _ fun _ hw => hw
  obtain ⟨later, hlater⟩ : ∃ later,
      w'.Housed (Sharing.after (past ++ more)) (homes ++ later) := by
    rw [Sharing.after, List.foldl_append]
    exact hw.run more
  have hnow : w.Housed (Sharing.after past) (homes ++ []) := by rwa [List.append_nil]
  have hiff : ∀ {i j : Nat} {g g' : Generator}, w.generators[i]? = some g →
      w.generators[j]? = some g' → (g.registry = g'.registry ↔ labels[i]? = labels[j]?) :=
    hw.registry_eq_iff hnow
  have hopened : ∀ {i : Nat} {g : Generator}, w.generators[i]? = some g →
      g.registry.index < w.host.registries.length := by
    intro i g hg
    obtain ⟨c, -, hhome⟩ := hw.label hg
    exact hw.opened _ (List.mem_of_getElem? hhome)
  refine ⟨fun i j g g' hg hg' => hw.registry_eq_iff hlater hg hg',
    fun i j g g' hg hg' header callback => ?_, fun config => ?_,
    fun i g hg header => w.get?_run more (hopened hg) header,
    fun i j g g' actions level hg hg' => ?_, w.texts_eq more⟩
  · rw [Host.registry_register]
    simp only [← hiff hg hg']
    by_cases heq : g.registry = g'.registry
    · rw [if_pos ⟨heq.symm, hopened hg⟩, if_pos heq, Table.get?_insert_self]
    · rw [if_neg fun hid => heq hid.1.symm, if_neg heq]
  · refine ⟨_, rfl, ?_⟩
    simp [step, Generator.create, Host.newRegistry, Host.registry, List.getD_eq_getElem?_getD]
  · intro due laid
    have hlaid : laid = (g.generate actions level w.host).2 := by
      simp only [laid, step, hg]
    have halike : w.host.AlikeBut g.registry laid := by
      rw [hlaid]
      exact Host.AlikeBut.performAll _ _
    refine ⟨fun hlabel => ?_, fun hlabel => ?_, fun ops hapart => ?_⟩
    · have heq := (hiff hg hg').2 hlabel
      have htable : laid.registry g'.registry = due.foldl
          (fun t r => t.insert r.header r.callback) (w.host.registry g'.registry) := by
        rw [hlaid, ← heq]
        exact g.registry_generate actions level w.host (hopened hg)
      refine ⟨htable, fun message callback hlast => Host.dispatchWith_hit ?_⟩
      have hfound := g.get?_generate actions level w.host (hopened hg) message
      rw [hlaid, ← heq, hfound]
      rw [← heq] at hlast
      rw [hlast]
      rfl
    · exact halike.registries _ fun heq => hlabel ((hiff hg hg').1 heq.symm)
    · obtain ⟨hdeeds, houtcomes, -⟩ := (Host.AlikeBut.mirrors g.registry).session halike ops hapart
      exact ⟨hdeeds, houtcomes⟩

end Workshop

end KeyBridge
