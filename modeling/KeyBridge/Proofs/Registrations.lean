-- SUMMARY: Which callbacks are registered in a run, and which of them a registry holds.
import KeyBridge.Proofs.Callbacks
import KeyBridge.Proofs.Changes
import KeyBridge.Proofs.Story

/-!
# Registrations

Callbacks are registered by hotkeys when they are laid out, by others who share a registry, and by
callbacks while they run. The registrations of a run are listed here in their order; a registry
holds under each header the callback that was registered last.
-/

namespace KeyBridge

/-- A callback that is registered with a host. -/
structure Registration where
  into : RegistryId
  header : String
  callback : Callback

namespace Registration

/-! ## Logs of registrations -/

/-- Whether a registration is made in a registry under a header. -/
def isUnder (id : RegistryId) (header : String) (r : Registration) : Bool :=
  r.into = id && r.header = header

/-- The callback that was registered last in a registry under a header. -/
def last? (log : List Registration) (id : RegistryId) (header : String) : Option Callback :=
  (log.filter (isUnder id header)).getLast?.map callback

/-- The registries after a registration. -/
def enter (tables : List (Table Callback)) (r : Registration) : List (Table Callback) :=
  tables.set r.into.index ((tables.getD r.into.index Table.empty).insert r.header r.callback)

section

variable {id : RegistryId} {header : String} {r : Registration} {log : List Registration}
  {tables : List (Table Callback)}

theorem last?_cons : last? (r :: log) id header
    = (last? log id header).or (if r.isUnder id header then some r.callback else none) := by
  rw [last?, last?, List.filter_cons]
  split
  · rw [List.getLast?_cons]
    cases (log.filter (isUnder id header)).getLast? <;> rfl
  · rw [Option.or_none]

/-- A header under which something was registered has a callback from then on. -/
theorem isSome_last? (h : r ∈ log) (hunder : r.isUnder id header = true) :
    (last? log id header).isSome = true := by
  have hmem : r ∈ log.filter (isUnder id header) := List.mem_filter.2 ⟨h, hunder⟩
  rw [last?, Option.isSome_map, Option.isSome_iff_ne_none, Ne, List.getLast?_eq_none_iff]
  exact List.ne_nil_of_mem hmem

theorem length_foldl_enter (log : List Registration) (tables : List (Table Callback)) :
    (log.foldl enter tables).length = tables.length := by
  induction log generalizing tables with
  | nil => rfl
  | cons r log ih => rw [List.foldl_cons, ih, enter, List.length_set]

theorem get?_enter (hid : id.index < tables.length) :
    ((enter tables r).getD id.index Table.empty).get? header
      = (if r.isUnder id header then some r.callback else none).or
        ((tables.getD id.index Table.empty).get? header) := by
  unfold enter
  by_cases hinto : r.into = id
  · subst hinto
    have hset : (tables.set r.into.index
        ((tables.getD r.into.index Table.empty).insert r.header r.callback)).getD
          r.into.index Table.empty
        = (tables.getD r.into.index Table.empty).insert r.header r.callback := by
      simp [List.getD_eq_getElem?_getD, hid]
    rw [hset, Table.get?_insert]
    by_cases hheader : r.header = header
    · simp [isUnder, hheader]
    · simp [isUnder, hheader, Ne.symm hheader]
  · have hne : r.into.index ≠ id.index := by
      intro h
      apply hinto
      cases hr : r.into
      cases id
      rw [hr] at h
      exact congrArg RegistryId.mk h
    simp [List.getD_eq_getElem?_getD, List.getElem?_set_ne hne, isUnder, hinto]

/-- A registry holds what was registered last, else what it held before. -/
theorem get?_foldl_enter (log : List Registration) (hid : id.index < tables.length) :
    ((log.foldl enter tables).getD id.index Table.empty).get? header
      = (last? log id header).or ((tables.getD id.index Table.empty).get? header) := by
  induction log generalizing tables with
  | nil => rfl
  | cons r log ih =>
    have hlength : id.index < (enter tables r).length := by rwa [enter, List.length_set]
    rw [List.foldl_cons, ih hlength, get?_enter hid, last?_cons, Option.or_assoc]

end

end Registration

/-! ## Registrations of callbacks -/

namespace Host

open Registration

/-- The registrations of a dispatch, given those of runs. -/
def registrationsOfDispatch (calls : Host → Callback → String → List Registration) (h : Host)
    (id : RegistryId) (message : String) : List Registration :=
  match h.lookUp id message with
  | (some callback, h) => calls h callback message
  | (none, _) => []

/-- The registrations of a script, given the runs of callbacks and their registrations. -/
def registrationsWith (call : Host → Callback → String → Answer × Host)
    (calls : Host → Callback → String → List Registration) : Script → Host → List Registration
  | .reply _, _ => []
  | .crash, _ => []
  | .count counter next, h =>
    let (n, h) := h.increment counter
    registrationsWith call calls (next n) h
  | .register into header callback next, h =>
    let (replaced, h) := h.register into header callback
    ⟨into, header, callback⟩ :: registrationsWith call calls (next replaced) h
  | .dispatch through message next, h =>
    registrationsOfDispatch calls h through message ++
      match h.dispatchWith call through message with
      | (.reply text, h) => registrationsWith call calls (next text) h
      | _ => []

/-- The registrations of a run of a callback, in their order. -/
def registrations : Nat → Host → Callback → String → List Registration
  | 0, _, _, _ => []
  | depth + 1, h, callback, message =>
    registrationsWith (call depth) (registrations depth) (callback message) (h.called message)

section

variable {call : Host → Callback → String → Answer × Host}
  {calls : Host → Callback → String → List Registration}
  (hcall : ∀ h callback message,
    (call h callback message).2.registries = (calls h callback message).foldl enter h.registries)
include hcall

theorem registries_dispatchWith (h : Host) (id : RegistryId) (message : String) :
    (h.dispatchWith call id message).2.registries
      = (registrationsOfDispatch calls h id message).foldl enter h.registries := by
  rw [dispatchWith, registrationsOfDispatch, lookUp]
  rcases (h.registry id).get? message with _ | callback
  · rfl
  · exact hcall h callback message

theorem registries_runWith (script : Script) (h : Host) :
    (runWith call script h).2.registries
      = (registrationsWith call calls script h).foldl enter h.registries := by
  induction script generalizing h with
  | reply text => rfl
  | crash => rfl
  | count counter next ih => exact ih _ _
  | register into header callback next _ ih => exact ih _ _
  | dispatch through message next ih =>
    have hdispatch := registries_dispatchWith hcall h through message
    rw [runWith, registrationsWith, List.foldl_append, ← hdispatch]
    rcases h.dispatchWith call through message with ⟨_ | _ | _, after⟩
    · exact ih _ _
    · rfl
    · rfl

end

theorem registries_call (depth : Nat) (h : Host) (callback : Callback) (message : String) :
    (call depth h callback message).2.registries
      = (registrations depth h callback message).foldl enter h.registries := by
  induction depth generalizing h callback message with
  | zero => rfl
  | succ depth ih => exact registries_runWith ih (callback message) (h.called message)

end Host

/-- The registrations that a handler makes when it answers a message. -/
def Handler.registrations (handler : Handler) (message : String) (h : Host) : List Registration :=
  match handler with
  | .callback c => Host.registrations h.depth h c message
  | .registry id => Host.registrationsOfDispatch (Host.registrations h.depth) h id message

theorem Handler.registries_run (handler : Handler) (message : String) (h : Host) :
    (handler.run message h).2.registries
      = (handler.registrations message h).foldl Registration.enter h.registries := by
  cases handler with
  | callback c => exact Host.registries_call h.depth h c message
  | registry id => exact Host.registries_dispatchWith (Host.registries_call h.depth) h id message

theorem Handler.registries_hostAfter (handler : Handler) (message : String) (h : Host) :
    (handler.hostAfter message h).registries
      = (handler.registrations message h).foldl Registration.enter h.registries := by
  have hrun := handler.registries_run message h
  rcases handler.hostAfter_eq message h with heq | heq
  · rw [heq, hrun]
  · rw [heq, ← hrun]
    rfl

/-- The registrations that are made when a call is carried out. -/
def Call.registrations (c : Call) (h : Host) : List Registration :=
  c.handler.registrations (Wire.decode c.bytes) h

/-! ## Registrations of acts -/

namespace Switchboard

variable {b : Switchboard}

/-- The callbacks that are registered in an act. -/
def registrations (b : Switchboard) : Act → List Registration
  | .register into header callback => [⟨into, header, callback⟩]
  | a => (b.carriedOut a).toList.flatMap fun c => c.registrations b.site.host

/-- Registries change when someone registers a callback or a call is carried out, and not else. -/
theorem Change.registries_eq {a : Act} {b' : Switchboard} (h : Change b a b') (ht : b.Tidy)
    (hregister : ∀ into header callback, a ≠ .register into header callback)
    (hmove : ∀ id, a ≠ .move id) (hcarry : ∀ index, a ≠ .carryOut index) :
    b'.site.host.registries = b.site.host.registries := by
  cases h with
  | register into header callback => exact absurd rfl (hregister into header callback)
  | send link bytes => rw [site_putOff]; rfl
  | move id => exact absurd rfl (hmove id)
  | letGo index t hmem =>
    obtain ⟨n, hrelease, -⟩ := release_eq b.site (ht.abandoned t (List.mem_of_getElem? hmem))
    have hsame := congrArg (fun site : Site => site.host.registries) hrelease
    exact hsame
  | carryOut index => exact absurd rfl (hcarry index)
  | _ => rfl

/-- The registrations of an act in which nobody but callbacks registers anything. -/
theorem registrations_of_carriedOut {a : Act}
    (hregister : ∀ into header callback, a ≠ .register into header callback) :
    b.registrations a = (b.carriedOut a).toList.flatMap fun c => c.registrations b.site.host := by
  cases a with
  | register into header callback => exact absurd rfl (hregister into header callback)
  | _ => rfl

theorem registries_move (h : b.Tidy) (id : ServerId) :
    (b.act (.move id)).site.host.registries
      = (b.registrations (.move id)).foldl Registration.enter b.site.host.registries := by
  rw [registrations_of_carriedOut (by simp), act]
  rcases hm : b.moveServer id with _ | b'
  · rw [carriedOut_of_stalled hm]
    rfl
  · obtain ⟨s, s', site', hs, hstep, rfl, -⟩ := h.step_of_moveServer hm
    rw [carriedOut_move hs, Option.getD_some]
    rcases hstep.call?_cases with ⟨hnone, events, hhost⟩ | ⟨c, hc, -, hsite⟩
    · rw [hnone, hhost]
      rfl
    · rw [hc, hsite]
      simpa [Call.registrations] using c.handler.registries_hostAfter _ _

theorem registries_carryOut (b : Switchboard) (index : Nat) :
    (b.act (.carryOut index)).site.host.registries
      = (b.registrations (.carryOut index)).foldl Registration.enter b.site.host.registries := by
  rw [registrations_of_carriedOut (by simp), carriedOut, act, carryOutAt]
  rcases b.unawaited[index]? with _ | c
  · rfl
  · simpa [Call.registrations, Call.carryOut] using c.handler.registries_run _ _

/-- The registries after an act are those before it, with the registrations entered. -/
theorem registries_act (h : b.Tidy) (a : Act) :
    (b.act a).site.host.registries
      = (b.registrations a).foldl Registration.enter b.site.host.registries := by
  cases a with
  | move id => exact registries_move h id
  | carryOut index => exact registries_carryOut b index
  | register into header callback => rfl
  | _ => exact (change_act h _).registries_eq h (by simp) (by simp) (by simp)

end Switchboard

end KeyBridge
