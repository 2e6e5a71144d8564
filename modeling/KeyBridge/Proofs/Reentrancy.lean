-- SUMMARY: A registry that callbacks use while they run holds what was registered last.
import KeyBridge.Proofs.Deeds
import KeyBridge.Proofs.Listings

/-!
# Re-entrancy

Callbacks may register callbacks in the registry from which they were taken, and dispatch messages
through it, one inside the other. Whether a dispatch finds a callback, and which, depends on nothing
but the registrations before it began, wherever they were made (`Lawful`); so it is with what the
registry tells about its headers (`Listing`). `Host.latest_registration_answers` says so of every
session with a registry.
-/

namespace KeyBridge

open Registration

/-! ## Laws -/

/-- So many headers, and these, are what a registry lists after registrations: those under which
something was registered, each once, in increasing order of their bytes. -/
structure Listing (id : RegistryId) (past : List Registration) (size : Nat)
    (headers : List String) : Prop where
  size : size = headers.length
  mem : ∀ header, header ∈ headers ↔ ∃ r ∈ past, r.isUnder id header = true
  increase : headers.Pairwise fun a b => utf8 a < utf8 b

/-- What deeds have to be like as far as they concern a registry, given the registrations before
them. A dispatch finds the callback that was registered last when it began, and does what that
callback does with the message. At most `depth` runs are nested. -/
inductive Lawful (id : RegistryId) : Nat → List Registration → List Deed → Prop where
  | nil (depth : Nat) (past : List Registration) : Lawful id depth past []
  | registered {depth : Nat} {past : List Registration} {entry : Registration} {replaced : Bool}
      {size : Nat} {headers : List String} {more : List Deed} :
      (entry.into = id → (replaced = true ↔ ∃ r ∈ past, r.isUnder id entry.header = true)
        ∧ Listing id (past ++ [entry]) size headers) →
      Lawful id depth (past ++ [entry]) more →
      Lawful id depth past (.registered entry replaced size headers :: more)
  | missed {depth : Nat} {past : List Registration} {through : RegistryId} {message : String}
      {more : List Deed} :
      (through = id → last? past id message = none) → Lawful id depth past more →
      Lawful id depth past (.missed through message :: more)
  | answered {depth : Nat} {past : List Registration} {through : RegistryId} {message : String}
      {callback : Callback} {inside : List Deed} {answer : Answer} {more : List Deed} :
      (through = id → last? past id message = some callback) →
      Replays (callback message) inside answer → Lawful id depth past inside →
      Lawful id (depth + 1) (past ++ Deed.registrations inside) more →
      Lawful id (depth + 1) past (.answered through message callback inside answer :: more)
  | cut {past : List Registration} {through : RegistryId} {message : String} {callback : Callback}
      {more : List Deed} :
      (through = id → last? past id message = some callback) → Lawful id 0 past more →
      Lawful id 0 past (.cut through message callback :: more)

variable {id : RegistryId} {past : List Registration}

theorem Lawful.cons {depth : Nat} {d : Deed} {more : List Deed} (hd : Lawful id depth past [d])
    (hmore : Lawful id depth (past ++ Deed.registrations [d]) more) :
    Lawful id depth past (d :: more) := by
  cases hd with
  | registered hentry _ => exact .registered hentry hmore
  | missed hmiss _ =>
    refine .missed hmiss ?_
    rwa [show Deed.registrations [_] = [] from rfl, List.append_nil] at hmore
  | answered hhit hreplays hinside _ =>
    refine .answered hhit hreplays hinside ?_
    rwa [Deed.registrations, Deed.inOrder_answered, List.filterMap_cons_none rfl] at hmore
  | cut hhit _ =>
    refine .cut hhit ?_
    rwa [show Deed.registrations [_] = [] from rfl, List.append_nil] at hmore

/-! ## What a registry holds -/

theorem RegistryId.index_ne {id id' : RegistryId} (h : id ≠ id') : id.index ≠ id'.index := by
  intro heq
  apply h
  cases id
  exact congrArg RegistryId.mk heq

theorem table_enter {tables : List (Table Callback)} (hid : id.index < tables.length)
    (r : Registration) :
    (enter tables r).getD id.index Table.empty
      = if r.into = id then (tables.getD id.index Table.empty).insert r.header r.callback
        else tables.getD id.index Table.empty := by
  rw [enter]
  split
  · rename_i hinto
    rw [hinto, List.getD_eq_getElem?_getD, List.getElem?_set_self hid, Option.getD_some]
  · rename_i hinto
    rw [List.getD_eq_getElem?_getD, List.getElem?_set_ne (RegistryId.index_ne hinto),
      List.getD_eq_getElem?_getD]

theorem nodup_foldl_enter (log : List Registration) {tables : List (Table Callback)}
    (hid : id.index < tables.length)
    (hnodup : (tables.getD id.index Table.empty).keys.Nodup) :
    ((log.foldl enter tables).getD id.index Table.empty).keys.Nodup := by
  induction log generalizing tables with
  | nil => exact hnodup
  | cons r log ih =>
    have hlength : id.index < (enter tables r).length := by rwa [enter, List.length_set]
    refine ih hlength ?_
    rw [table_enter hid]
    split
    · exact Table.nodup_keys_insert _ hnodup _
    · exact hnodup

/-- A registry was opened empty and has since had these registrations, among others. -/
def Host.Holds (h : Host) (id : RegistryId) (past : List Registration) : Prop :=
  ∃ tables, id.index < tables.length ∧ tables.getD id.index Table.empty = Table.empty
    ∧ h.registries = past.foldl enter tables

theorem Host.holds_newRegistry (before : Host) :
    before.newRegistry.2.Holds before.newRegistry.1 [] := by
  refine ⟨before.registries ++ [Table.empty], ?_, ?_, rfl⟩
  · simp [Host.newRegistry]
  · simp [Host.newRegistry, List.getD_eq_getElem?_getD]

namespace Host.Holds

variable {h h' : Host} (hh : h.Holds id past)
include hh

theorem logged {deeds : List Deed} (hdeeds : Logged h deeds h') :
    h'.Holds id (past ++ Deed.registrations deeds) := by
  obtain ⟨tables, hopened, hempty, hpast⟩ := hh
  refine ⟨tables, hopened, hempty, ?_⟩
  rw [hdeeds.registries, hpast, List.foldl_append]

/-- A registry finds what was registered last. -/
theorem get? (header : String) : (h.registry id).get? header = last? past id header := by
  obtain ⟨tables, hopened, hempty, hpast⟩ := hh
  rw [registry, hpast, get?_foldl_enter past hopened, hempty, Table.get?_empty, Option.or_none]

theorem contains_iff (header : String) :
    (h.registry id).contains header ↔ ∃ r ∈ past, r.isUnder id header = true := by
  rw [Table.contains, hh.get? header]
  constructor
  · intro hsome
    rw [last?, Option.isSome_map, Option.isSome_iff_exists] at hsome
    obtain ⟨r, hr⟩ := hsome
    exact ⟨r, List.mem_filter.1 (List.mem_of_getLast? hr)⟩
  · rintro ⟨r, hr, hunder⟩
    exact isSome_last? hr hunder

theorem nodup : (h.registry id).keys.Nodup := by
  obtain ⟨tables, hopened, hempty, hpast⟩ := hh
  rw [registry, hpast]
  refine nodup_foldl_enter past hopened ?_
  rw [hempty]
  exact List.nodup_nil

theorem listing : Listing id past (h.registry id).size (h.headers id) where
  size := (Table.length_sortedKeys _).symm
  mem header := (Table.mem_sortedKeys_iff _ header).trans (hh.contains_iff header)
  increase := Table.sortedKeys_increase hh.nodup

end Host.Holds

/-! ## Runs and sessions -/

namespace Host

theorem Holds.lawful_register {h : Host} (hh : h.Holds id past) (depth : Nat) (into : RegistryId)
    (header : String) (callback : Callback) :
    Lawful id depth past [h.deedOfRegister into header callback] := by
  refine .registered (fun hinto => ?_) (.nil _ _)
  cases hinto
  refine ⟨hh.contains_iff header, ?_⟩
  exact (hh.logged (.register h into header callback)).listing

theorem Holds.lawful_deedsWith {depth : Nat}
    (hdispatch : ∀ {h : Host} {past : List Registration}, h.Holds id past →
      ∀ through message,
        Lawful id depth past [h.deedOfDispatch (call depth) (runs depth) through message])
    (script : Script) {h : Host} (hh : h.Holds id past) :
    Lawful id depth past (deedsWith (call depth) (runs depth) script h) := by
  induction script generalizing h past with
  | reply text => exact .nil _ _
  | crash => exact .nil _ _
  | count counter next ih =>
    have hafter := hh.logged (.increment h counter)
    rw [show Deed.registrations [] = [] from rfl, List.append_nil] at hafter
    exact ih _ hafter
  | register into header callback next _ ih =>
    exact (hh.lawful_register depth into header callback).cons
      (ih _ (hh.logged (.register h into header callback)))
  | dispatch through message next ih =>
    have hlogged := logged_dispatchWith (tells_call depth) h through message
    rw [deedsWith]
    refine (hdispatch hh through message).cons ?_
    rcases hd : h.dispatchWith (call depth) through message with ⟨_ | _ | _, after⟩
    · rw [hd] at hlogged
      exact ih _ (hh.logged hlogged)
    · exact .nil _ _
    · exact .nil _ _

theorem Holds.last?_of_found {h : Host} (hh : h.Holds id past) {through : RegistryId}
    {message : String} {found : Option Callback}
    (hfound : (h.registry through).get? message = found) (hid : through = id) :
    last? past id message = found := by
  rw [← hh.get? message, ← hid, hfound]

theorem Holds.lawful_miss {h : Host} (hh : h.Holds id past) (depth : Nat) {through : RegistryId}
    {message : String} (hmiss : (h.registry through).get? message = none) :
    Lawful id depth past [h.deedOfDispatch (call depth) (runs depth) through message] := by
  rw [deedOfDispatch_miss hmiss]
  exact .missed (hh.last?_of_found hmiss) (.nil _ _)

theorem Holds.lawful_dispatch (depth : Nat) {h : Host} (hh : h.Holds id past)
    (through : RegistryId) (message : String) :
    Lawful id depth past [h.deedOfDispatch (call depth) (runs depth) through message] := by
  induction depth generalizing h past through message with
  | zero =>
    rcases hfound : (h.registry through).get? message with _ | callback
    · exact hh.lawful_miss 0 hfound
    · rw [deedOfDispatch_cut hfound rfl]
      exact .cut (hh.last?_of_found hfound) (.nil _ _)
  | succ depth ih =>
    rcases hfound : (h.registry through).get? message with _ | callback
    · exact hh.lawful_miss (depth + 1) hfound
    · rw [deedOfDispatch_run hfound rfl]
      have hcalled : (h.called message).Holds id past := hh
      exact .answered (hh.last?_of_found hfound) (replays_call rfl)
        (hcalled.lawful_deedsWith ih _) (.nil _ _)

theorem Holds.lawful_record {h : Host} (hh : h.Holds id past) (ops : List Operation) :
    Lawful id h.depth past (h.record ops) := by
  induction ops generalizing h past with
  | nil => exact .nil _ _
  | cons op more ih =>
    have hlogged := h.logged_operate op
    have hmore := ih (hh.logged hlogged)
    rw [hlogged.depth] at hmore
    refine Lawful.cons ?_ hmore
    cases op with
    | register into header callback => exact hh.lawful_register h.depth into header callback
    | dispatch through message => exact hh.lawful_dispatch h.depth through message

/-- In a session with a new registry, every dispatch runs the callback that was registered last when
it began, once and on the message, and gives its answer; without one it gives the empty text and
leaves a note. So it is inside of callbacks. At any time the registry lists exactly the headers
under which something was registered, and a registration tells whether its header was among them.
Whatever is not cut short stays the same when more runs may be nested. -/
theorem latest_registration_answers (before : Host) (ops : List Operation) :
    let id := before.newRegistry.1
    let opened := before.newRegistry.2
    let deeds := opened.record ops
    let after := (opened.session ops).2
    deeds.map Deed.operation = ops ∧ deeds.map Deed.outcome = (opened.session ops).1
    ∧ Lawful id before.depth [] deeds
    ∧ after.calls = before.calls ++ Deed.messages deeds
    ∧ after.events = before.events ++ Deed.events deeds
    ∧ (∀ message, after.dispatch id message
      = match last? (Deed.registrations deeds) id message with
        | some callback => after.invoke callback message
        | none => (.reply "", after.note (.callbackMiss message)))
    ∧ Listing id (Deed.registrations deeds) (after.registry id).size (after.headers id)
    ∧ (∀ more, ∀ header ∈ after.headers id, header ∈ (after.session more).2.headers id)
    ∧ ((∀ d ∈ Deed.inOrder deeds, d.isCut = false) → ∀ depth, before.depth ≤ depth →
      (opened.atDepth depth).record ops = deeds
      ∧ (opened.atDepth depth).session ops = ((opened.session ops).1, after.atDepth depth)) := by
  intro id opened deeds after
  have hopened : opened.Holds id [] := before.holds_newRegistry
  have hlogged := opened.logged_session ops
  have hafter : after.Holds id (Deed.registrations deeds) := hopened.logged hlogged
  refine ⟨opened.operation_record ops, opened.outcome_record ops, hopened.lawful_record ops,
    hlogged.calls, hlogged.events, fun message => ?_, hafter.listing, fun more header hheader => ?_,
    fun hwhole depth hle => ?_⟩
  · rw [← hafter.get? message]
    rcases hfound : (after.registry id).get? message with _ | callback
    · exact dispatchWith_miss hfound
    · exact dispatchWith_hit hfound
  · have hmore := (hafter.logged (after.logged_session more)).listing
    obtain ⟨r, hr, hunder⟩ := (hafter.listing.mem header).1 hheader
    exact (hmore.mem header).2 ⟨r, List.mem_append_left _ hr, hunder⟩
  · obtain ⟨hdeeds, houtcomes, hend⟩ := session_atDepth (h := opened) hle hwhole
    exact ⟨hdeeds, Prod.ext houtcomes hend⟩

-- a callback that puts another one in its own place
example :
    ((Host.fresh 8).newRegistry.2.session
      [.register ⟨0⟩ "a" (.registering ⟨0⟩ "a" (.const "new") "old"), .dispatch ⟨0⟩ "a",
        .dispatch ⟨0⟩ "a"]).1
      = [.replaced false, .answer (.reply "old"), .answer (.reply "new")] := by
  decide

end Host

end KeyBridge
