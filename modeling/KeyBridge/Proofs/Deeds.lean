-- SUMMARY: What a run of callbacks does, as a tree of registrations and dispatches.
import KeyBridge.Proofs.Registrations

/-!
# Deeds

A callback registers further callbacks and dispatches messages, whose callbacks do the same in their
turn. What a run does is recorded here as a list of deeds, in which the deed of a dispatch has those
of its callback inside. The record tells how a run leaves its host (`Host.logged_session`), that a
callback goes on with what its deeds told it (`Host.replays_runWith`), and that a run does the same
on any host that looks the same to it (`Mirrors.session`).
-/

namespace KeyBridge

/-! ## Operations -/

/-- Something that is done with a registry. -/
inductive Operation where
  | register (into : RegistryId) (header : String) (callback : Callback)
  | dispatch (through : RegistryId) (message : String)

/-- What an operation gives. -/
inductive Outcome where
  /-- Whether there was another callback under the header. -/
  | replaced (replaced : Bool)
  | answer (answer : Answer)
deriving DecidableEq

/-- The registry that an operation is done with. -/
def Operation.registry : Operation → RegistryId
  | .register into _ _ => into
  | .dispatch through _ => through

/-! ## Deeds -/

/-- An operation that was done. -/
inductive Deed where
  /-- A callback was registered. After that, the registry has so many headers, and these. -/
  | registered (entry : Registration) (replaced : Bool) (size : Nat) (headers : List String)
  /-- There was no callback for a message. -/
  | missed (through : RegistryId) (message : String)
  /-- The callback that was found for a message did these deeds and ended with an answer. -/
  | answered (through : RegistryId) (message : String) (callback : Callback) (inside : List Deed)
      (answer : Answer)
  /-- The callback that was found for a message was not run, because the host gave up. -/
  | cut (through : RegistryId) (message : String) (callback : Callback)

namespace Deed

/-- The operation that was done. -/
def operation : Deed → Operation
  | .registered entry _ _ _ => .register entry.into entry.header entry.callback
  | .missed through message => .dispatch through message
  | .answered through message _ _ _ => .dispatch through message
  | .cut through message _ => .dispatch through message

/-- What the operation gave. -/
def outcome : Deed → Outcome
  | .registered _ replaced _ _ => .replaced replaced
  | .missed _ _ => .answer (.reply "")
  | .answered _ _ _ _ answer => .answer answer
  | .cut _ _ _ => .answer .tooDeep

/-- The registration that a deed is. -/
def entry? : Deed → Option Registration
  | .registered entry _ _ _ => some entry
  | _ => none

/-- The message that a deed makes a callback get. -/
def message? : Deed → Option String
  | .answered _ message _ _ _ => some message
  | _ => none

/-- The event that a deed leaves in the log. -/
def event? : Deed → Option Event
  | .registered entry replaced _ _ => some (.callbackRegistered entry.header replaced)
  | .missed _ message => some (.callbackMiss message)
  | _ => none

mutual

/-- A deed, and the deeds inside it. -/
def withInside : Deed → List Deed
  | .registered entry replaced size headers => [.registered entry replaced size headers]
  | .missed through message => [.missed through message]
  | .answered through message callback inside answer =>
    .answered through message callback inside answer :: inOrder inside
  | .cut through message callback => [.cut through message callback]

/-- Deeds and the deeds inside them, in the order in which they began. -/
def inOrder : List Deed → List Deed
  | [] => []
  | d :: more => d.withInside ++ inOrder more

end

@[simp] theorem inOrder_append (deeds more : List Deed) :
    inOrder (deeds ++ more) = inOrder deeds ++ inOrder more := by
  induction deeds with
  | nil => rfl
  | cons d deeds ih => rw [List.cons_append, inOrder, inOrder, ih, List.append_assoc]

theorem inOrder_cons (d : Deed) (more : List Deed) :
    inOrder (d :: more) = inOrder [d] ++ inOrder more := inOrder_append [d] more

theorem inOrder_answered (through : RegistryId) (message : String) (callback : Callback)
    (inside : List Deed) (answer : Answer) :
    inOrder [.answered through message callback inside answer]
      = .answered through message callback inside answer :: inOrder inside := by
  rw [inOrder, withInside, inOrder, List.append_nil]

theorem mem_inOrder_self {d : Deed} {deeds : List Deed} : d ∈ inOrder (d :: deeds) := by
  rw [inOrder, List.mem_append]
  cases d <;> simp [withInside]

/-- The registrations among deeds. -/
def registrations (deeds : List Deed) : List Registration := (inOrder deeds).filterMap entry?

/-- The messages that callbacks got in deeds. -/
def messages (deeds : List Deed) : List String := (inOrder deeds).filterMap message?

/-- The events that deeds left in the log. -/
def events (deeds : List Deed) : List Event := (inOrder deeds).filterMap event?

end Deed

/-! ## Recording -/

namespace Host

/-- The deed of registering a callback. -/
def deedOfRegister (h : Host) (into : RegistryId) (header : String) (callback : Callback) : Deed :=
  let (replaced, after) := h.register into header callback
  .registered ⟨into, header, callback⟩ replaced (after.registry into).size (after.headers into)

/-- The deed of dispatching a message, given the runs of callbacks and what they do. -/
def deedOfDispatch (call : Host → Callback → String → Answer × Host)
    (runs : Host → Callback → String → Option (List Deed)) (h : Host) (through : RegistryId)
    (message : String) : Deed :=
  match h.lookUp through message with
  | (none, _) => .missed through message
  | (some callback, h) =>
    match runs h callback message with
    | some inside => .answered through message callback inside (call h callback message).1
    | none => .cut through message callback

/-- The deeds of a script. -/
def deedsWith (call : Host → Callback → String → Answer × Host)
    (runs : Host → Callback → String → Option (List Deed)) : Script → Host → List Deed
  | .reply _, _ => []
  | .crash, _ => []
  | .count counter next, h =>
    let (n, h) := h.increment counter
    deedsWith call runs (next n) h
  | .register into header callback next, h =>
    h.deedOfRegister into header callback ::
      (let (replaced, h) := h.register into header callback
      deedsWith call runs (next replaced) h)
  | .dispatch through message next, h =>
    h.deedOfDispatch call runs through message ::
      match h.dispatchWith call through message with
      | (.reply text, h) => deedsWith call runs (next text) h
      | _ => []

/-- The deeds of a callback, unless it is not run. -/
def runs : Nat → Host → Callback → String → Option (List Deed)
  | 0, _, _, _ => none
  | depth + 1, h, callback, message =>
    some (deedsWith (call depth) (runs depth) (callback message) (h.called message))

/-- Does an operation. -/
def operate (h : Host) : Operation → Outcome × Host
  | .register into header callback =>
    let (replaced, h) := h.register into header callback
    (.replaced replaced, h)
  | .dispatch through message =>
    let (answer, h) := h.dispatch through message
    (.answer answer, h)

/-- The deed that an operation is. -/
def deed (h : Host) : Operation → Deed
  | .register into header callback => h.deedOfRegister into header callback
  | .dispatch through message => h.deedOfDispatch (call h.depth) (runs h.depth) through message

/-- Does operations one after the other. -/
def session (h : Host) : List Operation → List Outcome × Host
  | [] => ([], h)
  | op :: more =>
    let (outcome, h) := h.operate op
    let (outcomes, h) := h.session more
    (outcome :: outcomes, h)

/-- The deeds of operations that are done one after the other. -/
def record (h : Host) : List Operation → List Deed
  | [] => []
  | op :: more => h.deed op :: (h.operate op).2.record more

end Host

/-! ## What deeds leave behind -/

open Deed in
/-- One host comes from another by deeds, as far as its registries and logs tell. -/
structure Logged (h : Host) (deeds : List Deed) (h' : Host) : Prop where
  registries : h'.registries = (registrations deeds).foldl Registration.enter h.registries
  calls : h'.calls = h.calls ++ messages deeds
  events : h'.events = h.events ++ events deeds
  depth : h'.depth = h.depth

namespace Logged

variable {h h' h'' : Host}

theorem refl (h : Host) : Logged h [] h :=
  ⟨rfl, (List.append_nil _).symm, (List.append_nil _).symm, rfl⟩

theorem trans {deeds more : List Deed} (hdeeds : Logged h deeds h') (hmore : Logged h' more h'') :
    Logged h (deeds ++ more) h'' := by
  constructor
  · rw [hmore.registries, hdeeds.registries, Deed.registrations, Deed.registrations,
      Deed.registrations, Deed.inOrder_append, List.filterMap_append, List.foldl_append]
  · rw [hmore.calls, hdeeds.calls, Deed.messages, Deed.messages, Deed.messages,
      Deed.inOrder_append, List.filterMap_append, List.append_assoc]
  · rw [hmore.events, hdeeds.events, Deed.events, Deed.events, Deed.events,
      Deed.inOrder_append, List.filterMap_append, List.append_assoc]
  · rw [hmore.depth, hdeeds.depth]

theorem cons {d : Deed} {more : List Deed} (hd : Logged h [d] h') (hmore : Logged h' more h'') :
    Logged h (d :: more) h'' := hd.trans hmore

theorem increment (h : Host) (counter : CounterId) : Logged h [] (h.increment counter).2 :=
  ⟨rfl, (List.append_nil _).symm, (List.append_nil _).symm, rfl⟩

theorem register (h : Host) (into : RegistryId) (header : String) (callback : Callback) :
    Logged h [h.deedOfRegister into header callback] (h.register into header callback).2 :=
  ⟨rfl, (List.append_nil _).symm, rfl, rfl⟩

theorem miss (h : Host) (through : RegistryId) (message : String) :
    Logged h [.missed through message] (h.note (.callbackMiss message)) :=
  ⟨rfl, (List.append_nil _).symm, rfl, rfl⟩

theorem cut (h : Host) (through : RegistryId) (message : String) (callback : Callback) :
    Logged h [.cut through message callback] h :=
  ⟨rfl, (List.append_nil _).symm, (List.append_nil _).symm, rfl⟩

theorem answered {message : String} {inside : List Deed}
    (hinside : Logged (h.called message) inside h') (through : RegistryId) (callback : Callback)
    (answer : Answer) : Logged h [.answered through message callback inside answer] h' := by
  constructor
  · rw [Deed.registrations, Deed.inOrder_answered, List.filterMap_cons_none rfl]
    exact hinside.registries
  · simpa [Deed.messages, Deed.inOrder_answered, Deed.message?, Host.called] using hinside.calls
  · rw [Deed.events, Deed.inOrder_answered, List.filterMap_cons_none rfl]
    exact hinside.events
  · exact hinside.depth

end Logged

namespace Host

/-! ## Dispatches -/

section

variable {call : Host → Callback → String → Answer × Host}
  {runs : Host → Callback → String → Option (List Deed)} {h : Host} {through : RegistryId}
  {message : String}

theorem dispatchWith_miss (hmiss : (h.registry through).get? message = none) :
    h.dispatchWith call through message = (.reply "", h.note (.callbackMiss message)) := by
  simp only [dispatchWith, lookUp, hmiss]

theorem dispatchWith_hit {callback : Callback}
    (hhit : (h.registry through).get? message = some callback) :
    h.dispatchWith call through message = call h callback message := by
  simp only [dispatchWith, lookUp, hhit]

theorem deedOfDispatch_miss (hmiss : (h.registry through).get? message = none) :
    h.deedOfDispatch call runs through message = .missed through message := by
  simp only [deedOfDispatch, lookUp, hmiss]

theorem deedOfDispatch_run {callback : Callback} {inside : List Deed}
    (hhit : (h.registry through).get? message = some callback)
    (hrun : runs h callback message = some inside) :
    h.deedOfDispatch call runs through message
      = .answered through message callback inside (call h callback message).1 := by
  simp only [deedOfDispatch, lookUp, hhit, hrun]

theorem deedOfDispatch_cut {callback : Callback}
    (hhit : (h.registry through).get? message = some callback)
    (hcut : runs h callback message = none) :
    h.deedOfDispatch call runs through message = .cut through message callback := by
  simp only [deedOfDispatch, lookUp, hhit, hcut]

theorem operation_deedOfDispatch :
    (h.deedOfDispatch call runs through message).operation = .dispatch through message := by
  rcases hfound : (h.registry through).get? message with _ | callback
  · rw [deedOfDispatch_miss hfound]
    rfl
  · rcases hruns : runs h callback message with _ | inside
    · rw [deedOfDispatch_cut hfound hruns]
      rfl
    · rw [deedOfDispatch_run hfound hruns]
      rfl

end

/-- A callback is run and leaves its deeds behind, or the host gives up and stays as it is. -/
def Tells (call : Host → Callback → String → Answer × Host)
    (runs : Host → Callback → String → Option (List Deed)) : Prop :=
  ∀ h callback message,
    (∃ inside, runs h callback message = some inside
      ∧ Logged (h.called message) inside (call h callback message).2)
    ∨ (runs h callback message = none ∧ call h callback message = (.tooDeep, h))

section

variable {call : Host → Callback → String → Answer × Host}
  {runs : Host → Callback → String → Option (List Deed)} (htells : Tells call runs)
include htells

theorem logged_dispatchWith (h : Host) (through : RegistryId) (message : String) :
    Logged h [h.deedOfDispatch call runs through message]
      (h.dispatchWith call through message).2 := by
  rcases hfound : (h.registry through).get? message with _ | callback
  · rw [deedOfDispatch_miss hfound, dispatchWith_miss hfound]
    exact .miss h through message
  · rw [dispatchWith_hit hfound]
    rcases htells h callback message with ⟨inside, hruns, hinside⟩ | ⟨hruns, hcall⟩
    · rw [deedOfDispatch_run hfound hruns]
      exact hinside.answered through callback _
    · rw [deedOfDispatch_cut hfound hruns, hcall]
      exact .cut h through message callback

theorem outcome_deedOfDispatch (h : Host) (through : RegistryId) (message : String) :
    (h.deedOfDispatch call runs through message).outcome
      = .answer (h.dispatchWith call through message).1 := by
  rcases hfound : (h.registry through).get? message with _ | callback
  · rw [deedOfDispatch_miss hfound, dispatchWith_miss hfound]
    rfl
  · rw [dispatchWith_hit hfound]
    rcases htells h callback message with ⟨inside, hruns, -⟩ | ⟨hruns, hcall⟩
    · rw [deedOfDispatch_run hfound hruns]
      rfl
    · rw [deedOfDispatch_cut hfound hruns, hcall]
      rfl

theorem logged_runWith (script : Script) (h : Host) :
    Logged h (deedsWith call runs script h) (runWith call script h).2 := by
  induction script generalizing h with
  | reply text => exact .refl h
  | crash => exact .refl h
  | count counter next ih => exact (Logged.increment h counter).trans (ih _ _)
  | register into header callback next _ ih =>
    exact (Logged.register h into header callback).cons (ih _ _)
  | dispatch through message next ih =>
    have hdispatch := logged_dispatchWith htells h through message
    rw [deedsWith, runWith]
    rcases hd : h.dispatchWith call through message with ⟨_ | _ | _, after⟩ <;>
      rw [hd] at hdispatch
    · exact hdispatch.cons (ih _ _)
    · exact hdispatch
    · exact hdispatch

end

theorem tells_call (depth : Nat) : Tells (call depth) (runs depth) := by
  induction depth with
  | zero => exact fun _ _ _ => .inr ⟨rfl, rfl⟩
  | succ depth ih => exact fun _ _ _ => .inl ⟨_, rfl, logged_runWith ih _ _⟩

theorem logged_operate (h : Host) (op : Operation) : Logged h [h.deed op] (h.operate op).2 := by
  cases op with
  | register into header callback => exact .register h into header callback
  | dispatch through message => exact logged_dispatchWith (tells_call h.depth) h through message

/-- What a session leaves behind is told by its record. -/
theorem logged_session (h : Host) (ops : List Operation) :
    Logged h (h.record ops) (h.session ops).2 := by
  induction ops generalizing h with
  | nil => exact .refl h
  | cons op more ih => exact (h.logged_operate op).cons (ih _)

theorem operation_record (h : Host) (ops : List Operation) :
    (h.record ops).map Deed.operation = ops := by
  induction ops generalizing h with
  | nil => rfl
  | cons op more ih =>
    rw [record, List.map_cons, ih]
    cases op with
    | register into header callback => rfl
    | dispatch through message => exact congrArg (· :: more) operation_deedOfDispatch

theorem outcome_record (h : Host) (ops : List Operation) :
    (h.record ops).map Deed.outcome = (h.session ops).1 := by
  induction ops generalizing h with
  | nil => rfl
  | cons op more ih =>
    rw [record, List.map_cons, ih, session]
    cases op with
    | register into header callback => rfl
    | dispatch through message =>
      exact congrArg (· :: _) (outcome_deedOfDispatch (tells_call h.depth) h through message)

/-! ## Replaying -/

end Host

/-- A script does deeds, going on with the outcome of each of them, and ends with an answer. -/
inductive Replays : Script → List Deed → Answer → Prop where
  | reply (text : String) : Replays (.reply text) [] (.reply text)
  | crash : Replays .crash [] .crashed
  | count (counter : CounterId) {next : Nat → Script} (n : Nat) {deeds : List Deed} {a : Answer} :
      Replays (next n) deeds a → Replays (.count counter next) deeds a
  | register {into : RegistryId} {header : String} {callback : Callback} {next : Bool → Script}
      {d : Deed} {replaced : Bool} {deeds : List Deed} {a : Answer} :
      d.operation = .register into header callback → d.outcome = .replaced replaced →
      Replays (next replaced) deeds a →
      Replays (.register into header callback next) (d :: deeds) a
  | dispatch {through : RegistryId} {message : String} {next : String → Script} {d : Deed}
      {text : String} {deeds : List Deed} {a : Answer} :
      d.operation = .dispatch through message → d.outcome = .answer (.reply text) →
      Replays (next text) deeds a → Replays (.dispatch through message next) (d :: deeds) a
  /-- A dispatch that does not come back with a reply ends its script. -/
  | ended {through : RegistryId} {message : String} {next : String → Script} {d : Deed}
      {a : Answer} :
      d.operation = .dispatch through message → d.outcome = .answer a →
      (∀ text, a ≠ .reply text) → Replays (.dispatch through message next) [d] a

namespace Host

/-- A run does the deeds in its record and ends accordingly. -/
theorem replays_runWith {call : Host → Callback → String → Answer × Host}
    {runs : Host → Callback → String → Option (List Deed)} (htells : Tells call runs)
    (script : Script) (h : Host) :
    Replays script (deedsWith call runs script h) (runWith call script h).1 := by
  induction script generalizing h with
  | reply text => exact .reply text
  | crash => exact .crash
  | count counter next ih => exact .count counter _ (ih _ _)
  | register into header callback next _ ih => exact .register rfl rfl (ih _ _)
  | dispatch through message next ih =>
    have hout := outcome_deedOfDispatch htells h through message
    rw [deedsWith, runWith]
    rcases hd : h.dispatchWith call through message with ⟨_ | _ | _, after⟩ <;> rw [hd] at hout
    · exact .dispatch operation_deedOfDispatch hout (ih _ _)
    · exact .ended operation_deedOfDispatch hout (by simp)
    · exact .ended operation_deedOfDispatch hout (by simp)

theorem replays_call {depth : Nat} {h : Host} {callback : Callback} {message : String}
    {inside : List Deed} (hruns : runs depth h callback message = some inside) :
    Replays (callback message) inside (call depth h callback message).1 := by
  cases depth with
  | zero => cases hruns
  | succ depth =>
    cases hruns
    exact replays_runWith (tells_call depth) _ _

end Host

/-! ## Runs on another host -/

/-- Two hosts look the same to deeds of a kind, and go on doing so. -/
structure Mirrors (R : Host → Host → Prop) (ok : Deed → Prop) : Prop where
  depth : ∀ {h k}, R h k → h.depth ≤ k.depth
    ∧ ∀ through message callback, ok (.cut through message callback) → h.depth = k.depth
  called : ∀ {h k}, R h k → ∀ message, R (h.called message) (k.called message)
  increment : ∀ {h k}, R h k → ∀ counter, (k.increment counter).1 = (h.increment counter).1
    ∧ R (h.increment counter).2 (k.increment counter).2
  register : ∀ {h k}, R h k → ∀ into header callback, ok (h.deedOfRegister into header callback) →
    k.deedOfRegister into header callback = h.deedOfRegister into header callback
    ∧ R (h.register into header callback).2 (k.register into header callback).2
  found : ∀ {h k}, R h k → ∀ {d through message}, ok d → d.operation = .dispatch through message →
    (k.registry through).get? message = (h.registry through).get? message
  miss : ∀ {h k}, R h k → ∀ message,
    R (h.note (.callbackMiss message)) (k.note (.callbackMiss message))

/-- Deeds that are all of a kind are done in another run too, and the two runs end alike. -/
def Mirrored {α : Type} (R : Host → Host → Prop) (ok : Deed → Prop) (deeds deeds' : List Deed)
    (run run' : α × Host) : Prop :=
  (∀ d ∈ Deed.inOrder deeds, ok d) → deeds' = deeds ∧ run'.1 = run.1 ∧ R run.2 run'.2

namespace Mirrors

variable {R : Host → Host → Prop} {ok : Deed → Prop} (hm : Mirrors R ok)
include hm

theorem register_fst {h k : Host} (hr : R h k) {into : RegistryId} {header : String}
    {callback : Callback} (hok : ok (h.deedOfRegister into header callback)) :
    (k.register into header callback).1 = (h.register into header callback).1 := by
  have hout := congrArg Deed.outcome (hm.register hr into header callback hok).1
  exact Outcome.replaced.inj hout

theorem runWith {call call' : Host → Callback → String → Answer × Host}
    {runs runs' : Host → Callback → String → Option (List Deed)}
    (hdispatch : ∀ {h k}, R h k → ∀ through message,
      Mirrored R ok [h.deedOfDispatch call runs through message]
        [k.deedOfDispatch call' runs' through message]
        (h.dispatchWith call through message) (k.dispatchWith call' through message))
    (script : Script) {h k : Host} (hr : R h k) :
    Mirrored R ok (Host.deedsWith call runs script h) (Host.deedsWith call' runs' script k)
      (Host.runWith call script h) (Host.runWith call' script k) := by
  induction script generalizing h k with
  | reply text => exact fun _ => ⟨rfl, rfl, hr⟩
  | crash => exact fun _ => ⟨rfl, rfl, hr⟩
  | count counter next ih =>
    obtain ⟨hcount, hafter⟩ := hm.increment hr counter
    rw [Host.deedsWith, Host.deedsWith, Host.runWith, Host.runWith]
    dsimp only
    rw [hcount]
    exact ih _ hafter
  | register into header callback next _ ih =>
    intro hok
    have hfirst := hok _ Deed.mem_inOrder_self
    obtain ⟨hdeed, hafter⟩ := hm.register hr into header callback hfirst
    have hrest := ih (h.register into header callback).1 hafter fun d hd =>
      hok d (List.mem_append_right _ hd)
    rw [Host.deedsWith, Host.deedsWith, Host.runWith, Host.runWith]
    dsimp only
    rw [hdeed, hm.register_fst hr hfirst]
    exact ⟨congrArg _ hrest.1, hrest.2⟩
  | dispatch through message next ih =>
    intro hok
    rw [Host.deedsWith, Deed.inOrder_cons] at hok
    obtain ⟨hdeed, hanswer, hafter⟩ := hdispatch hr through message fun d hd =>
      hok d (List.mem_append_left _ hd)
    rw [Host.deedsWith, Host.deedsWith, Host.runWith, Host.runWith, (List.cons.inj hdeed).1]
    rcases hrun : h.dispatchWith call through message with ⟨answer, after⟩
    rcases hrun' : k.dispatchWith call' through message with ⟨answer', after'⟩
    rw [hrun] at hanswer hafter hok
    rw [hrun'] at hanswer hafter
    cases hanswer
    cases answer with
    | reply text =>
      have hrest := ih text hafter fun d hd => hok d (List.mem_append_right _ hd)
      exact ⟨congrArg _ hrest.1, hrest.2⟩
    | crashed => exact ⟨rfl, rfl, hafter⟩
    | tooDeep => exact ⟨rfl, rfl, hafter⟩

theorem missed {call call' : Host → Callback → String → Answer × Host}
    {runs runs' : Host → Callback → String → Option (List Deed)} {h k : Host} (hr : R h k)
    {through : RegistryId} {message : String}
    (hmiss : (h.registry through).get? message = none)
    (hmiss' : (k.registry through).get? message = none) :
    Mirrored R ok [h.deedOfDispatch call runs through message]
      [k.deedOfDispatch call' runs' through message]
      (h.dispatchWith call through message) (k.dispatchWith call' through message) := by
  rw [Host.deedOfDispatch_miss hmiss, Host.deedOfDispatch_miss hmiss',
    Host.dispatchWith_miss hmiss, Host.dispatchWith_miss hmiss']
  exact fun _ => ⟨rfl, rfl, hm.miss hr message⟩

theorem dispatch {depth depth' : Nat} (hle : depth ≤ depth')
    (hcut : ∀ through message callback, ok (.cut through message callback) → depth = depth')
    {h k : Host} (hr : R h k) (through : RegistryId) (message : String) :
    Mirrored R ok [h.deedOfDispatch (Host.call depth) (Host.runs depth) through message]
      [k.deedOfDispatch (Host.call depth') (Host.runs depth') through message]
      (h.dispatchWith (Host.call depth) through message)
      (k.dispatchWith (Host.call depth') through message) := by
  induction depth generalizing depth' h k through message with
  | zero =>
    intro hok
    have hfirst := hok _ Deed.mem_inOrder_self
    have hfound := hm.found hr hfirst Host.operation_deedOfDispatch
    rcases hhit : (h.registry through).get? message with _ | callback <;> rw [hhit] at hfound
    · exact hm.missed hr hhit hfound hok
    · -- a run that is cut is of the kind only if the other host gives up there, too
      rw [Host.deedOfDispatch_cut hhit rfl] at hfirst
      obtain rfl := hcut _ _ _ hfirst
      rw [Host.deedOfDispatch_cut hhit rfl, Host.deedOfDispatch_cut hfound rfl,
        Host.dispatchWith_hit hhit, Host.dispatchWith_hit hfound]
      exact ⟨rfl, rfl, hr⟩
  | succ depth ih =>
    obtain ⟨depth', rfl⟩ : ∃ n, depth' = n + 1 := ⟨depth' - 1, by omega⟩
    intro hok
    have hfirst := hok _ Deed.mem_inOrder_self
    have hfound := hm.found hr hfirst Host.operation_deedOfDispatch
    rcases hhit : (h.registry through).get? message with _ | callback <;> rw [hhit] at hfound
    · exact hm.missed hr hhit hfound hok
    · -- both callbacks are run, and what is dispatched inside is one level less deep
      rw [Host.deedOfDispatch_run hhit rfl, Deed.inOrder_answered] at hok
      rw [Host.deedOfDispatch_run hhit rfl, Host.deedOfDispatch_run hfound rfl,
        Host.dispatchWith_hit hhit, Host.dispatchWith_hit hfound]
      obtain ⟨hinside, hanswer, hafter⟩ := hm.runWith
        (fun hr => ih (Nat.le_of_succ_le_succ hle)
          (fun _ _ _ hok => Nat.succ.inj (hcut _ _ _ hok)) hr)
        (callback message) (hm.called hr message) fun d hd => hok d (List.mem_cons_of_mem _ hd)
      refine ⟨?_, hanswer, hafter⟩
      rw [hinside]
      exact congrArg (fun a => [Deed.answered through message callback _ a]) hanswer

theorem operate {h k : Host} (hr : R h k) (op : Operation) :
    Mirrored R ok [h.deed op] [k.deed op] (h.operate op) (k.operate op) := by
  cases op with
  | register into header callback =>
    intro hok
    have hfirst := hok _ Deed.mem_inOrder_self
    obtain ⟨hdeed, hafter⟩ := hm.register hr into header callback hfirst
    have houtcome := congrArg Outcome.replaced (hm.register_fst hr hfirst)
    exact ⟨congrArg (fun d => [d]) hdeed, houtcome, hafter⟩
  | dispatch through message =>
    intro hok
    obtain ⟨hle, hcut⟩ := hm.depth hr
    obtain ⟨hdeed, hanswer, hafter⟩ := hm.dispatch hle hcut hr through message hok
    exact ⟨hdeed, congrArg Outcome.answer hanswer, hafter⟩

/-- A session whose deeds are all of the kind goes on in the same way on the other host. -/
theorem session {h k : Host} (hr : R h k) (ops : List Operation) :
    Mirrored R ok (h.record ops) (k.record ops) (h.session ops) (k.session ops) := by
  induction ops generalizing h k with
  | nil => exact fun _ => ⟨rfl, rfl, hr⟩
  | cons op more ih =>
    intro hok
    rw [Host.record, Deed.inOrder_cons] at hok
    obtain ⟨hdeed, houtcome, hafter⟩ := hm.operate hr op fun d hd =>
      hok d (List.mem_append_left _ hd)
    obtain ⟨hdeeds, houtcomes, hend⟩ := ih hafter fun d hd => hok d (List.mem_append_right _ hd)
    rw [Host.record, Host.record, hdeeds, (List.cons.inj hdeed).1]
    exact ⟨rfl, List.cons_eq_cons.2 ⟨houtcome, houtcomes⟩, hend⟩

end Mirrors

/-! ## Depth -/

/-- The host with another limit on how deep runs of callbacks may be nested. -/
def Host.atDepth (h : Host) (depth : Nat) : Host := { h with depth := depth }

/-- Whether a deed is a dispatch for which the host gave up. -/
def Deed.isCut : Deed → Bool
  | .cut _ _ _ => true
  | _ => false

theorem mirrors_atDepth {depth depth' : Nat} (hle : depth ≤ depth') :
    Mirrors (fun h k => h.depth = depth ∧ k = h.atDepth depth') (fun d => d.isCut = false) where
  depth := by
    rintro h k ⟨rfl, rfl⟩
    exact ⟨hle, nofun⟩
  called := by
    rintro h k ⟨rfl, rfl⟩ message
    exact ⟨rfl, rfl⟩
  increment := by
    rintro h k ⟨rfl, rfl⟩ counter
    exact ⟨rfl, rfl, rfl⟩
  register := by
    rintro h k ⟨rfl, rfl⟩ into header callback -
    exact ⟨rfl, rfl, rfl⟩
  found := by
    rintro h k ⟨rfl, rfl⟩ d through message - -
    rfl
  miss := by
    rintro h k ⟨rfl, rfl⟩ message
    exact ⟨rfl, rfl⟩

/-- What is not cut short stays the same when more runs may be nested. -/
theorem Host.session_atDepth {h : Host} {ops : List Operation} {depth : Nat}
    (hle : h.depth ≤ depth) (hwhole : ∀ d ∈ Deed.inOrder (h.record ops), d.isCut = false) :
    (h.atDepth depth).record ops = h.record ops
      ∧ ((h.atDepth depth).session ops).1 = (h.session ops).1
      ∧ ((h.atDepth depth).session ops).2 = (h.session ops).2.atDepth depth := by
  obtain ⟨hdeeds, houtcomes, -, hend⟩ := (mirrors_atDepth hle).session ⟨rfl, rfl⟩ ops hwhole
  exact ⟨hdeeds, houtcomes, hend⟩

end KeyBridge
