-- SUMMARY: What runs of callbacks do to their host.
import KeyBridge.Proofs.Moves

/-!
# Runs of callbacks

A run of a callback is a sequence of small steps of its host, however deep callbacks dispatch to one
another. `Host.Leads` has these steps; what each of them keeps, every run keeps.
-/

namespace KeyBridge

namespace Host

/-- One host comes from another by what callbacks do. -/
inductive Leads : Host → Host → Prop where
  | same (h : Host) : Leads h h
  | called (h : Host) (message : String) : Leads h (h.called message)
  | miss (h : Host) (message : String) : Leads h (h.note (.callbackMiss message))
  | increment (h : Host) (counter : CounterId) : Leads h (h.increment counter).2
  | register (h : Host) (into : RegistryId) (header : String) (callback : Callback) :
      Leads h (h.register into header callback).2
  | trans {h h' h'' : Host} : Leads h h' → Leads h' h'' → Leads h h''

section

variable {call : Host → Callback → String → Answer × Host}
  (hcall : ∀ h callback message, Leads h (call h callback message).2)
include hcall

theorem leads_dispatchWith (h : Host) (id : RegistryId) (message : String) :
    Leads h (h.dispatchWith call id message).2 := by
  rw [dispatchWith, lookUp]
  rcases (h.registry id).get? message with _ | callback
  · exact .miss h message
  · exact hcall h callback message

theorem leads_runWith (script : Script) (h : Host) : Leads h (runWith call script h).2 := by
  induction script generalizing h with
  | reply text => exact .same h
  | crash => exact .same h
  | count counter next ih => exact (Leads.increment h counter).trans (ih _ _)
  | register into header callback next _ ih =>
    exact (Leads.register h into header callback).trans (ih _ _)
  | dispatch through message next ih =>
    have hdispatch := leads_dispatchWith hcall h through message
    unfold runWith
    split
    · rename_i text h' heq
      rw [heq] at hdispatch
      exact hdispatch.trans (ih _ _)
    · exact hdispatch

end

theorem leads_call (depth : Nat) (h : Host) (callback : Callback) (message : String) :
    Leads h (call depth h callback message).2 := by
  induction depth generalizing h callback message with
  | zero => exact .same h
  | succ depth ih => exact (Leads.called h message).trans (leads_runWith ih _ _)

end Host

theorem Handler.leads_run (handler : Handler) (message : String) (h : Host) :
    h.Leads (handler.run message h).2 := by
  cases handler with
  | callback c => exact Host.leads_call h.depth h c message
  | registry id => exact Host.leads_dispatchWith (Host.leads_call h.depth) h id message

/-! ## Rebuilding -/

/-- The name of the server if an event tells that it lost its endpoint or could not get one. -/
def Event.rebuilt? : Event → Option String
  | .pipeRebuild name _ => some name
  | _ => none

/-- The servers that lost their endpoints or could not get one, as a log tells. -/
def rebuilds (events : List Event) : List String := events.filterMap Event.rebuilt?

@[simp] theorem rebuilds_append (events more : List Event) :
    rebuilds (events ++ more) = rebuilds events ++ rebuilds more := List.filterMap_append

/-- Callbacks rebuild nothing. -/
theorem Host.Leads.rebuilds_eq {h h' : Host} (hl : h.Leads h') :
    rebuilds h'.events = rebuilds h.events := by
  induction hl with
  | same => rfl
  | called => rfl
  | miss h message => simp [Host.note, rebuilds, Event.rebuilt?]
  | increment => rfl
  | register h into header callback => simp [Host.register, Host.note, rebuilds, Event.rebuilt?]
  | trans _ _ ih ih' => exact ih'.trans ih

theorem Handler.rebuilds_hostAfter (handler : Handler) (message : String) (h : Host) :
    rebuilds (handler.hostAfter message h).events = rebuilds h.events := by
  have hrun := (handler.leads_run message h).rebuilds_eq
  rcases handler.hostAfter_eq message h with heq | heq <;> rw [heq]
  · exact hrun
  · rw [Host.note, rebuilds_append, hrun]
    exact List.append_nil _

theorem Server.rebuilds_announcement (s : Server) (next : ServerState) :
    rebuilds (s.announcement next) = [] := by
  unfold announcement
  split <;> rfl

/-- What a server logs before it announces its next state. -/
theorem Server.rebuilds_cons_announcement (s : Server) (event : Event) (next : ServerState) :
    rebuilds (event :: s.announcement next) = event.rebuilt?.toList := by
  have hannounced := s.rebuilds_announcement next
  rw [rebuilds, List.filterMap_cons, ← rebuilds, hannounced]
  cases event.rebuilt? <;> rfl

end KeyBridge
