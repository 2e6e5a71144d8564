-- SUMMARY: Which of the calls that build a hotkey decide how its callback is invoked.
import KeyBridge.Proofs.CallSites

/-!
# Attachments

A hotkey is built by calls that change it one after the other. Only the calls that attach a callback
decide about its invocation: the callback and its place are those of the last one. The variable that
gets the reply is the last one that any of them has named; an attachment without a variable does not
take it away (`invocation_of_changes`).
-/

namespace KeyBridge

/-! ## Changes of hotkeys -/

/-- One call that changes a hotkey. -/
inductive HotkeyChange where
  | trigger (t : Trigger)
  | modifiers (keys : List Key)
  | block (yes : Bool)
  | sendMode (mode : SendMode)
  | direction (d : Direction)
  | append (actions : List Action)
  /-- Attaches a callback; its reply is not asked for. -/
  | attach (d : Direction) (callback : Callback) (placement : Placement)
  /-- Attaches a callback whose reply goes to a variable. -/
  | attachInto (name : String) (d : Direction) (callback : Callback) (placement : Placement)

/-- A callback as one call attaches it, with the variable that the same call names. -/
structure Attachment where
  direction : Direction
  callback : Callback
  placement : Placement
  capture : Option String

/-- What a call attaches: nothing if it sets something else, or names a blank variable. -/
def HotkeyChange.attachment? : HotkeyChange → Option Attachment
  | .attach d callback placement => some ⟨d, callback, placement, none⟩
  | .attachInto name d callback placement =>
    if Text.isBlankText name then none else some ⟨d, callback, placement, some (Text.trim name)⟩
  | _ => none

/-- What calls attach, in their order. -/
def attachments (changes : List HotkeyChange) : List Attachment :=
  changes.filterMap HotkeyChange.attachment?

namespace Hotkey

/-- A hotkey after a call, or why the call is refused. -/
def change (h : Hotkey) : HotkeyChange → Except HotkeyError Hotkey
  | .trigger t => .ok (h.withTrigger t)
  | .modifiers keys => .ok (h.withModifiers keys)
  | .block yes => .ok (h.block yes)
  | .sendMode mode => .ok (h.withSendMode mode)
  | .direction d => .ok (h.withDirection d)
  | .append actions => .ok (h.append actions)
  | .attach d callback placement => .ok (h.onEvent d callback placement)
  | .attachInto name d callback placement => h.onEventInto name d callback placement

/-- A hotkey after a call; one that is refused changes nothing. -/
def changed (h : Hotkey) (c : HotkeyChange) : Hotkey :=
  match h.change c with
  | .ok h' => h'
  | .error _ => h

/-- A hotkey after calls. -/
def changeAll (h : Hotkey) (changes : List HotkeyChange) : Hotkey := changes.foldl changed h

/-- A hotkey to which nothing was done since it was made, by itself or by a generator. -/
inductive IsNew : Hotkey → Prop where
  | plain (t : Trigger) (modifiers : List Key) : IsNew (ofTrigger t modifiers)
  | seeded (g : Generator) (t : Trigger) (modifiers : List Key) : IsNew (g.hotkey t modifiers)

/-! ## What calls leave behind -/

section

variable (h : Hotkey) (c : HotkeyChange) (changes : List HotkeyChange)

theorem changed_attachInto (name : String) (d : Direction) (callback : Callback)
    (placement : Placement) : h.changed (.attachInto name d callback placement)
      = if Text.isBlankText name then h
        else { h with capture := some (Text.trim name) }.onEvent d callback placement := by
  by_cases hblank : Text.isBlankText name = true <;> simp [changed, change, onEventInto, hblank]

theorem callback_changed :
    (h.changed c).callback = (c.attachment?.map Attachment.callback).or h.callback := by
  cases c with
  | attachInto name d callback placement =>
    rw [changed_attachInto, HotkeyChange.attachment?]
    split <;> rfl
  | _ => rfl

theorem placement_changed : some (h.changed c).placement
    = (c.attachment?.map Attachment.placement).or (some h.placement) := by
  cases c with
  | attachInto name d callback placement =>
    rw [changed_attachInto, HotkeyChange.attachment?]
    split <;> rfl
  | _ => rfl

/-- Only a call that names a variable changes the variable. -/
theorem capture_changed :
    (h.changed c).capture = (c.attachment?.bind Attachment.capture).or h.capture := by
  cases c with
  | attachInto name d callback placement =>
    rw [changed_attachInto, HotkeyChange.attachment?]
    split <;> rfl
  | _ => rfl

/-- A part of a hotkey that each call overwrites or leaves alone is what was written last. -/
theorem read_changeAll {α : Type} (read : Hotkey → Option α) (write : HotkeyChange → Option α)
    (hwrite : ∀ h c, read (changed h c) = (write c).or (read h)) :
    read (h.changeAll changes) = (changes.filterMap write).getLast?.or (read h) := by
  induction changes generalizing h with
  | nil => rfl
  | cons c changes ih =>
    rw [changeAll, List.foldl_cons, ← changeAll, ih, hwrite, List.filterMap_cons]
    cases write c with
    | none => rfl
    | some a =>
      rw [List.getLast?_cons]
      cases (changes.filterMap write).getLast? <;> rfl

theorem callback_changeAll : (h.changeAll changes).callback
    = ((attachments changes).getLast?.map Attachment.callback).or h.callback := by
  rw [h.read_changeAll changes (fun h => h.callback) _ callback_changed, attachments,
    ← List.getLast?_map, List.map_filterMap]

theorem placement_changeAll : some (h.changeAll changes).placement
    = ((attachments changes).getLast?.map Attachment.placement).or (some h.placement) := by
  rw [h.read_changeAll changes (fun h => some h.placement) _ placement_changed, attachments,
    ← List.getLast?_map, List.map_filterMap]

theorem capture_changeAll : (h.changeAll changes).capture
    = ((attachments changes).filterMap Attachment.capture).getLast?.or h.capture := by
  rw [h.read_changeAll changes (fun h => h.capture) _ capture_changed, attachments,
    List.filterMap_filterMap]

end

theorem change_attachInto_blank (h : Hotkey) {name : String} (hname : Text.isBlankText name = true)
    (d : Direction) (callback : Callback) (placement : Placement) :
    h.change (.attachInto name d callback placement) = .error .blankVariable := by
  rw [change, onEventInto, if_pos hname]

/-- A new hotkey has no callback and no variable. -/
theorem IsNew.unattached {h : Hotkey} (hnew : h.IsNew) : h.callback = none ∧ h.capture = none := by
  cases hnew <;> exact ⟨rfl, rfl⟩

end Hotkey

/-! ## Invocations of what was attached -/

/-- The call of the host with a literal; its reply goes to a variable if there is one. -/
def callInto (into? : Option String) (literal : String) : String :=
  match into? with
  | some name => Statement.assign name (announces literal)
  | none => announces literal

/-- The statement of an attachment at a place: nothing without one and at the other place. -/
def invoked (last? : Option Attachment) (into? : Option String) (literal : String)
    (here : Placement) : Option String :=
  match last? with
  | some a => if a.placement = here then some (callInto into? literal) else none
  | none => none

/-- The text of a hotkey above its body, less the invocation of its callback. -/
def Binding.head (b : Binding) (header : String) (width : Nat) : String :=
  (if b.blocking then "" else "~") ++ header ++ "::\n\x7b\n"
    ++ Text.indent width (Statement.sendMode b.sendMode)

theorem Binding.enclose_eq (b : Binding) (header : String) (width : Nat) (body : String) :
    b.enclose header width body
      = b.head header width ++ indentOption width (b.invocation? header .start) ++ body
        ++ indentOption width (b.invocation? header .last)
        ++ (Text.indent width "return" ++ "\x7d\n") := by
  simp [enclose, head, String.append_assoc]

/-- The list ends with a variable exactly if its last member names one or no member does. -/
theorem capture_last_iff (log : List Attachment) :
    (log.filterMap Attachment.capture).getLast? = log.getLast?.bind Attachment.capture
      ↔ (∃ a, log.getLast? = some a ∧ a.capture.isSome = true) ∨ ∀ a ∈ log, a.capture = none := by
  rcases List.eq_nil_or_concat log with rfl | ⟨log, a, rfl⟩
  · simp
  · rw [List.concat_eq_append, List.filterMap_append, List.getLast?_concat, Option.bind_some]
    cases hcapture : a.capture with
    | some name => simp [hcapture]
    | none =>
      have hnothing : [a].filterMap Attachment.capture = [] := by simp [hcapture]
      rw [hnothing, List.append_nil, List.getLast?_eq_none_iff, List.filterMap_eq_nil_iff]
      constructor
      · intro hlog
        refine .inr (List.forall_mem_append.2 ⟨hlog, List.forall_mem_singleton.2 hcapture⟩)
      · rintro (⟨b, hb, hsome⟩ | hall)
        · cases hb
          rw [hcapture] at hsome
          cases hsome
        · exact fun b hb => hall b (List.mem_append_left _ hb)

theorem Binding.invocation?_eq_invoked {b : Binding} {last? : Option Attachment}
    {header literal : String} (hliteral : Text.quote header = some literal)
    (hcallback : b.callback = last?.map Attachment.callback)
    (hplacement : ∀ a, last? = some a → b.placement = a.placement) (here : Placement) :
    b.invocation? header here = invoked last? b.capture literal here := by
  rw [invocation?, hcallback, hliteral]
  cases last? with
  | none => rfl
  | some a =>
    rw [hplacement a rfl, invoked]
    by_cases hhere : a.placement = here
    · cases b.capture <;> simp [hhere, callInto, announces]
    · simp [hhere]

/-- The text of a hotkey that was built by calls invokes the callback that was attached last, where
that call says, and its layout registers it; no other call has a say in that. The reply goes to the
variable that was named last by a call that attached a callback. This is what the last attachment
itself asks for only if it names a variable or no call did. -/
theorem invocation_of_changes {new : Hotkey} (hnew : new.IsNew) (changes : List HotkeyChange)
    {header : String} (hheader : (new.changeAll changes).header? = some header) :
    let h := new.changeAll changes
    let log := attachments changes
    let into? := (log.filterMap Attachment.capture).getLast?
    (∃ literal : String, Text.quote header = some literal
        ∧ Text.readLiteral (literal.toList ++ [')']) = some (header.toList, [')'])
        ∧ ∀ width, h.toAction.text width = h.head header width
          ++ indentOption width (invoked log.getLast? into? literal .start)
          ++ indentedText width width h.body
          ++ indentOption width (invoked log.getLast? into? literal .last)
          ++ (Text.indent width "return" ++ "\x7d\n"))
      ∧ (∀ (g : Generator) (host : Host), (g.render h.toAction host).2
        = (match log.getLast? with
            | some a => (host.register g.registry header a.callback).2
            | none => host).performAll g.registry (sequenceEffects h.body))
      ∧ (∀ name d callback placement, Text.isBlankText name = true →
        h.change (.attachInto name d callback placement) = .error .blankVariable
          ∧ h.changed (.attachInto name d callback placement) = h)
      ∧ (into? = log.getLast?.bind Attachment.capture
        ↔ (∃ a, log.getLast? = some a ∧ a.capture.isSome = true)
          ∨ ∀ a ∈ log, a.capture = none) := by
  intro h log into?
  obtain ⟨hnone, huncaptured⟩ := hnew.unattached
  have hcallback : h.callback = log.getLast?.map Attachment.callback := by
    rw [new.callback_changeAll changes, hnone, Option.or_none]
  have hplacement : ∀ a, log.getLast? = some a → h.placement = a.placement := by
    intro a ha
    have hlast := new.placement_changeAll changes
    rw [show (attachments changes).getLast? = some a from ha] at hlast
    exact Option.some.inj hlast
  have hcapture : h.capture = into? := by
    rw [new.capture_changeAll changes, huncaptured, Option.or_none]
  refine ⟨?_, ?_, ?_, capture_last_iff log⟩
  · obtain ⟨literal, hliteral, hread⟩ := Binding.exists_quote_header hheader
    refine ⟨literal, hliteral, hread [')'] (by decide), fun width => ?_⟩
    have hinvoked (here : Placement) :
        h.invocation? header here = invoked log.getLast? into? literal here := by
      rw [← hcapture]
      exact Binding.invocation?_eq_invoked hliteral hcallback hplacement here
    rw [Hotkey.toAction, Action.text_hotkey, hheader]
    dsimp only
    rw [Binding.enclose_eq, hinvoked, hinvoked]
  · intro g host
    have heffects : h.toAction.effects
        = (match log.getLast? with
            | some a => [Effect.register header a.callback]
            | none => []) ++ sequenceEffects h.body := by
      rw [Hotkey.toAction, Action.effects, hheader]
      dsimp only
      rw [Binding.effects, hcallback, sequenceEffects]
      cases log.getLast? <;> rfl
    rw [Generator.render, heffects]
    cases log.getLast? <;> rfl
  · intro name d callback placement hblank
    have hrefused := h.change_attachInto_blank hblank d callback placement
    exact ⟨hrefused, by rw [Hotkey.changed, hrefused]⟩

/-- A hotkey whose reply went to a variable before another callback was attached. -/
def reattached : List HotkeyChange :=
  [.attachInto " x " .down .echo .start, .attach .down .chars .last]

theorem reattached_keeps_variable :
    let new := Hotkey.ofTrigger (.key .letterA) []
    (new.changeAll reattached).header? = some "a"
      ∧ (new.changeAll reattached).toAction.text 2
        = "~a::\n\x7b\n  SendMode Input\n  x := SendPipeMessage(\"a\")\n  return\n\x7d\n"
      ∧ ((attachments reattached).filterMap Attachment.capture).getLast?
        ≠ (attachments reattached).getLast?.bind Attachment.capture := by
  intro new
  have hheader : (new.changeAll reattached).header? = some "a" := by decide
  obtain ⟨⟨literal, hliteral, -, htext⟩, -, -, hvariable⟩ :=
    invocation_of_changes (.plain (.key .letterA) []) reattached hheader
  have hquoted : Text.quote "a" = some "\"a\"" := by decide
  obtain rfl : "\"a\"" = literal := Option.some.inj (hquoted.symm.trans hliteral)
  refine ⟨hheader, ?_, ?_⟩
  · rw [htext 2]
    decide +kernel
  · rw [Ne, hvariable]
    decide

end KeyBridge
