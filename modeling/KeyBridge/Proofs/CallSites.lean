-- SUMMARY: Which lines of a text call the host, and which callbacks its layout registers for them.
import KeyBridge.Proofs.Bridges
import KeyBridge.Proofs.Outline

/-!
# Call sites

A tour of a sequence enters its hotkeys and leaves them again. What laying out registers, and where
the text calls the host, is read off the steps of the tour: registrations are due on entering
hotkeys, calls stand behind the opening brace or in front of the closing one. So there is one call
for each registration, with the same header.
-/

namespace KeyBridge

/-! ## Tours -/

/-- A step of a tour: into the body of a hotkey, or out of it. `around` are the hotkeys that it
stands in. -/
inductive Visit where
  | enter (around : List Binding) (b : Binding)
  | leave (around : List Binding) (b : Binding)

mutual

/-- The tour of an action that stands in some hotkeys. -/
def Action.tour (around : List Binding) : Action → List Visit
  | .raw _ => []
  | .key _ => []
  | .release _ => []
  | .hotkey b body => .enter around b :: (actionsTour (b :: around) body ++ [.leave around b])

/-- The tours of actions one after the other. -/
def actionsTour (around : List Binding) : List Action → List Visit
  | [] => []
  | a :: rest => a.tour around ++ actionsTour around rest

end

/-- Whether all hotkeys around a place are laid out. -/
def laidOut (around : List Binding) : Bool := around.all fun b => b.header?.isSome

/-- The header that a hotkey has in the text: none if it or one around it is left out. -/
def Binding.headerIn? (around : List Binding) (b : Binding) : Option String :=
  if laidOut around then b.header? else none

namespace Visit

/-- The header of the hotkey that is entered or left. -/
def header? : Visit → Option String
  | .enter around b => b.headerIn? around
  | .leave around b => b.headerIn? around

/-- The registration that is due at a step: on entering a hotkey with a callback. -/
def registration? (into : RegistryId) : Visit → Option Registration
  | .enter around b =>
    match b.headerIn? around, b.callback with
    | some header, some callback => some ⟨into, header, callback⟩
    | _, _ => none
  | .leave _ _ => none

end Visit

/-- The registrations that are due in a sequence, in the order of its tour. -/
def actionsDue (into : RegistryId) (actions : List Action) : List Registration :=
  (actionsTour [] actions).filterMap (Visit.registration? into)

section

variable {around : List Binding}

/-- Nothing in a hotkey that is left out has a header in the text. -/
theorem header?_of_mem_tour (haround : laidOut around = false) {actions : List Action} :
    ∀ v ∈ actionsTour around actions, v.header? = none := by
  induction actions using Action.induction generalizing around with
  | nil => exact List.forall_mem_nil _
  | raw code rest ih => exact ih haround
  | key a rest ih => exact ih haround
  | release r rest ih => exact ih haround
  | hotkey b body rest ihBody ihRest =>
    have hself : b.headerIn? around = none := by
      rw [Binding.headerIn?, haround, if_neg Bool.false_ne_true]
    have hinside : laidOut (b :: around) = false := by
      rw [laidOut, List.all_cons, ← laidOut, haround, Bool.and_false]
    refine List.forall_mem_append.2 ⟨?_, ihRest haround⟩
    refine List.forall_mem_cons.2 ⟨hself, List.forall_mem_append.2 ⟨ihBody hinside, ?_⟩⟩
    exact List.forall_mem_singleton.2 hself

theorem Visit.registration?_of_header? {into : RegistryId} {v : Visit} (h : v.header? = none) :
    v.registration? into = none := by
  cases v with
  | enter around b =>
    rw [header?] at h
    rw [registration?, h]
  | leave around b => rfl

theorem laidOut_cons {b : Binding} :
    laidOut (b :: around) = (b.header?.isSome && laidOut around) := List.all_cons

theorem registrations_lettingGo (into : RegistryId) (keys : List Key) :
    (lettingGoEffects keys).filterMap (Effect.registration? into) = [] := by
  apply List.filterMap_eq_nil_iff.2
  intro e he
  obtain ⟨k, -, rfl⟩ := List.mem_map.1 he
  rfl

/-- Laying out registers what is due. -/
theorem registrations_actionsEffects (into : RegistryId) (haround : laidOut around = true)
    (actions : List Action) :
    (actionsEffects actions).filterMap (Effect.registration? into)
      = (actionsTour around actions).filterMap (Visit.registration? into) := by
  induction actions using Action.induction generalizing around with
  | nil => rfl
  | raw code rest ih => exact ih haround
  | key a rest ih => exact ih haround
  | release r rest ih => exact ih haround
  | hotkey b body rest ihBody ihRest =>
    rw [actionsEffects, actionsTour, List.filterMap_append, List.filterMap_append, ihRest haround]
    congr 1
    have hself : b.headerIn? around = b.header? := if_pos haround
    have hleave : [Visit.leave around b].filterMap (Visit.registration? into) = [] := rfl
    rw [Action.effects, Action.tour, List.filterMap_cons, List.filterMap_append, hleave,
      List.append_nil, Visit.registration?, hself]
    cases hheader : b.header? with
    | none =>
      have hinside : laidOut (b :: around) = false := by rw [laidOut_cons, hheader]; rfl
      have hnothing : ∀ v ∈ actionsTour (b :: around) body, v.registration? into = none :=
        fun v hv => Visit.registration?_of_header? (header?_of_mem_tour hinside v hv)
      rw [List.filterMap_eq_nil_iff.2 hnothing]
      rfl
    | some header =>
      have hinside : laidOut (b :: around) = true := by rw [laidOut_cons, hheader, haround]; rfl
      simp only [List.filterMap_append]
      rw [registrations_lettingGo, List.append_nil, ihBody hinside, Binding.effects]
      cases b.callback <;> rfl

theorem registrations_sequenceEffects (into : RegistryId) (actions : List Action) :
    (sequenceEffects actions).filterMap (Effect.registration? into) = actionsDue into actions := by
  rw [sequenceEffects, List.filterMap_append, registrations_lettingGo, List.append_nil]
  exact registrations_actionsEffects into rfl actions

end

theorem into_of_mem_actionsDue {into : RegistryId} {actions : List Action} {r : Registration}
    (h : r ∈ actionsDue into actions) : r.into = into := by
  obtain ⟨v, -, hv⟩ := List.mem_filterMap.1 h
  cases v with
  | enter around b =>
    rw [Visit.registration?] at hv
    split at hv
    · cases hv
      rfl
    · cases hv
  | leave around b => cases hv

/-! ## Statements with calls -/

/-- A line at the end of a text belongs to the last line of the whole. -/
theorem Text.lines_append_line {s : List Char} (hs : Text.IsLine s) (hne : s ≠ [])
    (cs : List Char) :
    ∃ ls p, Text.lines (cs ++ s) = ls ++ [p ++ s] ∧ ls <+: Text.lines cs ∧ p <:+ cs
      ∧ (ls = [] → p = cs) := by
  induction cs with
  | nil =>
    refine ⟨[], [], ?_, List.nil_prefix, List.suffix_refl _, fun _ => rfl⟩
    rw [List.nil_append, lines_of_isLine hs, if_neg hne]
    rfl
  | cons c cs ih =>
    obtain ⟨ls, p, hlines, hprefix, hsuffix, hwhole⟩ := ih
    have hcons := hsuffix.trans (List.suffix_cons c cs)
    by_cases hfeed : c = '\n'
    · subst hfeed
      refine ⟨[] :: ls, p, ?_, ?_, hcons, fun h => absurd h (List.cons_ne_nil _ _)⟩
      · rw [List.cons_append, lines_newline, hlines, List.cons_append]
      · rw [lines_newline]
        exact List.cons_prefix_cons.2 ⟨rfl, hprefix⟩
    by_cases hreturn : c = '\r' ∧ cs.head? = some '\n'
    · obtain ⟨rest, rfl⟩ : ∃ rest, cs = '\n' :: rest := by
        cases cs with
        | nil => cases hreturn.2
        | cons d rest => exact ⟨rest, congrArg (· :: rest) (Option.some.inj hreturn.2)⟩
      refine ⟨ls, p, ?_, ?_, hcons, ?_⟩
      · rw [List.cons_append, lines, if_neg hfeed, if_pos ⟨hreturn.1, rfl⟩, hlines]
      · rw [lines, if_neg hfeed, if_pos ⟨hreturn.1, rfl⟩]
        exact hprefix
      · rintro rfl
        rw [List.cons_append, lines_newline] at hlines
        have hnothing : [] = p ++ s := (List.cons.inj hlines).1
        exact absurd (List.append_eq_nil_iff.1 hnothing.symm).2 hne
    · have hnot : ¬ (c = '\r' ∧ (cs ++ s).head? = some '\n') := by
        rintro ⟨rfl, hhead⟩
        cases cs with
        | nil => exact (hs _ (List.mem_of_head? hhead)).1 rfl
        | cons d rest => exact hreturn ⟨rfl, hhead⟩
      rw [List.cons_append, lines, if_neg hfeed, if_neg hnot, hlines, lines, if_neg hfeed,
        if_neg hreturn]
      cases ls with
      | nil =>
        rw [hwhole rfl]
        exact ⟨[], c :: cs, rfl, List.nil_prefix, List.suffix_refl _, fun _ => rfl⟩
      | cons l ls =>
        obtain ⟨t, ht⟩ := hprefix
        rw [← ht]
        exact ⟨(c :: l) :: ls, p, rfl, ⟨t, rfl⟩, hcons, fun h => absurd h (List.cons_ne_nil _ _)⟩

/-- The rows of the call of a hotkey: lines of the name in front of it, then the call itself. -/
theorem Binding.ofCall_spec {b : Binding} {header literal : String}
    (hliteral : Text.quote header = some literal) (depth : Nat) :
    ∃ (ls : List (List Char)) (front : List Char),
      Row.ofCall depth header (b.front ++ announces literal)
        = ls.map (fun line => ⟨depth, line, .given⟩)
          ++ [⟨depth, front ++ (announces literal).toList, .call header⟩]
      ∧ (∀ l ∈ ls, ∃ name ∈ b.capture, l ∈ Text.lines name.toList)
      ∧ (front = [] ∨ ∃ name ∈ b.capture, ∃ p, p <:+ name.toList ∧ front = p ++ " := ".toList) := by
  have hcall := isLine_announces hliteral
  have hne := announces_ne_nil literal
  have hsplit {ls : List (List Char)} {front : List Char}
      (h : Text.lines (b.front ++ announces literal).toList
        = ls ++ [front ++ (announces literal).toList]) :
      Row.ofCall depth header (b.front ++ announces literal)
        = ls.map (fun line => ⟨depth, line, .given⟩)
          ++ [⟨depth, front ++ (announces literal).toList, .call header⟩] := by
    rw [Row.ofCall, h, List.dropLast_concat, List.getLast?_concat]
    rfl
  cases hcapture : b.capture with
  | none =>
    refine ⟨[], [], hsplit ?_, List.forall_mem_nil _, .inl rfl⟩
    rw [front, hcapture, String.empty_append, Text.lines_of_isLine hcall, if_neg hne]
    rfl
  | some name =>
    have hassign : Text.IsLine " := ".toList := by decide
    obtain ⟨ls, p, hlines, hprefix, hsuffix, -⟩ := Text.lines_append_line
      (Text.isLine_append.2 ⟨hassign, hcall⟩) (List.append_ne_nil_of_right_ne_nil _ hne) name.toList
    refine ⟨ls, p ++ " := ".toList, hsplit ?_, ?_, .inr ⟨name, rfl, p, hsuffix, rfl⟩⟩
    · rw [front, hcapture, List.append_assoc, ← hlines]
      simp
    · intro l hl
      exact ⟨name, rfl, hprefix.subset hl⟩

/-- The rows of the invocation at a placement are those of the call, or there are none. -/
theorem Binding.callRows_eq (b : Binding) {header literal : String}
    (hliteral : Text.quote header = some literal) (depth : Nat) (here : Placement) :
    b.callRows header depth here
      = if b.callback.isSome ∧ b.placement = here then
          Row.ofCall depth header (b.front ++ announces literal)
        else [] := by
  rw [callRows, invocation?, hliteral]
  by_cases hhere : b.callback.isSome ∧ b.placement = here
  · have hsome : (b.callback.isNone || decide (b.placement ≠ here)) = false := by
      rw [← Option.not_isSome, hhere.1, hhere.2]
      simp
    rw [if_pos hhere, hsome, front]
    cases b.capture with
    | none => simp [announces]
    | some name => simp [announces, Statement.assign]
  · have hnone : (b.callback.isNone || decide (b.placement ≠ here)) = true := by
      cases hcallback : b.callback with
      | none => rfl
      | some callback =>
        have hother : b.placement ≠ here := fun heq => hhere ⟨by rw [hcallback]; rfl, heq⟩
        simp [hother]
    rw [if_neg hhere, hnone]
    rfl

/-! ## Marks -/

/-- The call of a hotkey, if it stands at a placement. -/
def Binding.callMarks (b : Binding) (header : String) (here : Placement) : List RowKind :=
  if b.callback.isSome ∧ b.placement = here then [.call header] else []

/-- The braces and calls that the text has at a step. -/
def Visit.marks : Visit → List RowKind
  | .enter around b =>
    match b.headerIn? around with
    | some header => .opening :: b.callMarks header .start
    | none => []
  | .leave around b =>
    match b.headerIn? around with
    | some header => b.callMarks header .last ++ [.closing]
    | none => []

/-- The brace or the call that a row is. -/
def Row.mark? (r : Row) : Option RowKind :=
  match r.kind with
  | .given => none
  | .built => none
  | kind => some kind

/-- The header that a mark calls the host with. -/
def RowKind.header? : RowKind → Option String
  | .call header => some header
  | _ => none

/-- The header that a row calls the host with. -/
def Row.called? (r : Row) : Option String := r.kind.header?

section

variable {around : List Binding} {depth : Nat}

theorem Visit.marks_of_header? {v : Visit} (h : v.header? = none) : v.marks = [] := by
  cases v with
  | enter around b =>
    rw [header?] at h
    rw [marks, h]
  | leave around b =>
    rw [header?] at h
    rw [marks, h]

theorem marks_map {kind : RowKind} (hkind : kind = .given ∨ kind = .built)
    (lines : List (List Char)) :
    (lines.map fun line => (⟨depth, line, kind⟩ : Row)).filterMap Row.mark? = [] := by
  rw [List.filterMap_map]
  apply List.filterMap_eq_nil_iff.2
  intro line _
  rcases hkind with rfl | rfl <;> rfl

theorem marks_lettingGo (keys : List Key) :
    (Row.lettingGo depth keys).filterMap Row.mark? = [] := by
  apply List.filterMap_eq_nil_iff.2
  intro r hr
  obtain ⟨k, -, rfl⟩ := List.mem_map.1 hr
  rfl

/-- The statement that invokes the callback of a hotkey has one row with a call. -/
theorem Binding.marks_callRows {b : Binding} {header : String} (h : b.header? = some header)
    (here : Placement) :
    (b.callRows header depth here).filterMap Row.mark? = b.callMarks header here := by
  obtain ⟨literal, hliteral, -⟩ := exists_quote_header h
  obtain ⟨ls, front, hrows, -⟩ := b.ofCall_spec hliteral depth
  rw [callRows_eq b hliteral, callMarks, hrows]
  split
  · rw [List.filterMap_append, marks_map (.inl rfl)]
    rfl
  · rfl

theorem marks_actionsOutline (haround : laidOut around = true) (actions : List Action) :
    (actionsOutline depth actions).filterMap Row.mark?
      = (actionsTour around actions).flatMap Visit.marks := by
  induction actions using Action.induction generalizing around depth with
  | nil => rfl
  | raw code rest ih =>
    rw [actionsOutline, List.filterMap_append, ih haround]
    exact congrArg (· ++ _) (marks_map (.inl rfl) _)
  | key a rest ih =>
    rw [actionsOutline, List.filterMap_append, ih haround]
    exact congrArg (· ++ _) (marks_map (.inr rfl) _)
  | release r rest ih => exact ih haround
  | hotkey b body rest ihBody ihRest =>
    rw [actionsOutline, actionsTour, List.filterMap_append, List.flatMap_append, ihRest haround]
    congr 1
    have hself : b.headerIn? around = b.header? := if_pos haround
    rw [Action.outline, Action.tour, List.flatMap_cons, List.flatMap_append, List.flatMap_singleton,
      Visit.marks, Visit.marks, hself]
    cases hheader : b.header? with
    | none =>
      have hinside : laidOut (b :: around) = false := by rw [laidOut_cons, hheader]; rfl
      have hnothing : ∀ v ∈ actionsTour (b :: around) body, v.marks = [] :=
        fun v hv => Visit.marks_of_header? (header?_of_mem_tour hinside v hv)
      rw [List.flatMap_eq_nil_iff.2 hnothing]
      rfl
    | some header =>
      have hinside : laidOut (b :: around) = true := by rw [laidOut_cons, hheader, haround]; rfl
      have hfirst : (b.headerRow header depth).mark? = none := rfl
      have hopening : Row.mark? ⟨depth, ['\x7b'], .opening⟩ = some .opening := rfl
      have hmode : (Row.built (depth + 1) (Statement.sendMode b.sendMode)).mark? = none := rfl
      have hend : [Row.built (depth + 1) "return", ⟨depth, ['\x7d'], .closing⟩].filterMap Row.mark?
          = [.closing] := rfl
      simp only [Binding.enclosing, List.filterMap_cons, hfirst, hopening, hmode,
        List.filterMap_append, Binding.marks_callRows hheader, marks_lettingGo, ihBody hinside, hend,
        List.nil_append, List.cons_append, List.append_assoc]

theorem marks_sequenceOutline (actions : List Action) :
    (sequenceOutline depth actions).filterMap Row.mark?
      = (actionsTour [] actions).flatMap Visit.marks := by
  rw [sequenceOutline, List.filterMap_append, marks_lettingGo, List.append_nil]
  exact marks_actionsOutline rfl actions

theorem called_eq (rows : List Row) :
    rows.filterMap Row.called? = (rows.filterMap Row.mark?).filterMap RowKind.header? := by
  rw [List.filterMap_filterMap]
  apply congrArg (rows.filterMap ·)
  funext r
  rw [Row.called?, Row.mark?]
  cases r.kind <;> rfl

/-- A hotkey with a callback calls with its header, either on the way in or on the way out. -/
theorem Visit.calls_eq (into : RegistryId) (around : List Binding) (b : Binding) :
    (enter around b).marks.filterMap RowKind.header?
        ++ (leave around b).marks.filterMap RowKind.header?
      = ((enter around b).registration? into).toList.map Registration.header := by
  rw [marks, marks, registration?]
  cases b.headerIn? around with
  | none => rfl
  | some header =>
    cases hcallback : b.callback with
    | none => simp [Binding.callMarks, hcallback, RowKind.header?]
    | some callback =>
      cases hplacement : b.placement with
      | start =>
        simp only [Binding.callMarks, hcallback, hplacement]
        rfl
      | last =>
        simp only [Binding.callMarks, hcallback, hplacement]
        rfl

/-- There is one call for each registration that is due, with the same header. -/
theorem calls_perm_registrations (into : RegistryId) (actions : List Action) :
    (((actionsTour around actions).flatMap Visit.marks).filterMap RowKind.header?).Perm
      (((actionsTour around actions).filterMap (Visit.registration? into)).map
        Registration.header) := by
  induction actions using Action.induction generalizing around with
  | nil => exact .refl _
  | raw code rest ih => exact ih
  | key a rest ih => exact ih
  | release r rest ih => exact ih
  | hotkey b body rest ihBody ihRest =>
    have hself := Visit.calls_eq into around b
    have henter : [Visit.enter around b].filterMap (Visit.registration? into)
        = ((Visit.enter around b).registration? into).toList := by
      rw [List.filterMap_cons, List.filterMap_nil]
      cases (Visit.enter around b).registration? into <;> rfl
    have hleave : [Visit.leave around b].filterMap (Visit.registration? into) = [] := rfl
    have hdue : ((Action.hotkey b body).tour around).filterMap (Visit.registration? into)
        = ((Visit.enter around b).registration? into).toList
          ++ (actionsTour (b :: around) body).filterMap (Visit.registration? into) := by
      rw [Action.tour, ← List.singleton_append, List.filterMap_append, henter,
        List.filterMap_append, hleave, List.append_nil]
    rw [actionsTour, List.flatMap_append, List.filterMap_append, List.filterMap_append,
      List.map_append]
    refine List.Perm.append ?_ ihRest
    rw [hdue, Action.tour, List.flatMap_cons, List.flatMap_append, List.flatMap_singleton,
      List.filterMap_append, List.filterMap_append, List.map_append, ← hself, List.append_assoc]
    apply List.Perm.append_left
    exact List.perm_append_comm.trans (ihBody.append_left _)

end

/-! ## Blocks -/

/-- Among rows there is the block of a hotkey at a depth; the rows in front of it have some marks. -/
def HasBlock (b : Binding) (header : String) (depth : Nat) (marks : List RowKind)
    (rows : List Row) : Prop :=
  ∃ before body after, rows = before ++ (b.enclosing header depth body ++ after)
    ∧ before.filterMap Row.mark? = marks

section

variable {around inner : List Binding} {b : Binding} {header : String} {depth : Nat}
  {marks : List RowKind} {rows : List Row}

theorem HasBlock.append_left (h : HasBlock b header depth marks rows) (ahead : List Row) :
    HasBlock b header depth (ahead.filterMap Row.mark? ++ marks) (ahead ++ rows) := by
  obtain ⟨before, body, after, rfl, rfl⟩ := h
  refine ⟨ahead ++ before, body, after, ?_, List.filterMap_append⟩
  rw [List.append_assoc]

theorem HasBlock.append_right (h : HasBlock b header depth marks rows) (behind : List Row) :
    HasBlock b header depth marks (rows ++ behind) := by
  obtain ⟨before, body, after, rfl, hmarks⟩ := h
  refine ⟨before, body, after ++ behind, ?_, hmarks⟩
  simp only [List.append_assoc]

/-- A block in the body of a hotkey stands behind the brace and the first call of that hotkey. -/
theorem HasBlock.enclosing (h : HasBlock b header depth marks rows) {outer : Binding}
    {name : String} (hname : outer.header? = some name) (place : Nat) :
    HasBlock b header depth (.opening :: (outer.callMarks name .start ++ marks))
      (outer.enclosing name place rows) := by
  have hcalls := @Binding.marks_callRows (place + 1) outer name hname .start
  have hinside := (h.append_left (outer.callRows name (place + 1) .start)).append_right
    (outer.callRows name (place + 1) .last
      ++ [Row.built (place + 1) "return", ⟨place, ['\x7d'], .closing⟩])
  rw [hcalls] at hinside
  have hwhole := hinside.append_left [outer.headerRow name place, ⟨place, ['\x7b'], .opening⟩,
    Row.built (place + 1) (Statement.sendMode outer.sendMode)]
  have hbrace : [outer.headerRow name place, ⟨place, ['\x7b'], .opening⟩,
    Row.built (place + 1) (Statement.sendMode outer.sendMode)].filterMap Row.mark? = [.opening] := rfl
  rw [hbrace] at hwhole
  simpa [Binding.enclosing] using hwhole

/-- What a tour does after the steps in two lists, it does in the first one or in the second. -/
theorem step_in_append {front rest steps more : List Visit} {v : Visit}
    (h : steps ++ more = front ++ v :: rest) :
    (∃ left, steps = front ++ v :: left) ∨ ∃ front', front = steps ++ front'
      ∧ more = front' ++ v :: rest := by
  rcases List.append_eq_append_iff.1 h with ⟨front', rfl, hmore⟩ | ⟨left, rfl, hleft⟩
  · exact .inr ⟨front', rfl, hmore⟩
  · cases left with
    | nil => exact .inr ⟨[], by simp, hleft.symm⟩
    | cons w left =>
      obtain ⟨rfl, -⟩ := List.cons_eq_cons.1 hleft
      exact .inl ⟨left, rfl⟩

theorem marks_outline_hotkey (haround : laidOut around = true) (outer : Binding)
    (body : List Action) :
    ((Action.hotkey outer body).outline depth).filterMap Row.mark?
      = ((Action.hotkey outer body).tour around).flatMap Visit.marks := by
  have hmarks := @marks_actionsOutline around depth haround [.hotkey outer body]
  rwa [actionsOutline, actionsOutline, actionsTour, actionsTour, List.append_nil,
    List.append_nil] at hmarks

/-- The block of the hotkey that a tour enters after some steps stands behind the braces and calls of
these steps. -/
theorem hasBlock_actionsOutline (haround : laidOut around = true)
    (hheader : b.headerIn? inner = some header) {actions : List Action} {front rest : List Visit}
    (htour : actionsTour around actions = front ++ .enter inner b :: rest) :
    ∃ deep, deep + around.length = depth + inner.length
      ∧ HasBlock b header deep (front.flatMap Visit.marks) (actionsOutline depth actions) := by
  induction actions using Action.induction generalizing around depth front rest with
  | nil => exact absurd htour (by simp [actionsTour])
  | raw code actions ih =>
    obtain ⟨deep, hdeep, hblock⟩ := ih haround htour
    have hbehind := hblock.append_left (Row.ofText depth .given code)
    rw [Row.ofText, marks_map (.inl rfl)] at hbehind
    exact ⟨deep, hdeep, hbehind⟩
  | key a actions ih =>
    obtain ⟨deep, hdeep, hblock⟩ := ih haround htour
    have hbehind := hblock.append_left (Row.ofText depth .built a.text)
    rw [Row.ofText, marks_map (.inr rfl)] at hbehind
    exact ⟨deep, hdeep, hbehind⟩
  | release r actions ih => exact ih haround htour
  | hotkey outer body actions ihBody ihRest =>
    rw [actionsTour] at htour
    rw [actionsOutline]
    rcases step_in_append htour with ⟨left, hself⟩ | ⟨front', rfl, hrest⟩
    · rw [Action.tour] at hself
      cases front with
      | nil =>
        -- The hotkey is entered right here.
        obtain ⟨hvisit, -⟩ := List.cons_eq_cons.1 hself
        cases hvisit
        have hself : b.header? = some header := by rwa [Binding.headerIn?, if_pos haround] at hheader
        rw [Action.outline_hotkey, hself]
        exact ⟨depth, rfl, [], sequenceOutline (depth + 1) body, _, rfl, rfl⟩
      | cons first front =>
        obtain ⟨rfl, hinside⟩ := List.cons_eq_cons.1 hself
        rcases step_in_append hinside with ⟨left', hbody⟩ | ⟨front', -, hlast⟩
        · cases hlaid : laidOut (outer :: around) with
          | false =>
            have hmem : .enter inner b ∈ actionsTour (outer :: around) body := by simp [hbody]
            exact absurd (hheader.symm.trans (header?_of_mem_tour hlaid _ hmem)) (by simp)
          | true =>
            obtain ⟨deep, hdeep, hblock⟩ := @ihBody _ (depth + 1) hlaid _ _ hbody
            have houter : outer.header?.isSome = true := by
              rw [laidOut_cons, Bool.and_eq_true] at hlaid
              exact hlaid.1
            obtain ⟨name, hname⟩ := Option.isSome_iff_exists.1 houter
            have hdepth : deep + around.length = depth + inner.length := by
              rw [List.length_cons] at hdeep
              omega
            have hentered : (Visit.enter around outer).marks
                = .opening :: outer.callMarks name .start := by
              rw [Visit.marks, Binding.headerIn?, if_pos haround, hname]
            have hbody := hblock.append_right (Row.lettingGo (depth + 1) (heldAfter body).keys)
            refine ⟨deep, hdepth, HasBlock.append_right ?_ (actionsOutline depth actions)⟩
            rw [Action.outline_hotkey, hname, List.flatMap_cons, hentered]
            exact hbody.enclosing hname depth
        · -- The tour leaves the hotkey right here.
          cases front' with
          | nil => cases (List.cons_eq_cons.1 hlast).1
          | cons last front' => exact absurd (List.cons_eq_cons.1 hlast).2 (by simp)
    · obtain ⟨deep, hdeep, hblock⟩ := ihRest haround hrest
      have hbehind := hblock.append_left ((Action.hotkey outer body).outline depth)
      rw [marks_outline_hotkey haround, ← List.flatMap_append] at hbehind
      exact ⟨deep, hdeep, hbehind⟩

end

/-! ## Rows that call nobody -/

/-- A text without a parenthesis, so without a call. -/
def IsSilent (w : String) : Prop := '(' ∉ w.toList

instance (w : String) : Decidable (IsSilent w) := inferInstanceAs (Decidable (¬ _))

section

variable {w v : String}

@[simp] theorem isSilent_append : IsSilent (w ++ v) ↔ IsSilent w ∧ IsSilent v := by
  simp [IsSilent]

theorem isSilent_of_isDigit {others : List Char} (hothers : '(' ∉ others)
    (h : ∀ c ∈ w.toList, c.isDigit = true ∨ c ∈ others) : IsSilent w := by
  intro hparen
  rcases h _ hparen with hdigit | hother
  · revert hdigit
    decide
  · exact hothers hother

theorem isSilent_label {k : Key} {l : String} (h : k.label = some l) : IsSilent l := by
  have hall : ∀ k ∈ Key.all, ∀ l ∈ k.label, IsSilent l := by decide +kernel
  exact hall k (Key.mem_all k) l h

theorem isSilent_clickLabel {k : Key} {l : String} (h : k.clickLabel = some l) : IsSilent l := by
  have hall : ∀ k ∈ Key.all, ∀ l ∈ k.clickLabel, IsSilent l := by decide +kernel
  exact hall k (Key.mem_all k) l h

theorem isSilent_modifierSymbol {k : Key} {l : String} (h : k.modifierSymbol = some l) :
    IsSilent l := by
  have hall : ∀ k ∈ Key.all, ∀ l ∈ k.modifierSymbol, IsSilent l := by decide +kernel
  exact hall k (Key.mem_all k) l h

theorem isSilent_join {ws : List String} (h : ∀ w ∈ ws, IsSilent w) : IsSilent (String.join ws) := by
  rw [IsSilent, String.toList_join, List.mem_flatMap]
  rintro ⟨w, hw, hparen⟩
  exact h w hw hparen

theorem isSilent_braced (h : IsSilent w) : IsSilent (Statement.braced w) := by
  have hopening : IsSilent "\x7b" := by decide
  have hclosing : IsSilent "\x7d" := by decide
  exact isSilent_append.2 ⟨isSilent_append.2 ⟨hopening, h⟩, hclosing⟩

theorem isSilent_withDirection (h : IsSilent w) (d : Direction) :
    IsSilent (Statement.withDirection w d) := by
  have hspace : IsSilent " " := by decide
  have hdown : IsSilent "Down" := by decide
  have hup : IsSilent "Up" := by decide
  cases d with
  | down => exact isSilent_append.2 ⟨isSilent_append.2 ⟨h, hspace⟩, hdown⟩
  | up => exact isSilent_append.2 ⟨isSilent_append.2 ⟨h, hspace⟩, hup⟩
  | both => exact h

theorem isSilent_send (k : Key) (d : Direction) : IsSilent (Statement.send k d) := by
  have hword : IsSilent "Send, " := by decide
  rw [Statement.send]
  split
  · rename_i label hlabel
    exact isSilent_append.2
      ⟨hword, isSilent_braced (isSilent_withDirection (isSilent_label hlabel) d)⟩
  · decide

theorem isSilent_sendMany (keys : List Key) : IsSilent (Statement.sendMany keys) := by
  have hword : IsSilent "Send, " := by decide
  have hbatch : IsSilent (Statement.batch keys) := by
    apply isSilent_join
    intro group hgroup
    obtain ⟨label, hlabel, rfl⟩ := List.mem_map.1 hgroup
    obtain ⟨k, -, hk⟩ := List.mem_filterMap.1 hlabel
    exact isSilent_braced (isSilent_label hk)
  rw [Statement.sendMany]
  split
  · decide
  · exact isSilent_append.2 ⟨hword, hbatch⟩

theorem isSilent_pointText (at? : Option Point) : IsSilent (Statement.pointText at?) := by
  have hspace : IsSilent " " := by decide
  have hnumber (x : Single) : IsSilent x.text := by
    have hletters : '(' ∉ ['.', '-', 'i', 'n', 'f', 'N', 'a'] := by decide
    exact isSilent_of_isDigit hletters fun c hc => Text.mem_text hc
  cases at? with
  | none => decide
  | some p =>
    simp only [Statement.pointText, isSilent_append]
    exact ⟨⟨⟨hnumber p.x, hspace⟩, hnumber p.y⟩, hspace⟩

theorem isSilent_click (k : Key) (d : Direction) (at? : Option Point) :
    IsSilent (Statement.click k d at?) := by
  have hword : IsSilent "Click, " := by decide
  rw [Statement.click]
  split
  · rename_i button hbutton
    have hdirected := isSilent_withDirection (isSilent_clickLabel hbutton) d
    exact isSilent_append.2
      ⟨hword, isSilent_braced (isSilent_append.2 ⟨isSilent_pointText at?, hdirected⟩)⟩
  · decide

theorem isSilent_sleep (d : Duration) : IsSilent (Statement.sleep d) := by
  have hword : IsSilent "Sleep, " := by decide
  have hpoint : '(' ∉ ['.'] := by decide
  refine isSilent_append.2 ⟨hword, isSilent_of_isDigit hpoint ?_⟩
  intro c hc
  rcases Text.mem_millisText hc with hdigit | rfl
  · exact .inl hdigit
  · exact .inr List.mem_cons_self

theorem isSilent_edge (target : Target) (d : Direction) : IsSilent (KeyAction.edge target d) := by
  have hnothing : IsSilent "" := by decide
  cases target with
  | keyboard k => exact isSilent_send k d
  | mouse k at? => exact isSilent_click k d at?
  | batch keys => exact hnothing

theorem isSilent_timedText (target : Target) (d : Duration) :
    IsSilent (KeyAction.timedText target d) := by
  have hdown := isSilent_edge target .down
  have hup := isSilent_edge target .up
  have hsleep := isSilent_sleep d
  rw [KeyAction.timedText]
  split
  · decide
  · simp only [IsSilent] at hdown hup hsleep ⊢
    simp [hdown, hup, hsleep]

theorem isSilent_text (a : KeyAction) : IsSilent a.text := by
  have hsingle (target : Target) : IsSilent (if a.press then KeyAction.edge target .both
      else if a.duration.isZero then KeyAction.edge target a.direction
      else KeyAction.timedText target a.duration) := by
    split
    · exact isSilent_edge target .both
    · split
      · exact isSilent_edge target a.direction
      · exact isSilent_timedText target a.duration
  rw [KeyAction.text]
  cases a.target with
  | keyboard k => exact hsingle (.keyboard k)
  | mouse k at? => exact hsingle (.mouse k at?)
  | batch keys => exact isSilent_sendMany keys

theorem isSilent_header {b : Binding} {header : String} (h : b.header? = some header) :
    IsSilent header := by
  have hand : IsSilent " & " := by decide
  have hmodifiers : IsSilent b.modifierText := by
    apply isSilent_join
    intro symbol hsymbol
    obtain ⟨k, -, hk⟩ := List.mem_filterMap.1 hsymbol
    exact isSilent_modifierSymbol hk
  have hmark : IsSilent (Binding.upMark b.direction) := by
    cases b.direction <;> decide
  have htrigger {keys : String} (hkeys : b.trigger.text? = some keys) : IsSilent keys := by
    cases ht : b.trigger with
    | key k =>
      rw [ht] at hkeys
      exact isSilent_label hkeys
    | combo left right =>
      rw [ht, Trigger.text?] at hkeys
      split at hkeys
      · rename_i l r hl hr
        rw [← Option.some.inj hkeys]
        exact isSilent_append.2
          ⟨isSilent_append.2 ⟨isSilent_label hl, hand⟩, isSilent_label hr⟩
      · cases hkeys
  obtain ⟨keys, hkeys, rfl⟩ := Option.map_eq_some_iff.1 h
  exact isSilent_append.2 ⟨isSilent_append.2 ⟨hmodifiers, htrigger hkeys⟩, hmark⟩

end

/-! ## What rows are -/

/-- The line of a row is what the kind of the row says, with `texts` as the texts that were given:
only the rows of calls have calls that were not given, and their literals are their headers. -/
def Row.Genuine (texts : List String) (r : Row) : Prop :=
  match r.kind with
  | .given => ∃ t ∈ texts, r.line ∈ Text.lines t.toList
  | .built => '(' ∉ r.line ∧ '\r' ∉ r.line
  | .opening => r.line = ['\x7b']
  | .closing => r.line = ['\x7d']
  | .call header => ∃ front literal,
      r.line = front ++ ("SendPipeMessage(".toList ++ (literal ++ [')']))
      ∧ Text.readLiteral (literal ++ [')']) = some (header.toList, [')'])
      ∧ (front = [] ∨ ∃ t ∈ texts, ∃ p, p <:+ t.toList ∧ front = p ++ " := ".toList)

section

variable {depth : Nat} {texts : List String}

theorem Row.Genuine.mono {r : Row} (h : r.Genuine texts) {texts' : List String}
    (htexts : ∀ t ∈ texts, t ∈ texts') : r.Genuine texts' := by
  obtain ⟨depth, line, kind⟩ := r
  cases kind with
  | given =>
    obtain ⟨t, ht, hline⟩ := h
    exact ⟨t, htexts t ht, hline⟩
  | call header =>
    obtain ⟨front, literal, hline, hread, hfront⟩ := h
    refine ⟨front, literal, hline, hread, ?_⟩
    rcases hfront with hnone | ⟨t, ht, hname⟩
    · exact .inl hnone
    · exact .inr ⟨t, htexts t ht, hname⟩
  | _ => exact h

theorem genuine_built {line : String} (hsilent : IsSilent line) (hline : Text.IsLine line.toList) :
    (Row.built depth line).Genuine texts :=
  ⟨hsilent, fun hreturn => (hline _ hreturn).2 rfl⟩

theorem genuine_headerRow {b : Binding} {header : String} (h : b.header? = some header) :
    (b.headerRow header depth).Genuine texts := by
  have hmark : IsSilent (if b.blocking then "" else "~") := by
    split <;> decide
  have hend : IsSilent "::" := by decide
  exact genuine_built (isSilent_append.2 ⟨isSilent_append.2 ⟨hmark, isSilent_header h⟩, hend⟩)
    (Binding.isLine_headerRow h depth)

theorem isSilent_sendMode (mode : SendMode) : IsSilent (Statement.sendMode mode) := by
  cases mode <;> decide

theorem genuine_lettingGo (keys : List Key) :
    ∀ r ∈ Row.lettingGo depth keys, r.Genuine texts := by
  intro r hr
  obtain ⟨k, -, rfl⟩ := List.mem_map.1 hr
  exact genuine_built (isSilent_send k .up) (isLine_send k .up)

theorem genuine_ofKey (a : KeyAction) :
    ∀ r ∈ Row.ofText depth .built a.text, r.Genuine texts := by
  intro r hr
  obtain ⟨line, hline, rfl⟩ := List.mem_map.1 hr
  constructor
  · exact fun hparen => isSilent_text a (Text.mem_of_mem_lines hline hparen)
  · exact fun hreturn => (a.typed_text.1 line hline _ hreturn).2 rfl

theorem genuine_callRows {b : Binding} {header : String} (h : b.header? = some header)
    (here : Placement) :
    ∀ r ∈ b.callRows header depth here, r.Genuine b.capture.toList := by
  obtain ⟨literal, hliteral, hread⟩ := Binding.exists_quote_header h
  obtain ⟨ls, front, hrows, hgiven, hfront⟩ := b.ofCall_spec hliteral depth
  rw [b.callRows_eq hliteral, hrows]
  split
  · refine List.forall_mem_append.2 ⟨?_, List.forall_mem_singleton.2 ?_⟩
    · intro r hr
      obtain ⟨line, hline, rfl⟩ := List.mem_map.1 hr
      obtain ⟨name, hname, hmem⟩ := hgiven line hline
      exact ⟨name, Option.mem_toList.2 hname, hmem⟩
    · refine ⟨front, literal.toList, ?_, hread [')'] (by decide), ?_⟩
      · rw [toList_announces]
      · rcases hfront with hnone | ⟨name, hname, hfront⟩
        · exact .inl hnone
        · exact .inr ⟨name, Option.mem_toList.2 hname, hfront⟩
  · exact List.forall_mem_nil _

theorem genuine_actionsOutline (actions : List Action) :
    ∀ r ∈ actionsOutline depth actions, r.Genuine (actionsTexts actions) := by
  induction actions using Action.induction generalizing depth with
  | nil => exact List.forall_mem_nil _
  | raw code rest ih =>
    refine List.forall_mem_append.2 ⟨?_, fun r hr => (ih r hr).mono fun _ => ?_⟩
    · intro r hr
      obtain ⟨line, hline, rfl⟩ := List.mem_map.1 hr
      exact ⟨code, List.mem_cons_self, hline⟩
    · exact List.mem_append_right _
  | key a rest ih => exact List.forall_mem_append.2 ⟨genuine_ofKey a, ih⟩
  | release r rest ih => exact ih
  | hotkey b body rest ihBody ihRest =>
    refine List.forall_mem_append.2 ⟨?_, fun r hr => (ihRest r hr).mono fun _ => ?_⟩
    · rw [Action.outline]
      cases hheader : b.header? with
      | none => exact List.forall_mem_nil _
      | some header =>
        have hcalls (here : Placement) : ∀ r ∈ b.callRows header (depth + 1) here,
            r.Genuine (actionsTexts (.hotkey b body :: rest)) := by
          intro r hr
          apply (genuine_callRows hheader here r hr).mono
          exact fun _ ht => List.mem_append_left _ (List.mem_append_left _ ht)
        have hbody : ∀ r ∈ actionsOutline (depth + 1) body,
            r.Genuine (actionsTexts (.hotkey b body :: rest)) := by
          intro r hr
          apply (ihBody r hr).mono
          exact fun _ ht => List.mem_append_left _ (List.mem_append_right _ ht)
        have hreturn : IsSilent "return" := by decide
        refine Binding.forall_enclosing.2 ⟨?_, rfl, ?_, hcalls .start,
          List.forall_mem_append.2 ⟨hbody, genuine_lettingGo _⟩, hcalls .last, ?_, rfl⟩
        · exact genuine_headerRow hheader
        · exact genuine_built (isSilent_sendMode b.sendMode) (isLine_sendMode b.sendMode)
        · exact genuine_built hreturn (by decide)
    · exact List.mem_append_right _

theorem genuine_sequenceOutline (actions : List Action) :
    ∀ r ∈ sequenceOutline depth actions, r.Genuine (actionsTexts actions) :=
  List.forall_mem_append.2 ⟨genuine_actionsOutline actions, genuine_lettingGo _⟩

/-- Rows that were not given are printed as they are. -/
theorem Row.Genuine.printed {r : Row} (h : r.Genuine texts) (hkind : r.kind ≠ .given)
    (width level : Nat) :
    Text.indentLine (indentation width level) (r.content width) = r.printed width level := by
  apply Text.indentLine_nested
  obtain ⟨depth, line, kind⟩ := r
  cases kind with
  | given => exact absurd rfl hkind
  | built => exact fun hlast => h.2 (List.mem_of_getLast? hlast)
  | opening =>
    have hbrace : ['\x7b'].getLast? ≠ some '\r' := by decide
    exact (show line = ['\x7b'] from h) ▸ hbrace
  | closing =>
    have hbrace : ['\x7d'].getLast? ≠ some '\r' := by decide
    exact (show line = ['\x7d'] from h) ▸ hbrace
  | call header =>
    obtain ⟨front, literal, rfl, -, -⟩ := h
    have hparen : ')' ≠ '\r' := by decide
    rw [← List.append_assoc, ← List.append_assoc, List.getLast?_concat]
    exact fun heq => hparen (Option.some.inj heq)

end

/-! ## The call of a hotkey -/

/-- One of some rows calls the host. It is printed as a line that ends with the call, and the argument
is a literal for a header. -/
def CallsOnce (print : Row → List Char) (header : String) (rows : List Row) : Prop :=
  ∃ given own front literal, rows = given ++ [own]
    ∧ (∀ r ∈ given, r.called? = none) ∧ own.called? = some header
    ∧ print own = front ++ ("SendPipeMessage(".toList ++ (literal ++ [')', '\n']))
    ∧ Text.readLiteral (literal ++ [')']) = some (header.toList, [')'])

/-- A text is printed from the rows of a sequence. The block of the hotkey that its tour enters after
some steps stands behind the braces and calls of these steps. Apart from the rows of the body, one
row of the block calls the host, with the header of the hotkey. -/
structure OwnCall (actions : List Action) (steps : List Visit) (around : List Binding)
    (b : Binding) (header : String) (print : Row → List Char) (text : String) : Prop where
  printed : text.toList = (sequenceOutline 0 actions).flatMap print
  block : HasBlock b header around.length (steps.flatMap Visit.marks) (sequenceOutline 0 actions)
  called : CallsOnce print header (b.callRows header (around.length + 1) b.placement)
  elsewhere : ∀ here, here ≠ b.placement → b.callRows header (around.length + 1) here = []

section

variable {around : List Binding} {b : Binding} {header : String}

theorem Binding.header?_of_headerIn? (h : b.headerIn? around = some header) :
    b.header? = some header := by
  rw [headerIn?] at h
  split at h
  · exact h
  · cases h

theorem Binding.callsOnce (hheader : b.header? = some header) (hcallback : b.callback.isSome = true)
    (width level depth : Nat) :
    CallsOnce (fun r => Text.indentLine (indentation width level) (r.content width)) header
      (b.callRows header depth b.placement) := by
  obtain ⟨literal, hliteral, hread⟩ := Binding.exists_quote_header hheader
  obtain ⟨ls, front, hrows, -⟩ := b.ofCall_spec hliteral depth
  have hcall : b.callRows header depth b.placement
      = ls.map (fun line => ⟨depth, line, .given⟩)
        ++ [⟨depth, front ++ (announces literal).toList, .call header⟩] := by
    rw [b.callRows_eq hliteral, if_pos ⟨hcallback, rfl⟩, hrows]
  have hgenuine := @genuine_callRows depth b header hheader b.placement
  rw [hcall] at hgenuine ⊢
  refine ⟨_, _, List.replicate (indentation width level + width * depth) ' ' ++ front,
    literal.toList, rfl, ?_, rfl, ?_, hread [')'] (by decide)⟩
  · intro r hr
    obtain ⟨line, -, rfl⟩ := List.mem_map.1 hr
    rfl
  · have hprinted := (hgenuine _ List.mem_concat_self).printed (by simp) width level
    have hfull : front ++ (announces literal).toList ≠ [] :=
      List.append_ne_nil_of_right_ne_nil _ (announces_ne_nil literal)
    refine hprinted.trans ?_
    rw [Row.printed, Text.indentLine, if_neg (mt List.isEmpty_iff.1 hfull), toList_announces]
    simp

/-- Wherever in a sequence a hotkey with a callback stands, its own line calls the host with its
header. -/
theorem ownCall (hheader : b.headerIn? around = some header) (hcallback : b.callback.isSome = true)
    {actions : List Action} {steps rest : List Visit}
    (hplace : actionsTour [] actions = steps ++ .enter around b :: rest) (width level : Nat) :
    OwnCall actions steps around b header
      (fun r => Text.indentLine (indentation width level) (r.content width))
      (sequenceText width level actions) where
  printed := toList_sequenceText width level actions
  block := by
    obtain ⟨deep, hdeep, hblock⟩ :
        ∃ deep, deep + ([] : List Binding).length = 0 + around.length
          ∧ HasBlock b header deep (steps.flatMap Visit.marks) (actionsOutline 0 actions) :=
      hasBlock_actionsOutline rfl hheader hplace
    obtain rfl : deep = around.length := by simpa using hdeep
    exact hblock.append_right _
  called := Binding.callsOnce (Binding.header?_of_headerIn? hheader) hcallback width level _
  elsewhere here hhere := by
    obtain ⟨literal, hliteral, -⟩ :=
      Binding.exists_quote_header (Binding.header?_of_headerIn? hheader)
    rw [b.callRows_eq hliteral, if_neg fun h => hhere h.2.symm]

/-- Laying out registers the callback of a hotkey under its header. -/
theorem mem_actionsDue (hheader : b.headerIn? around = some header) {callback : Callback}
    (hcallback : b.callback = some callback) {actions : List Action} {steps rest : List Visit}
    (hplace : actionsTour [] actions = steps ++ .enter around b :: rest) (into : RegistryId) :
    (⟨into, header, callback⟩ : Registration) ∈ actionsDue into actions := by
  have hmem : .enter around b ∈ actionsTour [] actions := by simp [hplace]
  refine List.mem_filterMap.2 ⟨_, hmem, ?_⟩
  rw [Visit.registration?, hheader, hcallback]

end

/-! ## Logs -/

/-- The header of a registration that is noted in the log. -/
def Event.registered? : Event → Option String
  | .callbackRegistered header _ => some header
  | _ => none

/-- Every registration of a layout is noted once, in order, and nothing else looks like one. -/
theorem Host.registered_performAll (h : Host) (id : RegistryId) (effects : List Effect) :
    (h.performAll id effects).events.filterMap Event.registered?
      = h.events.filterMap Event.registered?
        ++ (effects.filterMap (Effect.registration? id)).map Registration.header := by
  induction effects generalizing h with
  | nil => exact (List.append_nil _).symm
  | cons e effects ih =>
    rw [performAll, List.foldl_cons, ← performAll, ih]
    have hsilent {h' : Host} {e : Event} (he : e.registered? = none) :
        (h'.note e).events.filterMap Event.registered? = h'.events.filterMap Event.registered? := by
      rw [note, List.filterMap_append, List.filterMap_cons, he]
      exact List.append_nil _
    cases e with
    | register header callback =>
      have hnoted : (h.perform id (.register header callback)).events.filterMap Event.registered?
          = h.events.filterMap Event.registered? ++ [header] := List.filterMap_append
      rw [hnoted, List.append_assoc]
      rfl
    | unresolved trigger =>
      rw [perform, hsilent rfl]
      rfl
    | letGo key =>
      rw [perform, hsilent rfl]
      rfl

/-! ## Generating -/

/-- What a registry holds after a sequence is laid out. -/
theorem Generator.get?_generate (g : Generator) (actions : List Action) (level : Nat) (host : Host)
    {id : RegistryId} (hid : id.index < host.registries.length) (header : String) :
    ((g.generate actions level host).2.registry id).get? header
      = (Registration.last? (actionsDue g.registry actions) id header).or
          ((host.registry id).get? header) := by
  rw [generate, Host.registry, Host.registries_performAll, registrations_sequenceEffects,
    Registration.get?_foldl_enter _ hid, Host.registry]

theorem Registration.last?_eq_none {log : List Registration} {id : RegistryId} {header : String}
    (h : ∀ r ∈ log, r.isUnder id header = false) : last? log id header = none := by
  have hnothing : log.filter (isUnder id header) = [] := by
    apply List.filter_eq_nil_iff.2
    intro r hr
    rw [h r hr]
    exact Bool.false_ne_true
  rw [last?, hnothing]
  rfl

/-- Laying out registers what is due, in order, and nothing else. The text is made of the rows of
the outline; only those marked so call the host, each with its header, behind the opening brace of
its hotkey or in front of the closing one, and there is one of them for each registration. Every
header that is called is registered, the last registration of a header answers it, and laying out
again changes neither the text nor what is registered. -/
theorem calls_match_registrations (g : Generator) (actions : List Action) (level : Nat)
    (host : Host) (hregistry : g.registry.index < host.registries.length) :
    let rows := sequenceOutline 0 actions
    let due := actionsDue g.registry actions
    let text := (g.generate actions level host).1
    let after := (g.generate actions level host).2
    (after.registries = due.foldl Registration.enter host.registries
        ∧ after.events.filterMap Event.registered?
          = host.events.filterMap Event.registered? ++ due.map Registration.header)
      ∧ (∀ id header, id.index < host.registries.length →
        (∀ r ∈ due, r.isUnder id header = false) →
          (after.registry id).get? header = (host.registry id).get? header)
      ∧ (text.toList = rows.flatMap (fun r =>
            Text.indentLine (indentation g.config.indentWidth level)
              (r.content g.config.indentWidth))
        ∧ ∀ r ∈ rows, r.Genuine (actionsTexts actions) ∧ (r.kind ≠ .given →
            Text.indentLine (indentation g.config.indentWidth level)
                (r.content g.config.indentWidth)
              = r.printed g.config.indentWidth level))
      ∧ (rows.filterMap Row.mark? = (actionsTour [] actions).flatMap Visit.marks
        ∧ (rows.filterMap Row.called?).Perm (due.map Registration.header))
      ∧ (∀ header ∈ rows.filterMap Row.called?,
          ∃ callback, Registration.last? due g.registry header = some callback)
      ∧ (∀ header callback, Registration.last? due g.registry header = some callback →
          after.dispatch g.registry header = after.invoke callback header)
      ∧ (g.generate actions level after).1 = text
      ∧ ∀ id header, id.index < host.registries.length →
          ((g.generate actions level after).2.registry id).get? header
            = (after.registry id).get? header := by
  intro rows due text after
  have hdue : (sequenceEffects actions).filterMap (Effect.registration? g.registry) = due :=
    registrations_sequenceEffects g.registry actions
  have hregistries : after.registries = due.foldl Registration.enter host.registries := by
    rw [← hdue]
    exact Host.registries_performAll host g.registry (sequenceEffects actions)
  have hlength : after.registries.length = host.registries.length := by
    rw [hregistries, Registration.length_foldl_enter]
  have hmarks : rows.filterMap Row.mark? = (actionsTour [] actions).flatMap Visit.marks :=
    marks_sequenceOutline actions
  have hcalls : (rows.filterMap Row.called?).Perm (due.map Registration.header) := by
    rw [called_eq, hmarks]
    exact calls_perm_registrations g.registry actions
  refine ⟨⟨hregistries, ?_⟩, ?_, ⟨toList_sequenceText _ level actions, ?_⟩, ⟨hmarks, hcalls⟩, ?_, ?_,
    rfl, ?_⟩
  · rw [← hdue]
    exact Host.registered_performAll host g.registry (sequenceEffects actions)
  · intro id header hid hother
    rw [g.get?_generate actions level host hid header, Registration.last?_eq_none hother]
    rfl
  · intro r hr
    have hgenuine := genuine_sequenceOutline actions r hr
    exact ⟨hgenuine, fun hkind => hgenuine.printed hkind g.config.indentWidth level⟩
  · intro header hheader
    obtain ⟨r, hr, rfl⟩ := List.mem_map.1 (hcalls.subset hheader)
    have hunder : r.isUnder g.registry r.header = true := by
      simp [Registration.isUnder, into_of_mem_actionsDue hr]
    exact Option.isSome_iff_exists.1 (Registration.isSome_last? hr hunder)
  · intro header callback hlast
    have hfound : (after.registry g.registry).get? header = some callback := by
      rw [g.get?_generate actions level host hregistry header, hlast]
      rfl
    rw [Host.dispatch, Host.dispatchWith, Host.lookUp, hfound, Host.invoke]
  · intro id header hid
    have hbefore := g.get?_generate actions level host hid header
    have hagain := g.get?_generate actions level after (hlength ▸ hid) header
    rw [hagain, hbefore, ← Option.or_assoc, Option.or_self]

/-- A hotkey with another one of the same header in its body, and one that is left out with what is
in it. -/
def doubledHotkeys : List Action :=
  let inner := { Hotkey.ofTrigger (.key .f1) [] with callback := some (.const "inner") }
  let hidden := { Hotkey.ofTrigger (.key .f3) [] with callback := some (.const "hidden") }
  let unresolved := { Hotkey.ofTrigger (.key .windows) [] with
    callback := some (.const "unresolved"), body := [hidden.toAction] }
  let outer := { Hotkey.ofTrigger (.key .f1) [] with
    callback := some (.const "outer"), placement := .last
    body := [unresolved.toAction, inner.toAction] }
  [outer.toAction]

theorem generate_doubledHotkeys :
    let host := (Host.fresh 8).newRegistry.2
    let after := (Generator.generate ⟨.default, ⟨0⟩⟩ doubledHotkeys 0 host).2
    0 < host.registries.length
      ∧ (after.dispatch ⟨0⟩ "F1").1 = .reply "inner"
      ∧ (after.registry ⟨0⟩).get? "F3" = none := by
  intro host after
  have hregistry : 0 < host.registries.length := by decide
  obtain ⟨-, hother, -, -, -, hdispatch, -⟩ :=
    calls_match_registrations ⟨.default, ⟨0⟩⟩ doubledHotkeys 0 host hregistry
  have hdue : actionsDue ⟨0⟩ doubledHotkeys
      = [⟨⟨0⟩, "F1", .const "outer"⟩, ⟨⟨0⟩, "F1", .const "inner"⟩] := rfl
  have hunregistered : ∀ r ∈ actionsDue ⟨0⟩ doubledHotkeys, r.isUnder ⟨0⟩ "F3" = false := by
    simp [hdue, Registration.isUnder]
  refine ⟨hregistry, ?_, hother ⟨0⟩ "F3" hregistry hunregistered⟩
  rw [hdispatch "F1" (.const "inner") rfl]
  rfl

end KeyBridge
