-- SUMMARY: The client that a bridge installs in a script is that of its live channel.
import KeyBridge.Proofs.Channels
import KeyBridge.Proofs.Literals
import KeyBridge.Proofs.Replays

/-!
# Installation

Each load gives the engine one piece of code. Its last line creates the client, so whatever stands
before, the client's variable ends up with the literal of the channel's name. What stands before is
the stub if the script lacks it, which is known from one function (`functionExists_useAll`).
-/

namespace KeyBridge

/-! ## Replacement in lines -/

namespace Text

section

variable {old : List Char}

/-- An occurrence without line feeds does not reach over the end of a line. -/
theorem isPrefixOf_append_feed (hold : '\n' ∉ old) (cs ds : List Char) :
    old.isPrefixOf (cs ++ '\n' :: ds) = old.isPrefixOf cs := by
  induction old generalizing cs with
  | nil => simp
  | cons c old ih =>
    obtain ⟨hc, hold⟩ : '\n' ≠ c ∧ '\n' ∉ old := by simpa using hold
    cases cs with
    | nil =>
      have hfirst : (c == '\n') = false := beq_false_of_ne hc.symm
      rw [List.nil_append, List.isPrefixOf_cons_cons, hfirst]
      rfl
    | cons d cs =>
      rw [List.cons_append, List.isPrefixOf_cons_cons, List.isPrefixOf_cons_cons, ih hold cs]

theorem replaceAfter_append_feed (hold : '\n' ∉ old) (hne : old ≠ []) (new ds : List Char)
    {cs : List Char} {skip : Nat} (hskip : skip ≤ cs.length) :
    replaceAfter old new skip (cs ++ '\n' :: ds)
      = replaceAfter old new skip cs ++ '\n' :: replaceAfter old new 0 ds := by
  induction cs generalizing skip with
  | nil =>
    have hnot : ¬old.isPrefixOf ('\n' :: ds) = true := by
      rw [← List.nil_append ('\n' :: ds), isPrefixOf_append_feed hold]
      simpa using hne
    obtain rfl : skip = 0 := Nat.le_zero.1 hskip
    simp [replaceAfter, hnot]
  | cons c cs ih =>
    cases skip with
    | succ skip =>
      rw [List.cons_append, replaceAfter, replaceAfter]
      exact ih (Nat.le_of_succ_le_succ hskip)
    | zero =>
      have hsame := isPrefixOf_append_feed hold (c :: cs) ds
      rw [List.cons_append] at hsame ⊢
      rw [replaceAfter, replaceAfter, hsame]
      split
      · rename_i hfound
        have hlength := (List.isPrefixOf_iff_prefix.1 hfound).length_le
        rw [List.length_cons] at hlength
        rw [ih (by omega), List.append_assoc]
      · rw [ih (Nat.zero_le _), List.cons_append]

/-- Text is replaced in each line on its own. -/
theorem replaceAfter_lines (hold : '\n' ∉ old) (hne : old ≠ []) (new : List Char)
    (ls : List (List Char)) :
    replaceAfter old new 0 (ls.flatMap (· ++ ['\n']))
      = (ls.map (replaceAfter old new 0)).flatMap (· ++ ['\n']) := by
  induction ls with
  | nil => rfl
  | cons l ls ih =>
    rw [List.flatMap_cons, List.append_assoc, List.singleton_append,
      replaceAfter_append_feed hold hne new _ (Nat.zero_le _), ih]
    simp

end

/-- Text made of lines has as many line feeds as lines, at least. -/
theorem length_le_count_feed (ls : List (List Char)) :
    ls.length ≤ (ls.flatMap (· ++ ['\n'])).count '\n' := by
  induction ls with
  | nil => exact Nat.le_refl 0
  | cons l ls ih =>
    rw [List.flatMap_cons, List.count_append, List.count_append, List.length_cons]
    simp
    omega

theorem flatMap_feed_ends {ls : List (List Char)} (h : ls ≠ []) :
    ∃ cs, ls.flatMap (· ++ ['\n']) = cs ++ ['\n'] := by
  refine ⟨ls.dropLast.flatMap (· ++ ['\n']) ++ ls.getLast h, ?_⟩
  rw [List.append_assoc, ← List.flatMap_singleton (· ++ ['\n']) (ls.getLast h),
    ← List.flatMap_append, List.dropLast_concat_getLast]

theorem IsLine.count_feed {cs : List Char} (h : IsLine cs) : cs.count '\n' = 0 :=
  List.count_eq_zero.2 fun hmem => (h _ hmem).1 rfl

end Text

/-! ## The stub -/

namespace Client

variable (c : BridgeConfig)

/-- A line of the stub. -/
def stubLine (line : String) : List Char :=
  Text.replaceAfter sizeMark.toList (toString c.bufferSize).toList 0
    (Text.replaceAfter variableMark.toList c.clientVariable.toList 0 line.toList)

theorem toList_stub : (stub c).toList = (templateLines.map (stubLine c)).flatMap (· ++ ['\n']) := by
  have htemplate : template.toList = (templateLines.map String.toList).flatMap (· ++ ['\n']) := by
    rw [template, String.toList_join, List.flatMap_map, List.flatMap_map]
    simp
  rw [stub, Text.replaceAll, Text.replaceAll, String.toList_ofList, String.toList_ofList, htemplate,
    Text.replaceAfter_lines (by decide) (by decide),
    Text.replaceAfter_lines (by decide) (by decide), List.map_map, List.map_map]
  rfl

/-- The first line of the stub opens the definition of the function that is looked for. -/
theorem hasDefinition_stub : ScriptState.hasDefinition (stub c) probe = true := by
  have hfirst : stubLine c "PipeClient_GetVersion() \x7b" = "PipeClient_GetVersion() \x7b".toList :=
    rfl
  have hread : Line.read "PipeClient_GetVersion() \x7b".toList = .define probe := by
    decide +kernel
  rw [ScriptState.hasDefinition, List.contains_iff_mem, toList_stub, templateLines, List.map_cons,
    List.flatMap_cons, hfirst, List.append_assoc, List.singleton_append,
    Text.lines_append_newline (by decide), List.map_cons, hread]
  exact List.mem_cons_self

theorem length_templateLines_le : templateLines.length ≤ (stub c).toList.count '\n' := by
  have hcount := Text.length_le_count_feed (templateLines.map (stubLine c))
  rwa [← toList_stub, List.length_map] at hcount

/-! ## Set-up code -/

section

variable {c}

/-- What stands in front of the creation of a client ends with a line feed. -/
theorem preparation_ends (hasStub : Bool) :
    ∃ cs, (preparation c hasStub).toList = cs ++ ['\n'] := by
  cases hasStub with
  | true => exact ⟨(c.clientVariable ++ ".Close()").toList, by simp [preparation]⟩
  | false =>
    rw [preparation, if_neg Bool.false_ne_true, toList_stub]
    exact Text.flatMap_feed_ends (List.cons_ne_nil _ _)

/-- The name of a channel that ends with a word is quoted as it stands. -/
theorem nameLiteral_spec (start : String) {id : String} (hid : isName id.toList = true) :
    Text.IsLine (nameLiteral (start ++ id)).toList
      ∧ Text.readLiteral ((nameLiteral (start ++ id)).toList ++ [')'])
        = some ((start ++ id).toList, [')']) := by
  obtain ⟨hne, hword⟩ := isName_iff.1 hid
  obtain ⟨w, d, hlast⟩ : ∃ w d, id.toList = w ++ [d] :=
    ⟨_, _, (List.dropLast_concat_getLast hne).symm⟩
  have hd : d ∈ id.toList := hlast ▸ List.mem_concat_self
  have hname : (start ++ id).toList = start.toList ++ w ++ [d] := by
    rw [String.toList_append, hlast, List.append_assoc]
  have hunquoted : Text.unwrapQuotes (start ++ id).toList = (start ++ id).toList := by
    refine Text.unwrapQuotes_eq ?_
    rw [hname, List.getLast?_concat, ne_eq, Option.some.injEq]
    rintro rfl
    exact not_mem_of_isName hid (by decide) hd
  have hnot : Text.allBlank (Text.unwrapQuotes (start ++ id).toList) = false := by
    rw [hunquoted, hname, Text.allBlank_append, Text.allBlank_cons, isBlank_of_isName hid hd]
    exact Bool.and_false _
  obtain ⟨literal, hliteral⟩ := Text.exists_quote hnot
  have hread : Text.readLiteral (literal.toList ++ [')']) = _ :=
    Text.readLiteral_quote hliteral (by decide)
  rw [hunquoted] at hread
  rw [nameLiteral, hliteral, Option.getD_some]
  exact ⟨Text.isLine_quote hliteral, hread⟩

theorem read_creation (hc : isName c.clientVariable.toList = true) (channel : String) :
    Line.read (creation c channel).toList
      = .assign c.clientVariable ("new PipeClient(" ++ nameLiteral channel ++ ")") := by
  have hvalue : ("new PipeClient(" ++ nameLiteral channel ++ ")").toList
      = 'n' :: ("ew PipeClient(".toList ++ (nameLiteral channel).toList ++ [')']) := by
    simp
  refine Line.read_assignment hc ?_ ?_ ?_
  · simp [hvalue]
  · intro d hd
    rw [hvalue] at hd
    cases hd
    decide
  · intro d hd
    rw [hvalue, ← List.cons_append, List.getLast?_concat] at hd
    cases hd
    decide

theorem isLine_creation (hc : isName c.clientVariable.toList = true) {channel : String}
    (hchannel : Text.IsLine (nameLiteral channel).toList) :
    Text.IsLine (creation c channel).toList := by
  have hassign : Text.IsLine " := ".toList := by decide
  have hopen : Text.IsLine "new PipeClient(".toList := by decide
  have hclose : Text.IsLine ")".toList := by decide
  simp only [creation, Statement.assign, String.toList_append, Text.isLine_append]
  exact ⟨⟨isLine_of_isName hc, hassign⟩, ⟨hopen, hchannel⟩, hclose⟩

/-- The stub is in the code exactly for a script that lacks it: other code is too short. -/
theorem stub_infix_setUp (hc : isName c.clientVariable.toList = true) {channel : String}
    (hchannel : Text.IsLine (nameLiteral channel).toList) (hasStub : Bool) :
    (stub c).toList <:+: (setUp c hasStub channel).toList ↔ hasStub = false := by
  cases hasStub with
  | false =>
    refine iff_of_true (List.IsPrefix.isInfix ?_) rfl
    rw [setUp, String.append_assoc, String.toList_append, preparation, if_neg Bool.false_ne_true]
    exact List.prefix_append _ _
  | true =>
    refine iff_of_false (fun hwithin => ?_) (by decide)
    have hcount := hwithin.sublist.count_le '\n'
    have hlong := length_templateLines_le c
    have hline := (isLine_creation hc hchannel).count_feed
    have hclose : ".Close()\n".toList.count '\n' = 1 := by decide
    have hfeed : "\n".toList.count '\n' = 1 := by decide
    have hlines : 2 < templateLines.length := by decide
    rw [setUp, preparation, if_pos rfl] at hcount
    simp only [String.toList_append, List.count_append, (isLine_of_isName hc).count_feed, hline,
      hclose, hfeed] at hcount
    exact Nat.lt_irrefl 2 (Nat.lt_of_lt_of_le hlines (Nat.le_trans hlong hcount))

/-- Code for a script that has the stub starts with a line that closes the client before. -/
theorem close_prefix_setUp (c : BridgeConfig) (channel : String) :
    (c.clientVariable ++ ".Close()\n").toList <+: (setUp c true channel).toList := by
  refine ⟨(creation c channel ++ "\n").toList, ?_⟩
  rw [← String.toList_append, ← String.append_assoc]
  rfl

/-- Code for a script that lacks the stub defines the function that is looked for. -/
theorem hasDefinition_setUp (c : BridgeConfig) (channel : String) :
    ScriptState.hasDefinition (setUp c false channel) probe = true := by
  obtain ⟨cs, hends⟩ := preparation_ends (c := c) false
  have hstub := hasDefinition_stub c
  rw [setUp, String.append_assoc, ScriptState.hasDefinition_append hends, preparation,
    if_neg Bool.false_ne_true, hstub, Bool.true_or]

/-- Whatever is in front of the creation of the client, the variable holds the client then. -/
theorem getVariable_setUp (hc : isName c.clientVariable.toList = true) {channel : String}
    (hchannel : Text.IsLine (nameLiteral channel).toList) (e : RecordingEngine)
    (haccepts : e.rejecting = false) (hasStub : Bool) :
    ScriptEngine.getVariable (e.operate (.load (setUp c hasStub channel) .run)) c.clientVariable
      = "new PipeClient(" ++ nameLiteral channel ++ ")" := by
  obtain ⟨cs, hends⟩ := preparation_ends (c := c) hasStub
  have hscript : (e.operate (.load (setUp c hasStub channel) .run)).script
      = (e.script.absorb (preparation c hasStub)).assign c.clientVariable
        ("new PipeClient(" ++ nameLiteral channel ++ ")") := by
    rw [RecordingEngine.operate_load, if_neg (by simp [haccepts]), setUp,
      ScriptState.absorb_line _ hends (isLine_creation hc hchannel), read_creation hc]
    rfl
  rw [RecordingEngine.getVariable_eq, hscript]
  simp [ScriptState.assign]

end

end Client

namespace Bridge

/-! ## Loads -/

theorem channel?_load {σ : Type} [ScriptEngine σ] (b : Bridge σ) (handler : Handler) (id : String) :
    (b.load handler id).2.channel? = some (b.config.namePrefix ++ id) := by
  obtain ⟨-, hload⟩ := b.load_spec handler id
  obtain ⟨hs, -⟩ := b.board_opened handler (b.config.namePrefix ++ id)
  rw [hload]
  exact congrArg (Option.map Server.name) hs

variable (b : Bridge RecordingEngine)

/-- A load gives the engine one piece of code, and then says whether it was accepted. -/
theorem engine_load (handler : Handler) (id : String) :
    let code := Client.setUpFor b.engine b.config (b.config.namePrefix ++ id)
    (b.load handler id).1 = (if b.engine.rejecting then .error (.clientRefused code)
        else .ok (b.config.namePrefix ++ id))
      ∧ (b.load handler id).2.engine = b.engine.operate (.load code .run) := by
  intro code
  obtain ⟨hanswer, hload⟩ := b.load_spec handler id
  refine ⟨?_, by rw [hload]; rfl⟩
  have hoffer : (b.offer (b.config.namePrefix ++ id)).1 = !b.engine.rejecting :=
    RecordingEngine.fst_accept _ _
  rw [hanswer, hoffer]
  cases b.engine.rejecting <;> rfl

/-- A script that lacked the stub has it after a load that is accepted. -/
theorem functionExists_load (handler : Handler) (id : String) :
    ScriptEngine.functionExists (b.load handler id).2.engine Client.probe = true
      ↔ ScriptEngine.functionExists b.engine Client.probe = true ∨ b.engine.rejecting = false := by
  obtain ⟨-, hengine⟩ := b.engine_load handler id
  rw [hengine, RecordingEngine.functionExists_operate, Client.setUpFor]
  rcases hexists : ScriptEngine.functionExists b.engine Client.probe
  · simp [RecordingEngine.Operation.isReset, RecordingEngine.learns, Client.hasDefinition_setUp]
  · simp [RecordingEngine.Operation.isReset]

/-! ## Uses -/

/-- One thing that happens to a bridge and to its engine. -/
inductive Usage where
  | act (a : Act)
  /-- A channel is opened on which a handler answers. -/
  | load (handler : Handler) (id : String)
  | operate (o : RecordingEngine.Operation)

/-- Whether the engine is reset. -/
def Usage.isReset : Usage → Bool
  | .operate o => o.isReset
  | _ => false

/-- The deed that it is: what is done to the engine gives the bridge another one. -/
def Usage.deed (b : Bridge RecordingEngine) : Usage → Deed RecordingEngine
  | .act a => .act a
  | .load handler id => .load handler id
  | .operate o => .engine (b.engine.operate o)

/-- The bridge after it was used. -/
def use (b : Bridge RecordingEngine) (u : Usage) : Bridge RecordingEngine := b.perform (u.deed b)

/-- The bridge after it was used several times. -/
def useAll (b : Bridge RecordingEngine) (uses : List Usage) : Bridge RecordingEngine :=
  uses.foldl use b

/-- Whether the engine is given the function that tells of the stub: in a load that it accepts, or
by others. -/
def teaches (b : Bridge RecordingEngine) : Usage → Bool
  | .load .. | .act (.loadRegistry _) => !b.engine.rejecting
  | .operate o => b.engine.learns Client.probe o
  | .act _ => false

theorem isReset_of_teaches {u : Usage} (h : b.teaches u = true) : u.isReset = false := by
  cases u with
  | operate o =>
    cases o with
    | reset => cases h
    | _ => rfl
  | _ => rfl

theorem config_useAll (uses : List Usage) : (b.useAll uses).config = b.config := by
  induction uses generalizing b with
  | nil => rfl
  | cons u uses ih => exact (ih (b.use u)).trans (b.config_perform (u.deed b)).1

theorem functionExists_use (u : Usage) :
    ScriptEngine.functionExists (b.use u).engine Client.probe = true ↔ u.isReset = false
      ∧ (ScriptEngine.functionExists b.engine Client.probe = true ∨ b.teaches u = true) := by
  cases u with
  | load handler id =>
    simpa [use, Usage.deed, perform, Usage.isReset, teaches] using b.functionExists_load handler id
  | operate o => exact RecordingEngine.functionExists_operate b.engine Client.probe o
  | act a =>
    cases a with
    | loadRegistry id =>
      simpa [use, Usage.deed, perform, act, loadRegistry, Usage.isReset, teaches] using
        b.functionExists_load (.registry b.registry) id
    | shutdown =>
      have hengine : (b.use (.act .shutdown)).engine = b.engine := by
        rw [use, Usage.deed, perform, act, shutdown_eq]
      simp [hengine, Usage.isReset, teaches]
    | _ => simp [use, Usage.deed, perform, act, Usage.isReset, teaches]

/-- The function that tells of the stub is there if it was there and the engine was not reset, or if
the engine was given it after the last reset. -/
theorem functionExists_useAll (uses : List Usage) :
    ScriptEngine.functionExists (b.useAll uses).engine Client.probe = true
      ↔ (ScriptEngine.functionExists b.engine Client.probe = true ∧ ∀ u ∈ uses, u.isReset = false)
        ∨ ∃ past u more, uses = past ++ u :: more ∧ (b.useAll past).teaches u = true
          ∧ ∀ u' ∈ more, u'.isReset = false := by
  induction uses generalizing b with
  | nil => simp [useAll]
  | cons u uses ih =>
    have hrest : b.useAll (u :: uses) = (b.use u).useAll uses := rfl
    rw [hrest, ih, functionExists_use, List.forall_mem_cons]
    constructor
    · rintro (⟨⟨hu, hknown | htaught⟩, hmore⟩ | ⟨past, u', more, rfl, htaught, hmore⟩)
      · exact .inl ⟨hknown, hu, hmore⟩
      · exact .inr ⟨[], u, uses, rfl, htaught, hmore⟩
      · exact .inr ⟨u :: past, u', more, rfl, htaught, hmore⟩
    · rintro (⟨hknown, hu, hmore⟩ | ⟨past, u', more, heq, htaught, hmore⟩)
      · exact .inl ⟨⟨hu, .inl hknown⟩, hmore⟩
      · cases past with
        | nil =>
          cases heq
          exact .inl ⟨⟨b.isReset_of_teaches htaught, .inr htaught⟩, hmore⟩
        | cons v past =>
          cases heq
          exact .inr ⟨past, u', more, rfl, htaught, hmore⟩

/-- Each load gives the engine one piece of code. The stub is in it unless the script has it, which
it has since an engine took a client after its last reset; then the client before is closed first.
A client that is accepted has the name of the live channel. -/
theorem client_installed (config : BridgeConfig)
    (hvariable : isName config.clientVariable.toList = true) (board : Switchboard)
    (first : Bridge RecordingEngine)
    (hcreate : create config RecordingEngine.fresh (some board) = .ok first) (uses : List Usage) :
    let b := first.useAll uses
    (ScriptEngine.functionExists b.engine Client.probe = true ↔ ∃ past u more,
        uses = past ++ u :: more ∧ (first.useAll past).teaches u = true
          ∧ ∀ u' ∈ more, u'.isReset = false)
      ∧ ∀ handler id, isName id.toList = true →
        let name := config.namePrefix ++ id
        let code := Client.setUpFor b.engine config name
        let after := (b.load handler id).2
        (after.engine.loaded = b.engine.loaded ++ [(code, .run)]
            ∧ after.engine.executed = b.engine.executed)
          ∧ ((Client.stub config).toList <:+: code.toList
              ↔ ScriptEngine.functionExists b.engine Client.probe = false)
          ∧ (ScriptEngine.functionExists b.engine Client.probe = true →
              (config.clientVariable ++ ".Close()\n").toList <+: code.toList)
          ∧ (b.load handler id).1
            = (if b.engine.rejecting then .error (.clientRefused code) else .ok name)
          ∧ ((b.load handler id).1 = .ok name → ∃ literal : String,
              ScriptEngine.getVariable after.engine config.clientVariable
                  = "new PipeClient(" ++ literal ++ ")"
                ∧ Text.IsLine literal.toList ∧ after.channel? = some name
                ∧ Text.readLiteral (literal.toList ++ [')']) = some (name.toList, [')'])) := by
  intro b
  have hconfig : b.config = config := (first.config_useAll uses).trans (create_spec hcreate).1
  have hfresh : first.engine = RecordingEngine.fresh := by
    cases hcreate
    rfl
  refine ⟨?_, fun handler id hid => ?_⟩
  · have hnew : ScriptEngine.functionExists first.engine Client.probe = false := hfresh ▸ rfl
    rw [functionExists_useAll, hnew]
    simp
  · intro name code after
    obtain ⟨hline, hread⟩ := Client.nameLiteral_spec config.namePrefix hid
    obtain ⟨hanswer, hengine⟩ := b.engine_load handler id
    have hchannel := b.channel?_load handler id
    rw [hconfig] at hanswer hengine hchannel
    refine ⟨?_, Client.stub_infix_setUp hvariable hline _, fun hexists => ?_, hanswer,
      fun hok => ?_⟩
    · rw [hengine, RecordingEngine.operate_load]
      exact ⟨rfl, rfl⟩
    · have hcode : code = Client.setUp config true name :=
        congrArg (Client.setUp config · name) hexists
      rw [hcode]
      exact Client.close_prefix_setUp config name
    · have haccepts : b.engine.rejecting = false := by
        rw [hanswer] at hok
        split at hok
        · cases hok
        · rename_i haccepts
          exact Bool.eq_false_iff.2 haccepts
      rw [hengine]
      exact ⟨Client.nameLiteral name, Client.getVariable_setUp hvariable hline b.engine haccepts _,
        hline, hchannel, hread⟩

/-- A bridge whose channels have names with everything that a literal could break at. -/
def annex : Bridge RecordingEngine :=
  { foyer with config :=
    { BridgeConfig.default with namePrefix := "\"a\x60\r\n\":= \t", clientVariable := "PC" } }

/-- The engine loses its script between two loads. -/
def reloads : List Usage :=
  [.load (.callback .echo) "1", .operate .reset, .act (.loadRegistry "2")]

/-- The script that has the stub again takes the third client. -/
theorem annex_connected :
    let b := annex.useAll reloads
    let name := "\"a\x60\r\n\":= \t3"
    let after := (b.load (.callback .reverse) "3").2
    ScriptEngine.functionExists b.engine Client.probe = true
      ∧ "PC.Close()\n".toList <+: (Client.setUpFor b.engine annex.config name).toList
      ∧ ∃ literal : String,
        ScriptEngine.getVariable after.engine "PC" = "new PipeClient(" ++ literal ++ ")"
          ∧ Text.IsLine literal.toList ∧ after.channel? = some name
          ∧ Text.readLiteral (literal.toList ++ [')']) = some (name.toList, [')']) := by
  intro b name after
  obtain ⟨hknown, hload⟩ := client_installed annex.config (by decide) Switchboard.lobby annex rfl
    reloads
  have hexists : ScriptEngine.functionExists b.engine Client.probe = true :=
    hknown.2 ⟨reloads.take 2, .act (.loadRegistry "2"), [], rfl, rfl, nofun⟩
  obtain ⟨-, -, hclose, hanswer, hclient⟩ := hload (.callback .reverse) "3" (by decide)
  exact ⟨hexists, hclose hexists, hclient (hanswer.trans rfl)⟩

end Bridge

end KeyBridge
