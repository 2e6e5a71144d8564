-- SUMMARY: What a hotkey sends is answered by the callback that was registered last under it.
import KeyBridge.Proofs.Bridges
import KeyBridge.Proofs.Exchanges
import KeyBridge.Proofs.CallSites
import KeyBridge.Engine.Recording

/-!
# Agreement

The text of a hotkey calls the host with the very header under which the layout registered its
callback. A client of the live channel that sends the header gets back what the callback that was
registered last under it answers, in any history of the bridge. Only requests that do not fit in the
pipe of their connection may be answered more than once.
-/

namespace KeyBridge

open Incident

/-- The answer of a callback to a message; without one it is an empty reply. -/
def Host.answerOf (h : Host) (callback? : Option Callback) (message : String) : Answer :=
  match callback? with
  | some callback => (h.invoke callback message).1
  | none => .reply ""

theorem Host.dispatch_answer (h : Host) (id : RegistryId) (message : String) :
    (h.dispatch id message).1 = h.answerOf ((h.registry id).get? message) message := by
  rw [dispatch, dispatchWith, lookUp]
  rcases (h.registry id).get? message with _ | callback <;> rfl

/-! ## Requests -/

namespace Switchboard

variable {b : Switchboard} {id : ServerId} {l : LinkId} {message : String} {answer : Answer}
  {h : List Incident}

/-- A message is on its way to a server or was handed over to its handler, and the server can go
on. -/
structure Unanswered (b : Switchboard) (id : ServerId) (l : LinkId) (message : String)
    (h : List Incident) : Prop where
  between : b.Between id l (Wire.encode message) [] (.reply [])
    ∨ b.Between id l [] [] (.call (Wire.encode message))
  uncalled : calls h = []
  unreceived : receipts h = []
  moves : b.moveServer id ≠ none

/-- A message was answered once, and the bytes of the reply are those that the client received,
those that are on their way to it and those that the server has yet to write. -/
structure Answered (b : Switchboard) (id : ServerId) (l : LinkId) (message : String)
    (answer : Answer) (h : List Incident) : Prop where
  called : calls h = [(Wire.encode message, answer)]
  replied : ∃ told rest, b.Between id l [] told (.reply rest)
    ∧ receipts h ++ told ++ rest = Wire.encode answer.text
  /-- A server that cannot go on has written all, or the client has yet to read. -/
  written : b.moveServer id = none →
    receipts h ++ (b.site.network.link l).fromHost.bytes = Wire.encode answer.text
      ∨ (b.site.network.link l).fromHost.room = 0
  /-- When the client has received all, the server waits for its next message. -/
  again : receipts h = Wire.encode answer.text → b.Between id l [] [] (.reply [])

theorem unanswered (hb : b.Between id l (Wire.encode message) [] (.reply [])
      ∨ b.Between id l [] [] (.call (Wire.encode message)))
    (huncalled : calls h = []) (hunreceived : receipts h = []) : b.Unanswered id l message h where
  between := hb
  uncalled := huncalled
  unreceived := hunreceived
  moves hm := by
    rcases hb with hb | hb
    · rcases hb.stalled hm with ⟨-, hnil⟩ | ⟨rest, herrand, hne, -⟩
      · exact Wire.encode_ne_nil message hnil
      · cases herrand
        exact hne rfl
    · rcases hb.stalled hm with ⟨herrand, -⟩ | ⟨rest, herrand, -⟩ <;> cases herrand

theorem Unanswered.later (hu : b.Unanswered id l message h) {earlier : List Incident}
    (hcalls : calls earlier = []) (hreceipts : receipts earlier = []) :
    b.Unanswered id l message (earlier ++ h) :=
  { hu with
    uncalled := by rw [calls_append, hcalls, hu.uncalled, List.append_nil]
    unreceived := by rw [receipts_append, hreceipts, hu.unreceived, List.append_nil] }

/-- What happened before a message was handed over does not count. -/
theorem Answered.later (ha : b.Answered id l message answer h) {earlier : List Incident}
    (hcalls : calls earlier = []) (hreceipts : receipts earlier = []) :
    b.Answered id l message answer (earlier ++ h) := by
  have hsame : receipts (earlier ++ h) = receipts h := by
    rw [receipts_append, hreceipts, List.nil_append]
  constructor
  · rw [calls_append, hcalls, List.nil_append, ha.called]
  · rw [hsame]
    exact ha.replied
  · rw [hsame]
    exact ha.written
  · rw [hsame]
    exact ha.again

theorem Between.settled {told rest : List UInt8} (hb : b.Between id l [] told (.reply rest))
    (hcalled : calls h = [(Wire.encode message, answer)])
    (hreplied : receipts h ++ told ++ rest = Wire.encode answer.text) :
    b.Answered id l message answer h where
  called := hcalled
  replied := ⟨told, rest, hb, hreplied⟩
  written hm := by
    rcases hb.stalled hm with ⟨herrand, -⟩ | ⟨-, -, -, hfull⟩
    · cases herrand
      rw [List.append_nil] at hreplied
      exact .inl (by rw [hb.told_eq, hreplied])
    · exact .inr hfull
  again hall := by
    rw [List.append_assoc, hall] at hreplied
    obtain ⟨rfl, rfl⟩ := List.append_eq_nil_iff.1 (List.append_right_eq_self.1 hreplied)
    exact hb

end Switchboard

namespace Bridge

/-! ## Exchanges on the live channel -/

/-- An act in which a client neither sends nor leaves, and its channel stays. -/
def Act.Spares (id : ServerId) (l : LinkId) : Act → Prop
  | .board a => a.Spares id l
  | .generate _ _ _ => True
  | _ => False

/-- Whether a server moves in an act. -/
def Act.moves (id : ServerId) : Act → Bool
  | .board (.move id') => id' = id
  | _ => false

theorem Act.eq_of_moves {id : ServerId} {a : Act} (ha : a.moves id = true) :
    a = .board (.move id) := by
  unfold Act.moves at ha
  split at ha
  · rw [of_decide_eq_true ha]
  · cases ha

variable {σ : Type} [ScriptEngine σ] {b : Bridge σ} {id : ServerId} {l : LinkId}
  {asked told rest : List UInt8} {errand : Errand}

theorem turn (h : b.board.Between id l asked told errand) (hb : b.board.Sane) {a : Act}
    (ha : a.Spares id l) :
    Switchboard.Turn b.board (b.act a).board id l asked told errand (on l (b.observe a)) := by
  cases a with
  | board a => exact h.turn hb ha
  | generate config actions level => exact .same (h.congr rfl rfl rfl)
  | loadRegistry name => exact ha.elim
  | shutdown => exact ha.elim

/-- Nothing happens between a server and its client until the server moves. -/
theorem waits (h : b.board.Between id l asked [] errand) (hb : b.board.Sane) {acts : List Act}
    (hacts : ∀ a ∈ acts, a.Spares id l) (hmoves : ∀ a ∈ acts, ¬ a.moves id = true) :
    (b.run acts).board.Between id l asked [] errand
      ∧ calls (on l (b.story acts)) = [] ∧ receipts (on l (b.story acts)) = [] := by
  induction acts generalizing b with
  | nil => exact ⟨h, rfl, rfl⟩
  | cons a acts ih =>
    have hfirst : (b.act a).board.Between id l asked [] errand
        ∧ calls (on l (b.observe a)) = [] ∧ receipts (on l (b.observe a)) = [] := by
      have ha := hacts a List.mem_cons_self
      have hmove := hmoves a List.mem_cons_self
      cases a with
      | board a => exact h.waits hb ha fun heq => hmove (by simp [heq, Act.moves])
      | generate config actions level => exact ⟨h.congr rfl rfl rfl, rfl, rfl⟩
      | loadRegistry name => exact ha.elim
      | shutdown => exact ha.elim
    obtain ⟨hrest, hcalls, hreceipts⟩ := ih hfirst.1 (sane_act hb a)
      (fun x hx => hacts x (List.mem_cons_of_mem _ hx))
      fun x hx => hmoves x (List.mem_cons_of_mem _ hx)
    exact ⟨hrest, by simp [story, hfirst.2.1, hcalls], by simp [story, hfirst.2.2, hreceipts]⟩

/-- A server that has nothing to read goes on with its reply. -/
theorem replying (h : b.board.Between id l [] told (.reply rest)) (hb : b.board.Sane)
    {acts : List Act} (hacts : ∀ a ∈ acts, a.Spares id l) :
    ∃ told' rest', (b.run acts).board.Between id l [] told' (.reply rest')
      ∧ calls (on l (b.story acts)) = []
      ∧ receipts (on l (b.story acts)) ++ told' ++ rest' = told ++ rest := by
  induction acts generalizing b told rest with
  | nil => exact ⟨told, rest, h, rfl, rfl⟩
  | cons a acts ih =>
    have hturn := turn h hb (hacts a List.mem_cons_self)
    have hb' := sane_act hb a
    have hacts' : ∀ x ∈ acts, x.Spares id l := fun x hx => hacts x (List.mem_cons_of_mem _ hx)
    simp only [run_cons, story, on_append, calls_append, receipts_append]
    generalize on l (b.observe a) = i at hturn
    cases hturn with
    | same hsame => exact ih hsame hb' hacts'
    | received hreceived =>
      obtain ⟨told', rest', hbetween, hcalls, hbytes⟩ := ih hreceived hb' hacts'
      refine ⟨told', rest', hbetween, by simp [hcalls], ?_⟩
      rw [List.nil_append] at hbytes
      rw [← hbytes]
      simp
    | heard s hs herrand hne => exact absurd rfl hne
    | answered s message hs herrand => cases herrand
    | wrote unsent count herrand hne hcount hwrote =>
      cases herrand
      obtain ⟨told', rest', hbetween, hcalls, hbytes⟩ := ih hwrote hb' hacts'
      have hall : told ++ rest.take count ++ rest.drop count = told ++ rest := by
        rw [List.append_assoc, List.take_append_drop]
      exact ⟨told', rest', hbetween, hcalls, hbytes.trans hall⟩

/-- The answer to a message at some moment: that of the callback in the bridge's registry. -/
def answer (b : Bridge σ) (message : String) : Answer :=
  b.board.site.host.answerOf ((b.board.site.host.registry b.registry).get? message) message

omit [ScriptEngine σ] in
/-- A server of the live channel has the bridge's registry answer what it reads. -/
theorem Wired.run_handler (hw : b.Wired) (hlive : b.live = some id) {s : Server}
    (hs : b.board.server? id = some s) (message : String) :
    (s.handler.run (Wire.decode (Wire.encode message)) b.board.site.host).1
      = b.answer (Wire.upToZero message) := by
  obtain ⟨s', hs', hhandler, -⟩ := hw.live id hlive
  cases hs.symm.trans hs'
  rw [hhandler, Wire.decode_encode]
  exact Host.dispatch_answer _ _ _

theorem live_act {a : Act} (ha : a.Spares id l) : (b.act a).live = b.live := by
  cases a with
  | board a => rfl
  | generate config actions level => rfl
  | loadRegistry name => exact ha.elim
  | shutdown => exact ha.elim

theorem live_run {acts : List Act} (hacts : ∀ a ∈ acts, a.Spares id l) :
    (b.run acts).live = b.live := by
  induction acts generalizing b with
  | nil => rfl
  | cons a acts ih =>
    exact (ih fun x hx => hacts x (List.mem_cons_of_mem _ hx)).trans
      (live_act (hacts a List.mem_cons_self))

/-- Acts are done before a server moves, or there is no move of it. -/
theorem moves_or_not (id : ServerId) (acts : List Act) :
    (∀ a ∈ acts, ¬ a.moves id = true)
      ∨ ∃ before after, acts = before ++ .board (.move id) :: after
        ∧ ∀ a ∈ before, ¬ a.moves id = true := by
  rcases hfind : acts.find? (Act.moves id) with _ | a
  · exact .inl (List.find?_eq_none.1 hfind)
  · obtain ⟨hmoves, before, after, rfl, hbefore⟩ := List.find?_eq_some_iff_append.1 hfind
    rw [Act.eq_of_moves hmoves]
    exact .inr ⟨before, after, rfl, by simpa using hbefore⟩

theorem countP_moves {before after : List Act} (hbefore : ∀ a ∈ before, ¬ a.moves id = true) :
    (before ++ .board (.move id) :: after).countP (Act.moves id)
      = after.countP (Act.moves id) + 1 := by
  have hmoves : Act.moves id (.board (.move id)) = true := decide_eq_true rfl
  rw [List.countP_append, List.countP_eq_zero.2 hbefore, List.countP_cons_of_pos hmoves,
    Nat.zero_add]

theorem story_append (b : Bridge σ) (acts more : List Act) :
    b.story (acts ++ more) = b.story acts ++ (b.run acts).story more := by
  induction acts generalizing b with
  | nil => rfl
  | cons a acts ih =>
    rw [List.cons_append, story, story, run_cons, ih, List.append_assoc]

/-- A message that was handed over is answered in the next move of the server. -/
theorem Wired.answering (hw : b.Wired) {message : String} (hlive : b.live = some id)
    (h : b.board.Between id l [] [] (.call (Wire.encode message)))
    {acts : List Act} (hacts : ∀ a ∈ acts, a.Spares id l) :
    ((∀ a ∈ acts, ¬ a.moves id = true)
        ∧ (b.run acts).board.Unanswered id l message (on l (b.story acts)))
      ∨ ∃ before after, acts = before ++ .board (.move id) :: after
        ∧ (∀ a ∈ before, ¬ a.moves id = true)
        ∧ (b.run acts).board.Answered id l message
          ((b.run before).answer (Wire.upToZero message)) (on l (b.story acts)) := by
  rcases moves_or_not id acts with hstays | ⟨before, after, rfl, hbefore⟩
  · obtain ⟨hbetween, hcalls, hreceipts⟩ := waits h hw.sane hacts hstays
    exact .inl ⟨hstays, Switchboard.unanswered (.inr hbetween) hcalls hreceipts⟩
  · have hspares := fun a ha => hacts a (List.mem_append_left _ ha)
    have hspared := fun a ha => hacts a (List.mem_append_right _ (List.mem_cons_of_mem _ ha))
    obtain ⟨hbetween, hcalls, hreceipts⟩ := waits h hw.sane hspares hbefore
    have hw' := hw.run before
    have hlive' := (live_run hspares).trans hlive
    obtain ⟨s, e, hs, -⟩ := hbetween.serves
    have hanswer := hw'.run_handler hlive' hs message
    have hobserve := hbetween.observe_answered hs
    have hanswered := hbetween.answered hw'.sane hs
    rw [hanswer] at hobserve hanswered
    obtain ⟨told, rest, hreplying, hquiet, hbytes⟩ :=
      replying (b := (b.run before).act (.board (.move id))) hanswered
        (sane_act hw'.sane _) hspared
    refine .inr ⟨before, after, rfl, hbefore, ?_⟩
    rw [run_append, run_cons, story_append, story, on_append, on_append]
    refine (hreplying.settled ?_ ?_).later hcalls hreceipts
    · rw [calls_append, hquiet, List.append_nil]
      exact congrArg calls hobserve
    · rw [receipts_append]
      exact (congrArg (receipts · ++ _ ++ told ++ rest) hobserve).trans hbytes

/-- What a client sends on the live channel is answered in the second move of the server: it reads
in the first. -/
theorem Wired.exchange (hw : b.Wired) {message : String} (hlive : b.live = some id)
    (h : b.board.Between id l (Wire.encode message) [] (.reply []))
    (hfits : (Wire.encode message).length ≤ max b.config.bufferSize Server.minBuffer)
    {acts : List Act} (hacts : ∀ a ∈ acts, a.Spares id l) :
    (acts.countP (Act.moves id) < 2
        ∧ (b.run acts).board.Unanswered id l message (on l (b.story acts)))
      ∨ ∃ before after, acts = before ++ .board (.move id) :: after
        ∧ before.countP (Act.moves id) = 1
        ∧ (b.run acts).board.Answered id l message
          ((b.run before).answer (Wire.upToZero message)) (on l (b.story acts)) := by
  rcases moves_or_not id acts with hstays | ⟨before, after, rfl, hbefore⟩
  · obtain ⟨hbetween, hcalls, hreceipts⟩ := waits h hw.sane hacts hstays
    rw [List.countP_eq_zero.2 hstays]
    exact .inl ⟨Nat.zero_lt_two, Switchboard.unanswered (.inl hbetween) hcalls hreceipts⟩
  · have hspares := fun a ha => hacts a (List.mem_append_left _ ha)
    have hspared := fun a ha => hacts a (List.mem_append_right _ (List.mem_cons_of_mem _ ha))
    obtain ⟨hbetween, hcalls, hreceipts⟩ := waits h hw.sane hspares hbefore
    have hw' := (hw.run before).act (.board (.move id))
    have hlive' : ((b.run before).act (.board (.move id))).live = some id :=
      (live_run hspares).trans hlive
    obtain ⟨s, hs, -, hbuffer⟩ := (hw.run before).live id hlive'
    rw [config_run] at hbuffer
    rw [← hbuffer] at hfits
    obtain ⟨hheard, -⟩ := hbetween.heard (hw.run before).sane (Wire.encode_ne_nil message) hs
    rw [List.take_of_length_le hfits, List.drop_eq_nil_iff.2 hfits] at hheard
    have hnothing : on l ((b.run before).observe (.board (.move id))) = [] :=
      hbetween.observe_heard
    rw [run_append, run_cons, story_append, story, on_append, on_append, hnothing,
      List.nil_append]
    rcases hw'.answering hlive' hheard hspared with ⟨hnone, hunanswered⟩
      | ⟨between, rest, rfl, hnone, hanswered⟩
    · refine .inl ⟨?_, hunanswered.later hcalls hreceipts⟩
      rw [countP_moves hbefore, List.countP_eq_zero.2 hnone]
      exact Nat.one_lt_two
    · refine .inr ⟨before ++ .board (.move id) :: between, rest, by simp, ?_, ?_⟩
      · rw [countP_moves hbefore, List.countP_eq_zero.2 hnone]
      · rw [run_append b before, run_cons]
        exact hanswered.later hcalls hreceipts

/-! ## Any history -/

/-- The answer to a message after a history: that of the callback that was registered last under the
message, or an empty reply if none was. -/
def answerAfter (b : Bridge σ) (history : List Act) (message : String) : Answer :=
  match Registration.last? (b.log history) b.registry message with
  | some callback => ((b.run history).board.site.host.invoke callback message).1
  | none => .reply ""

/-- After a history, the live channel answers its client. -/
structure Attends (b : Bridge σ) (history : List Act) (id : ServerId) (l : LinkId) : Prop where
  /-- What a client sends when nothing is on its way comes as one request. -/
  whole (message : String) : (b.run history).board.Between id l [] [] (.reply []) →
    (Wire.encode message).length ≤ Pipe.capacity →
    ((b.run history).act (.board (.send l (Wire.encode message)))).board.Between id l
      (Wire.encode message) [] (.reply [])
  /-- A request that fits in the buffer is answered once, in the second move of the server: it reads
  in the first. -/
  answers (message : String) (acts : List Act) :
    (b.run history).board.Between id l (Wire.encode message) [] (.reply []) →
    (Wire.encode message).length ≤ max b.config.bufferSize Server.minBuffer →
    (∀ a ∈ acts, a.Spares id l) →
    (acts.countP (Act.moves id) < 2
        ∧ (b.run (history ++ acts)).board.Unanswered id l message
            (on l ((b.run history).story acts)))
      ∨ ∃ before after, acts = before ++ .board (.move id) :: after
        ∧ before.countP (Act.moves id) = 1
        ∧ (b.run (history ++ acts)).board.Answered id l message
            (b.answerAfter (history ++ before) (Wire.upToZero message))
            (on l ((b.run history).story acts))

omit [ScriptEngine σ] in
/-- What a bridge registers when it lays out actions is what is due. -/
theorem registrations_generate (b : Bridge σ) (style : GeneratorConfig) (actions : List Action)
    (level : Nat) :
    b.registrations (.generate style actions level) = actionsDue b.registry actions :=
  registrations_sequenceEffects b.registry actions

/-- From its layout on, the header of a hotkey has a callback. -/
theorem isSome_last?_of_place (b : Bridge σ) {around : List Binding} {binding : Binding}
    {header : String} (hheader : binding.headerIn? around = some header)
    (hcallback : binding.callback.isSome = true) {actions : List Action} {steps rest : List Visit}
    (hplace : actionsTour [] actions = steps ++ .enter around binding :: rest)
    (style : GeneratorConfig) (level : Nat) (earlier later : List Act) :
    (Registration.last? (b.log (earlier ++ .generate style actions level :: later)) b.registry
      header).isSome = true := by
  obtain ⟨callback, hcallback⟩ := Option.isSome_iff_exists.1 hcallback
  have hmem := mem_actionsDue hheader hcallback hplace b.registry
  rw [← registry_id_run b earlier, ← registrations_generate _ style _ level] at hmem
  refine Registration.isSome_last? (r := ⟨(b.run earlier).registry, header, callback⟩) ?_ ?_
  · rw [log_append, log]
    exact List.mem_append_right _ (List.mem_append_left _ hmem)
  · simp [Registration.isUnder, registry_id_run]

section

variable {config : BridgeConfig} {engine : σ} {board : Switchboard}
  (hcreate : create config engine (some board) = .ok b) (hb : board.Sane)
include hcreate hb

theorem answer_run (history : List Act) (message : String) :
    (b.run history).answer message = b.answerAfter history message := by
  rw [answer, registry_id_run, registry_run hcreate hb, answerAfter]
  rcases Registration.last? (b.log history) b.registry message with _ | callback <;> rfl

theorem attends (history : List Act) (hlive : (b.run history).live = some id) :
    b.Attends history id l where
  whole message hbetween hfits := by
    have hw := (wired_create hcreate hb).run history
    exact hbetween.send hw.sane hfits
  answers message acts hbetween hfits hacts := by
    have hw := (wired_create hcreate hb).run history
    rw [← config_run b history] at hfits
    rw [run_append]
    rcases hw.exchange hlive hbetween hfits hacts with hwaits | ⟨before, after, hsplit, hone, ha⟩
    · exact .inl hwaits
    · have hanswer := answer_run hcreate hb (history ++ before) (Wire.upToZero message)
      rw [run_append] at hanswer
      rw [hanswer] at ha
      exact .inr ⟨before, after, hsplit, hone, ha⟩

end

/-- In every history of a bridge in memory, a hotkey with a callback calls the host on its own line of
the text, with a literal for its header. The header has a callback from then on, and the live channel
answers what its client sends. A header is sent as one request; an empty reply is two zero bytes. -/
theorem callbacks_agree (host : Host) (past : List Switchboard.Act) (config : BridgeConfig)
    (engine : σ) (b : Bridge σ)
    (hcreate : create config engine (some ((Switchboard.create (.inMemory host)).run past)) = .ok b)
    (style : GeneratorConfig) (actions : List Action) (level : Nat) (steps rest : List Visit)
    (around : List Binding) (binding : Binding) (header : String)
    (hplace : actionsTour [] actions = steps ++ .enter around binding :: rest)
    (hheader : binding.headerIn? around = some header)
    (hcallback : binding.callback.isSome = true) (earlier later : List Act) :
    OwnCall actions steps around binding header
        (fun r => Text.indentLine (indentation style.indentWidth level)
          (r.content style.indentWidth))
        (((b.run earlier).generator style).generate actions level
          (b.run earlier).board.site.host).1
      ∧ (Registration.last? (b.log (earlier ++ .generate style actions level :: later)) b.registry
          header).isSome = true
      ∧ Wire.upToZero header = header ∧ (Wire.encode header).length ≤ Pipe.capacity
      ∧ Wire.encode (Answer.reply "").text = [0, 0]
      ∧ ∀ (history : List Act) (id : ServerId) (l : LinkId),
          (b.run history).live = some id → b.Attends history id l := by
  have hsane := (Switchboard.sane_create host).run past
  have hresolved := Binding.header?_of_headerIn? hheader
  refine ⟨ownCall hheader hcallback hplace style.indentWidth level,
    isSome_last?_of_place b hheader hcallback hplace style level earlier later,
    Binding.upToZero_header hresolved, ?_, rfl, ?_⟩
  · have hlength := Binding.length_encode_header hresolved
    exact Nat.le_trans hlength (by decide)
  · intro history id l hlive
    exact attends hcreate hsane history hlive

/-- A hotkey that answers with its header in reverse, inside another one. -/
def greeting : Binding :=
  { (Hotkey.ofTrigger (.key .letterA) [.control]).toBinding with
    callback := some Callback.reverse }

/-- The hotkey around the one that answers. -/
def desk : Binding := (Hotkey.ofTrigger (.key .f1) []).toBinding

/-- The actions that define the hotkeys. -/
def page : List Action := [.raw "x := 1", .hotkey desk [.hotkey greeting []]]

/-- A bridge in the lobby. -/
def salon (config : BridgeConfig) : Bridge RecordingEngine :=
  ⟨config, ⟨0⟩, .fresh, Switchboard.lobby.withHost Switchboard.lobby.site.host.newRegistry.2, none⟩

/-- The bridge opens a channel, and a client comes. -/
def opening : List Act :=
  [.loadRegistry "1", .board (.move ⟨0⟩), .board (.connect "AHK-PIPE-1"), .board (.move ⟨0⟩)]

/-- The client waits for the reply. -/
def waiting : List Act :=
  [.board (.move ⟨0⟩), .board (.move ⟨0⟩), .board (.move ⟨0⟩), .board (.receive ⟨0⟩)]

theorem tour_page : actionsTour [] page
    = [.enter [] desk] ++ .enter [desk] greeting :: [.leave [desk] greeting, .leave [] desk] := rfl

/-- The client of the salon sends what the text calls the host with, and gets the answer. -/
theorem salon_answers :
    (create .default .fresh (some (Switchboard.lobby.run [])) = .ok (salon .default)
      ∧ greeting.headerIn? [desk] = some "^a" ∧ greeting.callback.isSome = true
      ∧ ((salon .default).run (.generate .default page 0 :: opening)).live = some ⟨0⟩
      ∧ ((salon .default).run (.generate .default page 0 :: opening)).board.Between ⟨0⟩ ⟨0⟩ [] []
        (.reply [])
      ∧ (Wire.encode "^a").length ≤ max (salon .default).config.bufferSize Server.minBuffer
      ∧ (∀ a ∈ waiting, a.Spares ⟨0⟩ ⟨0⟩)
      ∧ receipts (on ⟨0⟩ (((salon .default).run (.generate .default page 0 :: opening)).story
          (.board (.send ⟨0⟩ (Wire.encode "^a")) :: waiting))) = Wire.encode "a^")
    ∧ OwnCall page [.enter [] desk] [desk] greeting "^a"
        (fun r => Text.indentLine (indentation GeneratorConfig.default.indentWidth 0)
          (r.content GeneratorConfig.default.indentWidth))
        (((salon .default).generator .default).generate page 0 (salon .default).board.site.host).1
    ∧ (Registration.last? ((salon .default).log (.generate .default page 0 :: opening))
        (salon .default).registry "^a").isSome = true
    ∧ (salon .default).Attends (.generate .default page 0 :: opening) ⟨0⟩ ⟨0⟩ := by
  have hcreate : create .default .fresh (some (Switchboard.lobby.run [])) = .ok (salon .default) :=
    rfl
  have hlive : ((salon .default).run (.generate .default page 0 :: opening)).live = some ⟨0⟩ := rfl
  have hbetween : ((salon .default).run (.generate .default page 0 :: opening)).board.Between
      ⟨0⟩ ⟨0⟩ [] []
        (.reply []) := by
    refine ⟨⟨_, _, rfl, rfl⟩, ⟨rfl, rfl⟩, rfl, rfl, fun bytes hmem => ?_⟩
    cases hmem
  have hagree := callbacks_agree (.fresh 8) [] .default .fresh (salon .default) hcreate .default
    page 0 _ _ [desk] greeting "^a" tour_page rfl rfl [] opening
  refine ⟨⟨hcreate, rfl, rfl, hlive, hbetween, by decide, ?_, rfl⟩, hagree.1,
    hagree.2.1, hagree.2.2.2.2.2 _ _ _ hlive⟩
  intro a ha
  simp only [waiting, List.mem_cons, List.not_mem_nil, or_false] at ha
  rcases ha with rfl | rfl | rfl | rfl <;> exact ⟨by simp, by simp, by simp⟩

/-! ## Requests that do not fit in the pipe -/

/-- A message of forty thousand characters. -/
def epistle : String := String.ofList (List.replicate 40000 'x')

/-- A client sends a long message at once; the server takes it as it comes. -/
def reciting : List Switchboard.Act :=
  [.send ⟨0⟩ (Wire.encode epistle), .move ⟨0⟩, .move ⟨0⟩, .move ⟨0⟩, .write 0, .move ⟨0⟩,
    .move ⟨0⟩]

theorem length_encode_replicate (n : Nat) :
    (Wire.encode (String.ofList (List.replicate n 'x'))).length = 2 * n + 2 := by
  have hunits : ((Wire.units (List.replicate n 'x')).flatMap Wire.bytesOfUnit).length = 2 * n := by
    induction n with
    | zero => rfl
    | succ n ih =>
      have hcons : Wire.units (List.replicate (n + 1) 'x')
          = 120 :: Wire.units (List.replicate n 'x') := rfl
      rw [hcons, List.flatMap_cons, List.length_append, ih]
      exact Nat.add_comm 2 (2 * n)
  rw [Wire.encode_eq, List.length_append, String.toList_ofList, hunits]
  rfl

theorem length_encode_epistle : (Wire.encode epistle).length = 80002 :=
  length_encode_replicate 40000

/-- Every reply has two bytes at least. -/
theorem le_length_replies (cs : List (List UInt8 × Answer)) :
    2 * cs.length ≤ (replies cs).length := by
  induction cs with
  | nil => exact Nat.le_refl 0
  | cons c cs ih =>
    have hcons : replies (c :: cs) = Wire.encode c.2.text ++ replies cs := List.flatMap_cons
    have hreply : 2 ≤ (Wire.encode c.2.text).length := by
      rw [Wire.encode_eq, List.length_append]
      exact Nat.le_add_left ..
    rw [hcons, List.length_append, List.length_cons]
    omega

theorem story_board (b : Bridge σ) (acts : List Switchboard.Act) :
    b.story (acts.map .board) = b.board.story acts := by
  induction acts generalizing b with
  | nil => rfl
  | cons a acts ih => exact congrArg (b.board.observe a ++ ·) (ih (b.act (.board a)))

/-- A request under which nothing is registered, and that fits in the buffer of the server, is
answered with more than two bytes: it does not fit in the pipe. -/
theorem epistle_answered_twice :
    create { bufferSize := 200000 } .fresh (some Switchboard.lobby)
        = .ok (salon { bufferSize := 200000 })
      ∧ ((salon { bufferSize := 200000 }).run opening).live = some ⟨0⟩
      ∧ ((salon { bufferSize := 200000 }).run opening).board.Between ⟨0⟩ ⟨0⟩ [] []
        (.reply [])
      ∧ (Wire.encode epistle).length ≤ max 200000 Server.minBuffer
      ∧ (salon { bufferSize := 200000 }).log (opening ++ [.board (.send ⟨0⟩ (Wire.encode epistle))])
        = []
      ∧ (calls (on ⟨0⟩ (((salon { bufferSize := 200000 }).run opening).story
          (reciting.map .board)))).length = 2
      ∧ replies (calls (on ⟨0⟩ (((salon { bufferSize := 200000 }).run opening).story
          (reciting.map .board)))) ≠ [0, 0] := by
  have hcreate : create { bufferSize := 200000 } .fresh (some (Switchboard.lobby.run []))
      = .ok (salon { bufferSize := 200000 }) := rfl
  have hsane : Switchboard.lobby.Sane := Switchboard.sane_create (.fresh 8)
  have hwired := (wired_create hcreate hsane).run opening
  have hbetween : ((salon { bufferSize := 200000 }).run opening).board.Between ⟨0⟩ ⟨0⟩ [] []
        (.reply []) := by
    refine ⟨⟨_, _, rfl, rfl⟩, ⟨rfl, rfl⟩, rfl, rfl, fun bytes hmem => ?_⟩
    cases hmem
  have htwice : (calls (on ⟨0⟩ (((salon { bufferSize := 200000 }).run opening).story
      (reciting.map .board)))).length = 2 := by
    obtain ⟨s, hs, hhandler, hbuffer⟩ := hwired.live ⟨0⟩ rfl
    rw [story_board]
    refine hbetween.answered_twice hwired.sane rfl ?_ ?_ hs ?_ hhandler fun message => ?_
    · rw [length_encode_epistle]
      decide
    · rw [length_encode_epistle]
      decide
    · rw [hbuffer]
      decide
    · rfl
  refine ⟨hcreate, rfl, hbetween, ?_, ?_, htwice, fun hshort => ?_⟩
  · rw [length_encode_epistle]
    decide
  · rw [log_append]
    rfl
  · have hlong := le_length_replies (calls (on ⟨0⟩
      (((salon { bufferSize := 200000 }).run opening).story (reciting.map .board))))
    rw [htwice, hshort] at hlong
    exact absurd hlong (by decide)

end Bridge

end KeyBridge
