-- SUMMARY: What a server reads first of a message, and that it does read it.
import KeyBridge.Proofs.Messages
import KeyBridge.Proofs.Readings

/-!
# First readings

From the moment at which a client sends a message on an idle connection until a server reads of it,
the pipe only fills up: it holds what the client sent from then on, as far as there is room. The
server then hands over the beginning of the message that fits in the pipe and in its buffer.
`Uncalled` says so, and `Uncalled.act` keeps it in every act that runs no handler on the connection,
also when the client sends more or hangs up.
-/

namespace KeyBridge

namespace Switchboard

open Incident

variable {b b' : Switchboard} {a : Act} {id : ServerId} {l : LinkId} {request asked : List UInt8}

/-! ## Connections of clients -/

/-- The connections of clients do not break on purpose. -/
def Manned (b : Switchboard) : Prop :=
  ∀ l, (b.site.network.link l).fromClient.closed = false → b.Whole l

theorem Manned.act (hm : b.Manned) (hb : b.Sane) (a : Act) : (b.act a).Manned := by
  intro l hopen
  have hpassage := hb.passage a l
  have ht' := hb.tidy.act a
  by_cases hknown : l.index < b.site.network.links.length
  · refine hpassage.whole ht' (hm l ?_) hknown
    exact Bool.eq_false_iff.2 fun hclosed =>
      Bool.eq_false_iff.1 hopen ((hpassage.closed hknown).1 hclosed)
  · rcases hpassage.whole_or_broke hb.tidy ht' (Nat.le_of_not_lt hknown) with hwhole | ⟨-, hlink⟩
    · exact hwhole
    · rw [hlink] at hopen
      cases hopen

theorem Manned.run (hm : b.Manned) (hb : b.Sane) (acts : List Act) : (b.run acts).Manned := by
  induction acts generalizing b with
  | nil => exact hm
  | cons a acts ih => exact ih (hm.act hb a) (hb.act a)

theorem manned_create (host : Host) : (create (.inMemory host)).Manned := by
  intro l hopen
  have hlt := lt_of_open hopen
  cases hlt

/-- In a run, a connection is idle if it has both ends and nothing is on its way to the server. -/
theorem idle_run {host : Host} {acts : List Act}
    (hopen : ((create (.inMemory host)).run acts).Open l)
    (hheard : ((create (.inMemory host)).run acts).HeardOut l) :
    ((create (.inMemory host)).run acts).Idle l :=
  ⟨hopen, hheard, (manned_create host).run (sane_create host) acts l hopen.1⟩

/-! ## Messages with which no handler was called -/

/-- No handler was called since a client sent a request: what the client sent from then on is in the
pipe, as far as it fits, or a server has read of it and handed over what it read. -/
structure Uncalled (b : Switchboard) (l : LinkId) (request : List UInt8) : Prop where
  known : l.index < b.site.network.links.length
  whole : b.Whole l
  filled : (∀ k : Call, k.conn.link = l → ¬ b.Begun k) → ∃ more,
    (b.site.network.link l).fromClient.bytes = (request ++ more).take Pipe.capacity
  handed : ∀ id s c message, b.server? id = some s → c.link = l → b.Serves id c (.call message) →
    ∃ more, message = (request ++ more).take (min s.buffer Pipe.capacity)

/-- Who fills up a pipe bit by bit loses nothing that fits. -/
theorem take_append_take {α : Type} (k : Nat) (xs ys : List α) :
    xs.take k ++ ys.take (k - (xs.take k).length) = (xs ++ ys).take k := by
  rw [List.take_append, List.length_take]
  congr 2
  omega

/-- A pipe that is filled up holds more of what was sent. -/
theorem filled_pour {link : Link}
    (h : ∃ more, link.fromClient.bytes = (request ++ more).take Pipe.capacity)
    (bytes : List UInt8) :
    ∃ more, (link.pour bytes).fromClient.bytes = (request ++ more).take Pipe.capacity := by
  obtain ⟨more, hmore⟩ := h
  refine ⟨more ++ bytes, ?_⟩
  rw [bytes_pour, Pipe.room, hmore, take_append_take, List.append_assoc]

theorem Idle.uncalled (h : b.Idle l) (hne : request ≠ []) :
    (b.act (.send l request)).Uncalled l request := by
  have hkeeps := (b.keeps_send l request l).1
  refine ⟨hkeeps.known.2 (lt_of_open h.opened.1), h.whole.of_retains hkeeps.retains,
    fun _ => ⟨[], ?_⟩, fun id s c message _ hc hserves => ?_⟩
  · rw [List.append_nil]
    exact (h.pour hne).1
  · obtain ⟨handler, e, hbegun⟩ := ((hkeeps.serves id c _ hc).1 hserves).begun
    exact absurd hbegun (h.heardOut.unbegun _ hc)

/-- Nothing was read where nobody gained the connection. -/
theorem Uncalled.of_retains (h : b.Uncalled l request) (hretains : Retains b b' l)
    (hchange : Change b a b')
    (hfilled : (∃ more,
        (b.site.network.link l).fromClient.bytes = (request ++ more).take Pipe.capacity) →
      ∃ more, (b'.site.network.link l).fromClient.bytes = (request ++ more).take Pipe.capacity) :
    b'.Uncalled l request where
  known := hretains.known.2 h.known
  whole := h.whole.of_retains hretains
  filled hnone := hfilled (h.filled fun k hk => mt (hretains.begun k hk).2 (hnone k hk))
  handed id s' c message hs' hc hserves := by
    have hbefore := hretains.serves id c _ hc hserves
    have hserver := hbefore
    obtain ⟨s, e, hs, -⟩ := hserver
    obtain ⟨s'', hs'', hprofile⟩ := hchange.server hs
    cases hs'.symm.trans hs''
    have hsame : s'.buffer = s.buffer := congrArg (·.2.2.1) hprofile
    rw [hsame]
    exact h.handed id s c message hs hc hbefore

/-- Nothing is handed over by a server that writes or is about to read. -/
theorem Uncalled.of_reply {c : Conn} {rest : List UInt8} (ht' : b'.Tidy) (hc : c.link = l)
    (hserves : b'.Serves id c (.reply rest)) (hwhole : c.breakage = none)
    (hfilled : ∃ more,
      (b'.site.network.link l).fromClient.bytes = (request ++ more).take Pipe.capacity) :
    b'.Uncalled l request where
  known := hc ▸ hserves.lt ht'
  whole := .of_serves ht' hc hserves hwhole
  filled _ := hfilled
  handed id' s c' message _ hc' hserves' := by
    obtain ⟨-, -, hcall⟩ := ht'.serves_unique hserves hserves' (hc'.trans hc.symm)
    cases hcall

/-- The server hands over as much as the pipe and the buffer hold. -/
theorem Uncalled.step_heard {s : Server} {c after : Conn} {bytes : List UInt8} {n : Network}
    (h : b.Uncalled l request) (ht : b.Tidy) (ht' : b'.Tidy) (hchange : Change b a b')
    (hs : b.server? id = some s) (hc : c.link = l) (hserves : b.Serves id c (.reply []))
    (hne : bytes ≠ []) (hr : c.read s.buffer b.site.network = (.done bytes, after, n))
    (hserves' : b'.Serves id after (.call bytes)) : b'.Uncalled l request := by
  have hwhole := h.whole c hc (.inr ⟨id, _, hserves⟩)
  rcases Conn.read_message hr hne with ⟨-, -, rfl, hbytes, -⟩ | ⟨_, -, hwriting, -⟩
  · refine ⟨hc ▸ hserves'.lt ht', .of_serves ht' hc hserves' hwhole, fun hnone => ?_,
      fun id' s' c' message hs' hc' hserving => ?_⟩
    · obtain ⟨handler, e, hbegun⟩ := hserves'.begun
      exact absurd hbegun (hnone _ hc)
    · obtain ⟨rfl, -, hcall⟩ := ht'.serves_unique hserves' hserving (hc'.trans hc.symm)
      obtain ⟨s'', hs'', hprofile⟩ := hchange.server hs
      cases hs'.symm.trans hs''
      cases hcall
      have hsame : s'.buffer = s.buffer := congrArg (·.2.2.1) hprofile
      obtain ⟨more, hmore⟩ := h.filled fun k hk hbegun => by
        obtain ⟨-, hcall, -⟩ := ht.errand_of_begun hbegun hserves (hc.trans hk.symm)
        cases hcall
      refine ⟨more, ?_⟩
      rw [hbytes, hc, hmore, List.take_take, hsame]
  · rw [hwhole] at hwriting
    cases hwriting

theorem Uncalled.act (h : b.Uncalled l request) (hb : b.Sane)
    (huncalled : calls (on l (b.observe a)) = []) : (b.act a).Uncalled l request := by
  have hpassage := hb.passage a l
  have ht' := hb.tidy.act a
  have hchange := change_act hb.tidy a
  have hknown := h.known
  generalize on l (b.observe a) = i at hpassage huncalled
  cases hpassage with
  | kept hkeeps hlink => exact h.of_retains hkeeps.retains hchange fun hfilled => hlink ▸ hfilled
  | left hretains hcause hlink =>
    refine h.of_retains hretains hchange fun hfilled => ?_
    rcases hlink with hlink | hlink <;> rw [hlink]
    · exact hfilled
    · exact hfilled
  | opened hindex => omega
  | broke name how hfail hindex => omega
  | asked bytes hkeeps ha hne hopen hlink =>
    exact h.of_retains hkeeps.retains hchange fun hfilled => hlink ▸ filled_pour hfilled bytes
  | flushed bytes hkeeps hmem hopen hlink =>
    exact h.of_retains hkeeps.retains hchange fun hfilled => hlink ▸ filled_pour hfilled bytes
  | received hkeeps hlink =>
    refine h.of_retains hkeeps.retains hchange fun hfilled => ?_
    rw [hlink]
    exact hfilled
  | accepted id c hc hq hserves' hlink =>
    refine .of_reply ht' hc hserves' (h.whole c hc (.inl hq)) (hlink ▸ h.filled ?_)
    exact fun k hk hbegun => hb.tidy.not_queued_of_begun hbegun (hc.trans hk.symm) hq
  | heard id s c after bytes n hs hc hserves hne hr hlink hserves' =>
    exact h.step_heard hb.tidy ht' hchange hs hc hserves hne hr hserves'
  | answered => cases huncalled
  | carriedOut => cases huncalled
  | told id c u count n hc hserves hne hw hlink hserves' =>
    refine .of_reply ht' hc hserves' (h.whole c hc (.inr ⟨id, _, hserves⟩)) ?_
    obtain ⟨more, hmore⟩ := h.filled fun k hk hbegun => by
      obtain ⟨-, hcall, -⟩ := hb.tidy.errand_of_begun hbegun hserves (hc.trans hk.symm)
      cases hcall
    subst hc
    obtain ⟨sent, -, hsent⟩ := write_link hw hknown
    rw [hlink, hsent]
    exact ⟨more, hmore⟩

theorem Uncalled.run {acts : List Act} (h : b.Uncalled l request) (hb : b.Sane)
    (huncalled : calls (on l (b.story acts)) = []) : (b.run acts).Uncalled l request := by
  induction acts generalizing b with
  | nil => exact h
  | cons a acts ih =>
    rw [story, on_append, calls_append, List.append_eq_nil_iff] at huncalled
    exact ih (h.act hb huncalled.1) (hb.act a) huncalled.2

/-- The first call is with as much as the pipe and the buffer hold. -/
theorem Uncalled.first {s : Server} {call : List UInt8 × Answer} (h : b.Uncalled l request)
    (hs : b.server? id = some s) (hcall : call ∈ calls (on l (b.observe (.move id)))) :
    (∃ more, call.1 = (request ++ more).take (min s.buffer Pipe.capacity))
      ∧ call.2 = (s.handler.run (Wire.decode call.1) b.site.host).1 := by
  rw [observe_move hs] at hcall
  rcases hk : s.call? with _ | k
  · rw [hk] at hcall
    cases hcall
  · obtain ⟨hhandler, -⟩ := Server.call?_eq_some hk
    simp only [hk, Option.toList_some, List.map_cons, List.map_nil, on_singleton] at hcall
    split at hcall
    · rename_i hlink
      cases List.mem_singleton.1 hcall
      rw [hhandler]
      exact ⟨h.handed id s k.conn k.bytes hs hlink (serves_of_call? hs hk), rfl⟩
    · cases hcall

/-! ## Messages of which something is read -/

theorem Uncalled.asked_ne_nil (h : b.Uncalled l request) (hne : request ≠ [])
    (hnone : ∀ k : Call, k.conn.link = l → ¬ b.Begun k) :
    (b.site.network.link l).fromClient.bytes ≠ [] := by
  obtain ⟨more, hmore⟩ := h.filled hnone
  rw [hmore]
  intro hnil
  rcases List.take_eq_nil_iff.1 hnil with hzero | hnone
  · exact absurd hzero (by decide)
  · exact hne (List.append_eq_nil_iff.1 hnone).1

/-- A server reads what has come as soon as it has written its reply, for which the client makes
room. -/
theorem Between.hears {b : Switchboard} {told rest : List UInt8}
    (h : (b.withUnsent []).Between id l asked told (.reply rest)) (hb : b.Sane) (hne : asked ≠ []) :
    ∃ finish : List Act, (∀ a ∈ finish, a.Proceeds id l)
      ∧ calls (on l (b.story finish)) ≠ [] := by
  by_cases hrest : rest = []
  · subst hrest
    have hone := h.calls_exchange (hb.withUnsent []) hne
    rw [story_moves_withUnsent] at hone
    refine ⟨[.move id, .move id], by simp [Act.Proceeds], fun hnil => ?_⟩
    rw [hnil] at hone
    cases hone
  · obtain ⟨told', rest', hshorter, hrelieved⟩ := h.relieved hb hrest
    obtain ⟨finish, hfinish, hcalls⟩ := hrelieved.hears (hb.run _) hne
    refine ⟨.receive l :: .move id :: finish, ?_, ?_⟩
    · simpa [Act.Proceeds] using hfinish
    · intro hnone
      simp only [story, on_append, calls_append, List.append_eq_nil_iff] at hnone
      exact hcalls hnone.2.2
termination_by rest.length

/-- A server that has a client calls its handler with what it has read of the message, or with what
it comes to read. -/
theorem Uncalled.hears (h : b.Uncalled l request) (hb : b.Sane) (hne : request ≠ [])
    (hattends : b.Attends id l) :
    ∃ finish : List Act, (∀ a ∈ finish, a.Proceeds id l)
      ∧ calls (on l (b.story finish)) ≠ [] := by
  obtain ⟨⟨u, hserves⟩, hopen⟩ := hattends
  have hbetween : (b.withUnsent []).Between id l (b.site.network.link l).fromClient.bytes
      (b.site.network.link l).fromHost.bytes u :=
    ⟨hserves, hopen, rfl, rfl, by simp [withUnsent]⟩
  cases u with
  | call message =>
    obtain ⟨s, e, hs, -⟩ := hbetween.serves
    have hobserve := hbetween.observe_answered hs
    rw [observe_withUnsent (by simp)] at hobserve
    exact ⟨[.move id], by simp [Act.Proceeds], by simp [story, hobserve]⟩
  | reply rest =>
    refine hbetween.hears hb (h.asked_ne_nil hne fun k hk hbegun => ?_)
    obtain ⟨-, hcall, -⟩ := hb.tidy.errand_of_begun hbegun hserves hk.symm
    cases hcall

/-- The first bytes of a message without zero characters are read as the longest beginning of its
text that is there in whole units, followed by one replacement character exactly if a pair of
surrogates was cut in two. In this way a server reads a message that a client sends in one go on an
idle connection: what its handler gets first are as many bytes as the message has and as the
server's buffer and the pipe hold. A server that has the client cannot come to rest before it has
read of the message, unless the client leaves replies in the pipe, and can always come to read it. -/
theorem truncated_message_read {m : String} (hm : '\x00' ∉ m.toList) :
    (∀ count, ∃ p, Wire.LongestWithin (count / 2) m.toList p
      ∧ (Wire.SplitsPair (count / 2) m.toList
          ∧ (Wire.decode ((Wire.encode m).take count)).toList = p ++ [Wire.replacement]
        ∨ ¬ Wire.SplitsPair (count / 2) m.toList
          ∧ (Wire.decode ((Wire.encode m).take count)).toList = p))
    ∧ ∀ (host : Host) (made more after : List Act) (name : String) (handler : Handler)
        (size backoff : Nat) (id : ServerId) (l : LinkId) (b b' : Switchboard) (text : String),
      id = ⟨((create (.inMemory host)).run made).servers.length⟩ →
      b = (create (.inMemory host)).run (made ++ .add name handler size backoff :: more) →
      b.Open l → b.HeardOut l →
      b' = b.run (.send l (Wire.encode m) :: after) →
      calls (on l (b.story (.send l (Wire.encode m) :: after))) = [] →
      text = Wire.decode ((Wire.encode m).take
        (min (Wire.encode m).length (min (max size Server.minBuffer) Pipe.capacity))) →
      (∀ call ∈ calls (on l (b'.observe (.move id))),
        Wire.decode call.1 = text ∧ call.2 = (handler.run text b'.site.host).1)
      ∧ (b'.Attends id l →
        (b'.Quiet → (b'.site.network.link l).fromHost.bytes ≠ [])
        ∧ ∃ finish : List Act, (∀ a ∈ finish, a.Proceeds id l)
          ∧ calls (on l (b'.story finish)) ≠ []) := by
  refine ⟨Wire.decode_take hm, ?_⟩
  intro host made more after name handler size backoff id l b b' text hid hb hopen hheard hb'
    huncalled htext
  have hmade := (sane_create host).run made
  have hsane : b.Sane := hb ▸ (sane_create host).run _
  have hsane' : b'.Sane := hb' ▸ hsane.run _
  have hidle : b.Idle l := by
    subst hb
    exact idle_run hopen hheard
  have hwaits : b'.Uncalled l (Wire.encode m) := by
    rw [story, on_append, calls_append, List.append_eq_nil_iff] at huncalled
    exact hb' ▸ (hidle.uncalled (Wire.encode_ne_nil m)).run (hsane.act _) huncalled.2
  refine ⟨fun call hcall => ?_, fun hattends => ⟨fun hquiet hdrained => ?_, ?_⟩⟩
  · rcases hs : b'.server? id with _ | s
    · simp only [observe, carriedOut, hs] at hcall
      cases hcall
    obtain ⟨⟨rest, hread⟩, hanswer⟩ := hwaits.first hs hcall
    have hprofile : s.profile = (Server.create name handler size backoff).profile := by
      rw [hb', hb, ← run_append, List.append_assoc, List.cons_append, hid] at hs
      exact profile_of_add hmade _ hs
    have hhandler : s.handler = handler := congrArg (·.2.1) hprofile
    have hbuffer : s.buffer = max size Server.minBuffer := congrArg (·.2.2.1) hprofile
    have hcalled : Wire.decode call.1 = text := by
      rw [hread, Wire.decode_take_append, hbuffer, htext]
    exact ⟨hcalled, by rw [hanswer, hhandler, hcalled]⟩
  · exact hwaits.asked_ne_nil (Wire.encode_ne_nil m) (fun k _ => hquiet.not_begun k)
      (hattends.heardOut_of_quiet hquiet hdrained).unasked
  · exact hwaits.hears hsane' (Wire.encode_ne_nil m) hattends

/-- With a buffer of five bytes the second character is cut between its surrogates. -/
theorem face_truncated :
    ('\x00' ∉ "a😀".toList ∧ (lobby.run (vestibule 5)).Open ⟨0⟩
      ∧ (lobby.run (vestibule 5)).HeardOut ⟨0⟩
      ∧ calls (on ⟨0⟩ ((lobby.run (vestibule 5)).story
        [.send ⟨0⟩ (Wire.encode "a😀"), .move ⟨0⟩, .move ⟨0⟩])) = []
      ∧ ((lobby.run (vestibule 5)).run
        [.send ⟨0⟩ (Wire.encode "a😀"), .move ⟨0⟩, .move ⟨0⟩]).Attends ⟨0⟩ ⟨0⟩)
    ∧ ∃ call ∈ calls (on ⟨0⟩ (((lobby.run (vestibule 5)).run
        [.send ⟨0⟩ (Wire.encode "a😀"), .move ⟨0⟩, .move ⟨0⟩]).observe (.move ⟨0⟩))),
      Wire.decode call.1 = "a\uFFFD" := by
  have hnone : '\x00' ∉ "a😀".toList := by decide
  have hidle := idle_vestibule 5
  have hattends : ((lobby.run (vestibule 5)).run
      [.send ⟨0⟩ (Wire.encode "a😀"), .move ⟨0⟩, .move ⟨0⟩]).Attends ⟨0⟩ ⟨0⟩ :=
    ⟨⟨.call [97, 0, 61, 216, 0], _, _, rfl, rfl⟩, rfl, rfl⟩
  refine ⟨⟨hnone, hidle.opened, hidle.heardOut, rfl, hattends⟩, ⟨[97, 0, 61, 216, 0], _⟩,
    .head _, ?_⟩
  have hread := (truncated_message_read hnone).2 (.fresh 8) []
    [.start ⟨0⟩, .move ⟨0⟩, .connect "parlour"] [.move ⟨0⟩, .move ⟨0⟩] "parlour"
    (.callback fun message => .reply message) 5 1 ⟨0⟩ ⟨0⟩ _ _ _ rfl rfl hidle.opened
    hidle.heardOut rfl rfl rfl
  have hcut : Wire.decode ((Wire.encode "a😀").take 5) = "a\uFFFD" := by decide
  exact (hread.1 _ (.head _)).1.trans hcut

end Switchboard

end KeyBridge
