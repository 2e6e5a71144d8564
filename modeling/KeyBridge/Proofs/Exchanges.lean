-- SUMMARY: What goes to and fro between a server and the client that it has.
import KeyBridge.Proofs.Codec
import KeyBridge.Proofs.Passages

/-!
# Exchanges

A server that has a client reads a message of it, writes the reply and waits for the next message.
`Between` says which bytes are on their way between the two, and `Turn` lists what an act can do to
them while the client stays, sends nothing more and the server is not shut down.
-/

namespace KeyBridge

namespace Switchboard

open Incident

/-- An act in which a client neither sends nor leaves, and its server is not shut down. -/
def Act.Spares (id : ServerId) (l : LinkId) (a : Act) : Prop :=
  (∀ bytes, a ≠ .send l bytes) ∧ a ≠ .hangUp l ∧ a ≠ .shutdown id

/-- A server has a client, and is at an errand for it. These bytes are on their way between the two:
what the client asked, and what it was told. -/
structure Between (b : Switchboard) (id : ServerId) (l : LinkId) (asked told : List UInt8)
    (errand : Errand) : Prop where
  serves : b.Serves id ⟨l, none⟩ errand
  opened : b.Open l
  asked_eq : (b.site.network.link l).fromClient.bytes = asked
  told_eq : (b.site.network.link l).fromHost.bytes = told
  unsent : ∀ bytes, (l, bytes) ∉ b.unsent

/-- What an act does between a server and its client, and what happens on their connection. -/
inductive Turn (b b' : Switchboard) (id : ServerId) (l : LinkId) (asked told : List UInt8)
    (errand : Errand) : List Incident → Prop where
  | same : b'.Between id l asked told errand → Turn b b' id l asked told errand []
  | received : b'.Between id l asked [] errand → Turn b b' id l asked told errand [.received l told]
  | heard (s : Server) : b.server? id = some s → errand = .reply [] → asked ≠ [] →
      b'.Between id l (asked.drop s.buffer) told (.call (asked.take s.buffer)) →
      Turn b b' id l asked told errand []
  | answered (s : Server) (message : List UInt8) : b.server? id = some s →
      errand = .call message →
      b'.Between id l asked told
        (.reply (Wire.encode (s.handler.run (Wire.decode message) b.site.host).1.text)) →
      Turn b b' id l asked told errand [.answered ⟨l, none⟩ message
        (s.handler.run (Wire.decode message) b.site.host).1]
  | wrote (rest : List UInt8) (count : Nat) : errand = .reply rest → rest ≠ [] →
      count = min (Pipe.capacity - told.length) rest.length →
      b'.Between id l asked (told ++ rest.take count) (.reply (rest.drop count)) →
      Turn b b' id l asked told errand []

section

variable {b b' : Switchboard} {id : ServerId} {l : LinkId} {asked told rest message : List UInt8}
  {errand : Errand} {s : Server} {a : Act}

/-- Nothing changes between a server and its client if servers, connections and what is put off stay
as they are. -/
theorem Between.congr (h : b.Between id l asked told errand) (hservers : b'.servers = b.servers)
    (hnetwork : b'.site.network = b.site.network) (hunsent : b'.unsent = b.unsent) :
    b'.Between id l asked told errand where
  serves := (serves_of_servers hservers).2 h.serves
  opened := by
    rw [Open, hnetwork]
    exact h.opened
  asked_eq := by rw [hnetwork, h.asked_eq]
  told_eq := by rw [hnetwork, h.told_eq]
  unsent := by
    rw [hunsent]
    exact h.unsent

theorem Between.turn (h : b.Between id l asked told errand) (hb : b.Sane) (ha : a.Spares id l) :
    Turn b (b.act a) id l asked told errand (on l (b.observe a)) := by
  obtain ⟨hsend, hhang, hshut⟩ := ha
  have ht := hb.tidy
  have hpassage := hb.passage a l
  obtain ⟨⟨u, hserves⟩, hopen⟩ := hpassage.serves ht h.serves rfl rfl h.opened hhang hshut
  have hunsent := (change_act ht a).not_mem_unsent h.unsent hsend
  have hlt : l.index < b.site.network.links.length := h.serves.lt ht
  -- The server is at the errand at which it was, if it had the client before.
  have hkept (hu : b.Serves id ⟨l, none⟩ u) : u = errand :=
    (ht.serves_unique h.serves hu rfl).2.2
  generalize on l (b.observe a) = i at hpassage ⊢
  cases hpassage with
  | kept hkeeps hlink =>
    cases hkept ((hkeeps.serves _ _ _ rfl).1 hserves)
    exact .same ⟨hserves, hopen, by rw [hlink, h.asked_eq], by rw [hlink, h.told_eq], hunsent⟩
  | left hretains hcause hlink =>
    cases hkept (hretains.serves _ _ _ rfl hserves)
    rcases hlink with hlink | hlink
    · exact .same ⟨hserves, hopen, by rw [hlink, h.asked_eq], by rw [hlink, h.told_eq], hunsent⟩
    · have hclosed := hopen.1
      rw [hlink] at hclosed
      cases hclosed
  | opened hindex => omega
  | broke name how hfail hindex => omega
  | asked bytes hkeeps hasked => exact absurd hasked (hsend bytes)
  | flushed bytes hkeeps hmem => exact absurd hmem (h.unsent bytes)
  | received hkeeps hlink =>
    cases hkept ((hkeeps.serves _ _ _ rfl).1 hserves)
    rw [h.told_eq]
    refine .received ⟨hserves, hopen, ?_, ?_, hunsent⟩
    · rw [hlink]
      exact h.asked_eq
    · rw [hlink]
      rfl
  | accepted id' c hc hq => exact absurd hq (ht.not_queued h.serves hc)
  | heard id' s c after bytes n hs hc hserving hne hr hlink hserves' =>
    obtain ⟨rfl, rfl, hnil⟩ := ht.serves_unique h.serves hserving hc
    rcases Conn.read_message hr hne with ⟨-, hbytes, rfl, rfl, rfl⟩ | ⟨_, -, hwriting, -⟩
    · rw [Network.link_setLink_self _ _ _ hlt] at hlink
      rw [h.asked_eq] at hbytes hlink hserves'
      refine .heard s hs hnil.symm hbytes ⟨hserves', hopen, ?_, ?_, hunsent⟩
      · rw [hlink]
        rfl
      · rw [hlink]
        exact h.told_eq
    · cases hwriting
  | answered id' k hk hbegun hserving hlink hserves' =>
    obtain ⟨rfl, hconn, hcall⟩ := ht.serves_unique h.serves hserving hk
    obtain ⟨-, -, s, hs, hcalls⟩ := ht.errand_of_begun hbegun h.serves hk.symm
    obtain ⟨hhandler, -⟩ := Server.call?_eq_some hcalls
    rw [hconn, ← hhandler] at hserves'
    rw [Call.incident, hconn, ← hhandler]
    refine .answered s k.bytes hs hcall.symm ⟨hserves', hopen, ?_, ?_, hunsent⟩
    · rw [hlink, h.asked_eq]
    · rw [hlink, h.told_eq]
  | carriedOut k hk hmem hnet hvacant => exact absurd hserves (hvacant.serves id _ u rfl)
  | told id' c unsent count n hc hserving hne hw hlink hserves' =>
    obtain ⟨rfl, rfl, hcalls⟩ := ht.serves_unique h.serves hserving hc
    obtain ⟨-, -, hcount, rfl⟩ := Conn.write_done hw
    rw [Network.link_setLink_self _ _ _ hlt, h.told_eq] at hlink
    rw [Pipe.room, h.told_eq] at hcount
    refine .wrote unsent count hcalls.symm hne hcount ⟨hserves', hopen, ?_, ?_, hunsent⟩
    · rw [hlink]
      exact h.asked_eq
    · rw [hlink]
      rfl

/-- A server stays at its errand as long as it does not move. -/
theorem Serves.act {c : Conn} (h : b.Serves id c errand) (hb : b.Tidy) (hmove : a ≠ .move id)
    (hshut : a ≠ .shutdown id) : (b.act a).Serves id c errand := by
  have hchange := change_act hb a
  generalize b.act a = b' at hchange
  cases hchange with
  | add name handler buffer backoff =>
    obtain ⟨s, e, hs, ht⟩ := h
    exact ⟨s, e, server?_add hs, ht⟩
  | start id' s hs hidle =>
    have hservers : (b.put id' s.launched (b.site.log [.pipeStarted s.name])).servers
        = b.servers.set id'.index s.launched := rfl
    refine serves_set_ne hservers (fun hid => ?_) h
    obtain ⟨s', e, hs', ht⟩ := h
    subst hid
    cases hs.symm.trans hs'
    cases hidle.symm.trans ht
  | shutdown id' s hs =>
    have hservers : (b.put id' s.stopped (b.site.log s.farewell)).servers
        = b.servers.set id'.index s.stopped := rfl
    exact serves_set_ne hservers (fun hid => hshut (hid ▸ rfl)) h
  | move id' s s' b' hs hstep hservers =>
    exact serves_set_ne hservers (fun hid => hmove (hid ▸ rfl)) h
  | send link bytes => exact (serves_of_servers (servers_putOff ..)).2 h
  | elapse time => exact serves_elapse.2 h
  | _ => exact h

/-- As long as the server does not move, its client can only receive what is there. -/
theorem Between.waits (h : b.Between id l asked [] errand) (hb : b.Sane) (ha : a.Spares id l)
    (hmove : a ≠ .move id) : (b.act a).Between id l asked [] errand
      ∧ calls (on l (b.observe a)) = [] ∧ receipts (on l (b.observe a)) = [] := by
  have hturn := h.turn hb ha
  have hsame := h.serves.act hb.tidy hmove ha.2.2
  have hkept {errand' : Errand} (hserves : (b.act a).Serves id ⟨l, none⟩ errand') :
      errand' = errand := ((hb.act a).tidy.serves_unique hsame hserves rfl).2.2
  generalize on l (b.observe a) = i at hturn
  cases hturn with
  | same hsame => exact ⟨hsame, rfl, rfl⟩
  | received hsame => exact ⟨hsame, rfl, rfl⟩
  | heard s hs herrand hne hbetween =>
    rw [herrand] at hkept
    cases hkept hbetween.serves
  | answered s message hs herrand hbetween =>
    rw [herrand] at hkept
    cases hkept hbetween.serves
  | wrote rest count herrand hne hcount hbetween =>
    have hrest := hkept hbetween.serves
    rw [herrand, Errand.reply.injEq] at hrest
    have hlength := congrArg List.length hrest
    have hpositive := List.length_pos_of_ne_nil hne
    rw [List.length_drop] at hlength
    have hcapacity : 0 < Pipe.capacity := by decide
    simp only [List.length_nil] at hcount
    omega

/-! ## Progress -/

/-- A server that cannot move has nothing to read, and has written as much as there is room for. -/
theorem Between.stalled (h : b.Between id l asked told errand) (hm : b.moveServer id = none) :
    errand = .reply [] ∧ asked = []
      ∨ ∃ rest, errand = .reply rest ∧ rest ≠ [] ∧ (b.site.network.link l).fromHost.room = 0 := by
  obtain ⟨s, e, hs, ht⟩ := h.serves
  have hstalled : s.move b.site = none := by simpa [moveServer, hs] using hm
  rcases Server.stalled_of_move hstalled with ht' | ⟨time, ht'⟩ | ⟨e', n, ht', -⟩
    | ⟨e', c, after, n, ht', hr⟩ | ⟨e', c, u, n, ht', hne, hw⟩
  · cases ht.symm.trans ht'
  · cases ht.symm.trans ht'
  · cases ht.symm.trans ht'
  · cases ht.symm.trans ht'
    exact .inl ⟨rfl, h.asked_eq ▸ (Conn.read_pending hr).1⟩
  · cases ht.symm.trans ht'
    exact .inr ⟨u, rfl, hne, (Conn.write_pending hw).2.2⟩

/-- A server goes on to another errand for its client, with other bytes on their way. -/
theorem Between.next {e : Endpoint} {next : Errand} {link : Link}
    (h : b.Between id l asked told errand) (hb : b.Sane) (hs : b.server? id = some s)
    (hmove : s.move b.site = some (s.attend e ⟨l, none⟩ next,
      { b.site with network := b.site.network.setLink l link }))
    (hto : link.fromClient.closed = (b.site.network.link l).fromClient.closed)
    (hback : link.fromHost.closed = (b.site.network.link l).fromHost.closed) :
    (b.act (.move id)).Between id l link.fromClient.bytes link.fromHost.bytes next
      ∧ (b.act (.move id)).site.host = b.site.host := by
  have hact : b.act (.move id) = b.put id (s.attend e ⟨l, none⟩ next)
      { b.site with network := b.site.network.setLink l link } := by
    simp only [act, moveServer, hs, hmove]
    rfl
  have hlink : (b.act (.move id)).site.network.link l = link := by
    rw [hact]
    exact Network.link_setLink_self _ _ _ (h.serves.lt hb.tidy)
  refine ⟨⟨?_, h.opened.of_link hlink hto hback, by rw [hlink], by rw [hlink], ?_⟩, ?_⟩
  · rw [hact]
    exact serves_set_self hs rfl rfl
  · rw [hact]
    exact h.unsent
  · rw [hact]
    rfl

/-- A move of the server reads what has come, as much as the buffer holds. -/
theorem Between.heard (h : b.Between id l asked told (.reply [])) (hb : b.Sane) (hne : asked ≠ [])
    (hs : b.server? id = some s) :
    (b.act (.move id)).Between id l (asked.drop s.buffer) told (.call (asked.take s.buffer))
      ∧ (b.act (.move id)).site.host = b.site.host := by
  have hserves := h.serves
  obtain ⟨s', e, hs', ht⟩ := hserves
  cases hs.symm.trans hs'
  have hbuffer := hb.readable s (mem_servers_of_server? hs)
  obtain ⟨byte, more, hmessage⟩ : ∃ byte more, asked.take s.buffer = byte :: more := by
    apply List.exists_cons_of_ne_nil
    intro hnil
    rcases List.take_eq_nil_iff.1 hnil with hzero | hnil
    · rw [hzero] at hbuffer
      exact absurd hbuffer (by decide)
    · exact hne hnil
  have hread : (⟨l, none⟩ : Conn).read s.buffer b.site.network
      = (.done (asked.take s.buffer), ⟨l, none⟩, b.site.network.setLink l
        ((b.site.network.link l).withRequest (asked.drop s.buffer))) := by
    simp [Conn.read, Network.read_host, h.asked_eq, hne]
  have hmove : s.move b.site = some (s.attend e ⟨l, none⟩ (.call (asked.take s.buffer)),
      { b.site with
        network := b.site.network.setLink l
          ((b.site.network.link l).withRequest (asked.drop s.buffer)) }) := by
    rw [Server.move, ht]
    dsimp only
    rw [Server.hear, hread, hmessage]
  have hnext := h.next hb hs hmove rfl rfl
  rw [← h.told_eq]
  exact hnext

/-- Nothing is answered when a message is handed over. -/
theorem Between.observe_heard (h : b.Between id l asked told (.reply rest)) :
    on l (b.observe (.move id)) = [] := by
  obtain ⟨s, e, hs, ht⟩ := h.serves
  simp [Switchboard.observe_move hs, Server.call?, ht]

/-- The next move of the server answers the message that it handed over. -/
theorem Between.observe_answered (h : b.Between id l asked told (.call message))
    (hs : b.server? id = some s) :
    on l (b.observe (.move id)) = [.answered ⟨l, none⟩ message
      (s.handler.run (Wire.decode message) b.site.host).1] := by
  obtain ⟨s', e, hs', ht⟩ := h.serves
  cases hs.symm.trans hs'
  simp [Switchboard.observe_move hs, Server.call?_of_task ht, on_singleton, Call.incident,
    Incident.link]

theorem Between.answered (h : b.Between id l asked told (.call message)) (hb : b.Sane)
    (hs : b.server? id = some s) :
    (b.act (.move id)).Between id l asked told
      (.reply (Wire.encode (s.handler.run (Wire.decode message) b.site.host).1.text)) := by
  have hturn := h.turn hb (a := .move id) ⟨by simp, by simp, by simp⟩
  have hobserve := h.observe_answered hs
  generalize on l (b.observe (.move id)) = i at hturn hobserve
  cases hturn with
  | answered s' message hs' hcall hanswered =>
    cases hs.symm.trans hs'
    cases hcall
    exact hanswered
  | _ => cases hobserve

/-- A move of the server writes as much of the reply as there is room for. -/
theorem Between.wrote (h : b.Between id l asked told (.reply rest)) (hb : b.Sane) (hne : rest ≠ [])
    (hroom : told.length < Pipe.capacity) :
    (b.act (.move id)).Between id l asked
      (told ++ rest.take (min (Pipe.capacity - told.length) rest.length))
      (.reply (rest.drop (min (Pipe.capacity - told.length) rest.length))) := by
  have hserves := h.serves
  obtain ⟨s, e, hs, ht⟩ := hserves
  obtain ⟨byte, more, rfl⟩ := List.exists_cons_of_ne_nil hne
  have hfree : (b.site.network.link l).fromHost.room = Pipe.capacity - told.length := by
    rw [Pipe.room, h.told_eq]
  have hwrite : (⟨l, none⟩ : Conn).write (byte :: more) b.site.network
      = (.done (min (Pipe.capacity - told.length) (byte :: more).length),
        b.site.network.setLink l ((b.site.network.link l).withReply
          (told ++ (byte :: more).take (min (Pipe.capacity - told.length) (byte :: more).length)))) := by
    have hnotFull : Pipe.capacity - told.length ≠ 0 := by omega
    simp [Conn.write, Network.write_host, h.opened.2, hfree, hnotFull, h.told_eq]
  generalize min (Pipe.capacity - told.length) (byte :: more).length = count at hwrite ⊢
  have hmove : s.move b.site = some (s.attend e ⟨l, none⟩ (.reply ((byte :: more).drop count)),
      { b.site with
        network := b.site.network.setLink l
          ((b.site.network.link l).withReply (told ++ (byte :: more).take count)) }) := by
    rw [Server.move, ht]
    dsimp only
    rw [Server.tell, hwrite]
  have hnext := (h.next hb hs hmove rfl rfl).1
  rw [← h.asked_eq]
  exact hnext

/-! ## Requests -/

theorem Between.room_eq (h : b.Between id l [] told errand) :
    (b.site.network.link l).fromClient.room = Pipe.capacity := by
  simp [Pipe.room, h.asked_eq]

/-- What a client sends while nothing is on its way comes as one request, if it fits in the pipe. -/
theorem Between.send (h : b.Between id l [] told errand) (hb : b.Sane) {request : List UInt8}
    (hfits : request.length ≤ Pipe.capacity) :
    (b.act (.send l request)).Between id l request told errand := by
  by_cases hne : request = []
  · subst hne
    exact h
  · have hact : b.act (.send l request)
        = b.withNetwork (b.site.network.setLink l ((b.site.network.link l).pour request)) := by
      rw [act, send_open hne h.opened.1, h.room_eq, Nat.min_eq_right hfits, List.drop_length]
      rfl
    have hlink : (b.act (.send l request)).site.network.link l
        = (b.site.network.link l).pour request := by
      rw [hact]
      exact Network.link_setLink_self _ _ _ (h.serves.lt hb.tidy)
    refine ⟨?_, h.opened.of_link hlink rfl rfl, ?_, ?_, ?_⟩
    · rw [hact]
      exact h.serves
    · rw [hlink]
      simp [Link.pour, Link.withRequest, h.asked_eq, h.room_eq, Nat.min_eq_right hfits]
    · rw [hlink]
      exact h.told_eq
    · rw [hact]
      exact h.unsent

/-! ## Requests that do not fit in the pipe -/

/-- The switchboard with other bytes put off. -/
def withUnsent (b : Switchboard) (unsent : List (LinkId × List UInt8)) : Switchboard :=
  { b with unsent := unsent }

/-- Servers do not look at what clients have put off. -/
theorem act_move_withUnsent (b : Switchboard) (id : ServerId)
    (unsent : List (LinkId × List UInt8)) :
    (b.withUnsent unsent).act (.move id) = (b.act (.move id)).withUnsent unsent := by
  simp only [act, moveServer]
  have hserver : (b.withUnsent unsent).server? id = b.server? id := rfl
  rw [hserver]
  rcases b.server? id with _ | s
  · rfl
  · have hsite : (b.withUnsent unsent).site = b.site := rfl
    dsimp only
    rw [hsite]
    rcases s.move b.site with _ | ⟨s', site'⟩
    · rfl
    · simp only [Option.map_some, Option.getD_some]
      split <;> rfl

/-- A client sends what fits in the pipe, and puts off what does not. -/
theorem Between.send_long (h : b.Between id l [] told errand) (hunsent : b.unsent = [])
    {request : List UInt8} (hlong : Pipe.capacity < request.length) :
    b.act (.send l request) = (b.act (.send l (request.take Pipe.capacity))).withUnsent
      [(l, request.drop Pipe.capacity)] := by
  have hne : request ≠ [] := List.ne_nil_of_length_pos (by omega)
  have hlength : (request.take Pipe.capacity).length = Pipe.capacity := by
    rw [List.length_take]
    omega
  have hpart : request.take Pipe.capacity ≠ [] :=
    List.ne_nil_of_length_pos (by rw [hlength]; decide)
  have hrest : (request.drop Pipe.capacity).isEmpty = false := by
    rw [List.isEmpty_eq_false_iff]
    exact List.ne_nil_of_length_pos (by rw [List.length_drop]; omega)
  have hpour : (b.site.network.link l).pour (request.take Pipe.capacity)
      = (b.site.network.link l).pour request := by
    simp only [Link.pour, h.room_eq, hlength, Nat.min_self, Nat.min_eq_left (Nat.le_of_lt hlong)]
    rw [List.take_take, Nat.min_self]
  rw [act, act, send_open hne h.opened.1, send_open hpart h.opened.1, h.room_eq, hlength, hpour,
    Nat.min_eq_left (Nat.le_of_lt hlong), Nat.min_self, List.drop_take, Nat.sub_self, List.take_zero]
  simp [putOff, hrest, withUnsent, withNetwork, hunsent]

/-- What was put off is sent as soon as the pipe is empty. -/
theorem Between.write_rest (h : b.Between id l [] told errand) (hunsent : b.unsent = [])
    {more : List UInt8} (hne : more ≠ []) (hfits : more.length ≤ Pipe.capacity) :
    (b.withUnsent [(l, more)]).act (.write 0) = b.act (.send l more) := by
  have hwrite : b.site.network.write l .client more
      = (.done more.length, b.site.network.setLink l ((b.site.network.link l).pour more)) := by
    have hroom : Pipe.capacity ≠ 0 := by decide
    rw [Network.write_client]
    simp [h.opened.1, h.room_eq, hroom, Nat.min_eq_right hfits]
  have hwritten : (b.withUnsent [(l, more)]).act (.write 0)
      = (b.withNetwork (b.site.network.setLink l ((b.site.network.link l).pour more))).withUnsent
          [] := by
    simp [act, writeAt, withUnsent, hwrite, withNetwork]
    rfl
  rw [hwritten, act, send_open hne h.opened.1, h.room_eq, Nat.min_eq_right hfits, List.drop_length]
  simp [putOff, withUnsent, withNetwork, hunsent]

theorem host_send (b : Switchboard) (l : LinkId) (bytes : List UInt8) :
    (b.act (.send l bytes)).site.host = b.site.host := by
  rw [act, Switchboard.send]
  split
  · rfl
  · split
    · rfl
    · exact (congrArg Site.host (site_putOff ..)).trans rfl
    · exact (congrArg Site.host (site_putOff ..)).trans rfl

theorem calls_observe_send (b : Switchboard) (link l : LinkId) (bytes : List UInt8) :
    calls (on l (b.observe (.send link bytes))) = [] := by
  rw [observe]
  split
  · rw [on_singleton]
    split <;> rfl
  · rfl

/-- A server that has a message to read calls its handler once in two moves. -/
theorem Between.calls_exchange (h : b.Between id l asked told (.reply [])) (hb : b.Sane)
    (hne : asked ≠ []) : (calls (on l (b.story [.move id, .move id]))).length = 1 := by
  obtain ⟨s, e, hs, -⟩ := h.serves
  obtain ⟨s', hs', -⟩ := (change_act hb.tidy (.move id)).server hs
  have hanswered := (h.heard hb hne hs).1.observe_answered hs'
  simp [story, h.observe_heard, hanswered]

/-- A request longer than the pipe is answered in two parts, even if it fits in the buffer. -/
theorem Between.answered_twice (h : b.Between id l [] [] (.reply [])) (hb : b.Sane)
    (hunsent : b.unsent = []) {request : List UInt8} (hlong : Pipe.capacity < request.length)
    (hshort : request.length ≤ 2 * Pipe.capacity) (hs : b.server? id = some s)
    (hbuffer : Pipe.capacity ≤ s.buffer) {into : RegistryId} (hhandler : s.handler = .registry into)
    (hempty : ∀ message, (b.site.host.registry into).get? message = none) :
    (calls (on l (b.story [.send l request, .move id, .move id, .move id, .write 0, .move id,
      .move id]))).length = 2 := by
  have hlength : (request.take Pipe.capacity).length = Pipe.capacity := by
    rw [List.length_take]
    omega
  have hpart : request.take Pipe.capacity ≠ [] :=
    List.ne_nil_of_length_pos (by rw [hlength]; decide)
  have hmore : request.drop Pipe.capacity ≠ [] :=
    List.ne_nil_of_length_pos (by rw [List.length_drop]; omega)
  have hfits : (request.drop Pipe.capacity).length ≤ Pipe.capacity := by
    rw [List.length_drop]
    omega
  have hsend := h.send_long hunsent hlong
  have hhost := host_send b l (request.take Pipe.capacity)
  have hunsent₁ : (b.act (.send l (request.take Pipe.capacity))).unsent = [] := by
    apply (change_act hb.tidy _).unsent hunsent
    intro link bytes heq _
    cases heq
    rw [h.room_eq]
    exact Nat.le_of_eq hlength
  obtain ⟨s₁, hs₁, hprofile₁⟩ :=
    (change_act hb.tidy (.send l (request.take Pipe.capacity))).server hs
  have h₁ := h.send hb (Nat.le_of_eq hlength)
  have hb₁ := hb.act (.send l (request.take Pipe.capacity))
  generalize b.act (.send l (request.take Pipe.capacity)) = b₁ at *
  -- The server takes the first part for a whole message.
  have hfirst := h₁.calls_exchange hb₁ hpart
  obtain ⟨h₂, hhost₂⟩ := h₁.heard hb₁ hpart hs₁
  obtain ⟨s₂, hs₂, hprofile₂⟩ := (change_act hb₁.tidy (.move id)).server hs₁
  have hb₂ := hb₁.act (.move id)
  have hhandler₂ : s₂.handler = .registry into :=
    (congrArg (·.2.1) (hprofile₂.trans hprofile₁)).trans hhandler
  have hbuffer₁ : s₁.buffer = s.buffer := congrArg (·.2.2.1) hprofile₁
  have hsilent (message : String) :
      (s₂.handler.run message (b₁.act (.move id)).site.host).1.text = "" := by
    rw [hhandler₂, hhost₂, hhost]
    simp [Handler.run, Host.dispatch, Host.dispatchWith, Host.lookUp, hempty, Answer.text]
  have h₃ := h₂.answered hb₂ hs₂
  rw [hsilent, List.drop_eq_nil_iff.2 (by rw [hlength, hbuffer₁]; exact hbuffer)] at h₃
  have hb₃ := hb₂.act (.move id)
  have hquiet := congrArg calls h₃.observe_heard
  have h₄ := h₃.wrote hb₃ (Wire.encode_ne_nil "") (by decide)
  have hb₄ := hb₃.act (.move id)
  have hunsent₄ : (b₁.run [.move id, .move id, .move id]).unsent = [] := by
    have hunsent₂ := (change_act hb₁.tidy (.move id)).unsent hunsent₁ (by simp)
    have hunsent₃ := (change_act hb₂.tidy (.move id)).unsent hunsent₂ (by simp)
    exact (change_act hb₃.tidy (.move id)).unsent hunsent₃ (by simp)
  have hrest := h₄.write_rest hunsent₄ hmore hfits
  have h₅ := h₄.send hb₄ hfits
  have hsecond := h₅.calls_exchange (hb₄.act (.send l (request.drop Pipe.capacity))) hmore
  have hlook (x : Switchboard) : (x.withUnsent [(l, request.drop Pipe.capacity)]).observe
      (.move id) = x.observe (.move id) := rfl
  simp only [story, List.append_nil, on_append, calls_append, List.length_append] at hfirst hsecond
  have hwrite (x : Switchboard) : x.observe (.write 0) = [] := rfl
  simp only [story, hsend, act_move_withUnsent, hrest, hlook, hwrite, on_append, calls_append,
    calls_observe_send, hquiet, List.length_append, List.nil_append, on_nil]
  rw [List.length_eq_zero_iff.2 (rfl : calls [] = [])]
  omega

end

end Switchboard

end KeyBridge
