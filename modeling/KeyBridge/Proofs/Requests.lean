-- SUMMARY: Every request is answered once, in turn, and to the client that sent it.
import KeyBridge.Proofs.Accounts
import KeyBridge.Proofs.Calm

/-!
# Requests

In a polite run the calls on a client's connection are its requests in order, and what the client
receives are the replies to them, whatever fails or is shut down in between. In a run that nobody
disturbs, and in which clients stay until they have their replies, nothing is lost either: when all
is quiet, every request was answered, except those of clients that wait behind another one.
-/

namespace KeyBridge

namespace Switchboard

open Incident

variable {room : Nat} {b b' : Switchboard} {a : Act} {l : LinkId} {past : List Incident}

/-! ## Clients that stay -/

/-- Nobody interferes, and clients stay until they have received all replies. -/
def Patient (_ : Switchboard) (past : List Incident) (a : Act) : Prop :=
  a.disturbs = false ∧ ∀ link, a = .hangUp link → CaughtUp (on link past)

/-- What holds at every moment of a polite and patient run. -/
structure Attended (room : Nat) (b : Switchboard) (past : List Incident) : Prop where
  orderly : Orderly room b past
  undisturbed : b.Undisturbed
  unbroken : ∀ l, breaks (on l past) = []
  links : ∀ l : LinkId, l.index < b.site.network.links.length →
    (b.Open l ∧ b.Placed l)
      ∨ ((b.site.network.link l).fromClient.closed = true ∧ CaughtUp (on l past))

theorem attended_create (room : Nat) (host : Host) : Attended room (create (.inMemory host)) [] where
  orderly := orderly_create room host
  undisturbed := undisturbed_create host
  unbroken _ := rfl
  links l h := by simp [create, Site.inMemory, Network.fresh] at h

theorem Attended.client (hb : Attended room b past) (hl : l.index < b.site.network.links.length) :
    Client room b l (on l past) := by
  rcases hb.orderly.accounts l with ha | ha | ⟨how, ha⟩
  · have := ha.ahead
    omega
  · exact ha
  · have hbroken := ha.broken
    rw [hb.unbroken l] at hbroken
    cases hbroken

/-- A client that is caught up has nothing on its way to it, and nothing is left to call or to
write. -/
theorem Client.nothing_owed {h : List Incident} (ha : Client room b l h) (hcaught : CaughtUp h) :
    (b.site.network.link l).fromClient.bytes = []
      ∧ (b.site.network.link l).fromHost.bytes = []
      ∧ ∀ id c u, c.link = l → b.Serves id c u → u = .reply [] := by
  have hheard := ha.heard (ha.not_begun hcaught.1)
  rw [eq_nil_of_turn hcaught.1] at hheard
  have hback : (b.site.network.link l).fromHost.bytes = [] := by
    have hlength := ha.told.length_le
    rw [← hcaught.2, List.length_append] at hlength
    exact List.length_eq_zero_iff.1 (by omega)
  refine ⟨hheard, hback, fun id c u hc hs => ?_⟩
  cases u with
  | call bytes =>
    obtain ⟨handler, e, hbegun⟩ := hs.begun
    exact absurd hbegun (ha.not_begun hcaught.1 _ hc)
  | reply u =>
    have howed := (ha.served id c _ hc hs).2
    rw [hback, List.append_nil, hcaught.2] at howed
    exact congrArg Errand.reply (List.append_right_eq_self.1 howed)

theorem Attended.not_breakdown (hb : Attended room b past) (id : ServerId) : ¬ b.Breakdown id := by
  intro hbreak
  obtain ⟨c, u, hs, hne, hclosed⟩ := hb.undisturbed.breakdown hbreak
  have hlt := hs.lt hb.orderly.tidy
  rcases hb.links c.link hlt with ⟨hopen, -⟩ | ⟨-, hcaught⟩
  · rw [hopen.2] at hclosed
    cases hclosed
  · exact hne (Errand.reply.inj (((hb.client hlt).nothing_owed hcaught).2.2 id c _ rfl hs))

theorem Attended.unbroken_act (hb : Attended room b past) (hp : Patient b past a) (l : LinkId) :
    breaks (on l (past ++ b.observe a)) = [] := by
  have hpassage := hb.orderly.passage a l
  rw [on_append]
  generalize on l (b.observe a) = i at hpassage
  cases hpassage with
  | broke name how hfail =>
    have := hp.1
    rw [hfail] at this
    cases this
  | _ => simpa [Call.incident] using hb.unbroken l

/-- Nothing happens any more on the connection of a client that hung up. -/
theorem Attended.links_act_closed (hb : Attended room b past)
    (hl : l.index < b.site.network.links.length)
    (hclosed : (b.site.network.link l).fromClient.closed = true)
    (hcaught : CaughtUp (on l past)) :
    ((b.act a).site.network.link l).fromClient.closed = true
      ∧ CaughtUp (on l (past ++ b.observe a)) := by
  have hclient := hb.client hl
  obtain ⟨hheard, hback, hunsent⟩ := hclient.nothing_owed hcaught
  have hpassage := hb.orderly.passage a l
  rw [on_append]
  generalize on l (b.observe a) = i at hpassage
  cases hpassage with
  | kept hkeeps hlink => exact ⟨hlink ▸ hclosed, by simpa using hcaught⟩
  | left hretains hcause hlink =>
    refine ⟨?_, by simpa using hcaught⟩
    rcases hlink with hlink | hlink <;> rw [hlink]
    · exact hclosed
    · exact Link.closed_fromClient_drop _
  | opened hindex => omega
  | broke name how hfail hindex => omega
  | asked bytes hkeeps hsend hne hopen =>
    rw [hclosed] at hopen
    cases hopen
  | flushed bytes hkeeps hmem hopen =>
    rw [hclosed] at hopen
    cases hopen
  | received hkeeps hlink =>
    refine ⟨by rw [hlink]; exact hclosed, ?_⟩
    simpa [hback, CaughtUp] using hcaught
  | accepted id c hc hq hserves hlink => exact ⟨hlink ▸ hclosed, by simpa using hcaught⟩
  | heard id s c after bytes n hs hc hserves hne hr =>
    have hwhole := hb.undisturbed.served id c _ hserves
    rcases Conn.read_message hr hne with ⟨-, hbytes, -⟩ | ⟨_, -, hwriting, -⟩
    · rw [hc] at hbytes
      exact absurd hheard hbytes
    · rw [hwhole] at hwriting
      cases hwriting
  | answered id k hk hbegun => exact absurd hbegun (hclient.not_begun hcaught.1 k hk)
  | carriedOut k hk hmem => simp [hb.undisturbed.unawaited] at hmem
  | told id c unsent count n hc hserves hne =>
    exact absurd (Errand.reply.inj (hunsent id c _ hc hserves)) hne

theorem Attended.act (hb : Attended room b past) (hroom : room ≤ Pipe.capacity)
    (hpolite : Polite room b past a) (hp : Patient b past a) :
    Attended room (b.act a) (past ++ b.observe a) where
  orderly := hb.orderly.act hroom hpolite
  undisturbed := hb.undisturbed.act hb.orderly.toSane hp.1
  unbroken := hb.unbroken_act hp
  links l hborn' := by
    have ht := hb.orderly.tidy
    have hpassage := hb.orderly.passage a l
    by_cases hborn : l.index < b.site.network.links.length
    · rcases hb.links l hborn with ⟨hopen, hplaced⟩ | ⟨hclosed, hcaught⟩
      · by_cases hhang : a = .hangUp l
        · subst hhang
          refine .inr ⟨?_, ?_⟩
          · have hlink := Network.link_dropLink b.site.network l l
            rw [if_pos rfl] at hlink
            exact (congrArg (·.fromClient.closed) hlink).trans (Link.closed_fromClient_drop _)
          · simpa [observe, carriedOut] using hp.2 l rfl
        · exact .inl (hpassage.placed ht hb.undisturbed hp.1 (fun id _ => hb.not_breakdown id) hopen
            hplaced hhang)
      · exact .inr (hb.links_act_closed hborn hclosed hcaught)
    · exact .inl (hpassage.placed_new ht hp.1 hborn hborn')

/-! ## Quiet moments -/

/-- A client waits at a listener whose server has another client, and that one is connected. -/
def Waits (b : Switchboard) (l : LinkId) : Prop :=
  ∃ c id s x c' u lis, c.link = l ∧ b.server? id = some s ∧ s.task = some (.serving x c' u)
    ∧ b.site.network.listeners[x.listener.index]? = some lis ∧ Incoming.conn c ∈ lis.queue
    ∧ b.Open c'.link

/-- Every request was called, and the replies were received or are on their way, as much of them as
the pipe takes. -/
def Settled (b : Switchboard) (l : LinkId) (h : List Incident) : Prop :=
  (calls h).length = (requests h).length
    ∧ (receipts h ++ (b.site.network.link l).fromHost.bytes = replies (calls h)
      ∨ (b.site.network.link l).fromHost.room = 0)

/-- A client whose next request is on its way has received the replies to all others. -/
theorem Client.caught_of_owing {h : List Incident} (ha : Client room b l h)
    (howing : (requests h).length = (calls h).length + 1) : receipts h = replies (calls h) := by
  have hbehind := ha.behind
  rw [howing, Nat.add_sub_cancel, List.take_length] at hbehind
  have htold := (List.prefix_append (receipts h) (b.site.network.link l).fromHost.bytes).trans ha.told
  exact List.IsPrefix.eq_of_length htold
    (Nat.le_antisymm htold.length_le hbehind.length_le)

/-- When nothing is on its way to the server or to its handler, all requests were called. -/
theorem Client.called_all {h : List Incident} (ha : Client room b l h)
    (hnone : ∀ k : Call, k.conn.link = l → ¬ b.Begun k)
    (hempty : (b.site.network.link l).fromClient.bytes = []) :
    (calls h).length = (requests h).length := by
  have hrest : (requests h).drop (calls h).length = [] := by
    rw [ha.heard hnone, List.flatten_eq_nil_iff] at hempty
    apply List.eq_nil_iff_forall_not_mem.2
    intro r hr
    obtain ⟨⟨text, rfl⟩, -⟩ := ha.texts r (List.mem_of_mem_drop hr)
    exact Wire.encode_ne_nil text (hempty _ hr)
  have hturn := ha.turn
  have := List.drop_eq_nil_iff.1 hrest
  omega

theorem Attended.settled_of_serves (hb : Attended room b past) (hq : b.Quiet) {id : ServerId}
    {c : Conn} {u : Errand} (hc : c.link = l) (hs : b.Serves id c u) :
    Settled b l (on l past) ∧ (b.site.network.link l).fromClient.closed = false := by
  have hlt : l.index < b.site.network.links.length := hc ▸ hs.lt hb.orderly.tidy
  have ha := hb.client hlt
  have howed := (ha.served id c u hc hs).2
  have hturn := ha.turn
  obtain ⟨s, e, hserver, ht⟩ := hs
  rcases Server.stalled_of_move (hq.stalled hserver) with ht' | ⟨time, ht'⟩ | ⟨e', n, ht', -⟩
    | ⟨e', c', after, n, ht', hr⟩ | ⟨e', c', u', n, ht', hne, hw⟩
  · cases ht.symm.trans ht'
  · cases ht.symm.trans ht'
  · cases ht.symm.trans ht'
  · cases ht.symm.trans ht'
    have hpending := Conn.read_pending hr
    rw [hc] at hpending
    rw [Errand.unsent, List.append_nil] at howed
    exact ⟨⟨ha.called_all (fun k _ => hq.not_begun k) hpending.1, .inl howed⟩, hpending.2⟩
  · cases ht.symm.trans ht'
    have hpending := Conn.write_pending hw
    rw [hc] at hpending
    have hcalled : (calls (on l past)).length = (requests (on l past)).length := by
      refine Decidable.byContradiction fun hnot => hne ?_
      rw [ha.caught_of_owing (by omega), List.append_assoc] at howed
      exact (List.append_eq_nil_iff.1 (List.append_right_eq_self.1 howed)).2
    refine ⟨⟨hcalled, .inr hpending.2.2⟩, ?_⟩
    rcases hb.links l hlt with ⟨hopen, -⟩ | ⟨-, hcaught⟩
    · exact hopen.1
    · exact absurd (Errand.reply.inj
        ((ha.nothing_owed hcaught).2.2 id c _ hc ⟨s, e, hserver, ht⟩)) hne

/-- When all is quiet, a client was answered or waits behind another one. -/
theorem Attended.settled_or_waits (hb : Attended room b past) (hq : b.Quiet)
    (hl : l.index < b.site.network.links.length) : Settled b l (on l past) ∨ Waits b l := by
  have ht := hb.orderly.tidy
  rcases hb.links l hl with ⟨-, c, hc, hqueued | ⟨id, u, hs⟩⟩ | ⟨-, hcaught⟩
  · obtain ⟨lis, hlis, hmem⟩ := hqueued
    obtain ⟨index, hindex⟩ := List.getElem?_of_mem hlis
    obtain ⟨id, s, t, x, hs, htask, hx, hlistener⟩ :=
      ht.owner (e := ⟨index⟩) hb.undisturbed.abandoned hindex (ht.sound.live hlis hmem)
    have hstalled := Server.stalled_of_move (hq.stalled hs)
    cases t with
    | starting => cases hx
    | waiting => cases hx
    | listening e =>
      cases hx
      -- A server that listens takes whoever waits.
      rcases hstalled with ht' | ⟨time, ht'⟩ | ⟨e', n, ht', hpending⟩ | ⟨e', c', after, n, ht', -⟩
        | ⟨e', c', u', n, ht', -⟩
      · cases htask.symm.trans ht'
      · cases htask.symm.trans ht'
      · cases htask.symm.trans ht'
        obtain ⟨lis', hlis', hnil⟩ := Network.accept_pending hpending
        rw [hlistener] at hlis'
        cases hindex.symm.trans hlis'
        rw [hnil] at hmem
        cases hmem
      · cases htask.symm.trans ht'
      · cases htask.symm.trans ht'
    | serving e c' u =>
      cases hx
      have hserves : b.Serves id c' u := ⟨s, x, hs, htask⟩
      have hopen := (hb.settled_of_serves hq rfl hserves).2
      have hopen' : b.Open c'.link := by
        rcases hb.links c'.link (hserves.lt ht) with ⟨hopen', -⟩ | ⟨hclosed, -⟩
        · exact hopen'
        · rw [hopen] at hclosed
          cases hclosed
      exact .inr ⟨c, id, s, x, c', u, lis, hc, hs, htask, by rw [hlistener]; exact hindex, hmem, hopen'⟩
  · exact .inl (hb.settled_of_serves hq hc hs).1
  · refine .inl ⟨hcaught.1, .inl ?_⟩
    rw [((hb.client hl).nothing_owed hcaught).2.1, List.append_nil]
    exact hcaught.2

/-! ## Requests and replies -/

/-- The calls on a connection are the client's requests in turn, each up to its first zero
character, and the client received the replies to all but its latest request and a part of the
reply to that one. -/
structure InTurn (h : List Incident) : Prop where
  unbroken : breaks h = []
  called : ∃ texts : List String, requests h = texts.map Wire.encode ∧
    (calls h).map (fun c => Wire.decode c.1) = (texts.take (calls h).length).map Wire.upToZero
  turn : (calls h).length ≤ (requests h).length ∧ (requests h).length ≤ (calls h).length + 1
  received : ∃ part, receipts h = replies ((calls h).take ((requests h).length - 1)) ++ part
    ∧ part <+: replies ((calls h).drop ((requests h).length - 1))

/-- The connection was put in by hand. It has no client; its one call at most is for bytes of the
message that came with it. -/
structure Injected (h : List Incident) (how : Breakage) : Prop where
  broken : breaks h = [how]
  unasked : requests h = []
  unreceived : receipts h = []
  once : calls h = [] ∨
    ∃ message count answer, how = .writing message ∧ calls h = [(message.take count, answer)]

theorem exists_texts {rs : List (List UInt8)} (h : ∀ r ∈ rs, ∃ text, r = Wire.encode text) :
    ∃ texts : List String, rs = texts.map Wire.encode := by
  induction rs with
  | nil => exact ⟨[], rfl⟩
  | cons r rs ih =>
    obtain ⟨text, rfl⟩ := h _ List.mem_cons_self
    obtain ⟨texts, rfl⟩ := ih fun r hr => h r (List.mem_cons_of_mem _ hr)
    exact ⟨text :: texts, rfl⟩

theorem Client.inTurn {h : List Incident} (ha : Client room b l h) : InTurn h where
  unbroken := ha.unbroken
  called := by
    obtain ⟨texts, htexts⟩ := exists_texts fun r hr => (ha.texts r hr).1
    refine ⟨texts, htexts, ?_⟩
    have hcalled := ha.called
    rw [htexts] at hcalled
    have hmap : (calls h).map (fun c => Wire.decode c.1)
        = ((calls h).map Prod.fst).map Wire.decode := by
      rw [List.map_map]
      rfl
    rw [hmap, hcalled, ← List.map_take, List.map_map]
    exact List.map_congr_left fun text _ => Wire.decode_encode text
  turn := ha.turn
  received := by
    obtain ⟨part, hpart⟩ := ha.behind
    refine ⟨part, hpart.symm, ?_⟩
    have htold := (List.prefix_append (receipts h) _).trans ha.told
    rw [← hpart, ← List.take_append_drop ((requests h).length - 1) (calls h), replies_append,
      List.take_append_drop] at htold
    exact (List.prefix_append_right_inj _).1 htold

/-- In a polite run every client is answered in turn. If nobody interferes and clients stay until
they have their replies, then at every quiet moment all of them were answered, but for those that
wait behind another one. -/
theorem answered_in_turn (host : Host) (room : Nat) (hroom : room ≤ Pipe.capacity)
    (acts : List Act) (hpolite : Obeys (Polite room) [] (create (.inMemory host)) acts) :
    (∀ l, InTurn (on l ((create (.inMemory host)).story acts))
      ∨ ∃ how, Injected (on l ((create (.inMemory host)).story acts)) how)
    ∧ (Obeys Patient [] (create (.inMemory host)) acts →
      ((create (.inMemory host)).run acts).Quiet →
      ∀ l : LinkId, l.index < ((create (.inMemory host)).run acts).site.network.links.length →
        Settled ((create (.inMemory host)).run acts) l
            (on l ((create (.inMemory host)).story acts))
          ∨ Waits ((create (.inMemory host)).run acts) l) := by
  constructor
  · intro l
    rcases (orderly_run host hroom hpolite).accounts l with ha | ha | ⟨how, ha⟩
    · refine .inl ⟨ha.unbroken, ⟨[], ha.unasked, by simp [ha.uncalled]⟩, ?_, [], ?_, ?_⟩
      · simp [ha.unasked, ha.uncalled]
      · simp [ha.unreceived, ha.uncalled]
      · exact List.nil_prefix
    · exact .inl ha.inTurn
    · exact .inr ⟨how, ha.broken, ha.unasked, ha.unreceived, ha.once⟩
  · intro hpatient hq l hl
    have hboth := hpolite.and hpatient
    have hb := hboth.keeps (fun _ _ _ hb hp => hb.act hroom hp.1 hp.2) (attended_create room host)
    exact hb.settled_or_waits hq hl

/-- A visit: a client asks one thing of a server that repeats what it hears, and hangs up. -/
def visit : List Act :=
  [.add "parlour" (.callback fun message => .reply message) 64 1, .start ⟨0⟩, .move ⟨0⟩,
    .connect "parlour", .send ⟨0⟩ (Wire.encode "hi"), .move ⟨0⟩, .move ⟨0⟩, .move ⟨0⟩, .move ⟨0⟩,
    .receive ⟨0⟩, .hangUp ⟨0⟩, .move ⟨0⟩]

theorem visit_answered :
    (64 ≤ Pipe.capacity ∧ Obeys (Polite 64) [] lobby visit ∧ Obeys Patient [] lobby visit
      ∧ (lobby.run visit).Quiet
      ∧ calls (on ⟨0⟩ (lobby.story visit)) = [([104, 0, 105, 0, 0, 0], .reply "hi")]
      ∧ receipts (on ⟨0⟩ (lobby.story visit)) = [104, 0, 105, 0, 0, 0])
    ∧ (∀ l, InTurn (on l (lobby.story visit)) ∨ ∃ how, Injected (on l (lobby.story visit)) how)
    ∧ (Settled (lobby.run visit) ⟨0⟩ (on ⟨0⟩ (lobby.story visit)) ∨ Waits (lobby.run visit) ⟨0⟩) := by
  have hpolite : Obeys (Polite 64) [] lobby visit :=
    ⟨(by decide : 64 ≤ max 64 Server.minBuffer), trivial, trivial, trivial,
      ⟨⟨"hi", rfl⟩, by decide, rfl, rfl⟩, trivial, trivial, trivial, trivial, trivial, trivial, trivial,
      trivial⟩
  have hpatient : Obeys Patient [] lobby visit := by
    refine ⟨⟨rfl, by simp⟩, ⟨rfl, by simp⟩, ⟨rfl, by simp⟩, ⟨rfl, by simp⟩, ⟨rfl, by simp⟩,
      ⟨rfl, by simp⟩, ⟨rfl, by simp⟩, ⟨rfl, by simp⟩, ⟨rfl, by simp⟩, ⟨rfl, by simp⟩,
      ⟨rfl, fun link h => ?_⟩, ⟨rfl, by simp⟩, trivial⟩
    cases h
    exact ⟨rfl, rfl⟩
  have hquiet : (lobby.run visit).Quiet := by
    refine ⟨fun id => ?_, rfl, rfl, rfl⟩
    obtain ⟨_ | index⟩ := id
    · rfl
    · rfl
  have hturn := answered_in_turn (.fresh 8) 64 (by decide) visit hpolite
  exact ⟨⟨by decide, hpolite, hpatient, hquiet, rfl, rfl⟩, hturn.1,
    hturn.2 hpatient hquiet ⟨0⟩ (by decide)⟩

end Switchboard

end KeyBridge
