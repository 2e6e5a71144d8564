-- SUMMARY: A listener's connections are served one at a time, in the order in which they came.
import KeyBridge.Proofs.Stations

/-!
# Turns

What is delivered to a listener is taken in its order, and nothing is taken before the connection
that was taken last has been read to its end. So the runs of the handler at a listener are those on
its connections, one connection after the other. What still waits when the listener is dropped is
never taken. `Ledger` compares the record of every listener with what is there, and `Ledger.act`
carries it through every act.
-/

namespace KeyBridge

open Entry

/-- Whether a handler was run. -/
def Incident.isAnswer (i : Incident) : Bool := i.call?.isSome

theorem Call.isAnswer_incident (k : Call) (host : Host) : (k.incident host).isAnswer = true := rfl

/-- The runs of the handler on what was delivered, among all that happened. -/
def Incoming.answers (item : Incoming) (h : List Incident) : List Incident :=
  h.filter fun i => i.isAnswer && item.isOn i.link

theorem Incoming.answers_append (item : Incoming) (h more : List Incident) :
    item.answers (h ++ more) = item.answers h ++ item.answers more := List.filter_append ..

theorem Incoming.answers_eq_nil {item : Incoming} {h : List Incident}
    (hno : ∀ i ∈ h, i.isAnswer = true → item.isOn i.link = false) : item.answers h = [] := by
  refine List.filter_eq_nil_iff.2 fun i hi => ?_
  rcases hanswer : i.isAnswer
  · simp
  · simp [hno i hi hanswer]

/-- What is heard on no connection in a list adds nothing to what was heard on them. -/
theorem Incoming.flatMap_answers_append {items : List Incoming} (h : List Incident)
    {more : List Incident} (hno : ∀ item ∈ items, item.answers more = []) :
    items.flatMap (·.answers (h ++ more)) = items.flatMap (·.answers h) := by
  rw [List.flatMap_def, List.flatMap_def]
  refine congrArg List.flatten (List.map_congr_left fun item hitem => ?_)
  rw [answers_append, hno item hitem, List.append_nil]

namespace Switchboard

variable {b b' : Switchboard} {a : Act} {e : ListenerId} {l : LinkId} {c : Conn}
  {i : List Incident} {id : ServerId} {s s' : Server}

/-! ## Connections that close -/

/-- A new connection has both of its ends, unless it is made to break. -/
theorem Passage.newcomer (hp : Passage b b' a l i) (h : b.Tidy) (h' : b'.Tidy)
    (hborn : b.site.network.links.length ≤ l.index) (hq : b'.Queued c) (hc : c.link = l) :
    (b'.site.network.link l).fromHost.bytes = []
      ∧ (c.breakage = none → (b'.site.network.link l).fromClient.closed = false) := by
  obtain ⟨breakage, -, hunique, ⟨-, hlink⟩ | ⟨hbreaks, -, hlink⟩⟩ :=
    hp.born h hborn (hc ▸ hq.lt h')
  · rw [hlink]
    exact ⟨rfl, fun _ => rfl⟩
  · rw [hlink, hunique c hc hq]
    exact ⟨rfl, fun hnone => absurd hnone (Option.isSome_iff_ne_none.1 hbreaks)⟩

/-- A client that hung up and was read to its end stays so. -/
theorem Passage.spent (hp : Passage b b' a l i) (hknown : l.index < b.site.network.links.length)
    (hspent : (b.site.network.link l).fromClient = ⟨[], true⟩) :
    (b'.site.network.link l).fromClient = ⟨[], true⟩ := by
  have hclosed : (b.site.network.link l).fromClient.closed = true := by rw [hspent]
  cases hp with
  | kept hkeeps hlink => rw [hlink, hspent]
  | left hretains hcause hlink =>
    rcases hlink with hlink | hlink <;> rw [hlink]
    · exact hspent
    · rw [Link.drop, hspent]
      rfl
  | opened hindex => omega
  | broke name how hfail hindex => omega
  | asked bytes hkeeps ha hne hopen => cases hopen.symm.trans hclosed
  | flushed bytes hkeeps hmem hopen => cases hopen.symm.trans hclosed
  | received hkeeps hlink => rw [hlink]; exact hspent
  | accepted id c hc hq hserves hlink => rw [hlink, hspent]
  | heard id s c after bytes n hs hc hserves hne hr hlink =>
    subst hc
    rw [hlink]
    rcases read_link hr hne hknown with hsame | ⟨hbytes, -⟩
    · rw [hsame, hspent]
    · rw [hspent] at hbytes
      exact absurd rfl hbytes
  | answered id k hk hbegun hserves hlink => rw [hlink, hspent]
  | carriedOut k hk hmem hnet => rw [hnet, hspent]
  | told id c u count n hc hserves hne hw hlink =>
    subst hc
    obtain ⟨sent, -, hsent⟩ := write_link hw hknown
    rw [hlink, hsent]
    exact hspent

/-- A client that nobody serves is sent nothing. -/
theorem Passage.unreplied (hp : Passage b b' a l i)
    (hknown : l.index < b.site.network.links.length)
    (hunserved : ∀ id c u, c.link = l → ¬ b.Serves id c u)
    (hbytes : (b.site.network.link l).fromHost.bytes = []) :
    (b'.site.network.link l).fromHost.bytes = [] := by
  cases hp with
  | kept hkeeps hlink => rw [hlink, hbytes]
  | left hretains hcause hlink =>
    rcases hlink with hlink | hlink <;> rw [hlink]
    · exact hbytes
    · exact hbytes
  | opened hindex => omega
  | broke name how hfail hindex => omega
  | asked bytes hkeeps ha hne hopen hlink => rw [hlink]; exact hbytes
  | flushed bytes hkeeps hmem hopen hlink => rw [hlink]; exact hbytes
  | received hkeeps hlink => rw [hlink]; rfl
  | accepted id c hc hq hserves hlink => rw [hlink, hbytes]
  | heard id s c after bytes n hs hc hserves => exact absurd hserves (hunserved id c _ hc)
  | answered id k hk hbegun hserves => exact absurd hserves (hunserved id k.conn _ hk)
  | carriedOut k hk hmem hnet => rw [hnet, hbytes]
  | told id c u count n hc hserves => exact absurd hserves (hunserved id c _ hc)

/-- Who drops a listener drops those who wait there, and its client. -/
theorem closing_dropped (h' : b'.Tidy) {e : ListenerId} {client : Option (Conn × Errand)}
    {n : Network} (hst : b.Station e (b.site.network.queueOf e) client)
    (hn : b'.site.network = n.dropListener e)
    (hqueue : ∀ c, Incoming.conn c ∈ n.queueOf e → Incoming.conn c ∈ b.site.network.queueOf e)
    (hlink : n.link l = b.site.network.link l ∨ ∃ c u, client = some (c, u) ∧ c.link = l)
    (hclosed : (b'.site.network.link l).fromClient.closed = true) :
    (b.site.network.link l).fromClient.closed = true
      ∨ ∃ e, b.Has e l ∧ ∀ q client, ¬ b'.Station e q client := by
  have hdead : b'.site.network.lives e = 0 := by
    rw [hn, Network.lives_dropListener, if_pos rfl]
  have hno := h'.not_station hdead
  by_cases hwaits : (n.queueOf e).any (Incoming.isOn l) = true
  · obtain ⟨item, hitem, hon⟩ := List.any_eq_true.1 hwaits
    cases item with
    | failure => cases hon
    | conn c =>
      have hc : c.link = l := by simpa [Incoming.isOn] using hon
      exact .inr ⟨e, hc ▸ hst.has_of_mem (hqueue c hitem), hno⟩
  · rw [hn, Network.link_dropListener, if_neg hwaits] at hclosed
    rcases hlink with hlink | ⟨c, u, rfl, hl⟩
    · exact .inl (hlink ▸ hclosed)
    · exact .inr ⟨e, hl ▸ hst.has_client, hno⟩

/-- A server that breaks down with its client drops it with its place. -/
theorem Made.closing_lost (hm : Made b b' id s s') {x : Endpoint} {c : Conn} {u : Errand}
    (ht : s.task = some (.serving x c u))
    (hn : b'.site.network = (c.drop b.site.network).dropListener x.listener)
    (hclosed : (b'.site.network.link l).fromClient.closed = true) :
    (b.site.network.link l).fromClient.closed = true
      ∨ ∃ e, b.Has e l ∧ ∀ q client, ¬ b'.Station e q client := by
  refine closing_dropped hm.tidy' (hm.station ht rfl) hn (fun _ hc => hc) ?_ hclosed
  by_cases hc : l = c.link
  · exact .inr ⟨c, u, rfl, hc.symm⟩
  · exact .inl ((Network.link_dropLink ..).trans (if_neg hc))

/-- The pipe of a client closes when a server drops it only with its place. -/
theorem Made.closing (hm : Made b b' id s s') (hstep : s.Step b.site s' b'.site)
    (hbuffer : 0 < s.buffer) (hclosed : (b'.site.network.link l).fromClient.closed = true) :
    (b.site.network.link l).fromClient.closed = true
      ∨ ∃ e, b.Has e l ∧ ∀ q client, ¬ b'.Station e q client := by
  generalize hsite : b'.site = site' at hstep
  have hnetwork : b'.site.network = site'.network := by rw [hsite]
  have hafter : (site'.network.link l).fromClient.closed = true := hnetwork ▸ hclosed
  cases hstep with
  | bound => exact .inl hafter
  | refused => exact .inl hafter
  | accepted x c n ht ha =>
    obtain ⟨_, _, -, -, rfl⟩ := Network.accept_done ha
    exact .inl hafter
  | notAccepted x error n ht ha =>
    obtain ⟨lis, rest, hl, hfirst, rfl⟩ := hm.tidy.accept_failed hm.was ht ha
    refine closing_dropped hm.tidy' (hm.station ht rfl) hnetwork (fun c hc => ?_) (.inl rfl) hclosed
    rw [Network.queueOf_set hl, if_pos rfl] at hc
    rw [Network.queueOf_of_listener? hl, hfirst]
    exact List.mem_cons_of_mem _ hc
  | heard x c after bytes n ht hne hr =>
    refine .inl ?_
    by_cases hc : l = c.link
    · subst hc
      have hserves : b.Serves id c (.reply []) := ⟨s, x, hm.was, ht⟩
      have hsame : (n.link c.link).fromClient.closed = true := hafter
      rcases read_link hr hne (hserves.lt hm.tidy) with hlink | ⟨-, hlink⟩
      · rwa [hlink] at hsame
      · rw [hlink] at hsame
        exact hsame
    · rw [← (Conn.read_frame hr).2.2.2 l hc]
      exact hafter
  | answered => exact .inl hafter
  | parted x c after n ht hr =>
    obtain ⟨rfl, rfl, -, hgone⟩ := Conn.read_nothing hbuffer hr
    refine .inl ?_
    by_cases hc : l = after.link
    · exact hc ▸ hgone
    · have hlink : (b.site.network.dropLink after.link).link l = b.site.network.link l :=
        (Network.link_dropLink ..).trans (if_neg hc)
      rw [← hlink]
      exact hafter
  | unheard x c after error n ht hr =>
    obtain ⟨rfl, rfl, -⟩ := Conn.read_failed hr
    exact hm.closing_lost ht hnetwork hclosed
  | told x c u count n ht hne hw =>
    refine .inl ?_
    by_cases hc : l = c.link
    · subst hc
      have hserves : b.Serves id c (.reply u) := ⟨s, x, hm.was, ht⟩
      obtain ⟨sent, -, hlink⟩ := write_link hw (hserves.lt hm.tidy)
      have hsame : (n.link c.link).fromClient.closed = true := hafter
      rw [hlink] at hsame
      exact hsame
    · rw [← (Conn.write_frame hw).2.2 l hc]
      exact hafter
  | cutOff x c u error n ht hne hw =>
    obtain ⟨rfl, -⟩ := Conn.write_failed hw
    exact hm.closing_lost ht hnetwork hclosed

/-- A task that lets go drops those who wait at its listener, and its client. -/
theorem closing_letGo (h : b.Tidy) {index : Nat}
    (hclosed : ((b.act (.letGo index)).site.network.link l).fromClient.closed = true) :
    (b.site.network.link l).fromClient.closed = true
      ∨ ∃ e, b.Has e l ∧ ∀ q client, ¬ (b.act (.letGo index)).Station e q client := by
  have htidy' := h.act (.letGo index)
  rw [act, letGoAt] at htidy' hclosed ⊢
  rcases ht : b.abandoned[index]? with _ | t
  · simp only [ht] at hclosed
    exact .inl hclosed
  · simp only [ht] at htidy' hclosed ⊢
    have hmem := List.mem_of_getElem? ht
    rcases hx : t.task.endpoint? with _ | x
    · rw [release_of_none b.site hx] at hclosed
      exact .inl hclosed
    · obtain ⟨n, hrelease, hn, -, hclient⟩ := release_spec b.site hx (h.abandoned t hmem x hx)
      rw [hrelease] at htidy' hclosed ⊢
      have hst := Station.intro (.inr ⟨t, hmem, rfl⟩ : b.Posted t.task) hx
      refine closing_dropped htidy' hst rfl (fun c hc => ?_) (hclient l) hclosed
      rwa [Network.queueOf_of_listeners hn] at hc

/-- The pipe of a client closes only when it hangs up, or when its place is dropped. -/
theorem closing_act (h : b.Sane) (a : Act) (hknown : l.index < b.site.network.links.length)
    (hclosed : ((b.act a).site.network.link l).fromClient.closed = true) :
    (b.site.network.link l).fromClient.closed = true ∨ a = .hangUp l
      ∨ ∃ e, b.Has e l ∧ ∀ q client, ¬ (b.act a).Station e q client := by
  have hmove {id : ServerId} (ha : a = .move id) : (b.site.network.link l).fromClient.closed = true
      ∨ ∃ e, b.Has e l ∧ ∀ q client, ¬ (b.act a).Station e q client := by
    subst ha
    rw [act] at hclosed ⊢
    rcases hm : b.moveServer id with _ | b'
    · rw [hm] at hclosed
      exact .inl hclosed
    · rw [hm] at hclosed
      obtain ⟨s, s', hmade, hstep, hbuffer⟩ := made_of_moveServer h hm
      exact hmade.closing hstep hbuffer hclosed
  have hp := h.passage a l
  generalize Incident.on l (b.observe a) = i at hp
  cases hp with
  | kept hkeeps hlink => exact .inl (hlink ▸ hclosed)
  | left hretains hcause hlink =>
    cases hcause with
    | hungUp ha => exact .inr (.inl ha)
    | shutDown id c u ha =>
      subst ha
      rcases hs : b.server? id with _ | s
      · rw [act, Switchboard.shutdown, hs] at hclosed
        exact .inl hclosed
      · rw [act, shutdown_eq hs] at hclosed
        exact .inl hclosed
    | letGo index t ha =>
      subst ha
      exact (closing_letGo h.tidy hclosed).imp_right .inr
    | parted id c ha hc hserves hgone => exact .inl hgone
    | waited id ha => exact (hmove ha).imp_right .inr
    | brokeDown id c u ha => exact (hmove ha).imp_right .inr
  | opened hindex => omega
  | broke name how hfail hindex => omega
  | asked bytes hkeeps ha hne hopen hlink => rw [hlink] at hclosed; exact .inl hclosed
  | flushed bytes hkeeps hmem hopen hlink => rw [hlink] at hclosed; exact .inl hclosed
  | received hkeeps hlink => rw [hlink] at hclosed; exact .inl hclosed
  | accepted id c hc hq hserves hlink => exact .inl (hlink ▸ hclosed)
  | heard id s c after bytes n hs hc hserves hne hr hlink =>
    subst hc
    rw [hlink] at hclosed
    rcases read_link hr hne hknown with hsame | ⟨-, hsame⟩ <;> rw [hsame] at hclosed
    · exact .inl hclosed
    · exact .inl hclosed
  | answered id k hk hbegun hserves hlink => exact .inl (hlink ▸ hclosed)
  | carriedOut k hk hmem hnet => exact .inl (hnet ▸ hclosed)
  | told id c u count n hc hserves hne hw hlink =>
    subst hc
    obtain ⟨sent, -, hsent⟩ := write_link hw hknown
    rw [hlink, hsent] at hclosed
    exact .inl hclosed

/-- An end that has nothing more to give is whole, or it had nothing to give. -/
theorem breakage_of_read_nothing {max : Nat} {after : Conn} {n n' : Network} (hmax : 0 < max)
    (hr : c.read max n = (.done [], after, n')) :
    c.breakage = none ∨ c.breakage = some (.writing []) := by
  rcases hbreaks : c.breakage with _ | _ | _ | ⟨byte, more⟩
  · exact .inl rfl
  · simp [Conn.read, hbreaks] at hr
  · exact .inr rfl
  · obtain ⟨k, rfl⟩ := Nat.exists_eq_succ_of_ne_zero (Nat.ne_of_gt hmax)
    simp [Conn.read, hbreaks] at hr

/-! ## Runs of handlers -/

theorem observe_of_carriedOut {k : Call} (h : b.carriedOut a = some k) :
    b.observe a = [k.incident b.site.host] := by
  cases a with
  | move => simp only [observe, h, Option.toList_some, List.map_singleton]
  | carryOut => simp only [observe, h, Option.toList_some, List.map_singleton]
  | _ => cases h

theorem dealings_of_carriedOut {k : Call} (h : b.carriedOut a = some k) (e : ListenerId) :
    b.dealings e a = k.entries b.site.host e := by
  cases a with
  | move id =>
    obtain ⟨s, hs, hk⟩ := Option.bind_eq_some_iff.1 h
    obtain ⟨-, ht⟩ := Server.call?_eq_some hk
    simp [dealings, hs, Server.dealings, ht, hk]
  | carryOut index =>
    have hindex : b.unawaited[index]? = some k := h
    simp [dealings, hindex]
  | _ => cases h

/-- Where no call is carried out, no run of a handler is entered. -/
theorem answers_of_carriedOut (h : b.carriedOut a = none) (e : ListenerId) :
    answers (b.dealings e a) = [] := by
  cases a with
  | connect channel => exact (answers_arrivals ..).1
  | failAccept name => exact (answers_arrivals ..).1
  | failConn name how => exact (answers_arrivals ..).1
  | move id =>
    rcases hs : b.server? id with _ | s
    · simp [dealings, hs]
    · have hcall : s.call? = none := by simpa [carriedOut, hs] using h
      simp only [dealings, hs, Server.dealings, hcall]
      split
      · split
        · rcases (b.site.network.queueOf e).head? <;> rfl
        · rfl
      · rfl
  | carryOut index =>
    have hindex : b.unawaited[index]? = none := h
    simp [dealings, hindex]
  | _ => rfl

/-- A run of a handler is for a call that is carried out. -/
theorem call_of_observe {i : Incident} (hi : i ∈ b.observe a) (hanswer : i.isAnswer = true) :
    ∃ k, b.carriedOut a = some k ∧ i = k.incident b.site.host := by
  rcases hk : b.carriedOut a with _ | k
  · rw [Incident.isAnswer, call?_observe hk hi] at hanswer
    cases hanswer
  · rw [observe_of_carriedOut hk] at hi
    exact ⟨k, rfl, List.mem_singleton.1 hi⟩

/-- At a listener a call is carried out that was begun there, or none. -/
theorem heard_or_silent (b : Switchboard) (a : Act) (e : ListenerId) :
    (∃ k, b.carriedOut a = some k ∧ k.endpoint.listener = e)
      ∨ answers (b.dealings e a) = []
        ∧ ∀ k, b.carriedOut a = some k → k.endpoint.listener ≠ e := by
  rcases hk : b.carriedOut a with _ | k
  · exact .inr ⟨answers_of_carriedOut hk e, nofun⟩
  · by_cases he : k.endpoint.listener = e
    · exact .inl ⟨k, rfl, he⟩
    · refine .inr ⟨?_, fun k' hk' => ?_⟩
      · rw [dealings_of_carriedOut hk, Call.entries, if_neg he]
        rfl
      · cases hk'
        exact he

/-! ## Ledgers -/

/-- The client of a connection hung up and all that it had sent was read; the host has dropped its
end. An end without a client is gone from the start. -/
def Departed (b : Switchboard) (past : List Act) : Incoming → Prop
  | .conn c =>
    (b.site.network.link c.link).fromClient = ⟨[], true⟩
      ∧ (b.site.network.link c.link).fromHost.closed = true
      ∧ (c.breakage = none ∧ .hangUp c.link ∈ past ∨ c.breakage = some (.writing []))
  | .failure => False

/-- All that was taken has departed, but for the last connection while the server has it. -/
inductive InService (b : Switchboard) (past : List Act) (taken : List Incoming) :
    Option (Conn × Errand) → Prop where
  | free : (∀ item ∈ taken, b.Departed past item) → InService b past taken none
  | busy (earlier : List Incoming) (first c : Conn) (u : Errand) :
      taken = earlier ++ [.conn first] → (∀ item ∈ earlier, b.Departed past item) →
      c.link = first.link →
      c = first ∨ (c.breakage.isSome ∧ first.breakage.isSome ∧ u ≠ .reply []) →
      InService b past taken (some (c, u))

/-- No two things are the same connection. -/
def Unrepeated (items : List Incoming) : Prop :=
  items.Pairwise fun item item' => ∀ l, item.isOn l → ¬ item'.isOn l

/-- The record of every listener, what happened on connections, and what is there fit together. -/
structure Ledger (b : Switchboard) (past : List Act) (story : List Incident)
    (log : ListenerId → List Entry) : Prop where
  unborn : ∀ e, b.site.network.listeners.length ≤ e.index → log e = []
  inOrder : ∀ e, takings (log e) <+: deliveries (log e)
  known : ∀ e c, .conn c ∈ deliveries (log e) → c.link.index < b.site.network.links.length
  apart : ∀ e e' c c', .conn c ∈ deliveries (log e) → .conn c' ∈ deliveries (log e') →
    c'.link = c.link → e' = e
  unrepeated : ∀ e, Unrepeated (deliveries (log e))
  stations : ∀ e q client, b.Station e q client → deliveries (log e) = takings (log e) ++ q
    ∧ b.InService past (takings (log e)) client
  /-- Only its client closes a connection that waits or is served. -/
  hungUp : ∀ e c, .conn c ∈ deliveries (log e) → c.breakage = none → b.Has e c.link →
    (b.site.network.link c.link).fromClient.closed = true → .hangUp c.link ∈ past
  /-- What is dropped with its listener is closed. -/
  closed : ∀ e, (∀ q client, ¬ b.Station e q client) → ∀ c, .conn c ∈ deliveries (log e) →
    (b.site.network.link c.link).fromHost.closed = true
  unreplied : ∀ e c, .conn c ∈ (deliveries (log e)).drop (takings (log e)).length →
    (b.site.network.link c.link).fromHost.bytes = []
  answers : ∀ e, Entry.answers (log e) = (takings (log e)).flatMap (·.answers story)
  /-- What a handler heard at a listener is what it heard on the connections that came there. -/
  heard : ∀ e, Entry.answers (log e)
    = story.filter fun i => i.isAnswer && (deliveries (log e)).any (·.isOn i.link)
  /-- A handler hears only connections that were taken. -/
  taken : ∀ i ∈ story, i.isAnswer = true → ∃ e c, .conn c ∈ takings (log e) ∧ c.link = i.link
  /-- A call that outlived its server is on the connection that was taken last. -/
  unawaited : ∀ k ∈ b.unawaited, b.Retired k.endpoint.listener
    ∧ ∃ earlier first, takings (log k.endpoint.listener) = earlier ++ [.conn first]
      ∧ first.link = k.conn.link

theorem ledger_create (host : Host) : (create (.inMemory host)).Ledger [] [] fun _ => [] where
  unborn _ _ := rfl
  inOrder _ := List.prefix_refl _
  known _ _ := nofun
  apart _ _ _ _ := nofun
  unrepeated _ := List.Pairwise.nil
  stations e q client hst := by
    have hlive := hst.live (tidy_create host)
    cases hlive
  hungUp _ _ := nofun
  closed _ _ _ := nofun
  unreplied _ _ := nofun
  answers _ := rfl
  heard _ := rfl
  taken _ := nofun
  unawaited _ := nofun

theorem Departed.act (h : b.Sane) {past : List Act} {item : Incoming} (hd : b.Departed past item)
    (hknown : ∀ l, item.isOn l → l.index < b.site.network.links.length) (a : Act) :
    (b.act a).Departed (past ++ [a]) item := by
  cases item with
  | failure => exact hd
  | conn c =>
    have hp := h.passage a c.link
    have hlt := hknown c.link (by simp [Incoming.isOn])
    obtain ⟨hspent, hclosed, hwhy⟩ := hd
    refine ⟨hp.spent hlt hspent, (hp.closed hlt).2 hclosed, ?_⟩
    rcases hwhy with ⟨hwhole, hhung⟩ | hempty
    · exact .inl ⟨hwhole, List.mem_append_left _ hhung⟩
    · exact .inr hempty

theorem InService.act (h : b.Sane) {past : List Act} {taken : List Incoming}
    {client : Option (Conn × Errand)} (hs : b.InService past taken client)
    (hknown : ∀ item ∈ taken, ∀ l, item.isOn l → l.index < b.site.network.links.length) (a : Act) :
    (b.act a).InService (past ++ [a]) taken client := by
  cases hs with
  | free hall => exact .free fun item hitem => (hall item hitem).act h (hknown item hitem) a
  | busy earlier first c u htaken hall hlink hsame =>
    refine .busy earlier first c u htaken (fun item hitem => ?_) hlink hsame
    refine (hall item hitem).act h (hknown item ?_) a
    rw [htaken]
    exact List.mem_append_left _ hitem

namespace InService

variable {past : List Act} {taken : List Incoming} {u u' : List UInt8} {after : Conn}

/-- A server that has no client takes one. -/
theorem took (hs : b.InService past taken none) (c : Conn) :
    b.InService past (taken ++ [.conn c]) (some (c, .reply [])) := by
  cases hs with
  | free hall => exact .busy taken c c _ rfl hall rfl (.inl rfl)

/-- A server that heard its client has something to do for it. -/
theorem heard {max : Nat} {bytes : List UInt8} {n n' : Network}
    (hs : b.InService past taken (some (c, .reply []))) (hne : bytes ≠ [])
    (hr : c.read max n = (.done bytes, after, n')) :
    b.InService past taken (some (after, .call bytes)) := by
  cases hs with
  | busy earlier first _ _ htaken hall hlink hsame =>
    refine .busy earlier first after _ htaken hall ((Conn.read_frame hr).1.trans hlink) ?_
    rcases hsame with rfl | ⟨-, -, hempty⟩
    · rcases Conn.read_message hr hne with ⟨-, -, rfl, -⟩ | ⟨message, -, hbreaks, -, -, rfl⟩
      · exact .inl rfl
      · exact .inr ⟨rfl, by rw [hbreaks]; rfl, nofun⟩
    · exact absurd rfl hempty

/-- A server that has an answer has something to write. -/
theorem answered {bytes : List UInt8} (hs : b.InService past taken (some (c, .call bytes)))
    (text : String) : b.InService past taken (some (c, .reply (Wire.encode text))) := by
  cases hs with
  | busy earlier first _ _ htaken hall hlink hsame =>
    refine .busy earlier first c _ htaken hall hlink (hsame.imp_right fun hbroken => ?_)
    exact ⟨hbroken.1, hbroken.2.1, by simpa using Wire.encode_ne_nil text⟩

/-- A server that wrote to a client has not changed its end. -/
theorem told (hs : b.InService past taken (some (c, .reply u))) (hwhole : c.breakage = none)
    (u' : List UInt8) : b.InService past taken (some (c, .reply u')) := by
  cases hs with
  | busy earlier first _ _ htaken hall hlink hsame =>
    refine .busy earlier first c _ htaken hall hlink (.inl ?_)
    rcases hsame with hsame | ⟨hbroken, -⟩
    · exact hsame
    · rw [hwhole] at hbroken
      cases hbroken

/-- A server whose client departed has none. -/
theorem parted (hs : b.InService past taken (some (c, .reply []))) (hd : b.Departed past (.conn c)) :
    b.InService past taken none := by
  cases hs with
  | busy earlier first _ _ htaken hall hlink hsame =>
    refine .free fun item hitem => ?_
    rcases hsame with rfl | ⟨-, -, hempty⟩
    · rw [htaken] at hitem
      rcases List.mem_append.1 hitem with hitem | hitem
      · exact hall item hitem
      · exact List.mem_singleton.1 hitem ▸ hd
    · exact absurd rfl hempty

end InService

theorem born_act (h : b.Sane) (a : Act) :
    b.site.network.listeners.length ≤ (b.act a).site.network.listeners.length := by
  have hgrown := ((change_act h.tidy a).bound_grows h.tidy).length_le
  rwa [length_listeners, length_listeners] at hgrown

/-- What is delivered in an act is new, and waits where it was delivered. -/
theorem Sane.newcomer (h : b.Sane) (a : Act) (hc : .conn c ∈ deliveries (b.dealings e a)) :
    c.link.index = b.site.network.links.length ∧ (b.act a).Queued c ∧ (b.act a).Has e c.link := by
  have hepisode := episode_act h a e
  generalize b.dealings e a = entries at hc hepisode
  cases hepisode with
  | delivered item hst hlive hnew =>
    have hitem : item = .conn c := by simpa [eq_comm] using hc
    subst hitem
    obtain ⟨q, client, hbefore⟩ := h.tidy.station hlive
    have hafter := hst q client hbefore
    have hmem : Incoming.conn c ∈ q ++ [.conn c] := by simp
    refine ⟨hnew c.link (by simp [Incoming.isOn]), ?_, hafter.has_of_mem hmem⟩
    rw [← hafter.1] at hmem
    exact queued_of_mem_queueOf hmem
  | _ => simp [deliveries] at hc

namespace Ledger

variable {past : List Act} {story : List Incident} {log : ListenerId → List Entry}
  {q : List Incoming} {client : Option (Conn × Errand)} {item : Incoming}

theorem known_item (hl : b.Ledger past story log) (hitem : item ∈ deliveries (log e))
    (hon : item.isOn l) : l.index < b.site.network.links.length := by
  cases item with
  | failure => cases hon
  | conn c =>
    have hc : c.link = l := by simpa [Incoming.isOn] using hon
    exact hc ▸ hl.known e c hitem

theorem delivered_of_taken (hl : b.Ledger past story log) (hitem : item ∈ takings (log e)) :
    item ∈ deliveries (log e) :=
  (hl.inOrder e).subset hitem

/-- What was delivered and not taken is not among what was taken. -/
theorem not_taken (hl : b.Ledger past story log) {c c' : Conn}
    (hc : .conn c ∈ (deliveries (log e)).drop (takings (log e)).length)
    (hc' : .conn c' ∈ takings (log e)) : c'.link ≠ c.link := by
  intro hlink
  obtain ⟨rest, hrest⟩ := hl.inOrder e
  have hunrepeated := hl.unrepeated e
  rw [← hrest, Unrepeated, List.pairwise_append] at hunrepeated
  rw [← hrest, List.drop_left] at hc
  refine hunrepeated.2.2 _ hc' _ hc c.link ?_ ?_
  · simp [Incoming.isOn, hlink]
  · simp [Incoming.isOn]

/-- The connection that a server has is the one that it took last. -/
theorem last_taken (hl : b.Ledger past story log) {u : Errand}
    (hst : b.Station e q (some (c, u))) :
    ∃ earlier first, takings (log e) = earlier ++ [.conn first] ∧ first.link = c.link
      ∧ .conn first ∈ takings (log e) := by
  obtain ⟨-, hservice⟩ := hl.stations e q _ hst
  cases hservice with
  | busy earlier first _ _ htaken hall hlink =>
    exact ⟨earlier, first, htaken, hlink.symm, by rw [htaken]; simp⟩

theorem unborn_act (hl : b.Ledger past story log) (h : b.Sane) (a : Act)
    (hborn : b.site.network.listeners.length ≤ e.index) : log e ++ b.dealings e a = [] := by
  have hdead : b.site.network.lives e = 0 := by
    simp [Network.lives, Network.isLive, List.getElem?_eq_none hborn]
  obtain ⟨late, hentries, hlate⟩ := (episode_act h a e).entries_of_dead h.tidy hdead
  rw [hl.unborn e hborn, hentries, List.nil_append, List.map_eq_nil_iff,
    List.eq_nil_iff_forall_not_mem]
  intro i hi
  obtain ⟨k, hk, rfl, -⟩ := hlate i hi
  exact absurd (hl.unawaited k hk).1.born (Nat.not_lt.2 hborn)

/-- What is taken next is what was delivered first of all that was not taken. -/
theorem inOrder_act (hl : b.Ledger past story log) (h : b.Sane) (a : Act) (e : ListenerId) :
    takings (log e ++ b.dealings e a) <+: deliveries (log e ++ b.dealings e a) := by
  have hepisode := episode_act h a e
  generalize b.dealings e a = entries at hepisode
  have horder := hl.inOrder e
  rw [takings_append, deliveries_append]
  cases hepisode with
  | delivered item hst hlive hnew => simpa using horder.trans (List.prefix_append _ _)
  | took id c rest ha hst => simp [(hl.stations e _ _ hst).1]
  | failed id rest ha hst => simp [(hl.stations e _ _ hst).1]
  | _ => simpa using horder

/-- A client whose server reads that nothing more comes departs. -/
theorem departed (hl : b.Ledger past story log) (hst : b.Station e q (some (c, .reply [])))
    {max : Nat} (hmax : 0 < max)
    (hr : c.read max b.site.network = (.done [], c, b.site.network))
    (hlink : b'.site.network.link c.link = (b.site.network.link c.link).drop) (a : Act) :
    b'.Departed (past ++ [a]) (.conn c) := by
  obtain ⟨-, -, hempty, hclosed⟩ := Conn.read_nothing hmax hr
  refine ⟨?_, by rw [hlink]; rfl, ?_⟩
  · rw [hlink]
    simp [Link.drop, Pipe.close, hempty]
  · rcases breakage_of_read_nothing hmax hr with hwhole | hbreaks
    · obtain ⟨-, hservice⟩ := hl.stations e q _ hst
      cases hservice with
      | busy earlier first _ _ htaken hall hsame hfirst =>
        obtain rfl : c = first := by simpa [hwhole] using hfirst
        have hmem : Incoming.conn c ∈ takings (log e) := by simp [htaken]
        have hhung := hl.hungUp e c (hl.delivered_of_taken hmem) hwhole hst.has_client hclosed
        exact .inl ⟨hwhole, List.mem_append_left _ hhung⟩
    · exact .inr hbreaks

/-- What is at a listener after an act fits its record. -/
theorem stations_act (hl : b.Ledger past story log) (h : b.Sane) (a : Act)
    (hst' : (b.act a).Station e q client) :
    deliveries (log e ++ b.dealings e a) = takings (log e ++ b.dealings e a) ++ q
      ∧ (b.act a).InService (past ++ [a]) (takings (log e ++ b.dealings e a)) client := by
  have hepisode := episode_act h a e
  have htidy' := (h.act a).tidy
  have hunborn := hl.unborn_act h a (e := e)
  generalize b.dealings e a = entries at hepisode hunborn
  have hold {q : List Incoming} {client : Option (Conn × Errand)}
      (hst : b.Station e q client) : deliveries (log e) = takings (log e) ++ q
        ∧ (b.act a).InService (past ++ [a]) (takings (log e)) client := by
    obtain ⟨hqueue, hservice⟩ := hl.stations e q client hst
    refine ⟨hqueue, hservice.act h (fun item hitem l hon => ?_) a⟩
    exact hl.known_item (hl.delivered_of_taken hitem) hon
  cases hepisode with
  | kept hkept => simpa using hold ((hkept q client).1 hst')
  | opened he hst =>
    obtain ⟨rfl, rfl⟩ := htidy'.station_unique hst hst'
    rw [hunborn (by rw [he]; exact Nat.le_refl _)]
    exact ⟨rfl, .free nofun⟩
  | delivered item hst hlive hnew =>
    obtain ⟨q₀, client₀, hbefore⟩ := h.tidy.station hlive
    obtain ⟨rfl, rfl⟩ := htidy'.station_unique (hst q₀ client₀ hbefore) hst'
    obtain ⟨hqueue, hservice⟩ := hold hbefore
    refine ⟨by simp [hqueue], ?_⟩
    simpa using hservice
  | took id c rest ha hst hst₁ =>
    obtain ⟨rfl, rfl⟩ := htidy'.station_unique hst₁ hst'
    obtain ⟨hqueue, hservice⟩ := hold hst
    refine ⟨by simp [hqueue], ?_⟩
    simpa using hservice.took c
  | heard id s q₀ c after bytes n ha hst hne hr hst₁ =>
    obtain ⟨rfl, rfl⟩ := htidy'.station_unique hst₁ hst'
    obtain ⟨hqueue, hservice⟩ := hold hst
    refine ⟨by simp [hqueue], ?_⟩
    simpa using hservice.heard hne hr
  | answered id k q₀ text ha hk hst hst₁ =>
    obtain ⟨rfl, rfl⟩ := htidy'.station_unique hst₁ hst'
    obtain ⟨hqueue, hservice⟩ := hold hst
    refine ⟨by simp [hqueue], ?_⟩
    simpa using hservice.answered text
  | carriedOut k hk he hkept => simpa using hold ((hkept q client).1 hst')
  | parted id s q₀ c ha hst hr hbuffer hlink hst₁ =>
    obtain ⟨rfl, rfl⟩ := htidy'.station_unique hst₁ hst'
    obtain ⟨hqueue, hservice⟩ := hold hst
    refine ⟨by simp [hqueue], ?_⟩
    simpa using hservice.parted (hl.departed hst hbuffer hr hlink a)
  | told id q₀ c u u' ha hst hwhole hst₁ =>
    obtain ⟨rfl, rfl⟩ := htidy'.station_unique hst₁ hst'
    obtain ⟨hqueue, hservice⟩ := hold hst
    refine ⟨by simp [hqueue], ?_⟩
    simpa using hservice.told hwhole u'
  | failed id rest ha hst hno => exact absurd hst' (hno _ _)
  | dropped q₀ client₀ hst hno => exact absurd hst' (hno _ _)

theorem known_act (hl : b.Ledger past story log) (h : b.Sane) (a : Act)
    (hc : .conn c ∈ deliveries (log e ++ b.dealings e a)) :
    c.link.index < (b.act a).site.network.links.length := by
  rw [deliveries_append, List.mem_append] at hc
  rcases hc with hc | hc
  · exact (h.passage a c.link).known (h.act a).tidy (hl.known e c hc)
  · exact (h.newcomer a hc).2.1.lt (h.act a).tidy

/-- A connection is delivered to one listener. -/
theorem apart_act (hl : b.Ledger past story log) (h : b.Sane) (a : Act) {e' : ListenerId}
    {c' : Conn} (hc : .conn c ∈ deliveries (log e ++ b.dealings e a))
    (hc' : .conn c' ∈ deliveries (log e' ++ b.dealings e' a)) (hlink : c'.link = c.link) :
    e' = e := by
  rw [deliveries_append, List.mem_append] at hc hc'
  rcases hc with hc | hc <;> rcases hc' with hc' | hc'
  · exact hl.apart e e' c c' hc hc' hlink
  · have hknown := hl.known e c hc
    rw [← hlink, (h.newcomer a hc').1] at hknown
    exact absurd hknown (Nat.lt_irrefl _)
  · have hknown := hl.known e' c' hc'
    rw [hlink, (h.newcomer a hc).1] at hknown
    exact absurd hknown (Nat.lt_irrefl _)
  · exact (h.act a).tidy.has_unique (h.newcomer a hc).2.2 (hlink ▸ (h.newcomer a hc').2.2)

/-- A connection is delivered once. -/
theorem unrepeated_act (hl : b.Ledger past story log) (h : b.Sane) (a : Act) (e : ListenerId) :
    Unrepeated (deliveries (log e ++ b.dealings e a)) := by
  have hepisode := episode_act h a e
  generalize b.dealings e a = entries at hepisode
  rw [deliveries_append]
  cases hepisode with
  | delivered item hst hlive hnew =>
    refine List.pairwise_append.2 ⟨hl.unrepeated e, List.pairwise_singleton _ _, ?_⟩
    intro old hold new hitem l hon hon'
    have hknown := hl.known_item hold hon
    have hindex := hnew l (List.mem_singleton.1 hitem ▸ hon')
    omega
  | _ => simpa using hl.unrepeated e

/-- Who closes a connection that waits or is served hangs up. -/
theorem hungUp_act (hl : b.Ledger past story log) (h : b.Sane) (a : Act)
    (hc : .conn c ∈ deliveries (log e ++ b.dealings e a)) (hwhole : c.breakage = none)
    (hhas : (b.act a).Has e c.link)
    (hclosed : ((b.act a).site.network.link c.link).fromClient.closed = true) :
    .hangUp c.link ∈ past ++ [a] := by
  rw [deliveries_append, List.mem_append] at hc
  have htidy' := (h.act a).tidy
  rcases hc with hc | hc
  · have hknown := hl.known e c hc
    have hbefore := (episode_act h a e).has h.tidy htidy' hhas hknown
    rcases closing_act h a hknown hclosed with hclosed | rfl | ⟨e', hhas', hno⟩
    · exact List.mem_append_left _ (hl.hungUp e c hc hwhole hbefore hclosed)
    · simp
    · obtain rfl := h.tidy.has_unique hbefore hhas'
      obtain ⟨q, client, hst, -⟩ := hhas
      exact absurd hst (hno q client)
  · obtain ⟨hindex, hq, -⟩ := h.newcomer a hc
    have hopen := ((h.passage a c.link).newcomer h.tidy htidy' (Nat.le_of_eq hindex.symm) hq rfl).2
    cases (hopen hwhole).symm.trans hclosed

/-- Whoever was taken at a station that closes sees the end of the stream. -/
theorem closed_taken (hl : b.Ledger past story log) (h : b.Sane) (a : Act)
    (hst : b.Station e q client)
    (hclient : ∀ c u, client = some (c, u) →
      ((b.act a).site.network.link c.link).fromHost.closed = true)
    (hc : .conn c ∈ takings (log e)) :
    ((b.act a).site.network.link c.link).fromHost.closed = true := by
  have hdeparted (hd : b.Departed past (.conn c)) :
      ((b.act a).site.network.link c.link).fromHost.closed = true :=
    ((h.passage a c.link).closed (hl.known e c (hl.delivered_of_taken hc))).2 hd.2.1
  obtain ⟨-, hservice⟩ := hl.stations e q client hst
  cases hservice with
  | free hall => exact hdeparted (hall _ hc)
  | busy earlier first last u htaken hall hlink =>
    rw [htaken] at hc
    rcases List.mem_append.1 hc with hc | hc
    · exact hdeparted (hall _ hc)
    · cases List.mem_singleton.1 hc
      exact hlink ▸ hclient last u rfl

/-- Who was delivered to a listener that is gone sees the end of the stream. -/
theorem closed_act (hl : b.Ledger past story log) (h : b.Sane) (a : Act)
    (hno : ∀ q client, ¬ (b.act a).Station e q client)
    (hc : .conn c ∈ deliveries (log e ++ b.dealings e a)) :
    ((b.act a).site.network.link c.link).fromHost.closed = true := by
  have hepisode := episode_act h a e
  generalize b.dealings e a = entries at hepisode hc
  -- All that was delivered before was taken, or it waited when the listener was dropped.
  have hgone {q : List Incoming} {client : Option (Conn × Errand)} (hst : b.Station e q client)
      (hcloses : (b.act a).Closes q client) (hc : .conn c ∈ deliveries (log e)) :
      ((b.act a).site.network.link c.link).fromHost.closed = true := by
    rw [(hl.stations e q client hst).1] at hc
    rcases List.mem_append.1 hc with hc | hc
    · exact hl.closed_taken h a hst hcloses.2 hc
    · exact hcloses.1 c hc
  cases hepisode with
  | kept hkept =>
    have hc : Incoming.conn c ∈ deliveries (log e) := by simpa using hc
    refine ((h.passage a c.link).closed (hl.known e c hc)).2
      (hl.closed e (fun q client hst => ?_) c hc)
    exact hno q client ((hkept q client).2 hst)
  | opened he hst => exact absurd hst (hno _ _)
  | delivered item hst hlive hnew =>
    obtain ⟨q, client, hbefore⟩ := h.tidy.station hlive
    exact absurd (hst q client hbefore) (hno _ _)
  | took id c' rest ha hst hst' => exact absurd hst' (hno _ _)
  | heard id s q c' after bytes n ha hst hne hr hst' => exact absurd hst' (hno _ _)
  | answered id k q text ha hk hst hst' => exact absurd hst' (hno _ _)
  | carriedOut k hk he hkept =>
    have hc : Incoming.conn c ∈ deliveries (log e) := by simpa using hc
    refine ((h.passage a c.link).closed (hl.known e c hc)).2
      (hl.closed e (fun q client hst => ?_) c hc)
    exact hno q client ((hkept q client).2 hst)
  | parted id s q c' ha hst hr hbuffer hlink hst' => exact absurd hst' (hno _ _)
  | told id q c' u u' ha hst hwhole hst' => exact absurd hst' (hno _ _)
  | failed id rest ha hst hno' hcloses =>
    refine hgone hst ⟨fun c hc => ?_, nofun⟩ (by simpa using hc)
    exact hcloses.1 c (by simpa using hc)
  | dropped q client hst hno' hcloses => exact hgone hst hcloses (by simpa using hc)

/-- Nobody serves a connection that was not taken. -/
theorem unserved (hl : b.Ledger past story log)
    (hc : .conn c ∈ (deliveries (log e)).drop (takings (log e)).length) {id : ServerId} {c' : Conn}
    {u : Errand} (hlink : c'.link = c.link) : ¬ b.Serves id c' u := by
  rintro ⟨s, x, hs, ht⟩
  have hst := Station.intro (.inl ⟨id, s, hs, ht⟩ : b.Posted _) rfl
  obtain ⟨earlier, first, htaken, hfirst, hmem⟩ := hl.last_taken hst
  have hsame : first.link = c.link := hfirst.trans hlink
  obtain rfl := hl.apart e x.listener c first (List.mem_of_mem_drop hc) (hl.delivered_of_taken hmem)
    hsame
  exact hl.not_taken hc hmem hsame

/-- What is left of the deliveries after an act was left before, or is new. -/
theorem left_act (hl : b.Ledger past story log) (a : Act)
    (hitem : item ∈ (deliveries (log e ++ b.dealings e a)).drop
      (takings (log e ++ b.dealings e a)).length) :
    item ∈ (deliveries (log e)).drop (takings (log e)).length
      ∨ item ∈ deliveries (b.dealings e a) := by
  rw [takings_append, deliveries_append, List.length_append, ← List.drop_drop,
    List.drop_append_of_le_length (hl.inOrder e).length_le] at hitem
  exact List.mem_append.1 (List.mem_of_mem_drop hitem)

/-- Whoever was not taken is sent nothing. -/
theorem unreplied_act (hl : b.Ledger past story log) (h : b.Sane) (a : Act)
    (hc : .conn c ∈ (deliveries (log e ++ b.dealings e a)).drop
      (takings (log e ++ b.dealings e a)).length) :
    ((b.act a).site.network.link c.link).fromHost.bytes = [] := by
  have hpassage := h.passage a c.link
  rcases hl.left_act a hc with hc | hc
  · refine hpassage.unreplied (hl.known e c (List.mem_of_mem_drop hc)) ?_ (hl.unreplied e c hc)
    exact fun id c' u hlink => hl.unserved hc hlink
  · obtain ⟨hindex, hq, -⟩ := h.newcomer a hc
    exact (hpassage.newcomer h.tidy (h.act a).tidy (Nat.le_of_eq hindex.symm) hq rfl).1

/-- A call that is carried out is on the connection that was taken last where it was begun. -/
theorem caller (hl : b.Ledger past story log) {k : Call} (hk : b.carriedOut a = some k) :
    ∃ earlier first, takings (log k.endpoint.listener) = earlier ++ [.conn first]
      ∧ first.link = k.conn.link ∧ .conn first ∈ takings (log k.endpoint.listener) := by
  cases a with
  | move id =>
    obtain ⟨s, hs, hcall⟩ := Option.bind_eq_some_iff.1 hk
    obtain ⟨-, ht⟩ := Server.call?_eq_some hcall
    exact hl.last_taken (.intro (.inl ⟨id, s, hs, ht⟩) rfl)
  | carryOut index =>
    obtain ⟨-, earlier, first, htaken, hlink⟩ := hl.unawaited k (List.mem_of_getElem? hk)
    exact ⟨earlier, first, htaken, hlink, by rw [htaken]; simp⟩
  | _ => cases hk

/-- What a handler hears elsewhere is nothing that was delivered here. -/
theorem elsewhere (hl : b.Ledger past story log)
    (hother : ∀ k, b.carriedOut a = some k → k.endpoint.listener ≠ e)
    (hitem : item ∈ deliveries (log e)) {i : Incident} (hi : i ∈ b.observe a)
    (hanswer : i.isAnswer = true) : item.isOn i.link = false := by
  obtain ⟨k, hk, rfl⟩ := call_of_observe hi hanswer
  obtain ⟨earlier, first, htaken, hfirst, hmem⟩ := hl.caller hk
  rw [Bool.eq_false_iff]
  intro hon
  cases item with
  | failure => cases hon
  | conn c =>
    have hc : c.link = k.conn.link := of_decide_eq_true hon
    refine hother k hk ?_
    exact hl.apart e _ c first hitem (hl.delivered_of_taken hmem) (hfirst.trans hc.symm)

theorem taken_act (hl : b.Ledger past story log) {i : Incident} (hi : i ∈ story ++ b.observe a)
    (hanswer : i.isAnswer = true) :
    ∃ e c, .conn c ∈ takings (log e ++ b.dealings e a) ∧ c.link = i.link := by
  rcases List.mem_append.1 hi with hi | hi
  · obtain ⟨e, c, hc, hlink⟩ := hl.taken i hi hanswer
    refine ⟨e, c, ?_, hlink⟩
    rw [takings_append]
    exact List.mem_append_left _ hc
  · obtain ⟨k, hk, rfl⟩ := call_of_observe hi hanswer
    obtain ⟨earlier, first, htaken, hfirst, hmem⟩ := hl.caller hk
    refine ⟨k.endpoint.listener, first, ?_, hfirst⟩
    rw [takings_append]
    exact List.mem_append_left _ hmem

/-- Calls outlive a server only on the connection that it took last. -/
theorem unawaited_act (hl : b.Ledger past story log) (h : b.Sane) {k : Call}
    (hk : k ∈ (b.act a).unawaited) : (b.act a).Retired k.endpoint.listener
      ∧ ∃ earlier first, takings (log k.endpoint.listener ++ b.dealings k.endpoint.listener a)
          = earlier ++ [.conn first] ∧ first.link = k.conn.link := by
  rcases (change_act h.tidy a).unawaited hk with hk | ⟨id, s, rfl, hs, hcall⟩
  · obtain ⟨hretired, earlier, first, htaken, hlink⟩ := hl.unawaited k hk
    refine ⟨hretired.act h.tidy a, earlier, first, ?_, hlink⟩
    rw [takings_append, hretired.takings_eq_nil, List.append_nil]
    exact htaken
  · obtain ⟨-, ht⟩ := Server.call?_eq_some hcall
    obtain ⟨earlier, first, htaken, hlink, -⟩ :=
      hl.last_taken (.intro (.inl ⟨id, s, hs, ht⟩) rfl)
    refine ⟨h.tidy.retired_shutdown hs ht rfl, earlier, first, ?_, hlink⟩
    simpa [dealings] using htaken

/-- Nobody hears a connection that was not taken. -/
theorem unheard (hl : b.Ledger past story log)
    (hitem : item ∈ (deliveries (log e)).drop (takings (log e)).length) :
    item.answers story = [] := by
  refine Incoming.answers_eq_nil fun i hi hanswer => Bool.eq_false_iff.2 fun hon => ?_
  obtain ⟨e', c', hc', hlink⟩ := hl.taken i hi hanswer
  cases item with
  | failure => cases hon
  | conn c =>
    have hsame : c'.link = c.link := by
      rw [hlink]
      simpa [Incoming.isOn, eq_comm] using hon
    obtain rfl := hl.apart e e' c c' (List.mem_of_mem_drop hitem) (hl.delivered_of_taken hc') hsame
    exact hl.not_taken hitem hc' hsame

/-- What is taken in an act was the first that waited. -/
theorem next_taken (hl : b.Ledger past story log) (h : b.Sane) (a : Act)
    (hitem : item ∈ takings (b.dealings e a)) :
    ∃ rest, deliveries (log e) = takings (log e) ++ item :: rest
      ∧ ∀ old ∈ takings (log e), b.Departed past old := by
  have hepisode := episode_act h a e
  generalize b.dealings e a = entries at hepisode hitem
  have hfree {q : List Incoming} (hst : b.Station e q none) : deliveries (log e)
      = takings (log e) ++ q ∧ ∀ old ∈ takings (log e), b.Departed past old := by
    obtain ⟨hqueue, hservice⟩ := hl.stations e q none hst
    cases hservice with
    | free hall => exact ⟨hqueue, hall⟩
  cases hepisode with
  | took id c rest ha hst =>
    obtain rfl : item = .conn c := by simpa using hitem
    exact ⟨rest, hfree hst⟩
  | failed id rest ha hst =>
    obtain rfl : item = .failure := by simpa using hitem
    exact ⟨rest, hfree hst⟩
  | _ => simp [takings] at hitem

/-- The runs of the handler at a listener go through the connections in their order. -/
theorem answers_act (hl : b.Ledger past story log) (h : b.Sane) (a : Act) (e : ListenerId) :
    Entry.answers (log e ++ b.dealings e a)
      = (takings (log e ++ b.dealings e a)).flatMap (·.answers (story ++ b.observe a)) := by
  have hbefore := hl.answers e
  rcases heard_or_silent b a e with ⟨k, hk, rfl⟩ | ⟨hsilent, hother⟩
  · obtain ⟨earlier, first, htaken, hfirst, hmem⟩ := hl.caller hk
    have hunrepeated : Unrepeated (takings (log k.endpoint.listener)) :=
      (hl.unrepeated _).sublist (hl.inOrder _).sublist
    rw [htaken, Unrepeated, List.pairwise_append] at hunrepeated
    have hearlier : earlier.flatMap (·.answers (story ++ [k.incident b.site.host]))
        = earlier.flatMap (·.answers story) := by
      refine Incoming.flatMap_answers_append story fun item hitem => ?_
      refine Incoming.answers_eq_nil fun j hj _ => Bool.eq_false_iff.2 fun hon => ?_
      cases List.mem_singleton.1 hj
      exact hunrepeated.2.2 item hitem _ (List.mem_singleton.2 rfl) k.conn.link hon
        (by simp [Incoming.isOn, hfirst])
    have hlast : (Incoming.conn first).answers [k.incident b.site.host]
        = [k.incident b.site.host] := by
      simp [Incoming.answers, Incoming.isOn, hfirst, Call.isAnswer_incident]
    rw [dealings_of_carriedOut hk, observe_of_carriedOut hk, Call.entries, if_pos rfl]
    rw [htaken, List.flatMap_append, List.flatMap_singleton] at hbefore
    simp only [Entry.answers_append, takings_append, htaken, List.flatMap_append, hearlier]
    simp [hbefore, Incoming.answers_append, hlast]
  · have hnothing {item : Incoming} (hitem : item ∈ deliveries (log e)) :
        item.answers (b.observe a) = [] :=
      Incoming.answers_eq_nil fun i hi hanswer => hl.elsewhere hother hitem hi hanswer
    have hold := Incoming.flatMap_answers_append story fun item hitem =>
      hnothing (hl.delivered_of_taken (e := e) hitem)
    have hnew : (takings (b.dealings e a)).flatMap (·.answers (story ++ b.observe a)) = [] := by
      refine List.flatMap_eq_nil_iff.2 fun item hitem => ?_
      obtain ⟨rest, hqueue, -⟩ := hl.next_taken h a hitem
      have hwaits : item ∈ (deliveries (log e)).drop (takings (log e)).length := by simp [hqueue]
      rw [Incoming.answers_append, hl.unheard hwaits, hnothing (List.mem_of_mem_drop hwaits)]
      rfl
    rw [Entry.answers_append, hsilent, takings_append, List.flatMap_append, hold, hnew, hbefore]

/-- A handler hears a known connection. -/
theorem known_answer (hl : b.Ledger past story log) {i : Incident} (hi : i ∈ story ++ b.observe a)
    (hanswer : i.isAnswer = true) : i.link.index < b.site.network.links.length := by
  rcases List.mem_append.1 hi with hi | hi
  · obtain ⟨e, c, hc, hlink⟩ := hl.taken i hi hanswer
    exact hlink ▸ hl.known e c (hl.delivered_of_taken hc)
  · obtain ⟨k, hk, rfl⟩ := call_of_observe hi hanswer
    obtain ⟨earlier, first, htaken, hfirst, hmem⟩ := hl.caller hk
    rw [Call.link_incident, ← hfirst]
    exact hl.known _ first (hl.delivered_of_taken hmem)

theorem heard_act (hl : b.Ledger past story log) (h : b.Sane) (a : Act) (e : ListenerId) :
    Entry.answers (log e ++ b.dealings e a) = (story ++ b.observe a).filter fun i =>
      i.isAnswer && (deliveries (log e ++ b.dealings e a)).any (·.isOn i.link) := by
  -- What is delivered in this act is on a new connection, which nobody heard.
  have hnew : ∀ i ∈ story ++ b.observe a,
      (i.isAnswer && (deliveries (log e ++ b.dealings e a)).any (·.isOn i.link))
        = (i.isAnswer && (deliveries (log e)).any (·.isOn i.link)) := by
    intro i hi
    rcases hanswer : i.isAnswer
    · rfl
    · have hnone : (deliveries (b.dealings e a)).any (·.isOn i.link) = false := by
        refine List.any_eq_false.2 fun item hitem hon => ?_
        cases item with
        | failure => cases hon
        | conn c =>
          have hc : c.link = i.link := by simpa [Incoming.isOn] using hon
          have hknown := hl.known_answer hi hanswer
          rw [← hc, (h.newcomer a hitem).1] at hknown
          exact absurd hknown (Nat.lt_irrefl _)
      rw [deliveries_append, List.any_append, hnone, Bool.or_false]
  have hobserved : Entry.answers (b.dealings e a)
      = (b.observe a).filter fun i => i.isAnswer && (deliveries (log e)).any (·.isOn i.link) := by
    rcases heard_or_silent b a e with ⟨k, hk, rfl⟩ | ⟨hsilent, hother⟩
    · obtain ⟨earlier, first, htaken, hfirst, hmem⟩ := hl.caller hk
      have hany : (deliveries (log k.endpoint.listener)).any (·.isOn k.conn.link) = true :=
        List.any_eq_true.2 ⟨_, hl.delivered_of_taken hmem, by simp [Incoming.isOn, hfirst]⟩
      rw [dealings_of_carriedOut hk, observe_of_carriedOut hk, Call.entries, if_pos rfl]
      simp [Call.isAnswer_incident, hany]
    · rw [hsilent]
      refine (List.filter_eq_nil_iff.2 fun i hi hboth => ?_).symm
      obtain ⟨hanswer, hany⟩ := Bool.and_eq_true_iff.1 hboth
      obtain ⟨item, hitem, hon⟩ := List.any_eq_true.1 hany
      rw [hl.elsewhere hother hitem hi hanswer] at hon
      cases hon
  rw [List.filter_congr hnew, List.filter_append, ← hl.heard e, ← hobserved, Entry.answers_append]

/-- An act keeps the ledger. -/
theorem act (hl : b.Ledger past story log) (h : b.Sane) (a : Act) :
    (b.act a).Ledger (past ++ [a]) (story ++ b.observe a) fun e => log e ++ b.dealings e a where
  unborn _ hborn := hl.unborn_act h a (Nat.le_trans (born_act h a) hborn)
  inOrder := hl.inOrder_act h a
  known _ _ hc := hl.known_act h a hc
  apart _ _ _ _ hc hc' := hl.apart_act h a hc hc'
  unrepeated := hl.unrepeated_act h a
  stations _ _ _ hst := hl.stations_act h a hst
  hungUp _ _ hc hwhole hhas hclosed := hl.hungUp_act h a hc hwhole hhas hclosed
  closed _ hno _ hc := hl.closed_act h a hno hc
  unreplied _ _ hc := hl.unreplied_act h a hc
  answers := hl.answers_act h a
  heard := hl.heard_act h a
  taken _ hi hanswer := hl.taken_act hi hanswer
  unawaited _ hk := hl.unawaited_act h hk

theorem run (hl : b.Ledger past story log) (h : b.Sane) (acts : List Act) :
    (b.run acts).Ledger (past ++ acts) (story ++ b.story acts)
      fun e => log e ++ b.record e acts := by
  induction acts generalizing b past story log with
  | nil => simpa [Switchboard.story, record] using hl
  | cons a acts ih =>
    have hrest := ih (hl.act h a) (h.act a)
    simpa [Switchboard.story, record] using hrest

end Ledger

/-! ## Runs -/

theorem ledger_run (host : Host) (acts : List Act) :
    ((create (.inMemory host)).run acts).Ledger acts ((create (.inMemory host)).story acts)
      fun e => (create (.inMemory host)).record e acts :=
  (ledger_create host).run (sane_create host) acts

/-- Nobody has a connection, nobody ever heard it, and its client sees the end of the stream. -/
structure Dismissed (b : Switchboard) (story : List Incident) (c : Conn) : Prop where
  ended : (b.receive c.link).1 = ([], true)
  unheard : (Incoming.conn c).answers story = []
  notQueued : ¬ b.Queued c
  notServed : ∀ id c' u, c'.link = c.link → ¬ b.Serves id c' u

section

variable {past : List Act} {story : List Incident} {log : ListenerId → List Entry}

/-- What waited at a listener that was dropped is dismissed. -/
theorem Ledger.dismissed (hl : b.Ledger past story log) (h : b.Sane)
    (hdead : b.site.network.lives e = 0)
    (hc : .conn c ∈ (deliveries (log e)).drop (takings (log e)).length) :
    b.Dismissed story c where
  ended := by
    have hclosed := hl.closed e (h.tidy.not_station hdead) c (List.mem_of_mem_drop hc)
    exact Prod.ext (hl.unreplied e c hc) hclosed
  unheard := hl.unheard hc
  notQueued := by
    rintro ⟨lis, hmem, hq⟩
    obtain ⟨index, hlis⟩ := List.getElem?_of_mem hmem
    have hlive : 0 < b.site.network.lives ⟨index⟩ := by
      simp [Network.lives, Network.isLive, hlis, h.tidy.sound.live hmem hq]
    obtain ⟨q, client, hst⟩ := h.tidy.station hlive
    have hdelivered : Incoming.conn c ∈ deliveries (log ⟨index⟩) := by
      rw [(hl.stations _ q client hst).1, ← hst.1, Network.queueOf_of_listener? hlis]
      exact List.mem_append_right _ hq
    obtain rfl := hl.apart e ⟨index⟩ c c (List.mem_of_mem_drop hc) hdelivered rfl
    rw [hdead] at hlive
    exact absurd hlive (Nat.lt_irrefl 0)
  notServed _ _ _ hlink := hl.unserved hc hlink

end

theorem queueOf_of_dead (h : b.Sane) (hdead : b.site.network.lives e = 0) :
    b.site.network.queueOf e = [] := by
  rcases hlis : b.site.network.listeners[e.index]? with _ | lis
  · exact Network.queueOf_of_none hlis
  · rw [Network.queueOf_of_listener? hlis]
    refine h.tidy.sound.drained lis (List.mem_of_getElem? hlis) ?_
    simpa [Network.lives, Network.isLive, hlis] using hdead

/-- A listener that is opened has an empty queue. -/
theorem queueOf_unborn (h : b.Sane) (hunborn : b.site.network.listeners.length ≤ e.index)
    (a : Act) : (b.act a).site.network.queueOf e = [] := by
  have hdead : b.site.network.lives e = 0 := by
    simp [Network.lives, Network.isLive, List.getElem?_eq_none hunborn]
  by_cases hdead' : (b.act a).site.network.lives e = 0
  · exact queueOf_of_dead (h.act a) hdead'
  · obtain ⟨q, client, hst⟩ := (h.act a).tidy.station (Nat.pos_of_ne_zero hdead')
    have hno := h.tidy.not_station hdead
    have hepisode := episode_act h a e
    generalize b.dealings e a = entries at hepisode
    cases hepisode with
    | kept hkept => exact absurd ((hkept q client).1 hst) (hno q client)
    | opened he hst => exact hst.1
    | delivered item hafter hlive => exact absurd hdead (Nat.ne_of_gt hlive)
    | took id c rest ha hst => exact absurd hst (hno _ _)
    | heard id s q c after bytes n ha hst => exact absurd hst (hno _ _)
    | answered id k q text ha hk hst => exact absurd hst (hno _ _)
    | carriedOut k hk he hkept => exact absurd ((hkept q client).1 hst) (hno q client)
    | parted id s q c ha hst => exact absurd hst (hno _ _)
    | told id q c u u' ha hst => exact absurd hst (hno _ _)
    | failed id rest ha hst => exact absurd hst (hno _ _)
    | dropped q client hst => exact absurd hst (hno _ _)

/-- What is delivered to a listener is taken in its order, and only when all that was taken before
has hung up and was read to its end; the handler hears the connections one after the other. What
waits when the listener is dropped is dismissed, and a new listener knows nothing of it; then nothing
is left to happen but calls that were begun before. -/
theorem one_client_at_a_time (host : Host) (acts : List Act) (e : ListenerId) :
    let board := create (.inMemory host)
    let b := board.run acts
    let log := board.record e acts
    let story := board.story acts
    takings log <+: deliveries log
      ∧ (b.site.network.isLive e = true →
          deliveries log = takings log ++ b.site.network.queueOf e)
      ∧ (∀ a item, item ∈ takings (b.dealings e a) →
          takings log ++ [item] <+: deliveries log ∧ ∀ old ∈ takings log, b.Departed acts old)
      ∧ (∀ id s x c u, b.server? id = some s → s.task = some (.serving x c u) → x.listener = e →
          ∃ earlier first, takings log = earlier ++ [.conn first] ∧ first.link = c.link
            ∧ ∀ old ∈ earlier, b.Departed acts old)
      ∧ answers log = (story.filter fun i => i.isAnswer && (deliveries log).any (·.isOn i.link))
      ∧ answers log = (takings log).flatMap (·.answers story)
      ∧ (b.site.network.listeners.length ≤ e.index →
          log = [] ∧ ∀ a, (b.act a).site.network.queueOf e = [])
      ∧ (e.index < b.site.network.listeners.length → b.site.network.isLive e = false →
          ∀ later, (∃ late : List Incident,
              board.record e (acts ++ later) = log ++ late.map .answered
                ∧ ∀ i ∈ late, b.Belated e i)
            ∧ ∀ c, .conn c ∈ (deliveries log).drop (takings log).length →
                (board.run (acts ++ later)).Dismissed (board.story (acts ++ later)) c
                  ∧ ∀ e', .conn c ∈ deliveries (board.record e' (acts ++ later)) → e' = e) := by
  intro board b log story
  have hsane : b.Sane := (sane_create host).run acts
  have hledger : b.Ledger acts story fun e => board.record e acts := ledger_run host acts
  refine ⟨hledger.inOrder e, ?_, ?_, ?_, hledger.heard e, hledger.answers e, ?_, ?_⟩
  · intro hlive
    obtain ⟨q, client, hst⟩ := hsane.tidy.station (e := e) (by simp [Network.lives, hlive])
    rw [hst.1]
    exact (hledger.stations e q client hst).1
  · intro a item hitem
    obtain ⟨rest, hqueue, hdeparted⟩ := hledger.next_taken hsane a hitem
    exact ⟨⟨rest, by simp [log, hqueue]⟩, hdeparted⟩
  · rintro id s x c u hs ht rfl
    have hst := Station.intro (.inl ⟨id, s, hs, ht⟩ : b.Posted _) rfl
    obtain ⟨-, hservice⟩ := hledger.stations _ _ _ hst
    cases hservice with
    | busy earlier first _ _ htaken hall hlink => exact ⟨earlier, first, htaken, hlink.symm, hall⟩
  · intro hunborn
    exact ⟨hledger.unborn e hunborn, fun a => queueOf_unborn hsane hunborn a⟩
  · intro hborn hdead later
    have hlives : b.site.network.lives e = 0 := by simp [Network.lives, hdead]
    obtain ⟨⟨late, hlate, hbelated⟩, hdead'⟩ := record_of_dead hsane hborn hlives later
    have hrecord : board.record e (acts ++ later) = log ++ late.map .answered := by
      rw [record_append, hlate]
    refine ⟨⟨late, hrecord, hbelated⟩, fun c hc => ?_⟩
    have hlater := ledger_run host (acts ++ later)
    have hsane' := (sane_create host).run (acts ++ later)
    have hnone : takings (late.map .answered) = [] ∧ deliveries (late.map .answered) = [] := by
      simp [takings, deliveries]
    have hleft : (deliveries (board.record e (acts ++ later))).drop
          (takings (board.record e (acts ++ later))).length
        = (deliveries log).drop (takings log).length := by
      rw [hrecord, takings_append, deliveries_append, hnone.1, hnone.2, List.append_nil,
        List.append_nil]
    rw [← hleft] at hc
    rw [← run_append] at hdead'
    refine ⟨hlater.dismissed hsane' hdead' hc, fun e' hc' => ?_⟩
    exact hlater.apart e e' c c (List.mem_of_mem_drop hc) hc' rfl

/-- Three clients come to a desk, and its listener is to fail after the second; the first two are
served. -/
def rush : List Act :=
  [.add "desk" (.callback .echo) 64 5, .start ⟨0⟩, .move ⟨0⟩, .connect "desk", .connect "desk",
    .failAccept "desk", .connect "desk", .send ⟨2⟩ [1], .send ⟨1⟩ [2], .send ⟨0⟩ [3], .move ⟨0⟩,
    .move ⟨0⟩, .move ⟨0⟩, .move ⟨0⟩, .hangUp ⟨0⟩, .move ⟨0⟩, .move ⟨0⟩, .move ⟨0⟩, .move ⟨0⟩,
    .move ⟨0⟩, .hangUp ⟨1⟩, .move ⟨0⟩]

/-- The desk loses its listener and opens a new one. -/
def reopening : List Act := [.elapse 5, .move ⟨0⟩]

/-- The clients of a desk are served one after the other; who still waits when its listener fails is
dismissed. -/
theorem desk_serves_in_turn :
    let first : Incoming := .conn ⟨⟨0⟩, none⟩
    let second : Incoming := .conn ⟨⟨1⟩, none⟩
    let log := lobby.record ⟨0⟩ rush
    let story := lobby.story rush
    takings log = [first, second]
      ∧ deliveries log = [first, second] ++ (lobby.run rush).site.network.queueOf ⟨0⟩
      ∧ (∀ old ∈ [first, second], (lobby.run rush).Departed rush old)
      ∧ answers log = first.answers story ++ second.answers story
      ∧ (first.answers story).length = 1 ∧ (second.answers story).length = 1
      ∧ (lobby.run (rush ++ .move ⟨0⟩ :: reopening)).Dismissed
          (lobby.story (rush ++ .move ⟨0⟩ :: reopening)) ⟨⟨2⟩, none⟩
      ∧ (lobby.run (rush ++ .move ⟨0⟩ :: reopening)).site.network.queueOf ⟨1⟩ = [] := by
  intro first second log story
  obtain ⟨-, hwaits, htakes, -, -, hturns, -, -⟩ := one_client_at_a_time (.fresh 8) rush ⟨0⟩
  have hfailure : Incoming.failure ∈ takings ((lobby.run rush).dealings ⟨0⟩ (.move ⟨0⟩)) :=
    List.mem_singleton.2 rfl
  obtain ⟨-, hdeparted⟩ := htakes (.move ⟨0⟩) .failure hfailure
  obtain ⟨-, -, -, -, -, -, -, hdropped⟩ :=
    one_client_at_a_time (.fresh 8) (rush ++ [.move ⟨0⟩]) ⟨0⟩
  obtain ⟨-, hdismissed⟩ := hdropped (by decide) (by decide) reopening
  obtain ⟨-, -, -, -, -, -, hunborn, -⟩ :=
    one_client_at_a_time (.fresh 8) (rush ++ [.move ⟨0⟩, .elapse 5]) ⟨1⟩
  exact ⟨rfl, hwaits rfl, hdeparted, hturns, rfl, rfl, (hdismissed ⟨⟨2⟩, none⟩ (by decide)).1,
    (hunborn (by decide)).2 (.move ⟨0⟩)⟩

end Switchboard

end KeyBridge
