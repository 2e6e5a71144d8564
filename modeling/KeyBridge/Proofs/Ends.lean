-- SUMMARY: The host's ends of connections: what they read and write, and whose they are.
import KeyBridge.Proofs.Holdings

/-!
# The host's ends

A server reads and writes through the host's end of a connection. The end waits in a queue, or one
server has it; `Queued` and `Serves` say which, and on a tidy board no two of them hold at once.
-/

namespace KeyBridge

/-! ## The host's end -/

namespace Conn

/-- A message comes from the client, or from the end itself if that is to break. -/
theorem read_message {c c' : Conn} {max : Nat} {n n' : Network} {bytes : List UInt8}
    (h : c.read max n = (.done bytes, c', n')) (hne : bytes ≠ []) :
    (c.breakage ≠ some .reading ∧ (n.link c.link).fromClient.bytes ≠ [] ∧ c' = c
        ∧ bytes = (n.link c.link).fromClient.bytes.take max
        ∧ n' = n.setLink c.link ((n.link c.link).withRequest
            ((n.link c.link).fromClient.bytes.drop max)))
      ∨ ∃ message, message ≠ [] ∧ c.breakage = some (.writing message) ∧ n' = n
          ∧ bytes = message.take max
          ∧ c' = { c with breakage := some (.writing (message.drop max)) } := by
  unfold read at h
  split at h
  · cases h
  · rename_i byte more hb
    cases h
    exact .inr ⟨byte :: more, by simp, hb, rfl, rfl, rfl⟩
  · rename_i hreading hwriting
    simp only [Network.read_host] at h
    split at h
    · split at h
      · cases h
        exact absurd rfl hne
      · cases h
    · rename_i hbytes
      cases h
      exact .inl ⟨by simpa using hreading, hbytes, rfl, rfl, rfl⟩

/-- A server that reads some bytes at a time takes leave only of a client that hung up. -/
theorem read_nothing {c c' : Conn} {max : Nat} {n n' : Network} (hmax : 0 < max)
    (h : c.read max n = (.done [], c', n')) :
    c' = c ∧ n' = n ∧ (n.link c.link).fromClient.bytes = []
      ∧ (n.link c.link).fromClient.closed = true := by
  unfold read at h
  split at h
  · cases h
  · rename_i byte more hb
    obtain ⟨k, rfl⟩ := Nat.exists_eq_succ_of_ne_zero (Nat.ne_of_gt hmax)
    simp at h
  · simp only [Network.read_host] at h
    split at h
    · rename_i hbytes
      split at h
      · rename_i hclosed
        cases h
        exact ⟨rfl, rfl, hbytes, hclosed⟩
      · cases h
    · rename_i hbytes
      obtain ⟨byte, more, hmore⟩ := List.exists_cons_of_ne_nil hbytes
      obtain ⟨k, rfl⟩ := Nat.exists_eq_succ_of_ne_zero (Nat.ne_of_gt hmax)
      simp [hmore] at h

theorem read_failed {c c' : Conn} {max : Nat} {n n' : Network} {error : NetworkError}
    (h : c.read max n = (.failed error, c', n')) :
    c' = c ∧ n' = n ∧ c.breakage = some .reading := by
  unfold read at h
  split at h
  · rename_i hb
    cases h
    exact ⟨rfl, rfl, hb⟩
  · cases h
  · simp only [Network.read_host] at h
    split at h
    · split at h <;> cases h
    · cases h

theorem read_pending {c c' : Conn} {max : Nat} {n n' : Network}
    (h : c.read max n = (.pending, c', n')) :
    (n.link c.link).fromClient.bytes = [] ∧ (n.link c.link).fromClient.closed = false := by
  unfold read at h
  split at h
  · cases h
  · cases h
  · simp only [Network.read_host] at h
    split at h
    · rename_i hbytes
      split at h
      · cases h
      · rename_i hclosed
        exact ⟨hbytes, by simpa using hclosed⟩
    · cases h

theorem write_done {c : Conn} {bytes : List UInt8} {n n' : Network} {count : Nat}
    (h : c.write bytes n = (.done count, n')) :
    c.breakage = none ∧ (n.link c.link).fromHost.closed = false
      ∧ count = min (n.link c.link).fromHost.room bytes.length
      ∧ n' = n.setLink c.link ((n.link c.link).withReply
          ((n.link c.link).fromHost.bytes ++ bytes.take count)) := by
  unfold write at h
  split at h
  · cases h
  · rename_i hb
    rw [Network.write_host] at h
    split at h
    · cases h
    · rename_i hclosed
      split at h
      · cases h
      · cases h
        exact ⟨by simpa using hb, by simpa using hclosed, rfl, rfl⟩

theorem write_failed {c : Conn} {bytes : List UInt8} {n n' : Network} {error : NetworkError}
    (h : c.write bytes n = (.failed error, n')) :
    n' = n ∧ (c.breakage.isSome ∨ (n.link c.link).fromHost.closed = true) := by
  unfold write at h
  split at h
  · rename_i hb
    cases h
    exact ⟨rfl, .inl hb⟩
  · rw [Network.write_host] at h
    split at h
    · rename_i hclosed
      cases h
      exact ⟨rfl, .inr hclosed⟩
    · split at h <;> cases h

theorem write_pending {c : Conn} {bytes : List UInt8} {n n' : Network}
    (h : c.write bytes n = (.pending, n')) :
    c.breakage = none ∧ (n.link c.link).fromHost.closed = false
      ∧ (n.link c.link).fromHost.room = 0 := by
  unfold write at h
  split at h
  · cases h
  · rename_i hb
    rw [Network.write_host] at h
    split at h
    · cases h
    · rename_i hclosed
      split at h
      · rename_i hroom
        exact ⟨by simpa using hb, by simpa using hclosed, hroom⟩
      · cases h

end Conn

/-! ## Whose a connection is -/

namespace Network

/-- Something waits in a queue. -/
def Queues (n : Network) (item : Incoming) : Prop := ∃ l ∈ n.listeners, item ∈ l.queue

variable {n n' : Network} {item : Incoming}

theorem queues_of_listeners (hn : n'.listeners = n.listeners) : n'.Queues item ↔ n.Queues item := by
  simp only [Queues, hn]

/-- A queue that lost something had no less before. -/
theorem Queues.of_set {i : Nat} {l l' : Listener} {links : List Link}
    (hl : n.listeners[i]? = some l) (hsub : item ∈ l'.queue → item ∈ l.queue)
    (h : Queues ⟨n.listeners.set i l', links⟩ item) : n.Queues item := by
  obtain ⟨x, hx, hitem⟩ := h
  rcases List.mem_or_eq_of_mem_set hx with hx | rfl
  · exact ⟨x, hx, hitem⟩
  · exact ⟨l, List.mem_of_getElem? hl, hsub hitem⟩

theorem queues_set {i : Nat} {l l' : Listener} {links : List Link}
    (hl : n.listeners[i]? = some l) (hsame : item ∈ l'.queue ↔ item ∈ l.queue) :
    Queues ⟨n.listeners.set i l', links⟩ item ↔ n.Queues item := by
  refine ⟨fun h => h.of_set hl hsame.1, ?_⟩
  rintro ⟨x, hx, hitem⟩
  obtain ⟨j, hj⟩ := List.getElem?_of_mem hx
  by_cases hij : i = j
  · subst hij
    cases hl.symm.trans hj
    exact ⟨l', List.mem_set (List.getElem?_eq_some_iff.1 hl).1 _, hsame.2 hitem⟩
  · refine ⟨x, List.mem_of_getElem? (i := j) ?_, hitem⟩
    rw [List.getElem?_set_ne hij]
    exact hj

theorem queues_openListener {name : String} : (n.openListener name).Queues item ↔ n.Queues item := by
  simp [Queues, openListener]

theorem Queues.of_dropListener {e : ListenerId} (h : (n.dropListener e).Queues item) :
    n.Queues item := by
  rcases hl : n.listeners[e.index]? with _ | l
  · rwa [dropListener_of_none hl] at h
  · rw [queues_of_listeners (n := ⟨n.listeners.set e.index _, n.links⟩)
      (listeners_dropListener hl)] at h
    exact h.of_set hl fun hnil => by cases hnil

/-- What waited elsewhere waits on. -/
theorem queues_dropListener {e : ListenerId} (hnot : item ∉ n.queueOf e) :
    (n.dropListener e).Queues item ↔ n.Queues item := by
  rcases hl : n.listeners[e.index]? with _ | l
  · rw [dropListener_of_none hl]
  · rw [queues_of_listeners (n := ⟨n.listeners.set e.index _, n.links⟩)
      (listeners_dropListener hl)]
    refine queues_set hl ⟨fun hnil => (by cases hnil), fun hmem => absurd ?_ hnot⟩
    simpa [queueOf, hl] using hmem

theorem queues_accept_done {e : ListenerId} {c : Conn} (ha : n.accept e = (.done c, n'))
    (hne : item ≠ .conn c) : n'.Queues item ↔ n.Queues item := by
  obtain ⟨l, rest, hl, hq, rfl⟩ := accept_done ha
  exact queues_set hl (by simp [hq, hne])

theorem Queues.of_accept_done {e : ListenerId} {c : Conn} (ha : n.accept e = (.done c, n'))
    (h : n'.Queues item) : n.Queues item := by
  obtain ⟨l, rest, hl, hq, rfl⟩ := accept_done ha
  exact h.of_set hl fun hmem => by rw [hq]; exact List.mem_cons_of_mem _ hmem

theorem queues_of_accept_done {e : ListenerId} {c : Conn} (ha : n.accept e = (.done c, n')) :
    n.Queues (.conn c) := by
  obtain ⟨l, rest, hl, hq, -⟩ := accept_done ha
  exact ⟨l, List.mem_of_getElem? hl, by simp [hq]⟩

theorem queues_accept_failed {e : ListenerId} {error : NetworkError} (hn : n.Sound)
    (ha : n.accept e = (.failed error, n')) (hne : item ≠ .failure) :
    n'.Queues item ↔ n.Queues item := by
  rcases hn.accept_failed ha with rfl | ⟨l, rest, hl, hq, rfl⟩
  · exact Iff.rfl
  · exact queues_set hl (by simp [hq, hne])

theorem Queues.of_accept_failed {e : ListenerId} {error : NetworkError} (hn : n.Sound)
    (ha : n.accept e = (.failed error, n')) (h : n'.Queues item) : n.Queues item := by
  rcases hn.accept_failed ha with rfl | ⟨l, rest, hl, hq, rfl⟩
  · exact h
  · exact h.of_set hl fun hmem => by rw [hq]; exact List.mem_cons_of_mem _ hmem

theorem queues_enqueue {e : ListenerId} {l : Listener} {new : Incoming}
    (hl : n.listeners[e.index]? = some l) :
    (n.enqueue e new).Queues item ↔ item = new ∨ n.Queues item := by
  rw [enqueue_eq new hl]
  by_cases hnew : item = new
  · subst hnew
    refine ⟨fun _ => .inl rfl, fun _ => ?_⟩
    exact ⟨_, List.mem_set (List.getElem?_eq_some_iff.1 hl).1 _, by simp⟩
  · rw [queues_set hl (by simp [hnew])]
    simp [hnew]

end Network

namespace Switchboard

/-- The host's end of a connection waits in a queue. -/
def Queued (b : Switchboard) (c : Conn) : Prop := b.site.network.Queues (.conn c)

/-- A server has a connection, and this to do for the client. -/
def Serves (b : Switchboard) (id : ServerId) (c : Conn) (errand : Errand) : Prop :=
  ∃ s e, b.server? id = some s ∧ s.task = some (.serving e c errand)

/-- A call was begun and is not carried out yet, whether or not anybody waits for the answer. -/
def Begun (b : Switchboard) (k : Call) : Prop :=
  k ∈ b.unawaited ∨ ∃ id s, b.server? id = some s ∧ s.call? = some k

/-- The calls that were begun and are not carried out yet. -/
def pending (b : Switchboard) : List Call := b.unawaited ++ b.servers.filterMap Server.call?

variable {b b' : Switchboard}

theorem Queued.waiting_pos {c : Conn} (h : b.Queued c) : 0 < b.site.network.waiting c.link := by
  obtain ⟨l, hl, hc⟩ := h
  obtain ⟨i, hi⟩ := List.getElem?_of_mem hl
  have hpos : 0 < Listener.holds c.link l := by
    rw [Listener.holds, List.countP_pos_iff]
    exact ⟨_, hc, by simp [Incoming.isOn]⟩
  exact Nat.lt_of_lt_of_le hpos (le_sum_map hi)

theorem Serves.holds_eq {id : ServerId} {c : Conn} {u : Errand} {s : Server}
    (h : b.Serves id c u) (hs : b.server? id = some s) : s.holds c.link = 1 := by
  obtain ⟨s', e, hs', ht⟩ := h
  cases hs.symm.trans hs'
  rw [Server.holds_of_task ht]
  simp [Task.holds]

theorem Queued.lt (h : b.Tidy) {c : Conn} (hc : b.Queued c) :
    c.link.index < b.site.network.links.length := by
  apply h.known _
  have := hc.waiting_pos
  simp only [holders]
  omega

theorem Serves.lt (h : b.Tidy) {id : ServerId} {c : Conn} {u : Errand} (hc : b.Serves id c u) :
    c.link.index < b.site.network.links.length := by
  apply h.known _
  obtain ⟨s, e, hs, ht⟩ := hc
  have hone := Serves.holds_eq ⟨s, e, hs, ht⟩ hs
  have := le_sum_map (f := Server.holds c.link) hs
  simp only [holders]
  omega

/-- A connection that a server has waits nowhere, and no abandoned task has it. -/
theorem Tidy.alone (h : b.Tidy) {id : ServerId} {c : Conn} {u : Errand} (hs : b.Serves id c u) :
    b.site.network.waiting c.link = 0 ∧ ∀ t ∈ b.abandoned, t.task.holds c.link = 0 := by
  obtain ⟨s, e, hs, ht⟩ := hs
  have hone := Serves.holds_eq ⟨s, e, hs, ht⟩ hs
  have hle := le_sum_map (f := Server.holds c.link) hs
  have hheld := h.held c.link
  simp only [holders] at hheld
  refine ⟨by omega, fun t ht => ?_⟩
  obtain ⟨i, hi⟩ := List.getElem?_of_mem ht
  have := le_sum_map (f := fun t : Stray => t.task.holds c.link) hi
  omega

theorem Tidy.not_queued (h : b.Tidy) {id : ServerId} {c c' : Conn} {u : Errand}
    (hs : b.Serves id c u) (hlink : c'.link = c.link) : ¬ b.Queued c' := by
  intro hq
  have hpos := hq.waiting_pos
  rw [hlink, (h.alone hs).1] at hpos
  exact absurd hpos (Nat.lt_irrefl _)

theorem Tidy.not_serves (h : b.Tidy) {id : ServerId} {c c' : Conn} {u : Errand}
    (hq : b.Queued c) (hlink : c'.link = c.link) : ¬ b.Serves id c' u :=
  fun hs => h.not_queued hs hlink.symm hq

/-- A connection has one server. -/
theorem Tidy.serves_unique (h : b.Tidy) {id id' : ServerId} {c c' : Conn} {u u' : Errand}
    (hs : b.Serves id c u) (hs' : b.Serves id' c' u') (hlink : c'.link = c.link) :
    id' = id ∧ c' = c ∧ u' = u := by
  have hid : id' = id := by
    apply Decidable.byContradiction
    intro hne
    obtain ⟨s, e, hs, ht⟩ := hs
    obtain ⟨s', e', hs', ht'⟩ := hs'
    have hone := Serves.holds_eq ⟨s, e, hs, ht⟩ hs
    have hone' := Serves.holds_eq ⟨s', e', hs', ht'⟩ hs'
    have hindex : id'.index ≠ id.index := by
      intro hi
      cases id; cases id'
      exact hne (congrArg _ hi)
    have hle := add_le_sum_map (f := Server.holds c.link) hindex hs' hs
    have := h.held c.link
    rw [hlink] at hone'
    simp only [holders] at this
    omega
  subst hid
  obtain ⟨s, e, hs, ht⟩ := hs
  obtain ⟨s', e', hs', ht'⟩ := hs'
  cases hs.symm.trans hs'
  cases ht.symm.trans ht'
  exact ⟨rfl, rfl, rfl⟩

/-! ## Calls on their way -/

section

variable {id : ServerId} {s : Server} {c : Conn} {u : Errand} {k k' : Call}

theorem serves_of_call? (hs : b.server? id = some s) (hk : s.call? = some k) :
    b.Serves id k.conn (.call k.bytes) := by
  obtain ⟨-, ht⟩ := Server.call?_eq_some hk
  exact ⟨s, k.endpoint, hs, ht⟩

theorem begun_iff_mem : b.Begun k ↔ k ∈ b.pending := by
  rw [pending, List.mem_append, List.mem_filterMap]
  refine or_congr Iff.rfl ⟨?_, ?_⟩
  · rintro ⟨id, s, hs, hk⟩
    exact ⟨s, mem_servers_of_server? hs, hk⟩
  · rintro ⟨s, hs, hk⟩
    obtain ⟨index, hindex⟩ := List.getElem?_of_mem hs
    exact ⟨⟨index⟩, s, hindex, hk⟩

theorem Serves.begun {bytes : List UInt8} (h : b.Serves id c (.call bytes)) :
    ∃ handler e, b.Begun ⟨handler, e, c, bytes⟩ := by
  obtain ⟨s, e, hs, ht⟩ := h
  exact ⟨s.handler, e, .inr ⟨id, s, hs, Server.call?_of_task ht⟩⟩

theorem Begun.lt (h : b.Tidy) (hk : b.Begun k) :
    k.conn.link.index < b.site.network.links.length := by
  rcases hk with hk | ⟨id, s, hs, hk⟩
  · exact h.called k hk
  · exact (serves_of_call? hs hk).lt h

/-- A call that nobody waits for counts for its connection. -/
theorem countP_calls_pos (hk : k ∈ b.unawaited) :
    0 < b.unawaited.countP fun c => c.conn.link = k.conn.link :=
  List.countP_pos_iff.2 ⟨k, hk, decide_eq_true rfl⟩

/-- No server has the connection of a call that nobody waits for. -/
theorem Tidy.not_serves_of_mem (h : b.Tidy) (hk : k ∈ b.unawaited) (hlink : c.link = k.conn.link) :
    ¬ b.Serves id c u := by
  rintro ⟨s, e, hs, ht⟩
  have hone := Serves.holds_eq ⟨s, e, hs, ht⟩ hs
  have hle := le_sum_map (f := Server.holds c.link) hs
  have hpos := countP_calls_pos hk
  have hclaimed := h.claimed c.link
  rw [← hlink] at hpos
  simp only [callers] at hclaimed
  omega

theorem Tidy.not_queued_of_begun (h : b.Tidy) (hk : b.Begun k) (hlink : c.link = k.conn.link) :
    ¬ b.Queued c := by
  intro hq
  rcases hk with hk | ⟨id, s, hs, hk⟩
  · have hwaiting := hq.waiting_pos
    have hpos := countP_calls_pos hk
    have hclaimed := h.claimed c.link
    rw [← hlink] at hpos
    simp only [callers] at hclaimed
    omega
  · exact h.not_queued (serves_of_call? hs hk) hlink hq

/-- A server that has the connection of a call waits for its answer. -/
theorem Tidy.errand_of_begun (h : b.Tidy) (hk : b.Begun k) (hs : b.Serves id c u)
    (hlink : c.link = k.conn.link) :
    c = k.conn ∧ u = .call k.bytes ∧ ∃ s, b.server? id = some s ∧ s.call? = some k := by
  rcases hk with hk | ⟨id', s, hs', hk⟩
  · exact absurd hs (h.not_serves_of_mem hk hlink)
  · obtain ⟨rfl, rfl, rfl⟩ := h.serves_unique (serves_of_call? hs' hk) hs hlink
    exact ⟨rfl, rfl, s, hs', hk⟩

/-- A call that nobody waits for is the only one on its connection. -/
theorem Tidy.link_ne_of_mem_eraseIdx (h : b.Tidy) {index : Nat} (hk : b.unawaited[index]? = some k)
    (hk' : k' ∈ b.unawaited.eraseIdx index) : k'.conn.link ≠ k.conn.link := by
  intro hlink
  obtain ⟨hlt, rfl⟩ := List.getElem?_eq_some_iff.1 hk
  have hclaimed := h.claimed b.unawaited[index].conn.link
  have hcount := (List.getElem_cons_eraseIdx_perm hlt).countP_eq
    fun c => c.conn.link = b.unawaited[index].conn.link
  have hpos : 0 < (b.unawaited.eraseIdx index).countP
      fun c => c.conn.link = b.unawaited[index].conn.link :=
    List.countP_pos_iff.2 ⟨k', hk', decide_eq_true hlink⟩
  simp only [List.countP_cons, decide_true, if_true] at hcount
  rw [callers] at hclaimed
  omega

theorem Quiet.stalled (hq : b.Quiet) (hs : b.server? id = some s) :
    s.move b.site = none := by
  have hmove := hq.1 id
  simpa [moveServer, hs] using hmove

/-- When all is quiet, no call is on its way. -/
theorem Quiet.not_begun (hq : b.Quiet) (k : Call) : ¬ b.Begun k := by
  rintro (hk | ⟨id, s, hs, hk⟩)
  · rw [hq.2.2.2] at hk
    cases hk
  · rw [Server.call?_of_stalled (hq.stalled hs)] at hk
    cases hk

end

/-- A live listener that no abandoned task has belongs to a server. -/
theorem Tidy.owner (h : b.Tidy) (habandoned : b.abandoned = []) {e : ListenerId} {lis : Listener}
    (hl : b.site.network.listeners[e.index]? = some lis) (hlive : lis.live = true) :
    ∃ id s t x, b.server? id = some s ∧ s.task = some t ∧ t.endpoint? = some x
      ∧ x.listener = e := by
  have howned := h.owned e
  have hpos : 0 < (b.servers.map (Server.owns e)).sum := by
    simp [owners, habandoned, Network.lives, Network.isLive, hl, hlive] at howned
    omega
  obtain ⟨s, hs, hown⟩ := exists_of_sum_map_pos hpos
  obtain ⟨index, hindex⟩ := List.getElem?_of_mem hs
  rcases ht : s.task with _ | t
  · simp [Server.owns, ht] at hown
  · rw [Server.owns_of_task ht, Task.owns] at hown
    rcases hx : t.endpoint? with _ | x
    · simp [hx] at hown
    · simp only [hx] at hown
      split at hown
      · rename_i hlistener
        exact ⟨⟨index⟩, s, t, x, hindex, ht, hx, hlistener⟩
      · exact absurd hown (Nat.lt_irrefl _)

/-! ## Other servers, other networks -/

variable {id id' : ServerId} {s s' : Server} {c : Conn} {u : Errand}

theorem queued_of_listeners (hn : b'.site.network.listeners = b.site.network.listeners) :
    b'.Queued c ↔ b.Queued c := Network.queues_of_listeners hn

theorem serves_of_servers (h : b'.servers = b.servers) : b'.Serves id c u ↔ b.Serves id c u := by
  simp only [Serves, server?, h]

theorem serves_of_set (hservers : b'.servers = b.servers.set id.index s') (h : b'.Serves id' c u) :
    (id' = id ∧ ∃ e, s'.task = some (.serving e c u)) ∨ (id' ≠ id ∧ b.Serves id' c u) := by
  obtain ⟨x, e, hx, ht⟩ := h
  simp only [server?, hservers] at hx
  by_cases hid : id' = id
  · subst hid
    rw [List.getElem?_set] at hx
    simp only [if_true] at hx
    split at hx
    · cases hx
      exact .inl ⟨rfl, e, ht⟩
    · cases hx
  · have hindex : id.index ≠ id'.index := by
      intro hi
      cases id; cases id'
      exact hid (congrArg _ hi.symm)
    rw [List.getElem?_set_ne hindex] at hx
    exact .inr ⟨hid, x, e, hx, ht⟩

theorem serves_set_self {e : Endpoint} (hs : b.server? id = some s)
    (hservers : b'.servers = b.servers.set id.index s') (ht : s'.task = some (.serving e c u)) :
    b'.Serves id c u := by
  refine ⟨s', e, ?_, ht⟩
  simp only [server?, hservers]
  exact List.getElem?_set_self (List.getElem?_eq_some_iff.1 hs).1

theorem serves_set_ne (hservers : b'.servers = b.servers.set id.index s') (hne : id' ≠ id)
    (h : b.Serves id' c u) : b'.Serves id' c u := by
  obtain ⟨x, e, hx, ht⟩ := h
  refine ⟨x, e, ?_, ht⟩
  have hindex : id.index ≠ id'.index := by
    intro hi
    cases id; cases id'
    exact hne (congrArg _ hi.symm)
  simp only [server?, hservers]
  rw [List.getElem?_set_ne hindex]
  exact hx

theorem begun_of_eq {k : Call} (hservers : b'.servers = b.servers)
    (hunawaited : b'.unawaited = b.unawaited) :
    b'.Begun k ↔ b.Begun k := by
  simp only [Begun, server?, hservers, hunawaited]

/-- A server that has the calls on a connection that it had leaves them as they were. -/
theorem begun_of_set {k : Call} (hs : b.server? id = some s)
    (hservers : b'.servers = b.servers.set id.index s') (hunawaited : b'.unawaited = b.unawaited)
    (hsame : s'.call? = some k ↔ s.call? = some k) : b'.Begun k ↔ b.Begun k := by
  have hserver (id' : ServerId) :
      b'.server? id' = if id' = id then some s' else b.server? id' := by
    rw [← server?_put hs b.site id']
    simp only [server?, hservers, put]
  rw [Begun, Begun, hunawaited]
  refine or_congr Iff.rfl ⟨?_, ?_⟩
  · rintro ⟨id', x, hx, hk⟩
    rw [hserver id'] at hx
    split at hx
    · cases hx
      exact ⟨id, s, hs, hsame.1 hk⟩
    · exact ⟨id', x, hx, hk⟩
  · rintro ⟨id', x, hx, hk⟩
    by_cases hid : id' = id
    · subst hid
      cases hs.symm.trans hx
      exact ⟨id', s', by rw [hserver, if_pos rfl], hsame.2 hk⟩
    · exact ⟨id', x, by rw [hserver, if_neg hid]; exact hx, hk⟩

theorem begun_of_perm {k : Call} (h : b'.pending.Perm b.pending) : b'.Begun k ↔ b.Begun k := by
  rw [begun_iff_mem, begun_iff_mem]
  exact h.mem_iff

theorem pending_add {new : Server} (hnew : new.call? = none) :
    (b.add new).2.pending = b.pending := by
  simp [pending, Switchboard.add, hnew]

theorem pending_start (b : Switchboard) (id : ServerId) :
    (b.start id).pending.Perm b.pending := by
  rcases hs : b.server? id with _ | s
  · simp only [Switchboard.start, hs]
    exact .refl _
  · rcases ht : s.task with _ | t
    · have hset := filterMap_set_perm (g := Server.call?) hs s.launched
      have hcall : s.call? = none := by simp [Server.call?, ht]
      rw [hcall] at hset
      simp only [Switchboard.start, hs, Server.start_of_task_none ht, Server.isRunning, ht]
      exact hset.append_left _
    · simp only [Switchboard.start, hs, Server.start, Server.isRunning, ht, Option.isSome_some,
        if_true, Switchboard.put, set_of_getElem? hs]
      exact .refl _

/-- A shutdown stops no call. -/
theorem pending_shutdown (b : Switchboard) (id : ServerId) :
    (b.shutdown id).pending.Perm b.pending := by
  rcases hs : b.server? id with _ | s
  · simp only [shutdown, hs]
    exact .refl _
  · have hset := filterMap_set_perm (g := Server.call?) hs s.stopped
    simp only [shutdown, hs, Server.shutdown_eq]
    exact (List.Perm.of_eq (List.append_assoc ..)).trans (hset.append_left _)

theorem pending_elapse (b : Switchboard) (time : Nat) : (b.elapse time).pending = b.pending := by
  have hcall (s : Server) : (s.elapse time).call? = s.call? := by
    unfold Server.elapse
    split
    · rename_i rest ht
      simp [Server.call?, ht]
    · rfl
  rw [pending, elapse, List.filterMap_map]
  exact congrArg (b.unawaited ++ List.filterMap · b.servers) (funext hcall)

theorem serves_elapse {time : Nat} : (b.elapse time).Serves id c u ↔ b.Serves id c u := by
  constructor
  · rintro ⟨s, e, hs, ht⟩
    obtain ⟨s₀, hs₀, rfl⟩ : ∃ s₀, b.server? id = some s₀ ∧ s₀.elapse time = s := by
      simpa [server?, elapse] using hs
    exact ⟨s₀, e, hs₀, elapse_of_not_waiting time ht rfl⟩
  · rintro ⟨s, e, hs, ht⟩
    refine ⟨s.elapse time, e, ?_, ?_⟩
    · have hs' : b.servers[id.index]? = some s := hs
      simp [server?, elapse, hs']
    · simp [Server.elapse, ht]

end Switchboard

end KeyBridge
