-- SUMMARY: What the operations of a network do to single connections and listeners.
import KeyBridge.Network.Conn

/-!
# Connections and listeners

One equation for each operation, in terms of `Network.link` and of the list of listeners. Proofs
about servers use these equations and look no further into the network.
-/

namespace KeyBridge

namespace Link

@[simp] theorem drop_drop (l : Link) : l.drop.drop = l.drop := rfl

@[simp] theorem bytes_fromClient_drop (l : Link) : l.drop.fromClient.bytes = l.fromClient.bytes :=
  rfl

@[simp] theorem bytes_fromHost_drop (l : Link) : l.drop.fromHost.bytes = l.fromHost.bytes := rfl

@[simp] theorem closed_fromClient_drop (l : Link) : l.drop.fromClient.closed = true := rfl

@[simp] theorem closed_fromHost_drop (l : Link) : l.drop.fromHost.closed = true := rfl

/-- The connection with other bytes on their way to the host. -/
def withRequest (l : Link) (bytes : List UInt8) : Link :=
  { l with fromClient := { l.fromClient with bytes := bytes } }

/-- The connection with other bytes on their way to the client. -/
def withReply (l : Link) (bytes : List UInt8) : Link :=
  { l with fromHost := { l.fromHost with bytes := bytes } }

/-- The connection after its client has written, as much as fits. -/
def pour (l : Link) (bytes : List UInt8) : Link :=
  l.withRequest (l.fromClient.bytes ++ bytes.take (min l.fromClient.room bytes.length))

theorem pour_of_full {l : Link} (bytes : List UInt8) (h : l.fromClient.room = 0) :
    l.pour bytes = l := by
  simp only [pour, h, Nat.zero_min, List.take_zero, List.append_nil]
  rfl

end Link

/-- Whether an item in a queue is the host's end of a connection. -/
def Incoming.isOn (id : LinkId) : Incoming → Bool
  | .conn c => c.link = id
  | .failure => false

namespace Network

/-! ## Connections -/

@[simp] theorem listeners_setLink (n : Network) (id : LinkId) (l : Link) :
    (n.setLink id l).listeners = n.listeners := rfl

@[simp] theorem length_links_setLink (n : Network) (id : LinkId) (l : Link) :
    (n.setLink id l).links.length = n.links.length := by
  simp [setLink]

theorem link_of_le (n : Network) (id : LinkId) (h : n.links.length ≤ id.index) :
    n.link id = Link.fresh.drop := by
  simp [link, List.getD_eq_getElem?_getD, List.getElem?_eq_none h]

theorem link_setLink_self (n : Network) (id : LinkId) (l : Link) (h : id.index < n.links.length) :
    (n.setLink id l).link id = l := by
  simp [link, setLink, List.getD_eq_getElem?_getD, h]

/-- A connection that does not exist looks like one that both ends dropped. -/
theorem link_setLink_of_or (n : Network) (id : LinkId) (l : Link)
    (h : id.index < n.links.length ∨ l = Link.fresh.drop) : (n.setLink id l).link id = l := by
  by_cases hlt : id.index < n.links.length
  · exact link_setLink_self n id l hlt
  · rw [link_of_le _ _ (by simpa using hlt)]
    rcases h with h | h
    · exact absurd h hlt
    · exact h.symm

theorem link_setLink_ne (n : Network) {id other : LinkId} (l : Link) (h : other ≠ id) :
    (n.setLink id l).link other = n.link other := by
  have hne : id.index ≠ other.index := by
    intro he
    cases id; cases other
    exact h (congrArg _ he.symm)
  simp [link, setLink, List.getD_eq_getElem?_getD, List.getElem?_set_ne hne]

@[simp] theorem setLink_link (n : Network) (id : LinkId) : n.setLink id (n.link id) = n := by
  by_cases h : id.index < n.links.length
  · simp [setLink, link, List.getD_eq_getElem?_getD, List.getElem?_eq_getElem h]
  · have hset : n.links.set id.index (n.link id) = n.links := List.set_eq_of_length_le (by omega)
    rw [setLink, hset]

theorem read_host (n : Network) (id : LinkId) (max : Nat) :
    n.read id .host max =
      if (n.link id).fromClient.bytes = [] then
        (if (n.link id).fromClient.closed then .done [] else .pending, n)
      else
        (.done ((n.link id).fromClient.bytes.take max),
          n.setLink id ((n.link id).withRequest ((n.link id).fromClient.bytes.drop max))) := by
  have hsame : n.setLink id ⟨(n.link id).fromClient, (n.link id).fromHost⟩ = n := setLink_link n id
  by_cases hb : (n.link id).fromClient.bytes = []
  · by_cases hc : (n.link id).fromClient.closed = true
    all_goals
      simpa [read, Pipe.read, Link.incoming, Side.other, Link.outgoing, Link.setOutgoing, hb, hc]
        using hsame
  · simp [read, Pipe.read, Link.incoming, Side.other, Link.outgoing, Link.setOutgoing, hb,
      Link.withRequest]

theorem write_host (n : Network) (id : LinkId) (bytes : List UInt8) :
    n.write id .host bytes =
      if (n.link id).fromHost.closed then (.failed .brokenPipe, n)
      else if (n.link id).fromHost.room = 0 then (.pending, n)
      else
        (.done (min (n.link id).fromHost.room bytes.length),
          n.setLink id ((n.link id).withReply ((n.link id).fromHost.bytes
            ++ bytes.take (min (n.link id).fromHost.room bytes.length)))) := by
  have hsame : n.setLink id ⟨(n.link id).fromClient, (n.link id).fromHost⟩ = n := setLink_link n id
  by_cases hc : (n.link id).fromHost.closed = true
  · simpa [write, Pipe.write, Link.outgoing, Link.setOutgoing, hc] using hsame
  · by_cases hr : (n.link id).fromHost.room = 0
    · simpa [write, Pipe.write, Link.outgoing, Link.setOutgoing, hc, hr] using hsame
    · simp [write, Pipe.write, Link.outgoing, Link.setOutgoing, hc, hr, Link.withReply]

theorem write_client (n : Network) (id : LinkId) (bytes : List UInt8) :
    n.write id .client bytes =
      if (n.link id).fromClient.closed then (.failed .brokenPipe, n)
      else if (n.link id).fromClient.room = 0 then (.pending, n)
      else
        (.done (min (n.link id).fromClient.room bytes.length),
          n.setLink id ((n.link id).pour bytes)) := by
  have hsame : n.setLink id ⟨(n.link id).fromClient, (n.link id).fromHost⟩ = n := setLink_link n id
  by_cases hc : (n.link id).fromClient.closed = true
  · simpa [write, Pipe.write, Link.outgoing, Link.setOutgoing, hc] using hsame
  · by_cases hr : (n.link id).fromClient.room = 0
    · simpa [write, Pipe.write, Link.outgoing, Link.setOutgoing, hc, hr] using hsame
    · simp [write, Pipe.write, Link.outgoing, Link.setOutgoing, hc, hr, Link.pour, Link.withRequest]

@[simp] theorem listeners_dropLink (n : Network) (id : LinkId) :
    (n.dropLink id).listeners = n.listeners := rfl

@[simp] theorem length_links_dropLink (n : Network) (id : LinkId) :
    (n.dropLink id).links.length = n.links.length := by
  simp [dropLink]

theorem link_dropLink (n : Network) (id other : LinkId) :
    (n.dropLink id).link other = if other = id then (n.link other).drop else n.link other := by
  split
  · rename_i h
    subst h
    by_cases hlt : other.index < n.links.length
    · exact link_setLink_self n other _ hlt
    · rw [link_of_le _ _ (by simpa using hlt), link_of_le _ _ (by omega), Link.drop_drop]
  · rename_i h
    exact link_setLink_ne n _ h

/-- A new connection has the next id; the others stay. -/
theorem link_newLink (n : Network) (l : Link) (id : LinkId) :
    (n.newLink l).2.link id = if id.index = n.links.length then l else n.link id := by
  simp only [newLink, link, List.getD_eq_getElem?_getD]
  split
  · rename_i h
    simp [h]
  · rename_i h
    rcases Nat.lt_or_gt_of_ne h with h | h
    · rw [List.getElem?_append_left h]
    · rw [List.getElem?_eq_none (by simp; omega), List.getElem?_eq_none (by omega)]

/-! ## Queues -/

@[simp] theorem links_enqueue (n : Network) (e : ListenerId) (item : Incoming) :
    (n.enqueue e item).links = n.links := rfl

@[simp] theorem link_enqueue (n : Network) (e : ListenerId) (item : Incoming) (id : LinkId) :
    (n.enqueue e item).link id = n.link id := rfl

/-- A listener takes the first item in its queue. -/
theorem accept_done {n n' : Network} {e : ListenerId} {c : Conn}
    (h : n.accept e = (.done c, n')) :
    ∃ l rest, n.listeners[e.index]? = some l ∧ l.queue = .conn c :: rest ∧
      n' = { n with listeners := n.listeners.set e.index { l with queue := rest } } := by
  unfold accept at h
  split at h
  · cases h
  · rename_i l hl
    split at h
    · split at h <;> cases h
    · rename_i item rest hq
      split at h
      · cases h
        exact ⟨l, rest, hl, hq, rfl⟩
      · cases h

/-- A listener fails if it does not exist, if nobody can find it, or on purpose. -/
theorem accept_failed {n n' : Network} {e : ListenerId} {error : NetworkError}
    (h : n.accept e = (.failed error, n')) :
    (n.listeners[e.index]? = none ∧ n' = n)
      ∨ (∃ l, n.listeners[e.index]? = some l ∧ l.attached = false ∧ n' = n)
      ∨ ∃ l rest, n.listeners[e.index]? = some l ∧ l.queue = .failure :: rest ∧
          n' = { n with listeners := n.listeners.set e.index { l with queue := rest } } := by
  unfold accept at h
  split at h
  · cases h
    exact .inl ⟨‹_›, rfl⟩
  · rename_i l hl
    split at h
    · split at h
      · cases h
      · cases h
        rename_i hatt
        exact .inr (.inl ⟨l, hl, by simpa using hatt, rfl⟩)
    · rename_i item rest hq
      split at h
      · cases h
      · cases h
        exact .inr (.inr ⟨l, rest, hl, hq, rfl⟩)

theorem accept_pending {n n' : Network} {e : ListenerId} (h : n.accept e = (.pending, n')) :
    ∃ l, n.listeners[e.index]? = some l ∧ l.queue = [] := by
  unfold accept at h
  split at h
  · cases h
  · rename_i l hl
    split at h
    · exact ⟨l, hl, ‹_›⟩
    · split at h <;> cases h

@[simp] theorem listeners_foldl_hangUp (queue : List Incoming) (n : Network) :
    (queue.foldl hangUp n).listeners = n.listeners := by
  induction queue generalizing n with
  | nil => rfl
  | cons item rest ih =>
    rw [List.foldl_cons, ih]
    cases item <;> rfl

@[simp] theorem length_links_foldl_hangUp (queue : List Incoming) (n : Network) :
    (queue.foldl hangUp n).links.length = n.links.length := by
  induction queue generalizing n with
  | nil => rfl
  | cons item rest ih =>
    rw [List.foldl_cons, ih]
    cases item with
    | conn c => exact length_links_dropLink n c.link
    | failure => rfl

theorem link_foldl_hangUp (queue : List Incoming) (n : Network) (id : LinkId) :
    (queue.foldl hangUp n).link id =
      if queue.any (Incoming.isOn id) then (n.link id).drop else n.link id := by
  induction queue generalizing n with
  | nil => rfl
  | cons item rest ih =>
    rw [List.foldl_cons, ih]
    cases item with
    | conn c =>
      by_cases hc : c.link = id
      · subst hc
        simp [hangUp, link_dropLink, Incoming.isOn]
      · simp [hangUp, link_dropLink, Incoming.isOn, hc, Ne.symm hc]
    | failure => simp [hangUp, Incoming.isOn]

/-- What waits at a listener. -/
def queueOf (n : Network) (e : ListenerId) : List Incoming :=
  ((n.listeners[e.index]?).map Listener.queue).getD []

theorem dropListener_of_none {n : Network} {e : ListenerId} (h : n.listeners[e.index]? = none) :
    n.dropListener e = n := by
  simp [dropListener, listener?, h]

/-- A listener that is dropped is dead and has an empty queue; the others stay. -/
theorem listeners_dropListener {n : Network} {e : ListenerId} {l : Listener}
    (h : n.listeners[e.index]? = some l) :
    (n.dropListener e).listeners =
      n.listeners.set e.index { l with queue := [], live := false } := by
  simp [dropListener, listener?, h]

@[simp] theorem length_links_dropListener (n : Network) (e : ListenerId) :
    (n.dropListener e).links.length = n.links.length := by
  simp only [dropListener]
  split
  · rfl
  · rw [length_links_foldl_hangUp]

/-- A listener that is dropped hangs up on all who wait. -/
theorem link_dropListener (n : Network) (e : ListenerId) (id : LinkId) :
    (n.dropListener e).link id =
      if (n.queueOf e).any (Incoming.isOn id) then (n.link id).drop else n.link id := by
  simp only [dropListener, listener?, queueOf]
  split
  · rename_i h
    simp [h]
  · rename_i l h
    rw [link_foldl_hangUp]
    simp [h, link]

end Network

/-! ## The host's end -/

namespace Conn

/-- Reading leaves the listeners, the number of connections and the connection's id alone. -/
theorem read_frame {c c' : Conn} {max : Nat} {n n' : Network} {r : Progress (List UInt8)}
    (h : c.read max n = (r, c', n')) :
    c'.link = c.link ∧ n'.listeners = n.listeners ∧ n'.links.length = n.links.length
      ∧ ∀ id, id ≠ c.link → n'.link id = n.link id := by
  unfold read at h
  split at h
  · cases h
    exact ⟨rfl, rfl, rfl, fun _ _ => rfl⟩
  · cases h
    exact ⟨rfl, rfl, rfl, fun _ _ => rfl⟩
  · simp only [Network.read_host] at h
    split at h
    · cases h
      exact ⟨rfl, rfl, rfl, fun _ _ => rfl⟩
    · cases h
      exact ⟨rfl, rfl, by simp, fun _ hne => Network.link_setLink_ne n _ hne⟩

/-- Writing leaves the listeners and the number of connections alone. -/
theorem write_frame {c : Conn} {bytes : List UInt8} {n n' : Network} {r : Progress Nat}
    (h : c.write bytes n = (r, n')) :
    n'.listeners = n.listeners ∧ n'.links.length = n.links.length
      ∧ ∀ id, id ≠ c.link → n'.link id = n.link id := by
  unfold write at h
  split at h
  · cases h
    exact ⟨rfl, rfl, fun _ _ => rfl⟩
  · rw [Network.write_host] at h
    split at h
    · cases h
      exact ⟨rfl, rfl, fun _ _ => rfl⟩
    · split at h
      · cases h
        exact ⟨rfl, rfl, fun _ _ => rfl⟩
      · cases h
        exact ⟨rfl, by simp, fun _ hne => Network.link_setLink_ne n _ hne⟩

end Conn

end KeyBridge
