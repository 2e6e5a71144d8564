-- SUMMARY: Who holds connections and listeners: at most one holder each, in every run.
import KeyBridge.Proofs.Links
import KeyBridge.Proofs.Moves
import KeyBridge.Proofs.Runs
import Mathlib

/-!
# Holdings

The host's end of a connection waits in the queue of a listener, or a task serves it; a listener
belongs to a task. Nothing is held twice: a connection has at most one holder, and a live listener
has exactly one. `Switchboard.Tidy` says so by counting, and `Tidy.run` carries it through every
run.
-/

namespace KeyBridge

/-! ## Counting -/

section Counting

variable {α : Type} {f : α → Nat} {xs : List α} {i : Nat} {x : α}

theorem sum_map_eraseIdx (h : xs[i]? = some x) :
    ((xs.eraseIdx i).map f).sum + f x = (xs.map f).sum := by
  obtain ⟨hlt, rfl⟩ := List.getElem?_eq_some_iff.1 h
  have hmapped : i < (xs.map f).length := by rwa [List.length_map]
  have hsum := List.CommMonoid.add_sum_eraseIdx hmapped
  rw [List.getElem_map, List.eraseIdx_map] at hsum
  omega

theorem sum_map_set (y : α) (h : xs[i]? = some x) :
    ((xs.set i y).map f).sum + f x = (xs.map f).sum + f y := by
  have hafter : (xs.set i y)[i]? = some y :=
    List.getElem?_set_self (List.getElem?_eq_some_iff.1 h).1
  have hset := sum_map_eraseIdx (f := f) hafter
  rw [List.eraseIdx_set_eq] at hset
  have hbefore := sum_map_eraseIdx (f := f) h
  omega

theorem set_of_getElem? (h : xs[i]? = some x) : xs.set i x = xs := by
  obtain ⟨hlt, rfl⟩ := List.getElem?_eq_some_iff.1 h
  exact List.set_getElem_self hlt

theorem le_sum_map (h : xs[i]? = some x) : f x ≤ (xs.map f).sum :=
  List.le_sum_of_mem (List.mem_map_of_mem (List.mem_of_getElem? h))

/-- Two places of a list count at least what they count alone. -/
theorem add_le_sum_map {j : Nat} {y : α} (hne : i ≠ j) (hx : xs[i]? = some x)
    (hy : xs[j]? = some y) : f x + f y ≤ (xs.map f).sum := by
  have herase := sum_map_eraseIdx (f := f) hx
  have hle : f y ≤ ((xs.eraseIdx i).map f).sum := by
    rcases Nat.lt_or_gt_of_ne hne with h | h
    · obtain ⟨k, rfl⟩ : ∃ k, j = k + 1 := ⟨j - 1, by omega⟩
      apply le_sum_map (i := k)
      rw [List.getElem?_eraseIdx_of_ge (by omega), hy]
    · apply le_sum_map (i := j)
      rw [List.getElem?_eraseIdx_of_lt h, hy]
  omega

/-- What a place of a list gives is given up for what takes its place. -/
theorem filterMap_set_perm {β : Type} {g : α → Option β} (h : xs[i]? = some x) (y : α) :
    ((g x).toList ++ (xs.set i y).filterMap g).Perm ((g y).toList ++ xs.filterMap g) := by
  obtain ⟨hlt, rfl⟩ := List.getElem?_eq_some_iff.1 h
  have hafter := (List.set_perm_cons_eraseIdx hlt y).filterMap g
  have hbefore := (List.getElem_cons_eraseIdx_perm hlt).filterMap g
  have hcons (z : α) : (z :: xs.eraseIdx i).filterMap g
      = (g z).toList ++ (xs.eraseIdx i).filterMap g := by
    rw [List.filterMap_cons]
    cases g z <;> rfl
  rw [hcons] at hafter hbefore
  have hswap := List.perm_append_comm_assoc (g xs[i]).toList (g y).toList
    ((xs.eraseIdx i).filterMap g)
  exact (hafter.append_left _).trans (hswap.trans (hbefore.append_left _))

theorem exists_of_sum_map_pos (h : 0 < (xs.map f).sum) : ∃ x ∈ xs, 0 < f x := by
  obtain ⟨n, hmem, hpos⟩ := List.sum_pos_iff_exists_pos_nat.1 h
  obtain ⟨x, hx, rfl⟩ := List.mem_map.1 hmem
  exact ⟨x, hx, hpos⟩

end Counting

/-- How often a task serves a connection. -/
def Task.holds (id : LinkId) : Task → Nat
  | .serving _ c _ => if c.link = id then 1 else 0
  | _ => 0

/-- How often a task has a listener. -/
def Task.owns (e : ListenerId) (t : Task) : Nat :=
  match t.endpoint? with
  | some x => if x.listener = e then 1 else 0
  | none => 0

/-- How often a server serves a connection. -/
def Server.holds (id : LinkId) (s : Server) : Nat := (s.task.map (Task.holds id)).getD 0

/-- How often a server has a listener. -/
def Server.owns (e : ListenerId) (s : Server) : Nat := (s.task.map (Task.owns e)).getD 0

/-- How often a connection waits at a listener. -/
def Listener.holds (id : LinkId) (l : Listener) : Nat := l.queue.countP (Incoming.isOn id)

namespace Network

/-- How often a connection waits anywhere. -/
def waiting (n : Network) (id : LinkId) : Nat := (n.listeners.map (Listener.holds id)).sum

/-- One for a listener that still exists. -/
def lives (n : Network) (e : ListenerId) : Nat := (n.isLive e).toNat

/-- Every listener is known by its name, and nothing waits at a dead one. -/
structure Sound (n : Network) : Prop where
  attached : ∀ l ∈ n.listeners, l.attached = true
  drained : ∀ l ∈ n.listeners, l.live = false → l.queue = []

theorem sound_fresh : Sound .fresh := ⟨by simp [fresh], by simp [fresh]⟩

theorem Sound.live {n : Network} (h : n.Sound) {l : Listener} {item : Incoming}
    (hl : l ∈ n.listeners) (hmem : item ∈ l.queue) : l.live = true := by
  rcases hlive : l.live
  · rw [h.drained l hl hlive] at hmem
    cases hmem
  · rfl

/-- A listener in another state is as good as it was if it still is known and nothing waits at a
dead one. -/
theorem Sound.set {n : Network} (h : n.Sound) (i : Nat) {l : Listener} {links : List Link}
    (ha : l.attached = true) (hd : l.live = false → l.queue = []) :
    Sound ⟨n.listeners.set i l, links⟩ := by
  constructor
  · intro x hx
    rcases List.mem_or_eq_of_mem_set hx with hx | rfl
    · exact h.attached x hx
    · exact ha
  · intro x hx
    rcases List.mem_or_eq_of_mem_set hx with hx | rfl
    · exact h.drained x hx
    · exact hd

theorem Sound.of_listeners {n n' : Network} (h : n.Sound) (he : n'.listeners = n.listeners) :
    n'.Sound :=
  ⟨by rw [he]; exact h.attached, by rw [he]; exact h.drained⟩

/-! ## Opening and finding listeners -/

theorem Sound.openListener {n : Network} (h : n.Sound) (name : String) :
    (n.openListener name).Sound := by
  constructor
  · intro l hl
    rcases List.mem_append.1 hl with hl | hl
    · exact h.attached l hl
    · rw [List.mem_singleton.1 hl]
  · intro l hl hlive
    rcases List.mem_append.1 hl with hl | hl
    · exact h.drained l hl hlive
    · rw [List.mem_singleton.1 hl]

@[simp] theorem waiting_openListener (n : Network) (name : String) (id : LinkId) :
    (n.openListener name).waiting id = n.waiting id := by
  simp [waiting, openListener, Listener.holds]

theorem lives_openListener (n : Network) (name : String) (e : ListenerId) :
    (n.openListener name).lives e = n.lives e + if n.nextListener = e then 1 else 0 := by
  obtain ⟨i⟩ := e
  simp only [lives, isLive, openListener, nextListener, ListenerId.mk.injEq]
  rcases Nat.lt_trichotomy i n.listeners.length with h | h | h
  · rw [List.getElem?_append_left h]
    simp [Nat.ne_of_gt h]
  · simp [h]
  · rw [List.getElem?_eq_none (by simp; omega), List.getElem?_eq_none (by omega)]
    simp [Nat.ne_of_lt h]

/-- A name leads to a live listener that bears it. -/
theorem reach_ok {n : Network} {name : String} {e : ListenerId} (h : n.reach name = .ok e) :
    ∃ l, n.listeners[e.index]? = some l ∧ l.live = true ∧ l.name = name := by
  unfold reach at h
  split at h
  · rename_i found hf
    cases h
    obtain ⟨i, hi, rfl⟩ := Option.map_eq_some_iff.1 hf
    obtain ⟨hlt, hl, -⟩ := List.findIdx?_eq_some_iff_getElem.1 hi
    refine ⟨n.listeners[i], List.getElem?_eq_getElem hlt, ?_, ?_⟩
    · simp only [isLiveAt, Bool.and_eq_true] at hl
      exact hl.2
    · simp only [isLiveAt, Bool.and_eq_true, decide_eq_true_eq] at hl
      exact hl.1.2
  · cases h

/-! ## Queues -/

theorem enqueue_eq {n : Network} {e : ListenerId} {l : Listener} (item : Incoming)
    (h : n.listeners[e.index]? = some l) :
    n.enqueue e item =
      ⟨n.listeners.set e.index { l with queue := l.queue ++ [item] }, n.links⟩ := by
  have : Inhabited Listener := ⟨l⟩
  rw [enqueue, List.modify_eq_set, h]
  rfl

theorem Sound.enqueue {n : Network} (h : n.Sound) {e : ListenerId} {l : Listener} (item : Incoming)
    (hl : n.listeners[e.index]? = some l) (hlive : l.live = true) : (n.enqueue e item).Sound := by
  rw [enqueue_eq item hl]
  exact h.set _ (h.attached l (List.mem_of_getElem? hl)) (fun hd => by simp [hlive] at hd)

theorem waiting_enqueue {n : Network} {e : ListenerId} {l : Listener} (item : Incoming)
    (hl : n.listeners[e.index]? = some l) (id : LinkId) :
    (n.enqueue e item).waiting id = n.waiting id + if item.isOn id then 1 else 0 := by
  rw [enqueue_eq item hl]
  have := sum_map_set (f := Listener.holds id) { l with queue := l.queue ++ [item] } hl
  simp only [waiting, Listener.holds, List.countP_append, List.countP_singleton] at this ⊢
  omega

theorem lives_set {n : Network} {e : ListenerId} {l l' : Listener} {links : List Link}
    (hl : n.listeners[e.index]? = some l) (hlive : l'.live = l.live) (e' : ListenerId) :
    lives ⟨n.listeners.set e.index l', links⟩ e' = n.lives e' := by
  simp only [lives, isLive]
  by_cases he : e.index = e'.index
  · rw [← he, List.getElem?_set_self (List.getElem?_eq_some_iff.1 hl).1, hl]
    simp [hlive]
  · rw [List.getElem?_set_ne he]

@[simp] theorem lives_enqueue {n : Network} {e : ListenerId} {l : Listener} (item : Incoming)
    (hl : n.listeners[e.index]? = some l) (e' : ListenerId) :
    (n.enqueue e item).lives e' = n.lives e' := by
  rw [enqueue_eq item hl]
  exact lives_set hl (by rfl) e'

theorem Sound.accept_done {n n' : Network} (h : n.Sound) {e : ListenerId} {c : Conn}
    (ha : n.accept e = (.done c, n')) : n'.Sound := by
  obtain ⟨l, rest, hl, hq, rfl⟩ := Network.accept_done ha
  refine h.set _ (h.attached l (List.mem_of_getElem? hl)) ?_
  intro hd
  have := h.drained l (List.mem_of_getElem? hl) hd
  simp [hq] at this

theorem waiting_accept_done {n n' : Network} {e : ListenerId} {c : Conn}
    (ha : n.accept e = (.done c, n')) (id : LinkId) :
    n'.waiting id + (if c.link = id then 1 else 0) = n.waiting id := by
  obtain ⟨l, rest, hl, hq, rfl⟩ := accept_done ha
  have := sum_map_set (f := Listener.holds id) { l with queue := rest } hl
  have hc : Listener.holds id l = rest.countP (Incoming.isOn id) + if c.link = id then 1 else 0 := by
    by_cases hid : c.link = id <;> simp [Listener.holds, hq, Incoming.isOn, hid]
  have hrest : Listener.holds id { l with queue := rest } = rest.countP (Incoming.isOn id) := rfl
  simp only [waiting]
  omega

theorem lives_accept_done {n n' : Network} {e : ListenerId} {c : Conn}
    (ha : n.accept e = (.done c, n')) (e' : ListenerId) : n'.lives e' = n.lives e' := by
  obtain ⟨l, rest, hl, -, rfl⟩ := accept_done ha
  exact lives_set hl (by rfl) e'

/-- In a sound network a listener that exists fails on purpose only. -/
theorem Sound.accept_failed {n n' : Network} (h : n.Sound) {e : ListenerId} {error : NetworkError}
    (ha : n.accept e = (.failed error, n')) :
    n' = n ∨ ∃ l rest, n.listeners[e.index]? = some l ∧ l.queue = .failure :: rest ∧
      n' = { n with listeners := n.listeners.set e.index { l with queue := rest } } := by
  rcases Network.accept_failed ha with ⟨-, rfl⟩ | ⟨l, hl, hd, rfl⟩ | hq
  · exact .inl rfl
  · exact .inl rfl
  · exact .inr hq

theorem Sound.sound_accept_failed {n n' : Network} (h : n.Sound) {e : ListenerId}
    {error : NetworkError} (ha : n.accept e = (.failed error, n')) : n'.Sound := by
  rcases h.accept_failed ha with rfl | ⟨l, rest, hl, hq, rfl⟩
  · exact h
  · refine h.set _ (h.attached l (List.mem_of_getElem? hl)) ?_
    intro hd
    have := h.drained l (List.mem_of_getElem? hl) hd
    simp [hq] at this

theorem Sound.waiting_accept_failed {n n' : Network} (h : n.Sound) {e : ListenerId}
    {error : NetworkError} (ha : n.accept e = (.failed error, n')) (id : LinkId) :
    n'.waiting id = n.waiting id := by
  rcases h.accept_failed ha with rfl | ⟨l, rest, hl, hq, rfl⟩
  · rfl
  · have := sum_map_set (f := Listener.holds id) { l with queue := rest } hl
    simp only [waiting]
    simp only [Listener.holds, hq, List.countP_cons, Incoming.isOn] at this ⊢
    simp at this ⊢
    omega

theorem Sound.lives_accept_failed {n n' : Network} (h : n.Sound) {e : ListenerId}
    {error : NetworkError} (ha : n.accept e = (.failed error, n')) (e' : ListenerId) :
    n'.lives e' = n.lives e' := by
  rcases h.accept_failed ha with rfl | ⟨l, rest, hl, -, rfl⟩
  · rfl
  · exact lives_set hl (by rfl) e'

/-! ## Dropping listeners -/

theorem Sound.dropListener {n : Network} (h : n.Sound) (e : ListenerId) :
    (n.dropListener e).Sound := by
  rcases hl : n.listeners[e.index]? with _ | l
  · rwa [dropListener_of_none hl]
  · have hset : Sound ⟨n.listeners.set e.index { l with queue := [], live := false }, n.links⟩ :=
      h.set _ (h.attached l (List.mem_of_getElem? hl)) fun _ => rfl
    exact hset.of_listeners (listeners_dropListener hl)

theorem waiting_dropListener_le (n : Network) (e : ListenerId) (id : LinkId) :
    (n.dropListener e).waiting id ≤ n.waiting id := by
  rcases hl : n.listeners[e.index]? with _ | l
  · exact Nat.le_of_eq (by rw [dropListener_of_none hl])
  · have := sum_map_set (f := Listener.holds id) { l with queue := [], live := false } hl
    simp only [waiting, listeners_dropListener hl]
    simp only [Listener.holds, List.countP_nil] at this ⊢
    omega

theorem lives_dropListener (n : Network) (e e' : ListenerId) :
    (n.dropListener e).lives e' = if e = e' then 0 else n.lives e' := by
  rcases hl : n.listeners[e.index]? with _ | l
  · rw [dropListener_of_none hl]
    split
    · rename_i he
      subst he
      simp [lives, isLive, hl]
    · rfl
  · simp only [lives, isLive, listeners_dropListener hl]
    by_cases he : e = e'
    · subst he
      simp [List.getElem?_set_self (List.getElem?_eq_some_iff.1 hl).1]
    · have hne : e.index ≠ e'.index := by
        intro hi
        cases e; cases e'
        exact he (congrArg _ hi)
      rw [List.getElem?_set_ne hne]
      simp [he]

theorem waiting_of_listeners {n n' : Network} (h : n'.listeners = n.listeners) (id : LinkId) :
    n'.waiting id = n.waiting id := by
  simp [waiting, h]

theorem lives_of_listeners {n n' : Network} (h : n'.listeners = n.listeners) (e : ListenerId) :
    n'.lives e = n.lives e := by
  simp [lives, isLive, h]

/-- A connection waits at a listener only if it waits somewhere. -/
theorem any_queueOf {n : Network} {e : ListenerId} {id : LinkId}
    (h : (n.queueOf e).any (Incoming.isOn id)) : 0 < n.waiting id := by
  unfold queueOf at h
  rcases hl : n.listeners[e.index]? with _ | l
  · simp [hl] at h
  · have hle := le_sum_map (f := Listener.holds id) hl
    have hpos : 0 < Listener.holds id l := by
      rw [Listener.holds, List.countP_pos_iff]
      simpa [hl] using h
    exact Nat.lt_of_lt_of_le hpos hle

end Network

/-! ## What one step of a server keeps -/

namespace Server

theorem holds_of_task {s : Server} {t : Task} (h : s.task = some t) (id : LinkId) :
    s.holds id = t.holds id := by
  simp [holds, h]

theorem owns_of_task {s : Server} {t : Task} (h : s.task = some t) (e : ListenerId) :
    s.owns e = t.owns e := by
  simp [owns, h]

theorem holds_of_isBinding {s : Server} (h : s.isBinding) (id : LinkId) : s.holds id = 0 := by
  rcases h with h | h <;> rw [holds_of_task h] <;> rfl

/-- A call is on a connection of its server. -/
theorem holds_of_call? {s : Server} {c : Call} (h : s.call? = some c) :
    s.holds c.conn.link = 1 := by
  obtain ⟨-, ht⟩ := call?_eq_some h
  rw [holds_of_task ht]
  simp [Task.holds]

theorem countP_call?_le (s : Server) (l : LinkId) :
    s.call?.toList.countP (fun c => c.conn.link = l) ≤ s.holds l := by
  rcases hc : s.call? with _ | c
  · simp
  · simp only [Option.toList_some, List.countP_singleton, decide_eq_true_eq]
    split
    · rename_i hl
      exact Nat.le_of_eq (hl ▸ (holds_of_call? hc).symm)
    · exact Nat.zero_le _

/-- A task was stopped if its number is less than this. -/
def current (s : Server) : Nat := if s.isRunning then s.started else s.started + 1

theorem current_of_task {s : Server} {t : Task} (h : s.task = some t) : s.current = s.started := by
  simp [current, isRunning, h]

theorem current_of_none {s : Server} (h : s.task = none) : s.current = s.started + 1 := by
  simp [current, isRunning, h]

theorem isCancelled_of_lt {s : Server} {number : Nat} (h : number < s.current) :
    s.isCancelled number = true := by
  rcases ht : s.task with _ | t
  · simp [isCancelled, isRunning, ht]
  · rw [current_of_task ht] at h
    simpa [isCancelled, isRunning, ht] using Nat.ne_of_gt h

theorem owns_of_isBinding {s : Server} (h : s.isBinding) (e : ListenerId) : s.owns e = 0 := by
  rcases h with h | h <;> rw [owns_of_task h] <;> rfl

namespace Step

variable {s s' : Server} {site site' : Site}

theorem directory_eq (h : Step s site s' site') : site'.directory = site.directory := by
  cases h <;> rfl

theorem profile_eq (h : Step s site s' site') : s'.profile = s.profile := by
  cases h <;> rfl

/-- The task that moves goes on under its number. -/
theorem current_eq (h : Step s site s' site') : s'.current = s.current := by
  obtain ⟨t, ht⟩ : ∃ t, s.task = some t := by
    cases h with
    | bound hb => exact hb.elim (fun ht => ⟨_, ht⟩) fun ht => ⟨_, ht⟩
    | refused hb => exact hb.elim (fun ht => ⟨_, ht⟩) fun ht => ⟨_, ht⟩
    | _ => exact ⟨_, ‹s.task = some _›⟩
  rw [current_of_task ht]
  cases h <;> exact current_of_task (task_turnTo ..)

theorem socketless (h : Step s site s' site') (hs : s.Socketless) : s'.Socketless := by
  intro t x ht hx
  cases h with
  | bound => cases ht; cases hx; rfl
  | refused => cases ht; cases hx
  | accepted e conn n htask => cases ht; cases hx; exact hs _ _ htask rfl
  | notAccepted => cases ht; cases hx
  | heard e conn after bytes n htask => cases ht; cases hx; exact hs _ _ htask rfl
  | answered e conn bytes htask => cases ht; cases hx; exact hs _ _ htask rfl
  | parted e conn after n htask => cases ht; cases hx; exact hs _ _ htask rfl
  | unheard => cases ht; cases hx
  | told e conn unsent count n htask => cases ht; cases hx; exact hs _ _ htask rfl
  | cutOff => cases ht; cases hx

theorem sound (h : Step s site s' site') (hn : site.network.Sound) : site'.network.Sound := by
  cases h with
  | bound => exact hn.openListener _
  | refused => exact hn
  | accepted e conn n _ ha => exact hn.accept_done ha
  | notAccepted e error n _ ha => exact (hn.sound_accept_failed ha).dropListener _
  | heard e conn after bytes n _ _ hr => exact hn.of_listeners (Conn.read_frame hr).2.1
  | answered => exact hn
  | parted e conn after n _ hr => exact hn.of_listeners (Conn.read_frame hr).2.1
  | unheard e conn after error n _ hr =>
    have hd : (after.drop n).Sound := hn.of_listeners (Conn.read_frame hr).2.1
    exact hd.dropListener _
  | told e conn unsent count n _ _ hw => exact hn.of_listeners (Conn.write_frame hw).1
  | cutOff e conn unsent error n _ _ hw =>
    have hd : (conn.drop n).Sound := hn.of_listeners (Conn.write_frame hw).1
    exact hd.dropListener _

/-- A step opens and closes no connection for good: their number stays. -/
theorem length_links (h : Step s site s' site') (hn : site.network.Sound) :
    site'.network.links.length = site.network.links.length := by
  cases h with
  | bound => rfl
  | refused => rfl
  | accepted e conn n _ ha =>
    obtain ⟨l, rest, -, -, rfl⟩ := Network.accept_done ha
    rfl
  | notAccepted e error n _ ha =>
    simp only [Site.network_log, Site.network_withNetwork, Network.length_links_dropListener]
    rcases hn.accept_failed ha with rfl | ⟨l, rest, -, -, rfl⟩ <;> rfl
  | heard e conn after bytes n _ _ hr => exact (Conn.read_frame hr).2.2.1
  | answered => rfl
  | parted e conn after n _ hr =>
    simpa [Conn.drop] using (Conn.read_frame hr).2.2.1
  | unheard e conn after error n _ hr =>
    simpa [Conn.drop] using (Conn.read_frame hr).2.2.1
  | told e conn unsent count n _ _ hw => exact (Conn.write_frame hw).2.1
  | cutOff e conn unsent error n _ _ hw =>
    simpa [Conn.drop] using (Conn.write_frame hw).2.1

/-- A step takes connections from the queue to the server, or gives them up. -/
theorem holds_le (h : Step s site s' site') (hn : site.network.Sound) (id : LinkId) :
    site'.network.waiting id + s'.holds id ≤ site.network.waiting id + s.holds id := by
  cases h with
  | bound hb => simp [holds, Task.holds]
  | refused hb => simp [holds, Task.holds]
  | accepted e conn n ht ha =>
    have := Network.waiting_accept_done ha id
    simp only [Site.network_log, Site.network_withNetwork, holds_of_task ht,
      holds_of_task (task_turnTo ..), Task.holds]
    omega
  | notAccepted e error n ht ha =>
    have hsame := hn.waiting_accept_failed ha id
    exact Nat.le_add_right_of_le (hsame ▸ Network.waiting_dropListener_le n e.listener id)
  | heard e conn after bytes n ht _ hr =>
    have hframe := Conn.read_frame hr
    have := Network.waiting_of_listeners hframe.2.1 id
    simp only [Site.network_withNetwork, holds_of_task ht, holds_of_task (task_turnTo ..),
      Task.holds, hframe.1]
    omega
  | answered e conn bytes ht =>
    simp [holds_of_task ht, holds_of_task (task_turnTo ..), Task.holds]
  | parted e conn after n ht hr =>
    have hd : (after.drop n).listeners = site.network.listeners := (Conn.read_frame hr).2.1
    exact Nat.le_add_right_of_le (Nat.le_of_eq (Network.waiting_of_listeners hd id))
  | unheard e conn after error n ht hr =>
    have hd : (after.drop n).listeners = site.network.listeners := (Conn.read_frame hr).2.1
    have hsame := Network.waiting_of_listeners hd id
    exact Nat.le_add_right_of_le (hsame ▸ Network.waiting_dropListener_le _ e.listener id)
  | told e conn unsent count n ht _ hw =>
    have := Network.waiting_of_listeners (Conn.write_frame hw).1 id
    simp only [Site.network_withNetwork, holds_of_task ht, holds_of_task (task_turnTo ..),
      Task.holds]
    omega
  | cutOff e conn unsent error n ht _ hw =>
    have hd : (conn.drop n).listeners = site.network.listeners := (Conn.write_frame hw).1
    have hsame := Network.waiting_of_listeners hd id
    exact Nat.le_add_right_of_le (hsame ▸ Network.waiting_dropListener_le _ e.listener id)

end Step

/-- Dropping the listener of a task takes it from the live ones. -/
theorem lives_drop {n n' : Network} {t : Task} {e : Endpoint} (ht : t.endpoint? = some e)
    (hsame : ∀ x, n'.lives x = n.lives x) (hlive : t.owns e.listener ≤ n.lives e.listener)
    (x : ListenerId) : (n'.dropListener e.listener).lives x + t.owns x = n.lives x := by
  have hx := hsame x
  have hle : n.lives x ≤ 1 := by
    unfold Network.lives
    exact Bool.toNat_le _
  simp only [Network.lives_dropListener, Task.owns, ht] at hlive ⊢
  by_cases heq : e.listener = x
  · subst heq
    simp only [if_true] at hlive ⊢
    omega
  · simp only [heq, if_false]
    omega

section

variable {s : Server} {t t' : Task} {x : Endpoint} {n n' : Network}

/-- A server that keeps its endpoint has the listener that it had. -/
theorem owns_kept (ht : s.task = some t) (hkept : t'.endpoint? = t.endpoint?) (st : ServerState)
    (hsame : ∀ e, n'.lives e = n.lives e) (e : ListenerId) :
    (s.turnTo st t').owns e + n.lives e = s.owns e + n'.lives e := by
  rw [owns_of_task ht, owns_of_task (task_turnTo ..), Task.owns, Task.owns, hkept, hsame e]

/-- A server that gives its endpoint up drops the listener. -/
theorem owns_dropped (ht : s.task = some t) (hx : t.endpoint? = some x)
    (hsame : ∀ e, n'.lives e = n.lives e) (hlive : s.owns x.listener ≤ n.lives x.listener)
    (e : ListenerId) :
    (s.turnTo .idle (.waiting s.backoff)).owns e + n.lives e
      = s.owns e + (n'.dropListener x.listener).lives e := by
  rw [owns_of_task ht] at hlive ⊢
  have hdropped := lives_drop hx hsame hlive e
  have hzero : (s.turnTo .idle (.waiting s.backoff)).owns e = 0 := owns_of_task (task_turnTo ..) e
  omega

end

/-- What a server gains in listeners becomes live, and what it loses dies. -/
theorem Step.owns_eq {s s' : Server} {site site' : Site} (h : Step s site s' site')
    (hn : site.network.Sound) (hlive : ∀ e, s.owns e ≤ site.network.lives e) (e : ListenerId) :
    s'.owns e + site.network.lives e = s.owns e + site'.network.lives e := by
  cases h with
  | bound hb =>
    have hnew := Network.lives_openListener site.network s.name e
    simp only [owns_of_isBinding hb, owns_of_task (task_turnTo ..), Task.owns, Task.endpoint?,
      Site.network_log, Site.network_withNetwork]
    omega
  | refused hb =>
    simp [owns_of_isBinding hb, owns_of_task (task_turnTo ..), Task.owns, Task.endpoint?]
  | accepted x conn n ht ha => exact owns_kept ht rfl .connected (Network.lives_accept_done ha) e
  | notAccepted x error n ht ha =>
    exact owns_dropped ht rfl (hn.lives_accept_failed ha) (hlive x.listener) e
  | heard x conn after bytes n ht _ hr =>
    exact owns_kept ht rfl s.state (Network.lives_of_listeners (Conn.read_frame hr).2.1) e
  | answered x conn bytes ht => exact owns_kept ht rfl s.state (fun _ => rfl) e
  | parted x conn after n ht hr =>
    have hd : (after.drop n).listeners = site.network.listeners := (Conn.read_frame hr).2.1
    exact owns_kept ht rfl .listening (Network.lives_of_listeners hd) e
  | unheard x conn after error n ht hr =>
    have hd : (after.drop n).listeners = site.network.listeners := (Conn.read_frame hr).2.1
    exact owns_dropped ht rfl (Network.lives_of_listeners hd) (hlive x.listener) e
  | told x conn unsent count n ht _ hw =>
    exact owns_kept ht rfl s.state (Network.lives_of_listeners (Conn.write_frame hw).1) e
  | cutOff x conn unsent error n ht _ hw =>
    have hd : (conn.drop n).listeners = site.network.listeners := (Conn.write_frame hw).1
    exact owns_dropped ht rfl (Network.lives_of_listeners hd) (hlive x.listener) e

end Server

/-! ## Tidy switchboards -/

namespace Switchboard

/-- How many holders a connection has. -/
def holders (b : Switchboard) (id : LinkId) : Nat :=
  b.site.network.waiting id + (b.servers.map (Server.holds id)).sum
    + (b.abandoned.map fun t => t.task.holds id).sum

/-- How often a call can still be begun on a connection, or is on its way for nobody. -/
def callers (b : Switchboard) (id : LinkId) : Nat :=
  b.site.network.waiting id + (b.servers.map (Server.holds id)).sum
    + b.unawaited.countP fun c => c.conn.link = id

/-- How many tasks have a listener. -/
def owners (b : Switchboard) (e : ListenerId) : Nat :=
  (b.servers.map (Server.owns e)).sum + (b.abandoned.map fun t => t.task.owns e).sum

/-- The switchboard with another network. -/
def withNetwork (b : Switchboard) (n : Network) : Switchboard :=
  { b with site := b.site.withNetwork n }

/-- At a site in memory every live listener belongs to one task, and every connection to at most
one holder. On a connection of a server that was shut down at most one call is on its way, and no
other can be begun. The tasks that were stopped are behind their servers. -/
structure Tidy (b : Switchboard) : Prop where
  directory : b.site.directory = none
  sound : b.site.network.Sound
  socketless : ∀ s ∈ b.servers, s.Socketless
  abandoned : ∀ t ∈ b.abandoned, ∀ e, t.task.endpoint? = some e → e.path = none
  owned : ∀ e, b.owners e = b.site.network.lives e
  held : ∀ id, b.holders id ≤ 1
  known : ∀ id, 0 < b.holders id → id.index < b.site.network.links.length
  claimed : ∀ id, b.callers id ≤ 1
  called : ∀ c ∈ b.unawaited, c.conn.link.index < b.site.network.links.length
  outdated : ∀ t ∈ b.abandoned, ∃ s, b.server? t.server = some s ∧ t.number < s.current

theorem tidy_create (host : Host) : (create (.inMemory host)).Tidy where
  directory := rfl
  sound := Network.sound_fresh
  socketless := by simp [create]
  abandoned := by simp [create]
  owned := by simp [create, owners, Site.inMemory, Network.lives, Network.isLive, Network.fresh]
  held := by simp [create, holders, Site.inMemory, Network.waiting, Network.fresh]
  known := by simp [create, holders, Site.inMemory, Network.waiting, Network.fresh]
  claimed := by simp [create, callers, Site.inMemory, Network.waiting, Network.fresh]
  called := by simp [create]
  outdated := by simp [create]

variable {b : Switchboard} {id : ServerId} {s s' : Server} {site' : Site}

theorem mem_servers_of_server? (hs : b.server? id = some s) : s ∈ b.servers :=
  List.mem_of_getElem? hs

/-- What is left to show where nobody gains a connection and none is forgotten. -/
theorem Tidy.of_fewer {b' : Switchboard} (h : b.Tidy) (hdirectory : b'.site.directory = none)
    (hsound : b'.site.network.Sound) (hsocketless : ∀ s ∈ b'.servers, s.Socketless)
    (habandoned : ∀ t ∈ b'.abandoned, ∀ e, t.task.endpoint? = some e → e.path = none)
    (howned : ∀ e, b'.owners e = b'.site.network.lives e)
    (hholders : ∀ l, b'.holders l ≤ b.holders l) (hcallers : ∀ l, b'.callers l ≤ b.callers l)
    (hcalled : ∀ c ∈ b'.unawaited, c.conn.link.index < b'.site.network.links.length)
    (houtdated : ∀ t ∈ b'.abandoned, ∃ s, b'.server? t.server = some s ∧ t.number < s.current)
    (hlinks : b.site.network.links.length ≤ b'.site.network.links.length) : b'.Tidy where
  directory := hdirectory
  sound := hsound
  socketless := hsocketless
  abandoned := habandoned
  owned := howned
  held l := Nat.le_trans (hholders l) (h.held l)
  known l hl := Nat.lt_of_lt_of_le (h.known l (Nat.lt_of_lt_of_le hl (hholders l))) hlinks
  claimed l := Nat.le_trans (hcallers l) (h.claimed l)
  called := hcalled
  outdated := houtdated

theorem server?_put (hs : b.server? id = some s) (site' : Site) (id' : ServerId) :
    (b.put id s' site').server? id' = if id' = id then some s' else b.server? id' := by
  obtain ⟨hlt, -⟩ := List.getElem?_eq_some_iff.1 hs
  simp only [server?, Switchboard.put]
  split
  · rename_i heq
    rw [heq, List.getElem?_set_self hlt]
  · rename_i hne
    have hindex : id.index ≠ id'.index := by
      intro hi
      cases id; cases id'
      exact hne (congrArg _ hi.symm)
    rw [List.getElem?_set_ne hindex]

/-- A server that goes on, or is stopped, leaves the tasks behind that were stopped before. -/
theorem outdated_put (hs : b.server? id = some s) (site' : Site)
    (hcurrent : s.current ≤ s'.current) {t : Stray}
    (h : ∃ x, b.server? t.server = some x ∧ t.number < x.current) :
    ∃ x, (b.put id s' site').server? t.server = some x ∧ t.number < x.current := by
  obtain ⟨x, hx, hlt⟩ := h
  rw [server?_put hs]
  split
  · rename_i heq
    rw [heq, hs] at hx
    cases hx
    exact ⟨s', rfl, Nat.lt_of_lt_of_le hlt hcurrent⟩
  · exact ⟨x, hx, hlt⟩

/-- Another server in the place of one, and another site: the board is as tidy as it was if the two
hold no more than before and the live listeners still have their owners. -/
theorem Tidy.put (h : b.Tidy) (hs : b.server? id = some s) (hdir : site'.directory = none)
    (hsound : site'.network.Sound) (hsock : s'.Socketless)
    (hlinks : b.site.network.links.length ≤ site'.network.links.length)
    (hholds : ∀ l, site'.network.waiting l + s'.holds l ≤ b.site.network.waiting l + s.holds l)
    (howns : ∀ e, s'.owns e + b.site.network.lives e = s.owns e + site'.network.lives e)
    (hcurrent : s.current ≤ s'.current) : (b.put id s' site').Tidy := by
  have hheld (l : LinkId) : (b.put id s' site').holders l ≤ b.holders l := by
    have := sum_map_set (f := Server.holds l) s' hs
    have := hholds l
    simp only [holders, Switchboard.put]
    omega
  have hclaimed (l : LinkId) : (b.put id s' site').callers l ≤ b.callers l := by
    have := sum_map_set (f := Server.holds l) s' hs
    have := hholds l
    simp only [callers, Switchboard.put]
    omega
  refine h.of_fewer hdir hsound ?_ h.abandoned ?_ hheld hclaimed ?_ ?_ hlinks
  · intro x hx
    rcases List.mem_or_eq_of_mem_set hx with hx | rfl
    · exact h.socketless x hx
    · exact hsock
  · intro e
    have := sum_map_set (f := Server.owns e) s' hs
    have := howns e
    have := h.owned e
    simp only [owners, Switchboard.put] at this ⊢
    omega
  · exact fun c hc => Nat.lt_of_lt_of_le (h.called c hc) hlinks
  · exact fun t ht => outdated_put hs site' hcurrent (h.outdated t ht)

/-- The order of turns and what clients put off do not matter. -/
theorem Tidy.congr {b' : Switchboard} (h : b.Tidy) (hsite : b'.site = b.site)
    (hservers : b'.servers = b.servers) (habandoned : b'.abandoned = b.abandoned)
    (hunawaited : b'.unawaited = b.unawaited) : b'.Tidy := by
  obtain ⟨site, servers, turns, abandoned, unawaited, unsent⟩ := b
  obtain ⟨site', servers', turns', abandoned', unawaited', unsent'⟩ := b'
  cases hsite
  cases hservers
  cases habandoned
  cases hunawaited
  exact ⟨h.directory, h.sound, h.socketless, h.abandoned, h.owned, h.held, h.known, h.claimed,
    h.called, h.outdated⟩

/-- A change of the network that leaves the queues alone keeps a board tidy. -/
theorem Tidy.withNetwork {n : Network} (h : b.Tidy)
    (hlisteners : n.listeners = b.site.network.listeners)
    (hlinks : b.site.network.links.length ≤ n.links.length) : (b.withNetwork n).Tidy := by
  have hwaiting (l : LinkId) := Network.waiting_of_listeners hlisteners l
  refine h.of_fewer h.directory (h.sound.of_listeners hlisteners) h.socketless h.abandoned ?_ ?_ ?_
    ?_ h.outdated hlinks
  · exact fun e => (h.owned e).trans (Network.lives_of_listeners hlisteners e).symm
  · intro l
    have := hwaiting l
    simp only [holders, Switchboard.withNetwork, Site.network_withNetwork]
    omega
  · intro l
    have := hwaiting l
    simp only [callers, Switchboard.withNetwork, Site.network_withNetwork]
    omega
  · exact fun c hc => Nat.lt_of_lt_of_le (h.called c hc) hlinks

theorem Tidy.owns_le (h : b.Tidy) (hs : b.server? id = some s) (e : ListenerId) :
    s.owns e ≤ b.site.network.lives e := by
  have hle := le_sum_map (f := Server.owns e) hs
  have := h.owned e
  simp only [owners] at this
  omega

theorem Tidy.step_of_moveServer (h : b.Tidy) {b' : Switchboard}
    (hm : b.moveServer id = some b') :
    ∃ s s' site', b.server? id = some s ∧ s.Step b.site s' site' ∧
      b'.site = site' ∧ b'.servers = b.servers.set id.index s' ∧ b'.abandoned = b.abandoned
        ∧ b'.unawaited = b.unawaited ∧ b'.unsent = b.unsent := by
  unfold moveServer at hm
  split at hm
  · cases hm
  · rename_i s hs
    obtain ⟨⟨s', site'⟩, hmove, hb⟩ := Option.map_eq_some_iff.1 hm
    have hstep := Server.step_of_move h.directory (h.socketless s (mem_servers_of_server? hs)) hmove
    refine ⟨s, s', site', hs, hstep, ?_⟩
    subst hb
    dsimp only
    split <;> exact ⟨rfl, rfl, rfl, rfl, rfl⟩

theorem Tidy.move (h : b.Tidy) (id : ServerId) : ((b.moveServer id).getD b).Tidy := by
  rcases hm : b.moveServer id with _ | b'
  · exact h
  · obtain ⟨s, s', site', hs, hstep, hsite, hservers, habandoned, hunawaited, -⟩ :=
      h.step_of_moveServer hm
    have hput : (b.put id s' site').Tidy :=
      h.put hs (hstep.directory_eq.trans h.directory) (hstep.sound h.sound)
        (hstep.socketless (h.socketless s (mem_servers_of_server? hs)))
        (Nat.le_of_eq (hstep.length_links h.sound).symm)
        (hstep.holds_le h.sound) (hstep.owns_eq h.sound (h.owns_le hs))
        (Nat.le_of_eq hstep.current_eq.symm)
    exact hput.congr hsite hservers habandoned hunawaited

/-! ## What every act keeps -/

theorem server?_add {new : Server} (hs : b.server? id = some s) :
    (b.add new).2.server? id = some s :=
  (List.getElem?_append_left (List.getElem?_eq_some_iff.1 hs).1).trans hs

theorem Tidy.add (h : b.Tidy) (name : String) (handler : Handler) (buffer backoff : Nat) :
    (b.add (Server.create name handler buffer backoff)).2.Tidy := by
  refine h.of_fewer h.directory h.sound ?_ h.abandoned ?_ ?_ ?_ h.called ?_ (Nat.le_refl _)
  · intro s hs
    rcases List.mem_append.1 hs with hs | hs
    · exact h.socketless s hs
    · rw [List.mem_singleton.1 hs]
      intro t e ht
      cases ht
  · intro e
    have := h.owned e
    simpa [Switchboard.add, owners, Server.create, Server.owns] using this
  · intro l
    simp [Switchboard.add, holders, Server.create, Server.holds]
  · intro l
    simp [Switchboard.add, callers, Server.create, Server.holds]
  · intro t ht
    obtain ⟨s, hs, hlt⟩ := h.outdated t ht
    exact ⟨s, server?_add hs, hlt⟩

theorem Tidy.start (h : b.Tidy) (id : ServerId) : (b.start id).Tidy := by
  unfold Switchboard.start
  split
  · exact h
  · rename_i s hs
    by_cases hrun : s.isRunning = true
    · have hput : (b.put id s b.site).Tidy :=
        h.put hs h.directory h.sound (h.socketless s (mem_servers_of_server? hs)) (Nat.le_refl _)
          (fun _ => Nat.le_refl _) (fun _ => rfl) (Nat.le_refl _)
      simpa [Server.start, hrun] using hput
    · have hnone : s.task = none := by simpa [Server.isRunning] using hrun
      have hput : (b.put id s.launched (b.site.log [.pipeStarted s.name])).Tidy := by
        refine h.put hs h.directory h.sound ?_ (Nat.le_refl _) ?_ ?_ ?_
        · intro t e ht he
          cases ht
          cases he
        · intro l
          exact by simp [Server.launched, Server.holds, hnone, Task.holds]
        · intro e
          exact by simp [Server.launched, Server.owns, hnone, Task.owns, Task.endpoint?]
        · rw [Server.current_of_none hnone]
          exact Nat.le_refl (s.started + 1)
      simp only [Server.start_of_task_none hnone, hrun]
      exact hput.congr rfl rfl rfl rfl

theorem shutdown_eq (hs : b.server? id = some s) :
    b.shutdown id = { b.put id s.stopped (b.site.log s.farewell) with
      abandoned := b.abandoned ++ s.task.toList.map fun t => ⟨id, s.started, t⟩
      unawaited := b.unawaited ++ s.call?.toList } := by
  simp only [Switchboard.shutdown, hs, Server.shutdown_eq]

theorem sum_map_stray (f : Task → Nat) (id : ServerId) (number : Nat) (task : Option Task) :
    ((task.toList.map fun t => (⟨id, number, t⟩ : Stray)).map fun t => f t.task).sum
      = (task.map f).getD 0 := by
  rcases task with _ | t
  · rfl
  · exact Nat.add_zero (f t)

/-- A task that is stopped keeps its listener. -/
theorem owners_shutdown (hs : b.server? id = some s) (e : ListenerId) :
    (b.shutdown id).owners e = b.owners e := by
  have hset := sum_map_set (f := Server.owns e) s.stopped hs
  have howns : s.stopped.owns e = 0 := rfl
  rw [howns] at hset
  simp only [shutdown_eq hs, owners, Switchboard.put, List.map_append, List.sum_append,
    sum_map_stray]
  simp only [Server.owns] at hset ⊢
  omega

/-- A task that is stopped keeps its client. -/
theorem holders_shutdown (hs : b.server? id = some s) (l : LinkId) :
    (b.shutdown id).holders l = b.holders l := by
  have hset := sum_map_set (f := Server.holds l) s.stopped hs
  have hholds : s.stopped.holds l = 0 := rfl
  rw [hholds] at hset
  simp only [shutdown_eq hs, holders, Switchboard.put, List.map_append, List.sum_append,
    sum_map_stray, Site.network_log]
  simp only [Server.holds] at hset ⊢
  omega

/-- The call of a server that is shut down takes the place of the server. -/
theorem callers_shutdown_le (hs : b.server? id = some s) (l : LinkId) :
    (b.shutdown id).callers l ≤ b.callers l := by
  have hset := sum_map_set (f := Server.holds l) s.stopped hs
  have hholds : s.stopped.holds l = 0 := rfl
  have hcall := s.countP_call?_le l
  rw [hholds] at hset
  simp only [shutdown_eq hs, callers, Switchboard.put, List.countP_append, Site.network_log]
  omega

/-- A shutdown hands what the server holds to its abandoned task, and its call to nobody. -/
theorem Tidy.shutdown (h : b.Tidy) (id : ServerId) : (b.shutdown id).Tidy := by
  rcases hs : b.server? id with _ | s
  · rw [Switchboard.shutdown, hs]
    exact h
  have howners := owners_shutdown hs
  have hholders := holders_shutdown hs
  have hcallers := callers_shutdown_le hs
  rw [shutdown_eq hs] at howners hholders hcallers ⊢
  have hcurrent : s.stopped.current = s.started + 1 := Server.current_of_none rfl
  refine h.of_fewer h.directory h.sound ?_ ?_ (fun e => (howners e).trans (h.owned e))
    (fun l => Nat.le_of_eq (hholders l)) hcallers ?_ ?_ (Nat.le_refl _)
  · intro x hx
    rcases List.mem_or_eq_of_mem_set hx with hx | rfl
    · exact h.socketless x hx
    · intro t e ht
      cases ht
  · intro t ht e he
    rcases List.mem_append.1 ht with ht | ht
    · exact h.abandoned t ht e he
    · obtain ⟨x, hx, rfl⟩ := List.mem_map.1 ht
      exact h.socketless s (mem_servers_of_server? hs) x e (Option.mem_toList.1 hx) he
  · intro c hc
    rcases List.mem_append.1 hc with hc | hc
    · exact h.called c hc
    · have hone := Server.holds_of_call? (Option.mem_toList.1 hc)
      have hle := le_sum_map (f := Server.holds c.conn.link) hs
      refine h.known _ ?_
      simp only [holders]
      omega
  · intro t ht
    rcases List.mem_append.1 ht with ht | ht
    · have hle : s.current ≤ s.stopped.current := by
        rw [hcurrent, Server.current]
        split <;> omega
      exact outdated_put hs (b.site.log s.farewell) hle (h.outdated t ht)
    · obtain ⟨x, hx, rfl⟩ := List.mem_map.1 ht
      refine ⟨s.stopped, ?_, ?_⟩
      · exact (server?_put hs (b.site.log s.farewell) id).trans (if_pos rfl)
      · rw [hcurrent]
        exact Nat.lt_succ_self _

/-- A listener that exists takes one thing more into its queue. -/
theorem Tidy.enqueue {n : Network} (h : b.Tidy) {e : ListenerId} {l : Listener} {item : Incoming}
    (hn : n.listeners = b.site.network.listeners)
    (hl : b.site.network.listeners[e.index]? = some l) (hlive : l.live = true)
    (hlinks : b.site.network.links.length ≤ n.links.length)
    (hnew : ∀ id, item.isOn id →
      b.holders id = 0 ∧ b.callers id = 0 ∧ id.index < n.links.length) :
    (b.withNetwork (n.enqueue e item)).Tidy := by
  have hbase := h.withNetwork hn hlinks
  rw [← hn] at hl
  have hwaiting (id : LinkId) : (n.enqueue e item).waiting id
      = b.site.network.waiting id + if item.isOn id then 1 else 0 := by
    rw [Network.waiting_enqueue item hl id, Network.waiting_of_listeners hn id]
  have hholders (id : LinkId) :
      (b.withNetwork (n.enqueue e item)).holders id =
        b.holders id + if item.isOn id then 1 else 0 := by
    have := hwaiting id
    simp only [holders, Switchboard.withNetwork, Site.network_withNetwork]
    omega
  have hcallers (id : LinkId) :
      (b.withNetwork (n.enqueue e item)).callers id =
        b.callers id + if item.isOn id then 1 else 0 := by
    have := hwaiting id
    simp only [callers, Switchboard.withNetwork, Site.network_withNetwork]
    omega
  refine ⟨h.directory, hbase.sound.enqueue item hl hlive, h.socketless, h.abandoned, ?_, ?_, ?_,
    ?_, fun c hc => Nat.lt_of_lt_of_le (h.called c hc) hlinks, h.outdated⟩
  · intro x
    exact (hbase.owned x).trans (Network.lives_enqueue item hl x).symm
  · intro id
    rw [hholders id]
    split
    · rename_i hon
      have hzero := (hnew id hon).1
      omega
    · exact h.held id
  · intro id hpos
    rw [hholders id] at hpos
    split at hpos
    · rename_i hon
      exact (hnew id hon).2.2
    · exact Nat.lt_of_lt_of_le (h.known id hpos) hlinks
  · intro id
    rw [hcallers id]
    split
    · rename_i hon
      have hzero := (hnew id hon).2.1
      omega
    · exact h.claimed id

theorem Tidy.holders_of_le (h : b.Tidy) {l : LinkId} (hl : b.site.network.links.length ≤ l.index) :
    b.holders l = 0 := by
  have := h.known l
  omega

theorem Tidy.callers_of_le (h : b.Tidy) {l : LinkId} (hl : b.site.network.links.length ≤ l.index) :
    b.callers l = 0 := by
  have hholders := h.holders_of_le hl
  have hunawaited : b.unawaited.countP (fun c => c.conn.link = l) = 0 := by
    rw [List.countP_eq_zero]
    intro c hc heq
    have hlt := h.called c hc
    rw [of_decide_eq_true heq] at hlt
    omega
  simp only [holders] at hholders
  simp only [callers]
  omega

theorem Tidy.newConn (h : b.Tidy) {e : ListenerId} {l : Listener} (link : Link)
    (breakage : Option Breakage) (hl : b.site.network.listeners[e.index]? = some l)
    (hlive : l.live = true) :
    (b.withNetwork ((b.site.network.newLink link).2.enqueue e
      (.conn ⟨(b.site.network.newLink link).1, breakage⟩))).Tidy := by
  refine h.enqueue rfl hl hlive (by simp [Network.newLink]) ?_
  intro id hon
  have hid : id = ⟨b.site.network.links.length⟩ := by
    simpa [Incoming.isOn, Network.newLink, eq_comm] using hon
  subst hid
  exact ⟨h.holders_of_le (Nat.le_refl _), h.callers_of_le (Nat.le_refl _),
    by simp [Network.newLink]⟩

theorem connect_ok (hdir : b.site.directory = none) {channel : String} {link : LinkId}
    {b' : Switchboard} (hc : b.connect channel = .ok (link, b')) :
    ∃ e l, b.site.network.listeners[e.index]? = some l ∧ l.live = true ∧ l.name = channel ∧
      link = (b.site.network.newLink .fresh).1 ∧
      b' = b.withNetwork ((b.site.network.newLink .fresh).2.enqueue e (.conn ⟨link, none⟩)) := by
  rw [Switchboard.connect, Site.connect_inMemory _ _ hdir, Network.connect] at hc
  rcases hr : b.site.network.reach channel with error | e
  · simp only [hr] at hc
    cases hc
  · simp only [hr] at hc
    cases hc
    obtain ⟨l, hl, hlive, hname⟩ := Network.reach_ok hr
    exact ⟨e, l, hl, hlive, hname, rfl, rfl⟩

theorem Tidy.connect (h : b.Tidy) {channel : String} {link : LinkId} {b' : Switchboard}
    (hc : b.connect channel = .ok (link, b')) : b'.Tidy := by
  obtain ⟨e, l, hl, hlive, -, rfl, rfl⟩ := connect_ok h.directory hc
  exact h.newConn .fresh none hl hlive

theorem Tidy.failConn (h : b.Tidy) (name : String) (how : Breakage) :
    (b.failConn name how).2.Tidy := by
  rw [Switchboard.failConn, Network.failConn]
  rcases hr : b.site.network.reach name with error | e
  · exact h
  · obtain ⟨l, hl, hlive, -⟩ := Network.reach_ok hr
    exact h.newConn Link.fresh.drop (some how) hl hlive

theorem Tidy.failAccept (h : b.Tidy) (name : String) : (b.failAccept name).2.Tidy := by
  rw [Switchboard.failAccept, Network.failAccept]
  rcases hr : b.site.network.reach name with error | e
  · exact h
  · obtain ⟨l, hl, hlive, -⟩ := Network.reach_ok hr
    exact h.enqueue rfl hl hlive (Nat.le_refl _) (fun id hon => by cases hon)

/-- What a client's end does leaves the queues alone. -/
theorem write_client_frame {n n' : Network} {link : LinkId} {bytes : List UInt8}
    {r : Progress Nat} (h : n.write link .client bytes = (r, n')) :
    n'.listeners = n.listeners ∧ n'.links.length = n.links.length
      ∧ ∀ id, id ≠ link → n'.link id = n.link id := by
  rw [Network.write_client] at h
  split at h
  · cases h
    exact ⟨rfl, rfl, fun _ _ => rfl⟩
  · split at h
    · cases h
      exact ⟨rfl, rfl, fun _ _ => rfl⟩
    · cases h
      exact ⟨rfl, by simp, fun _ hne => Network.link_setLink_ne n _ hne⟩

theorem Tidy.send (h : b.Tidy) (link : LinkId) (bytes : List UInt8) :
    (b.send link bytes).2.Tidy := by
  have hput (b : Switchboard) (h : b.Tidy) (more : List UInt8) : (b.putOff link more).Tidy := by
    unfold putOff
    split
    · exact h
    · exact h.congr rfl rfl rfl rfl
  unfold Switchboard.send
  split
  · exact h
  · split
    · exact h
    · exact hput b h bytes
    · rename_i count n hw
      have hframe := write_client_frame hw
      exact hput _ (h.withNetwork hframe.1 (Nat.le_of_eq hframe.2.1.symm)) _

theorem Tidy.writeAt (h : b.Tidy) (index : Nat) : (b.writeAt index).Tidy := by
  unfold Switchboard.writeAt
  split
  · exact h
  · split
    · exact h.congr rfl rfl rfl rfl
    · exact h
    · rename_i count n hw
      have hframe := write_client_frame hw
      exact (h.withNetwork hframe.1 (Nat.le_of_eq hframe.2.1.symm)).congr rfl rfl rfl rfl

/-- A task that is released drops its listener, if it has one. -/
theorem release_eq (site : Site) {t : Task} (h : ∀ e, t.endpoint? = some e → e.path = none) :
    ∃ n : Network, t.release site = site.withNetwork n
      ∧ n.links.length = site.network.links.length
      ∧ ((t.endpoint? = none ∧ n = site.network)
        ∨ ∃ (e : Endpoint) (n' : Network), t.endpoint? = some e
            ∧ n'.listeners = site.network.listeners ∧ n = n'.dropListener e.listener
            ∧ (n' = site.network ∨ ∃ c : Conn, 0 < t.holds c.link ∧ n' = c.drop site.network)) := by
  cases t with
  | starting => exact ⟨site.network, rfl, rfl, .inl ⟨rfl, rfl⟩⟩
  | waiting => exact ⟨site.network, rfl, rfl, .inl ⟨rfl, rfl⟩⟩
  | listening e =>
    exact ⟨_, Site.release_inMemory site e (h e rfl), by simp,
      .inr ⟨e, _, rfl, rfl, rfl, .inl rfl⟩⟩
  | serving e conn unsent =>
    have hrelease :=
      Site.release_inMemory (site.withNetwork (conn.drop site.network)) e (h e rfl)
    exact ⟨_, hrelease, by simp [Conn.drop],
      .inr ⟨e, conn.drop site.network, rfl, rfl, rfl, .inr ⟨conn, by simp [Task.holds], rfl⟩⟩⟩

/-- A task that lets go takes its listener from the live ones. -/
theorem Tidy.letGoAt (h : b.Tidy) (index : Nat) : (b.letGoAt index).Tidy := by
  unfold Switchboard.letGoAt
  split
  · exact h
  · rename_i t ht
    obtain ⟨n, hrelease, hlinks, hnet⟩ :=
      release_eq b.site (h.abandoned t (List.mem_of_getElem? ht))
    rw [hrelease]
    have hsound : n.Sound := by
      rcases hnet with ⟨-, rfl⟩ | ⟨e, n', -, hn', rfl, -⟩
      · exact h.sound
      · exact (h.sound.of_listeners hn').dropListener _
    have hwaiting (l : LinkId) : n.waiting l ≤ b.site.network.waiting l := by
      rcases hnet with ⟨-, rfl⟩ | ⟨e, n', -, hn', rfl, -⟩
      · exact Nat.le_refl _
      · rw [← Network.waiting_of_listeners hn' l]
        exact Network.waiting_dropListener_le n' e.listener l
    have hlives (x : ListenerId) : n.lives x + t.task.owns x = b.site.network.lives x := by
      rcases hnet with ⟨he, rfl⟩ | ⟨e, n', he, hn', rfl, -⟩
      · simp [Task.owns, he]
      · refine Server.lives_drop he (Network.lives_of_listeners hn') ?_ x
        have hle := le_sum_map (f := fun t : Stray => t.task.owns e.listener) ht
        have := h.owned e.listener
        simp only [owners] at this
        omega
    refine h.of_fewer h.directory hsound h.socketless ?_ ?_ ?_ ?_ ?_ ?_ (Nat.le_of_eq hlinks.symm)
    · intro x hx
      exact h.abandoned x (List.mem_of_mem_eraseIdx hx)
    · intro x
      have := sum_map_eraseIdx (f := fun t : Stray => t.task.owns x) ht
      have := hlives x
      have howned := h.owned x
      simp only [owners, Site.network_withNetwork] at howned ⊢
      omega
    · intro l
      have := sum_map_eraseIdx (f := fun t : Stray => t.task.holds l) ht
      have := hwaiting l
      simp only [holders, Site.network_withNetwork]
      omega
    · intro l
      have := hwaiting l
      simp only [callers, Site.network_withNetwork]
      omega
    · exact fun c hc => Nat.lt_of_lt_of_le (h.called c hc) (Nat.le_of_eq hlinks.symm)
    · exact fun x hx => h.outdated x (List.mem_of_mem_eraseIdx hx)

theorem Tidy.carryOutAt (h : b.Tidy) (index : Nat) : (b.carryOutAt index).Tidy := by
  unfold Switchboard.carryOutAt
  split
  · exact h
  · refine h.of_fewer h.directory h.sound h.socketless h.abandoned h.owned (fun _ => Nat.le_refl _)
      ?_ ?_ h.outdated (Nat.le_refl _)
    · intro l
      have := (List.eraseIdx_sublist b.unawaited index).countP_le (p := fun c => c.conn.link = l)
      simp only [callers, Call.carryOut]
      omega
    · exact fun c hc => h.called c (List.mem_of_mem_eraseIdx hc)

theorem put_self (hs : b.server? id = some s) : b.put id s b.site = b := by
  have hset : b.servers.set id.index s = b.servers := set_of_getElem? hs
  rw [put, hset]

/-- Whatever a stopped task would publish, nothing comes of it. -/
theorem Tidy.straggleAt_eq (h : b.Tidy) (index : Nat) (next : ServerState) :
    b.straggleAt index next = b := by
  unfold straggleAt
  split
  · rfl
  · rename_i t ht
    obtain ⟨s, hs, hlt⟩ := h.outdated t (List.mem_of_getElem? ht)
    simp only [hs, Server.publish_of_isCancelled (Server.isCancelled_of_lt hlt)]
    exact put_self hs

theorem elapse_of_not_waiting {s : Server} {t : Task} {e : Endpoint} (time : Nat)
    (h : (s.elapse time).task = some t) (he : t.endpoint? = some e) : s.task = some t := by
  unfold Server.elapse at h
  split at h
  · cases h
    cases he
  · exact h

theorem holds_elapse (s : Server) (time : Nat) (l : LinkId) :
    (s.elapse time).holds l = s.holds l := by
  unfold Server.elapse
  split
  · rename_i rest ht
    simp [Server.holds, ht, Task.holds]
  · rfl

theorem owns_elapse (s : Server) (time : Nat) (e : ListenerId) :
    (s.elapse time).owns e = s.owns e := by
  unfold Server.elapse
  split
  · rename_i rest ht
    simp [Server.owns, ht, Task.owns, Task.endpoint?]
  · rfl

theorem current_elapse (s : Server) (time : Nat) : (s.elapse time).current = s.current := by
  unfold Server.elapse
  split
  · rename_i rest ht
    simp [Server.current, Server.isRunning, ht]
  · rfl

theorem server?_elapse (time : Nat) (id : ServerId) :
    (b.elapse time).server? id = (b.server? id).map fun s => s.elapse time := by
  simp [server?, Switchboard.elapse]

theorem Tidy.elapse (h : b.Tidy) (time : Nat) : (b.elapse time).Tidy := by
  refine h.of_fewer h.directory h.sound ?_ h.abandoned ?_ ?_ ?_ h.called ?_ (Nat.le_refl _)
  · intro s hs
    obtain ⟨s₀, hs₀, rfl⟩ := List.mem_map.1 hs
    intro t e ht he
    exact h.socketless s₀ hs₀ t e (elapse_of_not_waiting time ht he) he
  · intro e
    have := h.owned e
    simpa [owners, Switchboard.elapse, Function.comp_def, owns_elapse] using this
  · intro l
    simp [holders, Switchboard.elapse, Function.comp_def, holds_elapse]
  · intro l
    simp [callers, Switchboard.elapse, Function.comp_def, holds_elapse]
  · intro t ht
    obtain ⟨s, hs, hlt⟩ := h.outdated t ht
    exact ⟨s.elapse time, by rw [server?_elapse, hs]; rfl, by rwa [current_elapse]⟩

/-- Every act keeps a board tidy. -/
theorem Tidy.act (h : b.Tidy) (a : Act) : (b.act a).Tidy := by
  cases a with
  | add name handler buffer backoff => exact h.add name handler buffer backoff
  | start id => exact h.start id
  | shutdown id => exact h.shutdown id
  | register into header callback =>
    exact ⟨h.directory, h.sound, h.socketless, h.abandoned, h.owned, h.held, h.known, h.claimed,
      h.called, h.outdated⟩
  | connect channel =>
    rcases hc : b.connect channel with error | ⟨link, b'⟩
    · simpa only [Switchboard.act, hc] using h
    · simpa only [Switchboard.act, hc] using h.connect hc
  | send link bytes => exact h.send link bytes
  | receive link => exact h.withNetwork rfl ((by simp))
  | hangUp link =>
    exact (h.withNetwork (n := b.site.network.dropLink link) rfl (by simp)).congr rfl rfl rfl rfl
  | failAccept name => exact h.failAccept name
  | failConn name how => exact h.failConn name how
  | move id => exact h.move id
  | write index => exact h.writeAt index
  | letGo index => exact h.letGoAt index
  | straggle index next => exact Eq.mpr (congrArg Tidy (h.straggleAt_eq index next)) h
  | carryOut index => exact h.carryOutAt index
  | elapse time => exact h.elapse time

/-- What holds of a run that begins with an empty switchboard. -/
theorem Tidy.run (h : b.Tidy) (acts : List Act) : (b.run acts).Tidy := by
  induction acts generalizing b with
  | nil => exact h
  | cons a acts ih => exact ih (h.act a)

end Switchboard

end KeyBridge
