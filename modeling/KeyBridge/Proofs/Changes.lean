-- SUMMARY: What every act changes, said once.
import KeyBridge.Proofs.Holdings

/-!
# Changes

`Change` lists what an act can do to a switchboard at a site in memory, with all that it changes.
Proofs about acts go by its cases; what an act leaves alone can be read off them.
-/

namespace KeyBridge

namespace Switchboard

variable {b b' : Switchboard} {a : Act} {id : ServerId} {s : Server}

/-! ## Clients -/

theorem lt_of_open {link : LinkId} (h : (b.site.network.link link).fromClient.closed = false) :
    link.index < b.site.network.links.length := by
  apply Decidable.byContradiction
  intro hge
  rw [Network.link_of_le _ _ (by omega)] at h
  cases h

theorem send_closed {link : LinkId} {bytes : List UInt8} (hne : bytes ≠ [])
    (hclosed : (b.site.network.link link).fromClient.closed = true) :
    b.send link bytes = (.error .brokenPipe, b) := by
  rw [send, if_neg (by simpa using hne), Network.write_client]
  simp only [hclosed, if_true]

/-- Bytes that a client hands over go into its pipe as far as they fit. -/
theorem send_open {link : LinkId} {bytes : List UInt8} (hne : bytes ≠ [])
    (hopen : (b.site.network.link link).fromClient.closed = false) :
    b.send link bytes =
      (.ok (),
        (b.withNetwork (b.site.network.setLink link ((b.site.network.link link).pour bytes))).putOff
          link (bytes.drop (min (b.site.network.link link).fromClient.room bytes.length))) := by
  rw [send, if_neg (by simpa using hne), Network.write_client]
  simp only [hopen]
  by_cases hroom : (b.site.network.link link).fromClient.room = 0
  · simp only [hroom, if_true, Link.pour_of_full bytes hroom, Network.setLink_link, Nat.zero_min,
      List.drop_zero]
    rfl
  · simp only [hroom]
    rfl

theorem site_putOff (b : Switchboard) (link : LinkId) (bytes : List UInt8) :
    (b.putOff link bytes).site = b.site := by
  unfold putOff
  split <;> rfl

theorem servers_putOff (b : Switchboard) (link : LinkId) (bytes : List UInt8) :
    (b.putOff link bytes).servers = b.servers := by
  unfold putOff
  split <;> rfl

theorem unawaited_putOff (b : Switchboard) (link : LinkId) (bytes : List UInt8) :
    (b.putOff link bytes).unawaited = b.unawaited := by
  unfold putOff
  split <;> rfl

theorem abandoned_putOff (b : Switchboard) (link : LinkId) (bytes : List UInt8) :
    (b.putOff link bytes).abandoned = b.abandoned := by
  unfold putOff
  split <;> rfl

/-! ## Injected failures -/

theorem failConn_error {name : String} {error : NetworkError} (how : Breakage)
    (hr : b.site.network.reach name = .error error) : b.failConn name how = (false, b) := by
  simp [failConn, Network.failConn, hr]

theorem failConn_ok {name : String} {e : ListenerId} (how : Breakage)
    (hr : b.site.network.reach name = .ok e) :
    b.failConn name how =
      (true, b.withNetwork ((b.site.network.newLink Link.fresh.drop).2.enqueue e
        (.conn ⟨(b.site.network.newLink Link.fresh.drop).1, some how⟩))) := by
  simp only [failConn, Network.failConn, hr]
  rfl

theorem failAccept_error {name : String} {error : NetworkError}
    (hr : b.site.network.reach name = .error error) : b.failAccept name = (false, b) := by
  simp [failAccept, Network.failAccept, hr]

theorem failAccept_ok {name : String} {e : ListenerId} (hr : b.site.network.reach name = .ok e) :
    b.failAccept name = (true, b.withNetwork (b.site.network.enqueue e .failure)) := by
  simp only [failAccept, Network.failAccept, hr]
  rfl

/-! ## Servers -/

theorem start_running (hs : b.server? id = some s) (hrun : s.isRunning = true) :
    b.start id = b := by
  simp only [start, hs, Server.start, hrun, if_true, put_self hs]

theorem start_idle (hs : b.server? id = some s) (hidle : s.task = none) :
    b.start id = (b.put id s.launched (b.site.log [.pipeStarted s.name])).yield id := by
  simp [start, hs, Server.start_of_task_none hidle, Server.isRunning, hidle]

/-! ## Acts -/

/-- What an act can do. -/
inductive Change (b : Switchboard) : Act → Switchboard → Prop where
  /-- The act is not possible, or changes nothing. -/
  | none (a : Act) : Change b a b
  | add (name : String) (handler : Handler) (buffer backoff : Nat) :
      Change b (.add name handler buffer backoff)
        (b.add (Server.create name handler buffer backoff)).2
  | start (id : ServerId) (s : Server) : b.server? id = some s → s.task = .none →
      Change b (.start id) ((b.put id s.launched (b.site.log [.pipeStarted s.name])).yield id)
  | shutdown (id : ServerId) (s : Server) : b.server? id = some s →
      Change b (.shutdown id)
        { b.put id s.stopped (b.site.log s.farewell) with
          abandoned := b.abandoned ++ s.task.toList.map fun t => ⟨id, s.started, t⟩
          unawaited := b.unawaited ++ s.call?.toList }
  | register (into : RegistryId) (header : String) (callback : Callback) :
      Change b (.register into header callback) (b.register into header callback)
  | connect (channel : String) (e : ListenerId) (l : Listener) :
      b.site.network.listeners[e.index]? = some l → l.live = true → l.name = channel →
      Change b (.connect channel) (b.withNetwork ((b.site.network.newLink .fresh).2.enqueue e
        (.conn ⟨(b.site.network.newLink .fresh).1, .none⟩)))
  | send (link : LinkId) (bytes : List UInt8) : bytes ≠ [] →
      (b.site.network.link link).fromClient.closed = false →
      Change b (.send link bytes)
        ((b.withNetwork (b.site.network.setLink link ((b.site.network.link link).pour bytes))).putOff
          link (bytes.drop (min (b.site.network.link link).fromClient.room bytes.length)))
  | receive (link : LinkId) :
      Change b (.receive link) (b.withNetwork (b.site.network.setLink link
        ((b.site.network.link link).withReply [])))
  | hangUp (link : LinkId) :
      Change b (.hangUp link) { b.withNetwork (b.site.network.dropLink link) with
        unsent := b.unsent.filter fun u => u.1 ≠ link }
  | failAccept (name : String) (e : ListenerId) (l : Listener) :
      b.site.network.listeners[e.index]? = some l → l.live = true →
      Change b (.failAccept name) (b.withNetwork (b.site.network.enqueue e .failure))
  | failConn (name : String) (how : Breakage) (e : ListenerId) (l : Listener) :
      b.site.network.listeners[e.index]? = some l → l.live = true →
      Change b (.failConn name how)
        (b.withNetwork ((b.site.network.newLink Link.fresh.drop).2.enqueue e
          (.conn ⟨(b.site.network.newLink Link.fresh.drop).1, some how⟩)))
  | move (id : ServerId) (s s' : Server) (b' : Switchboard) : b.server? id = some s →
      s.Step b.site s' b'.site → b'.servers = b.servers.set id.index s' →
      b'.abandoned = b.abandoned → b'.unawaited = b.unawaited → b'.unsent = b.unsent →
      Change b (.move id) b'
  | write (index : Nat) (link : LinkId) (bytes : List UInt8) (unsent : List (LinkId × List UInt8)) :
      (link, bytes) ∈ b.unsent → (b.site.network.link link).fromClient.closed = false →
      (∀ u ∈ unsent, ∃ u' ∈ b.unsent, u'.1 = u.1) →
      Change b (.write index) { b.withNetwork (b.site.network.setLink link
        ((b.site.network.link link).pour bytes)) with unsent := unsent }
  | giveUp (index : Nat) :
      Change b (.write index) { b with unsent := b.unsent.eraseIdx index }
  | letGo (index : Nat) (t : Stray) : b.abandoned[index]? = some t →
      Change b (.letGo index)
        { b with site := t.task.release b.site, abandoned := b.abandoned.eraseIdx index }
  | carryOut (index : Nat) (c : Call) : b.unawaited[index]? = some c →
      Change b (.carryOut index)
        { b with site := c.carryOut b.site, unawaited := b.unawaited.eraseIdx index }
  | elapse (time : Nat) : Change b (.elapse time) (b.elapse time)

theorem change_send (b : Switchboard) (link : LinkId) (bytes : List UInt8) :
    Change b (.send link bytes) (b.act (.send link bytes)) := by
  rw [act]
  by_cases hne : bytes = []
  · subst hne
    exact .none _
  · rcases hclosed : (b.site.network.link link).fromClient.closed
    · rw [send_open hne hclosed]
      exact .send link bytes hne hclosed
    · rw [send_closed hne hclosed]
      exact .none _

theorem change_write (b : Switchboard) (index : Nat) :
    Change b (.write index) (b.act (.write index)) := by
  rw [act, writeAt]
  split
  · exact .none _
  · rename_i link bytes hu
    have hmem := List.mem_of_getElem? hu
    rw [Network.write_client]
    rcases hclosed : (b.site.network.link link).fromClient.closed
    · by_cases hroom : (b.site.network.link link).fromClient.room = 0
      · simpa [hroom] using Change.none _
      · simp only [hroom, if_false]
        refine .write index link bytes _ hmem hclosed ?_
        intro u hu
        split at hu
        · rcases List.mem_or_eq_of_mem_set hu with hu | rfl
          · exact ⟨u, hu, rfl⟩
          · exact ⟨_, hmem, rfl⟩
        · exact ⟨u, List.mem_of_mem_eraseIdx hu, rfl⟩
    · simp only [if_true]
      exact .giveUp index

theorem change_act (h : b.Tidy) (a : Act) : Change b a (b.act a) := by
  cases a with
  | add name handler buffer backoff => exact .add name handler buffer backoff
  | start id =>
    rw [act]
    rcases hs : b.server? id with _ | s
    · simpa only [Switchboard.start, hs] using Change.none _
    · rcases ht : s.task with _ | t
      · rw [start_idle hs ht]
        exact .start id s hs ht
      · rw [start_running hs (by simp [Server.isRunning, ht])]
        exact .none _
  | shutdown id =>
    rw [act]
    rcases hs : b.server? id with _ | s
    · simpa only [Switchboard.shutdown, hs] using Change.none _
    · rw [shutdown_eq hs]
      exact .shutdown id s hs
  | register into header callback => exact .register into header callback
  | connect channel =>
    rcases hc : b.connect channel with error | ⟨link, b'⟩
    · simpa only [act, hc] using Change.none _
    · obtain ⟨e, l, hl, hlive, hname, rfl, rfl⟩ := connect_ok h.directory hc
      simpa only [act, hc] using Change.connect channel e l hl hlive hname
  | send link bytes => exact change_send b link bytes
  | receive link => exact .receive link
  | hangUp link => exact .hangUp link
  | failAccept name =>
    rw [act]
    rcases hr : b.site.network.reach name with error | e
    · rw [failAccept_error hr]
      exact .none _
    · obtain ⟨l, hl, hlive, -⟩ := Network.reach_ok hr
      rw [failAccept_ok hr]
      exact .failAccept name e l hl hlive
  | failConn name how =>
    rw [act]
    rcases hr : b.site.network.reach name with error | e
    · rw [failConn_error how hr]
      exact .none _
    · obtain ⟨l, hl, hlive, -⟩ := Network.reach_ok hr
      rw [failConn_ok how hr]
      exact .failConn name how e l hl hlive
  | move id =>
    rw [act]
    rcases hm : b.moveServer id with _ | b'
    · exact .none _
    · obtain ⟨s, s', site', hs, hstep, rfl, hservers, habandoned, hunawaited, hunsent⟩ :=
        h.step_of_moveServer hm
      exact .move id s s' b' hs hstep hservers habandoned hunawaited hunsent
  | write index => exact change_write b index
  | letGo index =>
    rw [act, letGoAt]
    split
    · exact .none _
    · rename_i t ht
      exact .letGo index t ht
  | straggle index next =>
    rw [act, h.straggleAt_eq index next]
    exact .none _
  | carryOut index =>
    rw [act, carryOutAt]
    split
    · exact .none _
    · rename_i c hc
      exact .carryOut index c hc
  | elapse time => exact .elapse time

/-! ## What servers are made with -/

/-- What the servers are made with that an act adds. -/
def Act.profiles : Act → List Server.Profile
  | .add name handler buffer backoff => [(Server.create name handler buffer backoff).profile]
  | _ => []

theorem elapse_profile (s : Server) (time : Nat) : (s.elapse time).profile = s.profile := by
  unfold Server.elapse
  split <;> rfl

/-- A server is one that was there, as it was made, or one that is added. -/
theorem Change.profile_of_mem (h : Change b a b') (hs : s ∈ b'.servers) :
    (∃ s₀ ∈ b.servers, s₀.profile = s.profile) ∨ s.profile ∈ a.profiles := by
  have hset {i : Nat} {s₀ s₁ : Server} (h₀ : b.servers[i]? = some s₀)
      (hs : s ∈ b.servers.set i s₁) (h₁ : s₁.profile = s₀.profile) :
      ∃ s₀ ∈ b.servers, s₀.profile = s.profile := by
    rcases List.mem_or_eq_of_mem_set hs with hs | rfl
    · exact ⟨s, hs, rfl⟩
    · exact ⟨s₀, List.mem_of_getElem? h₀, h₁.symm⟩
  cases h with
  | add name handler buffer backoff =>
    rcases List.mem_append.1 hs with hs | hs
    · exact .inl ⟨s, hs, rfl⟩
    · exact .inr (by rw [List.mem_singleton.1 hs]; exact List.mem_singleton_self _)
  | start id s₀ hs₀ => exact .inl (hset hs₀ hs rfl)
  | shutdown id s₀ hs₀ => exact .inl (hset hs₀ hs rfl)
  | move id s₀ s' b' hs₀ hstep hservers =>
    rw [hservers] at hs
    exact .inl (hset hs₀ hs hstep.profile_eq)
  | elapse time =>
    obtain ⟨s₀, hs₀, rfl⟩ := List.mem_map.1 hs
    exact .inl ⟨s₀, hs₀, (elapse_profile s₀ time).symm⟩
  | send link bytes =>
    rw [servers_putOff] at hs
    exact .inl ⟨s, hs, rfl⟩
  | _ => exact .inl ⟨s, hs, rfl⟩

/-- A server keeps its id, and stays as it was made. -/
theorem Change.server (h : Change b a b') (hs : b.server? id = some s) :
    ∃ s', b'.server? id = some s' ∧ s'.profile = s.profile := by
  have hs' : b.servers[id.index]? = some s := hs
  have hset {i : Nat} {s₀ s₁ : Server} (h₀ : b.servers[i]? = some s₀)
      (h₁ : s₁.profile = s₀.profile) :
      ∃ s', (b.servers.set i s₁)[id.index]? = some s' ∧ s'.profile = s.profile := by
    by_cases hi : i = id.index
    · subst hi
      cases hs'.symm.trans h₀
      exact ⟨s₁, List.getElem?_set_self (List.getElem?_eq_some_iff.1 hs').1, h₁⟩
    · exact ⟨s, by rw [List.getElem?_set_ne hi, hs'], rfl⟩
  cases h with
  | add name handler buffer backoff =>
    exact ⟨s, (List.getElem?_append_left (List.getElem?_eq_some_iff.1 hs').1).trans hs', rfl⟩
  | start id s₀ hs₀ => exact hset hs₀ rfl
  | shutdown id s₀ hs₀ => exact hset hs₀ rfl
  | move id s₀ s' b' hs₀ hstep hservers =>
    rw [server?, hservers]
    exact hset hs₀ hstep.profile_eq
  | elapse time =>
    exact ⟨s.elapse time, by simp [server?, Switchboard.elapse, hs'], elapse_profile s time⟩
  | send link bytes =>
    rw [server?, servers_putOff]
    exact ⟨s, hs, rfl⟩
  | _ => exact ⟨s, hs, rfl⟩

/-- A bound on buffers holds of all servers if it holds of those that are there and of those that
are added. -/
theorem buffer_act (h : b.Tidy) {k : Nat} (hb : ∀ s ∈ b.servers, k ≤ s.buffer)
    (ha : ∀ p ∈ a.profiles, k ≤ p.2.2.1) : ∀ s ∈ (b.act a).servers, k ≤ s.buffer := by
  intro s hs
  rcases (change_act h a).profile_of_mem hs with ⟨s₀, hs₀, hp⟩ | hp
  · have hbuffer : s₀.buffer = s.buffer := congrArg (·.2.2.1) hp
    exact hbuffer ▸ hb s₀ hs₀
  · exact ha _ hp

theorem minBuffer_le_profiles (a : Act) : ∀ p ∈ a.profiles, Server.minBuffer ≤ p.2.2.1 := by
  intro p hp
  cases a with
  | add name handler buffer backoff =>
    rw [List.mem_singleton.1 hp]
    exact Nat.le_max_right ..
  | _ => cases hp

/-! ## What acts leave alone -/

/-- Only a shutdown abandons a task. -/
theorem Change.abandoned (h : Change b a b') (ha : ∀ id, a ≠ .shutdown id) {t : Stray}
    (ht : t ∈ b'.abandoned) : t ∈ b.abandoned := by
  cases h with
  | shutdown id => exact absurd rfl (ha id)
  | send link bytes =>
    rw [abandoned_putOff] at ht
    exact ht
  | move id s s' b' hs hstep hservers habandoned =>
    rw [habandoned] at ht
    exact ht
  | letGo index t' => exact List.mem_of_mem_eraseIdx ht
  | _ => exact ht

/-- Calls outlive a server only in a shutdown, and each is carried out once. -/
theorem Change.unawaited (h : Change b a b') {c : Call} (hc : c ∈ b'.unawaited) :
    c ∈ b.unawaited ∨ ∃ id s, a = .shutdown id ∧ b.server? id = some s ∧ s.call? = some c := by
  cases h with
  | shutdown id s hs =>
    rcases List.mem_append.1 hc with hc | hc
    · exact .inl hc
    · exact .inr ⟨id, s, rfl, hs, Option.mem_toList.1 hc⟩
  | send link bytes =>
    rw [unawaited_putOff] at hc
    exact .inl hc
  | move id s s' b' hs hstep hservers habandoned hunawaited => exact .inl (hunawaited ▸ hc)
  | carryOut index c' => exact .inl (List.mem_of_mem_eraseIdx hc)
  | _ => exact .inl hc

/-- Only a client that sends more than there is room for puts something off. -/
theorem Change.unsent (h : Change b a b') (hunsent : b.unsent = [])
    (hfits : ∀ link bytes, a = .send link bytes →
      (b.site.network.link link).fromClient.closed = false →
      bytes.length ≤ (b.site.network.link link).fromClient.room) : b'.unsent = [] := by
  cases h with
  | send link bytes hne hopen =>
    rw [Nat.min_eq_right (hfits link bytes rfl hopen), List.drop_length]
    exact hunsent
  | hangUp link => simp [hunsent]
  | move id s s' b' hs hstep hservers habandoned hunawaited hsame => exact hsame.trans hunsent
  | write index link bytes unsent hmem => simp [hunsent] at hmem
  | giveUp index => simp [hunsent]
  | _ => exact hunsent

/-- A client for which nothing is put off puts nothing off before it sends. -/
theorem Change.not_mem_unsent (h : Change b a b') {l : LinkId}
    (hunsent : ∀ bytes, (l, bytes) ∉ b.unsent) (hsend : ∀ bytes, a ≠ .send l bytes)
    (bytes : List UInt8) : (l, bytes) ∉ b'.unsent := by
  intro hmem
  cases h with
  | send link sent =>
    unfold putOff at hmem
    split at hmem
    · exact hunsent bytes hmem
    · rcases List.mem_append.1 hmem with hmem | hmem
      · exact hunsent bytes hmem
      · cases List.mem_singleton.1 hmem
        exact hsend sent rfl
  | hangUp link => exact hunsent bytes (List.mem_filter.1 hmem).1
  | start id s hs ht => exact hunsent bytes hmem
  | move id s s' b' hs hstep hservers habandoned hunawaited hsame =>
    exact hunsent bytes (hsame ▸ hmem)
  | write index link sent unsent hsent hopen hof =>
    obtain ⟨⟨l', bytes'⟩, hmem', rfl⟩ := hof _ hmem
    exact hunsent bytes' hmem'
  | giveUp index => exact hunsent bytes (List.mem_of_mem_eraseIdx hmem)
  | _ => exact hunsent bytes hmem

end Switchboard

end KeyBridge
