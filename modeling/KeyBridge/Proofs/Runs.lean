-- SUMMARY: What may happen at a switchboard, one act at a time and in any order.
import KeyBridge.Server.Switchboard

/-!
# Runs

Operators, clients and servers act on a switchboard. A `Switchboard.Act` is one thing that one of
them does, and a run is any sequence of acts. Nobody waits for a turn here: a server moves, a
client goes on writing, an abandoned task lets go and a call that was begun is carried out whenever
they can, so what holds after every run holds whoever decides on turns. `settle` and `advance` are
two ways to decide.
-/

namespace KeyBridge

namespace Switchboard

/-! ## Acts -/

/-- One thing that happens at a switchboard. -/
inductive Act where
  /-- An operator makes a server. -/
  | add (name : String) (handler : Handler) (buffer backoff : Nat)
  | start (id : ServerId)
  | shutdown (id : ServerId)
  /-- Someone registers a callback with the host. -/
  | register (into : RegistryId) (header : String) (callback : Callback)
  | connect (channel : String)
  | send (link : LinkId) (bytes : List UInt8)
  | receive (link : LinkId)
  | hangUp (link : LinkId)
  | failAccept (name : String)
  | failConn (name : String) (how : Breakage)
  /-- A server does the next thing that it can do without waiting. -/
  | move (id : ServerId)
  /-- A client goes on with what it put off. -/
  | write (index : Nat)
  /-- An abandoned task lets go of what it holds. -/
  | letGo (index : Nat)
  /-- An abandoned task comes to publish a state. -/
  | straggle (index : Nat) (next : ServerState)
  /-- A call that nobody waits for is carried out. -/
  | carryOut (index : Nat)
  | elapse (time : Nat)

/-- Writes some of what a client put off. -/
def writeAt (b : Switchboard) (index : Nat) : Switchboard :=
  match b.unsent[index]? with
  | none => b
  | some (link, bytes) =>
    match b.site.network.write link .client bytes with
    | (.failed _, _) => { b with unsent := b.unsent.eraseIdx index }
    | (.pending, _) => b
    | (.done count, n) =>
      { b with
        site := { b.site with network := n }
        unsent :=
          if count < bytes.length then b.unsent.set index (link, bytes.drop count)
          else b.unsent.eraseIdx index }

/-- Has one abandoned task let go of what it holds. -/
def letGoAt (b : Switchboard) (index : Nat) : Switchboard :=
  match b.abandoned[index]? with
  | none => b
  | some t => { b with site := t.task.release b.site, abandoned := b.abandoned.eraseIdx index }

/-- Has one abandoned task publish a state, as it would if it were not stopped. -/
def straggleAt (b : Switchboard) (index : Nat) (next : ServerState) : Switchboard :=
  match b.abandoned[index]? with
  | none => b
  | some t =>
    match b.server? t.server with
    | none => b
    | some s =>
      let (s, site) := s.publish t.number next b.site
      b.put t.server s site

/-- Carries out one of the calls that nobody waits for. -/
def carryOutAt (b : Switchboard) (index : Nat) : Switchboard :=
  match b.unawaited[index]? with
  | none => b
  | some c => { b with site := c.carryOut b.site, unawaited := b.unawaited.eraseIdx index }

/-- Registers a callback with the host. -/
def register (b : Switchboard) (into : RegistryId) (header : String) (callback : Callback) :
    Switchboard :=
  { b with site := { b.site with host := (b.site.host.register into header callback).2 } }

/-- The switchboard after an act; it stays as it is if the act is not possible. -/
def act (b : Switchboard) : Act → Switchboard
  | .add name handler buffer backoff => (b.add (Server.create name handler buffer backoff)).2
  | .start id => b.start id
  | .shutdown id => b.shutdown id
  | .register into header callback => b.register into header callback
  | .connect channel =>
    match b.connect channel with
    | .ok (_, b) => b
    | .error _ => b
  | .send link bytes => (b.send link bytes).2
  | .receive link => (b.receive link).2
  | .hangUp link => b.hangUp link
  | .failAccept name => (b.failAccept name).2
  | .failConn name how => (b.failConn name how).2
  | .move id => (b.moveServer id).getD b
  | .write index => b.writeAt index
  | .letGo index => b.letGoAt index
  | .straggle index next => b.straggleAt index next
  | .carryOut index => b.carryOutAt index
  | .elapse time => b.elapse time

/-- The switchboard after a run. -/
def run (b : Switchboard) (acts : List Act) : Switchboard := acts.foldl act b

@[simp] theorem run_nil (b : Switchboard) : b.run [] = b := rfl

@[simp] theorem run_cons (b : Switchboard) (a : Act) (acts : List Act) :
    b.run (a :: acts) = (b.act a).run acts := rfl

theorem run_append (b : Switchboard) (acts more : List Act) :
    b.run (acts ++ more) = (b.run acts).run more := List.foldl_append

/-- The switchboard before anyone came. -/
def lobby : Switchboard := create (.inMemory (.fresh 8))

/-- Nothing can happen any more unless someone acts from outside or time passes. -/
def Quiet (b : Switchboard) : Prop :=
  (∀ id, b.moveServer id = none) ∧ b.flush = none ∧ b.abandoned = [] ∧ b.unawaited = []

/-! ## Settling is a run -/

/-- Acts that nobody from outside takes part in. -/
def Act.isOwn : Act → Bool
  | .move _ | .write _ | .letGo _ | .straggle .. | .carryOut _ | .elapse _ => true
  | _ => false

/-- The switchboard comes to another state by itself, in some time. -/
def Reaches (b after : Switchboard) : Prop :=
  ∃ acts : List Act, (∀ a ∈ acts, a.isOwn) ∧ b.run acts = after

theorem Reaches.refl (b : Switchboard) : b.Reaches b := ⟨[], by simp, rfl⟩

theorem Reaches.of_act {b after : Switchboard} {a : Act} (ha : a.isOwn) (h : b.act a = after) :
    b.Reaches after :=
  ⟨[a], by simpa using ha, h⟩

theorem Reaches.trans {b c d : Switchboard} (h : b.Reaches c) (h' : c.Reaches d) :
    b.Reaches d := by
  obtain ⟨acts, ha, rfl⟩ := h
  obtain ⟨more, hm, rfl⟩ := h'
  refine ⟨acts ++ more, ?_, run_append b acts more⟩
  intro a hmem
  rcases List.mem_append.1 hmem with hmem | hmem
  · exact ha a hmem
  · exact hm a hmem

theorem flushFirst_eq_some {n n' : Network} {unsent unsent' : List (LinkId × List UInt8)}
    (h : flushFirst n unsent = some (n', unsent')) :
    ∃ index link bytes, unsent[index]? = some (link, bytes) ∧
      match n.write link .client bytes with
      | (.failed _, _) => n' = n ∧ unsent' = unsent.eraseIdx index
      | (.pending, _) => False
      | (.done count, after) =>
        n' = after ∧ unsent' =
          if count < bytes.length then unsent.set index (link, bytes.drop count)
          else unsent.eraseIdx index := by
  induction unsent generalizing unsent' with
  | nil => simp [flushFirst] at h
  | cons u rest ih =>
    obtain ⟨link, bytes⟩ := u
    unfold flushFirst at h
    split at h
    · rename_i hw
      obtain ⟨rfl, rfl⟩ := Prod.mk.injEq .. ▸ Option.some.inj h
      exact ⟨0, link, bytes, rfl, by simp [hw]⟩
    · rename_i hw
      obtain ⟨rfl, rfl⟩ := Prod.mk.injEq .. ▸ Option.some.inj h
      exact ⟨0, link, bytes, rfl, by simp [hw]⟩
    · obtain ⟨r, hr, hre⟩ := Option.map_eq_some_iff.1 h
      obtain ⟨rfl, rfl⟩ := Prod.mk.injEq .. ▸ hre
      obtain ⟨index, link', bytes', hget, hrest⟩ := ih hr
      refine ⟨index + 1, link', bytes', by simpa using hget, ?_⟩
      split at hrest
      · obtain ⟨h₁, h₂⟩ := hrest
        exact ⟨h₁, by simp [h₂]⟩
      · exact hrest
      · obtain ⟨h₁, h₂⟩ := hrest
        refine ⟨h₁, ?_⟩
        rw [h₂]
        split <;> simp

/-- What `flush` does is an act of the client that writes. -/
theorem exists_write_of_flush {b after : Switchboard} (h : b.flush = some after) :
    ∃ index, b.act (.write index) = after := by
  obtain ⟨⟨n, unsent⟩, hr, rfl⟩ := Option.map_eq_some_iff.1 h
  obtain ⟨index, link, bytes, hget, hrest⟩ := flushFirst_eq_some hr
  refine ⟨index, ?_⟩
  simp only [act, writeAt, hget]
  split at hrest
  · obtain ⟨rfl, rfl⟩ := hrest
    simp [*]
  · exact hrest.elim
  · obtain ⟨rfl, rfl⟩ := hrest
    simp [*]

theorem stir_reaches {b after : Switchboard} (h : b.stir = some after) : b.Reaches after := by
  unfold stir at h
  split at h
  · rename_i hf
    cases h
    obtain ⟨index, hw⟩ := exists_write_of_flush hf
    exact .of_act rfl hw
  · obtain ⟨id, -, hmove⟩ := List.exists_of_findSome?_eq_some h
    exact .of_act (a := .move id) rfl (by simp [act, hmove])

theorem stirUpTo_reaches (fuel : Nat) (b : Switchboard) : b.Reaches (stirUpTo fuel b) := by
  induction fuel generalizing b with
  | zero => exact .refl b
  | succ fuel ih =>
    unfold stirUpTo
    split
    · rename_i after h
      exact (stir_reaches h).trans (ih after)
    · exact .refl b

theorem releaseAbandoned_reaches (b : Switchboard) : b.Reaches b.releaseAbandoned := by
  obtain ⟨site, servers, turns, abandoned, unawaited, unsent⟩ := b
  induction abandoned generalizing site with
  | nil => exact .refl _
  | cons t rest ih => exact (Reaches.of_act (a := .letGo 0) rfl rfl).trans (ih (t.task.release site))

theorem carryOutCalls_reaches (b : Switchboard) : b.Reaches b.carryOutCalls := by
  obtain ⟨site, servers, turns, abandoned, unawaited, unsent⟩ := b
  induction unawaited generalizing site with
  | nil => exact .refl _
  | cons c rest ih => exact (Reaches.of_act (a := .carryOut 0) rfl rfl).trans (ih (c.carryOut site))

theorem settle_reaches (b : Switchboard) : b.Reaches b.settle :=
  b.releaseAbandoned_reaches.trans
    ((carryOutCalls_reaches _).trans (stirUpTo_reaches _ _))

theorem advance_reaches (b : Switchboard) (time : Nat) : b.Reaches (b.advance time) := by
  induction time using Nat.strongRecOn generalizing b with
  | _ time ih =>
    have hs := b.settle_reaches
    rw [advance]
    split
    · rename_i wait hw
      split
      · have he := Reaches.of_act (b := b.settle) (a := .elapse wait) rfl rfl
        exact hs.trans (he.trans (ih (time - wait) (by omega) _))
      · exact hs.trans (.of_act (a := .elapse time) rfl rfl)
    · exact hs

end Switchboard

end KeyBridge
