-- SUMMARY: What a server reads of a message that its client sends in one go.
import KeyBridge.Proofs.Cuts
import KeyBridge.Proofs.Exchanges

/-!
# Readings

A client sends a message in one go. What the pipe does not take is put off and written later, and
the server reads what is in the pipe, at most a buffer at a time. `Reading` says which pieces of the
message were called so far and where the rest of it is, whatever else happens at the switchboard and
whether or not a server has the client yet. `Reading.act` keeps it in every act, so that the pieces
of a run are always a `Wire.Cut`, together with the one that was handed over and is not answered.
-/

namespace KeyBridge

namespace Switchboard

open Incident

variable {b b' : Switchboard} {a : Act} {id : ServerId} {l : LinkId} {k : Nat}
  {request asked told rest later : List UInt8} {errand : Errand} {pieces : List (List UInt8)}

/-! ## What a client puts off -/

/-- What one client put off. -/
def unsentBy (l : LinkId) (unsent : List (LinkId × List UInt8)) : List (LinkId × List UInt8) :=
  unsent.filter fun u => u.1 = l

/-- What a client has yet to write; it was put off in one go. -/
def PutsOff (b : Switchboard) (l : LinkId) (later : List UInt8) : Prop :=
  unsentBy l b.unsent = if later = [] then [] else [(l, later)]

theorem putsOff_nil : b.PutsOff l [] ↔ ∀ bytes, (l, bytes) ∉ b.unsent := by
  rw [PutsOff, if_pos rfl, unsentBy, List.filter_eq_nil_iff]
  constructor
  · exact fun h bytes hmem => h _ hmem (decide_eq_true rfl)
  · rintro h ⟨l', bytes⟩ hmem hl
    cases of_decide_eq_true hl
    exact h bytes hmem

theorem PutsOff.eq_nil (h : b.PutsOff l later) (hnone : ∀ bytes, (l, bytes) ∉ b.unsent) :
    later = [] := by
  apply Decidable.byContradiction
  intro hne
  rw [PutsOff, putsOff_nil.2 hnone, if_pos rfl, if_neg hne] at h
  cases h

theorem PutsOff.eq_of_mem {bytes : List UInt8} (h : b.PutsOff l later)
    (hmem : (l, bytes) ∈ b.unsent) : bytes = later ∧ later ≠ [] := by
  have hmine : (l, bytes) ∈ unsentBy l b.unsent :=
    List.mem_filter.2 ⟨hmem, decide_eq_true rfl⟩
  rw [h] at hmine
  split at hmine
  · cases hmine
  · rename_i hne
    cases List.mem_singleton.1 hmine
    exact ⟨rfl, hne⟩

theorem PutsOff.exists_index (h : b.PutsOff l later) (hne : later ≠ []) :
    ∃ index : Nat, b.unsent[index]? = some (l, later) := by
  have hmem : (l, later) ∈ unsentBy l b.unsent := by
    rw [h, if_neg hne]
    exact List.mem_cons_self
  exact List.getElem?_of_mem (List.mem_filter.1 hmem).1

/-- What one client put off is its own business. -/
theorem Change.unsent_eq (h : Change b a b') (hsend : ∀ bytes, a ≠ .send l bytes)
    (hhang : a ≠ .hangUp l) (hwrite : ∀ index, a ≠ .write index) :
    unsentBy l b'.unsent = unsentBy l b.unsent := by
  cases h with
  | send link bytes =>
    have hne : link ≠ l := fun heq => hsend bytes (heq ▸ rfl)
    unfold putOff
    split
    · rfl
    · simp [unsentBy, hne, withNetwork]
  | hangUp link =>
    have hne : link ≠ l := fun heq => hhang (heq ▸ rfl)
    rw [unsentBy, unsentBy, List.filter_filter]
    refine List.filter_congr fun u _ => ?_
    by_cases hu : u.1 = l
    · simp [hu, Ne.symm hne]
    · simp [hu]
  | move id s s' b' hs hstep hservers habandoned hunawaited hsame => rw [hsame]
  | write index => exact absurd rfl (hwrite index)
  | giveUp index => exact absurd rfl (hwrite index)
  | _ => rfl

theorem PutsOff.act (h : b.PutsOff l later) (hb : b.Sane) (hsend : ∀ bytes, a ≠ .send l bytes)
    (hhang : a ≠ .hangUp l) (hwrite : ∀ index, a ≠ .write index) : (b.act a).PutsOff l later := by
  rw [PutsOff, (change_act hb.tidy a).unsent_eq hsend hhang hwrite]
  exact h

/-! ## A client that goes on writing -/

/-- The switchboard after a client wrote some of what it had put off. -/
theorem act_write {index : Nat} {link : LinkId} {bytes : List UInt8}
    (hu : b.unsent[index]? = some (link, bytes))
    (hopen : (b.site.network.link link).fromClient.closed = false)
    (hroom : (b.site.network.link link).fromClient.room ≠ 0) :
    b.act (.write index)
      = (b.withNetwork
          (b.site.network.setLink link ((b.site.network.link link).pour bytes))).withUnsent
          (if min (b.site.network.link link).fromClient.room bytes.length < bytes.length then
            b.unsent.set index (link,
              bytes.drop (min (b.site.network.link link).fromClient.room bytes.length))
          else b.unsent.eraseIdx index) := by
  simp only [act, writeAt, hu, Network.write_client, hopen, hroom]
  rfl

/-- A list around the place of one of its items. -/
theorem exists_around {α : Type} {xs : List α} {i : Nat} {x : α} (hx : xs[i]? = some x) :
    ∃ front back, xs = front ++ x :: back ∧ (∀ y, xs.set i y = front ++ y :: back)
      ∧ xs.eraseIdx i = front ++ back := by
  obtain ⟨hi, rfl⟩ := List.getElem?_eq_some_iff.1 hx
  refine ⟨xs.take i, xs.drop (i + 1), ?_, fun y => ?_, List.eraseIdx_eq_take_drop_succ xs i⟩
  · rw [← List.drop_eq_getElem_cons hi, List.take_append_drop]
  · rw [List.set_eq_take_append_cons_drop, if_pos hi]

/-- A client that goes on writing leaves what others put off. -/
theorem unsent_write_ne {index : Nat} {link : LinkId} {bytes : List UInt8}
    (hu : b.unsent[index]? = some (link, bytes)) (hne : link ≠ l) :
    (∀ more, unsentBy l (b.unsent.set index (link, more)) = unsentBy l b.unsent)
      ∧ unsentBy l (b.unsent.eraseIdx index) = unsentBy l b.unsent := by
  obtain ⟨front, back, hunsent, hset, herase⟩ := exists_around hu
  rw [herase, hunsent]
  refine ⟨fun more => ?_, by simp [unsentBy, hne]⟩
  rw [← hunsent, hset, hunsent]
  simp [unsentBy, hne]

/-- A client that writes fills the room in its pipe. -/
theorem bytes_pour (link : Link) (bytes : List UInt8) :
    (link.pour bytes).fromClient.bytes
      = link.fromClient.bytes ++ bytes.take link.fromClient.room := by
  rw [Link.pour, ← List.take_eq_take_min]
  rfl

/-- A client that goes on writing puts off what does not fit. -/
theorem PutsOff.write {index room : Nat} (h : b.PutsOff l later)
    (hu : b.unsent[index]? = some (l, later)) :
    unsentBy l (if min room later.length < later.length then
        b.unsent.set index (l, later.drop (min room later.length))
      else b.unsent.eraseIdx index)
      = if later.drop room = [] then [] else [(l, later.drop room)] := by
  obtain ⟨front, back, hunsent, hset, herase⟩ := exists_around hu
  have hself (bytes : List UInt8) :
      unsentBy l (front ++ (l, bytes) :: back)
        = unsentBy l front ++ (l, bytes) :: unsentBy l back := by
    simp [unsentBy]
  have hothers : unsentBy l front = [] ∧ unsentBy l back = [] := by
    have hne := (h.eq_of_mem (List.mem_of_getElem? hu)).2
    rw [PutsOff, if_neg hne, hunsent, hself] at h
    have hlength := congrArg List.length h
    simp only [List.length_append, List.length_cons, List.length_nil] at hlength
    exact ⟨List.eq_nil_of_length_eq_zero (by omega), List.eq_nil_of_length_eq_zero (by omega)⟩
  rw [← List.drop_eq_drop_min]
  by_cases hfits : later.length ≤ room
  · rw [if_neg (by omega), if_pos (List.drop_eq_nil_of_le hfits), herase]
    exact (List.filter_append ..).trans (List.append_eq_nil_iff.2 hothers)
  · rw [if_pos (by omega), if_neg (mt List.drop_eq_nil_iff.1 hfits), hset, hself, hothers.1,
      hothers.2]
    rfl

/-! ## Acts in which nobody goes on writing -/

theorem Sane.withUnsent (h : b.Sane) (unsent : List (LinkId × List UInt8)) :
    (b.withUnsent unsent).Sane :=
  ⟨h.tidy.congr rfl rfl rfl rfl, h.readable⟩

/-- Only who writes looks at what was put off. -/
theorem act_withUnsent (hsend : ∀ link bytes, a ≠ .send link bytes)
    (hwrite : ∀ index, a ≠ .write index) :
    (b.withUnsent []).act a = (b.act a).withUnsent [] := by
  have hserver (id : ServerId) : (b.withUnsent []).server? id = b.server? id := rfl
  have hsite : (b.withUnsent []).site = b.site := rfl
  cases a with
  | send link bytes => exact absurd rfl (hsend link bytes)
  | write index => exact absurd rfl (hwrite index)
  | move id => exact act_move_withUnsent b id []
  | start id =>
    simp only [act, start, hserver]
    rcases b.server? id with _ | s
    · rfl
    · dsimp only
      split <;> rfl
  | shutdown id =>
    simp only [act, shutdown, hserver]
    rcases b.server? id with _ | s <;> rfl
  | connect channel =>
    simp only [act, connect, hsite]
    rcases b.site.connect channel with _ | r <;> rfl
  | letGo index =>
    have habandoned : (b.withUnsent []).abandoned = b.abandoned := rfl
    simp only [act, letGoAt, habandoned]
    rcases b.abandoned[index]? with _ | t <;> rfl
  | straggle index next =>
    have habandoned : (b.withUnsent []).abandoned = b.abandoned := rfl
    simp only [act, straggleAt, habandoned, hserver]
    rcases b.abandoned[index]? with _ | t
    · rfl
    · dsimp only
      rcases b.server? t.server with _ | s <;> rfl
  | carryOut index =>
    have hunawaited : (b.withUnsent []).unawaited = b.unawaited := rfl
    simp only [act, carryOutAt, hunawaited]
    rcases b.unawaited[index]? with _ | k <;> rfl
  | _ => rfl

theorem observe_withUnsent (hsend : ∀ link bytes, a ≠ .send link bytes) :
    (b.withUnsent []).observe a = b.observe a := by
  cases a with
  | send link bytes => exact absurd rfl (hsend link bytes)
  | _ => rfl

theorem story_moves_withUnsent (id : ServerId) :
    (b.withUnsent []).story [.move id, .move id] = b.story [.move id, .move id] := by
  rw [story, story, story, story, act_move_withUnsent, observe_withUnsent (by simp),
    observe_withUnsent (by simp)]
  rfl

/-- What a connection goes through while nobody writes what was put off. -/
theorem Sane.passage_unflushed (h : b.Sane) (hsend : ∀ link bytes, a ≠ .send link bytes)
    (hwrite : ∀ index, a ≠ .write index) :
    Passage (b.withUnsent []) ((b.act a).withUnsent []) a l (on l (b.observe a)) := by
  have hpassage := (h.withUnsent []).passage a l
  rw [act_withUnsent hsend hwrite, observe_withUnsent hsend] at hpassage
  exact hpassage

/-! ## Readings -/

/-- A buffer that the messages on a connection may be read into: that of its server, or any while
the connection waits. -/
inductive ReadsInto (b : Switchboard) (l : LinkId) (buffer : Nat) : Prop where
  | waiting (c : Conn) : c.link = l → b.Queued c → ReadsInto b l buffer
  | served (id : ServerId) (s : Server) (c : Conn) (u : Errand) : c.link = l → b.Serves id c u →
      b.server? id = some s → s.buffer = buffer → ReadsInto b l buffer

/-- The messages on a connection that were handed over to a handler and not answered: there is one if
a call was begun. -/
inductive Handed (b : Switchboard) (l : LinkId) : List (List UInt8) → Prop where
  | none : (∀ k : Call, k.conn.link = l → ¬ b.Begun k) → Handed b l []
  | one (k : Call) : k.conn.link = l → b.Begun k → Handed b l [k.bytes]

/-- The handlers were called with these pieces of a request. The rest of it was handed over or is on
its way, unless the client left. -/
structure Reading (b : Switchboard) (l : LinkId) (request : List UInt8)
    (pieces : List (List UInt8)) : Prop where
  known : l.index < b.site.network.links.length
  whole : b.Whole l
  cut : (b.site.network.link l).fromClient.closed = false → ∃ later, b.PutsOff l later ∧
    ∀ buffer handed, b.ReadsInto l buffer → b.Handed l handed →
      Wire.Cut buffer request (pieces ++ handed) (b.site.network.link l).fromClient.bytes later

theorem ReadsInto.of_retains (hr : b'.ReadsInto l k) (hretains : Retains b b' l)
    (hchange : Change b a b') : b.ReadsInto l k := by
  cases hr with
  | waiting c hc hq => exact .waiting c hc (hretains.queued c hc hq)
  | served id s' c u hc hserves hs' hbuffer =>
    have hbefore := hretains.serves id c u hc hserves
    obtain ⟨s, e, hs, ht⟩ := hbefore
    obtain ⟨s'', hs'', hprofile⟩ := hchange.server hs
    cases hs'.symm.trans hs''
    have hsame : s'.buffer = s.buffer := congrArg (·.2.2.1) hprofile
    exact .served id s c u hc ⟨s, e, hs, ht⟩ hs (hsame ▸ hbuffer)

theorem Retains.of_withUnsent {unsent unsent' : List (LinkId × List UInt8)}
    (h : Retains (b.withUnsent unsent) (b'.withUnsent unsent') l) : Retains b b' l :=
  ⟨h.known, h.queued, h.serves, h.begun⟩

theorem Handed.of_retains {handed : List (List UInt8)} (hh : b'.Handed l handed)
    (hretains : Retains b b' l) : b.Handed l handed := by
  cases hh with
  | none hnone => exact .none fun k hk => mt (hretains.begun k hk).2 (hnone k hk)
  | one k hk hbegun => exact .one k hk ((hretains.begun k hk).1 hbegun)

/-- Nothing was read or written where nobody gained the connection. -/
theorem Reading.of_retains (h : b.Reading l request pieces) (hretains : Retains b b' l)
    (hchange : Change b a b')
    (hbytes : (b'.site.network.link l).fromClient.bytes = (b.site.network.link l).fromClient.bytes)
    (hclosed : (b'.site.network.link l).fromClient.closed = false →
      (b.site.network.link l).fromClient.closed = false
        ∧ unsentBy l b'.unsent = unsentBy l b.unsent) :
    b'.Reading l request pieces where
  known := hretains.known.2 h.known
  whole := h.whole.of_retains hretains
  cut hopen := by
    obtain ⟨hopen, hunsent⟩ := hclosed hopen
    obtain ⟨later, hlater, hcut⟩ := h.cut hopen
    rw [hbytes]
    refine ⟨later, hunsent.trans hlater, fun buffer handed hr hh => ?_⟩
    exact hcut buffer handed (hr.of_retains hretains hchange) (hh.of_retains hretains)

theorem ReadsInto.buffer_eq {s : Server} {c : Conn} {u : Errand} (hr : b.ReadsInto l k)
    (h : b.Tidy) (hc : c.link = l) (hserves : b.Serves id c u) (hs : b.server? id = some s) :
    s.buffer = k := by
  cases hr with
  | waiting c' hc' hq => exact absurd hq (h.not_queued hserves (hc'.trans hc.symm))
  | served id' s' c' u' hc' hserves' hs' hbuffer =>
    obtain ⟨rfl, -, -⟩ := h.serves_unique hserves hserves' (hc'.trans hc.symm)
    cases hs.symm.trans hs'
    exact hbuffer

/-- What a server is at says what was handed over. -/
theorem Handed.eq_of_serves {c : Conn} {handed : List (List UInt8)} (hh : b.Handed l handed)
    (h : b.Tidy) (hc : c.link = l) (hserves : b.Serves id c errand) :
    handed = match errand with
      | .call bytes => [bytes]
      | .reply _ => [] := by
  cases hh with
  | none hnone =>
    cases errand with
    | call bytes =>
      obtain ⟨handler, e, hbegun⟩ := hserves.begun
      exact absurd hbegun (hnone _ hc)
    | reply u => rfl
  | one k hk hbegun =>
    obtain ⟨-, rfl, -⟩ := h.errand_of_begun hbegun hserves (hc.trans hk.symm)
    rfl

theorem Handed.of_serves {c : Conn} (h : b.Tidy) (hc : c.link = l)
    (hserves : b.Serves id c (.reply rest)) : b.Handed l [] := by
  refine .none fun k hk hbegun => ?_
  obtain ⟨-, hcall, -⟩ := h.errand_of_begun hbegun hserves (hc.trans hk.symm)
  cases hcall

section

variable {s : Server} {c after : Conn} {bytes : List UInt8} {n : Network}

/-- A server that had the connection before reads into the buffer that it had. -/
theorem ReadsInto.buffer_before (hr : b'.ReadsInto l k) (h' : b'.Tidy) (hchange : Change b a b')
    (hs : b.server? id = some s) (hc : c.link = l) (hserves' : b'.Serves id c errand) :
    s.buffer = k := by
  obtain ⟨s', hs', hprofile⟩ := hchange.server hs
  have hsame : s'.buffer = s.buffer := congrArg (·.2.2.1) hprofile
  exact hsame ▸ hr.buffer_eq h' hc hserves' hs'

theorem Reading.step_accepted (h : b.Reading l request pieces) (ht : b.Tidy) (h' : b'.Tidy)
    (hc : c.link = l) (hq : b.Queued c) (hserves' : b'.Serves id c (.reply []))
    (hlink : b'.site.network.link l = b.site.network.link l)
    (hunsent : unsentBy l b'.unsent = unsentBy l b.unsent) :
    b'.Reading l request pieces where
  known := hc ▸ hserves'.lt h'
  whole := .of_serves h' hc hserves' (h.whole c hc (.inl hq))
  cut hopen := by
    rw [hlink] at hopen ⊢
    obtain ⟨later, hlater, hcut⟩ := h.cut hopen
    refine ⟨later, hunsent.trans hlater, fun buffer handed _ hh => ?_⟩
    cases hh.eq_of_serves h' hc hserves'
    refine hcut buffer [] (.waiting c hc hq) (.none fun k hk hbegun => ?_)
    exact ht.not_queued_of_begun hbegun (hc.trans hk.symm) hq

/-- What the server reads is the next piece, which it hands over. -/
theorem Reading.step_heard (h : b.Reading l request pieces) (ht : b.Tidy) (h' : b'.Tidy)
    (hchange : Change b a b') (hs : b.server? id = some s) (hc : c.link = l)
    (hserves : b.Serves id c (.reply [])) (hne : bytes ≠ [])
    (hr : c.read s.buffer b.site.network = (.done bytes, after, n))
    (hlink : b'.site.network.link l = n.link l) (hserves' : b'.Serves id after (.call bytes))
    (hunsent : unsentBy l b'.unsent = unsentBy l b.unsent) : b'.Reading l request pieces := by
  have hwhole := h.whole c hc (.inr ⟨id, _, hserves⟩)
  rcases Conn.read_message hr hne with ⟨-, hbytes, rfl, rfl, rfl⟩ | ⟨_, -, hwriting, -⟩
  · rw [hc, Network.link_setLink_self _ _ _ h.known] at hlink
    rw [hc] at hbytes hserves'
    refine ⟨hc ▸ hserves'.lt h', .of_serves h' hc hserves' hwhole, fun hopen => ?_⟩
    rw [hlink] at hopen ⊢
    obtain ⟨later, hlater, hcut⟩ := h.cut hopen
    refine ⟨later, hunsent.trans hlater, fun buffer handed hr' hh => ?_⟩
    cases hr'.buffer_before h' hchange hs hc hserves'
    cases hh.eq_of_serves h' hc hserves'
    have hbefore := hcut s.buffer [] (.served id s after _ hc hserves hs rfl)
      (.of_serves ht hc hserves)
    rw [List.append_nil] at hbefore
    exact hbefore.read hbytes
  · rw [hwhole] at hwriting
    cases hwriting

/-- The handler is called with the piece that was handed over. -/
theorem Reading.step_answered {call : Call} (h : b.Reading l request pieces) (h' : b'.Tidy)
    (hchange : Change b a b') (hc : call.conn.link = l) (hbegun : b.Begun call)
    (hserves : b.Serves id call.conn (.call call.bytes))
    (hlink : b'.site.network.link l = b.site.network.link l)
    (hserves' : b'.Serves id call.conn (.reply rest))
    (hunsent : unsentBy l b'.unsent = unsentBy l b.unsent) :
    b'.Reading l request (pieces ++ [call.bytes]) := by
  refine ⟨hc ▸ hserves'.lt h', .of_serves h' hc hserves' (h.whole _ hc (.inr ⟨id, _, hserves⟩)),
    fun hopen => ?_⟩
  rw [hlink] at hopen ⊢
  obtain ⟨later, hlater, hcut⟩ := h.cut hopen
  refine ⟨later, hunsent.trans hlater, fun buffer handed hr' hh => ?_⟩
  cases hh.eq_of_serves h' hc hserves'
  have hbefore := hserves
  obtain ⟨s, e, hs, -⟩ := hbefore
  have hbuffer := hr'.buffer_before h' hchange hs hc hserves'
  rw [List.append_nil]
  exact hcut buffer _ (.served id s _ _ hc hserves hs hbuffer) (.one call hc hbegun)

/-- A call whose server was shut down is the last one on its connection. -/
theorem Reading.step_carriedOut {bytes : List UInt8} (h : b.Reading l request pieces)
    (hnet : b'.site.network = b.site.network) (hvacant : b'.Vacant l)
    (hunsent : unsentBy l b'.unsent = unsentBy l b.unsent) :
    b'.Reading l request (pieces ++ [bytes]) where
  known := by
    rw [hnet]
    exact h.known
  whole := by
    rintro c hc (hq | ⟨id, u, hs⟩)
    · exact absurd hq (hvacant.queued c hc)
    · exact absurd hs (hvacant.serves id c u hc)
  cut hopen := by
    rw [hnet] at hopen
    obtain ⟨later, hlater, -⟩ := h.cut hopen
    refine ⟨later, hunsent.trans hlater, fun buffer handed hr _ => ?_⟩
    cases hr with
    | waiting c hc hq => exact absurd hq (hvacant.queued c hc)
    | served id s c u hc hs => exact absurd hs (hvacant.serves id c u hc)

theorem Reading.step_told {count : Nat} {u u' : List UInt8} (h : b.Reading l request pieces)
    (ht : b.Tidy) (h' : b'.Tidy) (hchange : Change b a b') (hc : c.link = l)
    (hserves : b.Serves id c (.reply u)) (hw : c.write u b.site.network = (.done count, n))
    (hlink : b'.site.network.link l = n.link l) (hserves' : b'.Serves id c (.reply u'))
    (hunsent : unsentBy l b'.unsent = unsentBy l b.unsent) :
    b'.Reading l request pieces := by
  obtain ⟨-, -, -, rfl⟩ := Conn.write_done hw
  rw [hc, Network.link_setLink_self _ _ _ h.known] at hlink
  refine ⟨hc ▸ hserves'.lt h', .of_serves h' hc hserves' (h.whole c hc (.inr ⟨id, _, hserves⟩)),
    fun hopen => ?_⟩
  rw [hlink] at hopen ⊢
  obtain ⟨later, hlater, hcut⟩ := h.cut hopen
  refine ⟨later, hunsent.trans hlater, fun buffer handed hr' hh => ?_⟩
  cases hh.eq_of_serves h' hc hserves'
  have hbefore := hserves
  obtain ⟨s, e, hs, -⟩ := hbefore
  have hbuffer := hr'.buffer_before h' hchange hs hc hserves'
  exact hcut buffer [] (.served id s c _ hc hserves hs hbuffer) (.of_serves ht hc hserves)

end

theorem keeps_write (b : Switchboard) (index : Nat) (l : LinkId) :
    Keeps b (b.act (.write index)) l := by
  rcases hu : b.unsent[index]? with _ | ⟨link, bytes⟩
  · simp only [act, writeAt, hu]
    exact .of_eq l rfl rfl rfl rfl
  · simp only [act, writeAt, hu]
    split
    · exact .of_eq l rfl rfl rfl rfl
    · exact .of_eq l rfl rfl rfl rfl
    · rename_i hw
      obtain ⟨hlisteners, hlength, -⟩ := write_client_frame hw
      exact .of_eq l rfl hlisteners hlength rfl

/-- A client that goes on writing fills the pipe. -/
theorem Reading.write (h : b.Reading l request pieces) (hb : b.Sane) (index : Nat) :
    (b.act (.write index)).Reading l request pieces := by
  have hchange := change_act hb.tidy (.write index)
  have hretains := (b.keeps_write index l).retains
  rcases hu : b.unsent[index]? with _ | ⟨link, bytes⟩
  · have hact : b.act (.write index) = b := by simp only [act, writeAt, hu]
    rw [hact]
    exact h
  rcases hclosed : (b.site.network.link link).fromClient.closed
  · by_cases hroom : (b.site.network.link link).fromClient.room = 0
    · have hact : b.act (.write index) = b := by
        simp only [act, writeAt, hu, Network.write_client, hclosed, hroom]
        rfl
      rw [hact]
      exact h
    have hact := act_write hu hclosed hroom
    by_cases hlink : link = l
    · subst hlink
      have hpoured : (b.act (.write index)).site.network.link link
          = (b.site.network.link link).pour bytes := by
        rw [hact]
        exact Network.link_setLink_self _ _ _ h.known
      refine ⟨hretains.known.2 h.known, h.whole.of_retains hretains, fun _ => ?_⟩
      obtain ⟨later, hlater, hcut⟩ := h.cut hclosed
      obtain ⟨rfl, hne⟩ := hlater.eq_of_mem (List.mem_of_getElem? hu)
      refine ⟨bytes.drop (b.site.network.link link).fromClient.room, ?_,
        fun buffer handed hr hh => ?_⟩
      · rw [hact]
        exact hlater.write hu
      · rw [hpoured, bytes_pour]
        have hbefore := hcut buffer handed (hr.of_retains hretains hchange)
          (hh.of_retains hretains)
        refine hbefore.write hne ?_
        rw [Pipe.room] at hroom
        omega
    · have hsame : (b.act (.write index)).site.network.link l = b.site.network.link l := by
        rw [hact]
        exact Network.link_setLink_ne _ _ (Ne.symm hlink)
      refine h.of_retains hretains hchange (by rw [hsame]) fun hopen => ⟨hsame ▸ hopen, ?_⟩
      obtain ⟨hset, herase⟩ := unsent_write_ne hu hlink
      rw [hact]
      show unsentBy l (ite _ _ _) = _
      split
      · exact hset _
      · exact herase
  · have hact : b.act (.write index) = { b with unsent := b.unsent.eraseIdx index } := by
      simp only [act, writeAt, hu, Network.write_client, hclosed]
      rfl
    have hsame : (b.act (.write index)).site.network.link l = b.site.network.link l := by rw [hact]
    refine h.of_retains hretains hchange (by rw [hsame]) fun hopen => ?_
    rw [hsame] at hopen
    refine ⟨hopen, ?_⟩
    have hlink : link ≠ l := by
      rintro rfl
      rw [hclosed] at hopen
      cases hopen
    rw [hact]
    exact (unsent_write_ne hu hlink).2

theorem Reading.uncalled {i : List Incident} (h : b.Reading l request pieces)
    (hi : calls i = []) : b.Reading l request (pieces ++ (calls i).map Prod.fst) := by
  rw [hi, List.map_nil, List.append_nil]
  exact h

theorem Reading.hangUp (h : b.Reading l request pieces) (hb : b.Sane) :
    (b.act (.hangUp l)).Reading l request pieces := by
  have hkeeps : Keeps b (b.act (.hangUp l)) l :=
    .of_eq l rfl rfl (Network.length_links_dropLink ..) rfl
  have hlink : (b.act (.hangUp l)).site.network.link l = (b.site.network.link l).drop := by
    have hdropped := Network.link_dropLink b.site.network l l
    rw [if_pos rfl] at hdropped
    exact hdropped
  refine h.of_retains hkeeps.retains (change_act hb.tidy _) (by rw [hlink]; rfl) fun hopen => ?_
  rw [hlink] at hopen
  cases hopen

/-- A client that sends something keeps its place, and other connections stay as they are. -/
theorem keeps_send (b : Switchboard) (link : LinkId) (bytes : List UInt8) (l : LinkId) :
    Keeps b (b.act (.send link bytes)) l ∧ (link ≠ l →
      (b.act (.send link bytes)).site.network.link l = b.site.network.link l) := by
  have hchange := change_send b link bytes
  generalize b.act (.send link bytes) = b' at hchange ⊢
  cases hchange with
  | none => exact ⟨.of_eq l rfl rfl rfl rfl, fun _ => rfl⟩
  | send _ _ hbytes hopen =>
    refine ⟨.of_eq l (servers_putOff ..) ?_ ?_ (unawaited_putOff ..), fun hne => ?_⟩
    · rw [site_putOff]
      rfl
    · rw [site_putOff]
      exact Network.length_links_setLink ..
    · rw [site_putOff]
      exact Network.link_setLink_ne _ _ (Ne.symm hne)

/-- What another client sends is none of this one's business. -/
theorem Reading.send_ne {link : LinkId} (h : b.Reading l request pieces) (hb : b.Sane)
    (bytes : List UInt8) (hne : link ≠ l) :
    (b.act (.send link bytes)).Reading l request pieces := by
  have hchange := change_act hb.tidy (.send link bytes)
  have hunsent := hchange.unsent_eq (l := l) (fun _ heq => hne (by cases heq; rfl)) (by simp)
    (by simp)
  obtain ⟨hkeeps, hlink⟩ := b.keeps_send link bytes l
  refine h.of_retains hkeeps.retains hchange (by rw [hlink hne]) fun hopen => ⟨?_, hunsent⟩
  rwa [hlink hne] at hopen

/-- Every act but another message of the client keeps account of what was read. -/
theorem Reading.act (h : b.Reading l request pieces) (hb : b.Sane)
    (ha : ∀ bytes, a ≠ .send l bytes) :
    (b.act a).Reading l request (pieces ++ (calls (on l (b.observe a))).map Prod.fst) := by
  -- A passage does not say what becomes of the bytes that were put off, so that the acts which may
  -- change them are looked at by themselves.
  by_cases hhang : a = .hangUp l
  · subst hhang
    exact (h.hangUp hb).uncalled rfl
  by_cases hwrite : ∃ index, a = .write index
  · obtain ⟨index, rfl⟩ := hwrite
    exact (h.write hb index).uncalled rfl
  by_cases hother : ∃ link bytes, a = .send link bytes
  · obtain ⟨link, bytes, rfl⟩ := hother
    have hne : link ≠ l := fun heq => ha bytes (heq ▸ rfl)
    exact (h.send_ne hb bytes hne).uncalled (calls_observe_send b link l bytes)
  have hwrite : ∀ index, a ≠ .write index := fun index heq => hwrite ⟨index, heq⟩
  have hsend : ∀ link bytes, a ≠ .send link bytes := fun link bytes heq => hother ⟨link, bytes, heq⟩
  have hpassage := hb.passage_unflushed hsend hwrite (l := l)
  have ht' := hb.tidy.act a
  have hchange := change_act hb.tidy a
  have hunsent := hchange.unsent_eq ha hhang hwrite
  generalize on l (b.observe a) = i at hpassage ⊢
  cases hpassage with
  | kept hkeeps hlink =>
    have hretains := hkeeps.retains.of_withUnsent
    refine (h.of_retains hretains hchange ?_ fun hopen => ⟨?_, hunsent⟩).uncalled rfl
    · exact congrArg (·.fromClient.bytes) hlink
    · exact (congrArg (·.fromClient.closed) hlink).symm.trans hopen
  | left hretains hcause hlink =>
    refine (h.of_retains hretains.of_withUnsent hchange ?_ fun hopen => ⟨?_, hunsent⟩).uncalled rfl
    · rcases hlink with hlink | hlink
      · exact congrArg (·.fromClient.bytes) hlink
      · exact congrArg (·.fromClient.bytes) hlink
    · rcases hlink with hlink | hlink
      · exact (congrArg (·.fromClient.closed) hlink).symm.trans hopen
      · have hclosed := congrArg (·.fromClient.closed) hlink
        cases hopen.symm.trans hclosed
  | opened hindex => exact absurd h.known (by rw [hindex]; exact Nat.lt_irrefl _)
  | broke name how hfail hindex => exact absurd h.known (by rw [hindex]; exact Nat.lt_irrefl _)
  | asked bytes hkeeps hsent => exact absurd hsent (ha bytes)
  | flushed bytes hkeeps hmem => cases hmem
  | received hkeeps hlink =>
    have hretains := hkeeps.retains.of_withUnsent
    refine (h.of_retains hretains hchange ?_ fun hopen => ⟨?_, hunsent⟩).uncalled rfl
    · exact congrArg (·.fromClient.bytes) hlink
    · exact (congrArg (·.fromClient.closed) hlink).symm.trans hopen
  | accepted id c hc hq hserves' hlink =>
    exact (h.step_accepted hb.tidy ht' hc hq hserves' hlink hunsent).uncalled rfl
  | heard id s c after bytes n hs hc hserves hne hr hlink hserves' =>
    have hstep := h.step_heard hb.tidy ht' hchange hs hc hserves hne hr hlink hserves' hunsent
    exact hstep.uncalled rfl
  | answered id call hc hbegun hserves hlink hserves' =>
    exact h.step_answered ht' hchange hc hbegun hserves hlink hserves' hunsent
  | carriedOut call hc hmem hnet hvacant =>
    exact h.step_carriedOut hnet ⟨hvacant.queued, hvacant.serves, hvacant.begun⟩ hunsent
  | told id c u count n hc hserves hne hw hlink hserves' =>
    exact (h.step_told hb.tidy ht' hchange hc hserves hw hlink hserves' hunsent).uncalled rfl

/-- The pieces that were read in a run are those of the calls. -/
theorem Reading.run {acts : List Act} (h : b.Reading l request pieces) (hb : b.Sane)
    (hacts : ∀ bytes, .send l bytes ∉ acts) :
    (b.run acts).Reading l request (pieces ++ (calls (on l (b.story acts))).map Prod.fst) := by
  induction acts generalizing b pieces with
  | nil => exact h.uncalled rfl
  | cons a acts ih =>
    have hfirst := h.act hb fun bytes heq => hacts bytes (heq ▸ List.mem_cons_self)
    have hrest := ih hfirst (hb.act a) fun bytes hmem => hacts bytes (List.mem_cons_of_mem _ hmem)
    rw [List.append_assoc, ← List.map_append, ← calls_append, ← on_append] at hrest
    exact hrest

/-! ## One message -/

/-- Nothing that a client sent is on its way, to the server or to its handler. -/
structure HeardOut (b : Switchboard) (l : LinkId) : Prop where
  unasked : (b.site.network.link l).fromClient.bytes = []
  unbegun : ∀ k : Call, k.conn.link = l → ¬ b.Begun k
  unsent : ∀ bytes, (l, bytes) ∉ b.unsent

/-- A connection on which nothing that its client sent is on its way. A server may have it, or it
may still wait for one. -/
structure Idle (b : Switchboard) (l : LinkId) : Prop where
  opened : b.Open l
  heardOut : b.HeardOut l
  whole : b.Whole l

/-- A server has a client, which did not hang up. -/
def Attends (b : Switchboard) (id : ServerId) (l : LinkId) : Prop :=
  (∃ u, b.Serves id ⟨l, none⟩ u) ∧ b.Open l

/-- A client that sends something in one go fills the pipe and puts off the rest. -/
theorem Idle.pour (h : b.Idle l) (hne : request ≠ []) :
    ((b.act (.send l request)).site.network.link l).fromClient.bytes = request.take Pipe.capacity
      ∧ (b.act (.send l request)).PutsOff l (request.drop Pipe.capacity) := by
  have hroom : (b.site.network.link l).fromClient.room = Pipe.capacity := by
    rw [Pipe.room, h.heardOut.unasked]
    rfl
  have hpoured : (b.act (.send l request)).site.network.link l
      = (b.site.network.link l).pour request := by
    rw [act, send_open hne h.opened.1, site_putOff]
    exact Network.link_setLink_self _ _ _ (lt_of_open h.opened.1)
  constructor
  · rw [hpoured, bytes_pour, h.heardOut.unasked, hroom, List.nil_append]
  · have hnone := putsOff_nil.2 h.heardOut.unsent
    rw [PutsOff, if_pos rfl] at hnone
    rw [PutsOff, act, send_open hne h.opened.1, hroom, ← List.drop_eq_drop_min, putOff]
    by_cases hrest : request.drop Pipe.capacity = []
    · rw [if_pos hrest, if_pos (List.isEmpty_iff.2 hrest)]
      exact hnone
    · rw [if_neg hrest, if_neg (mt List.isEmpty_iff.1 hrest)]
      show unsentBy l (b.unsent ++ [(l, request.drop Pipe.capacity)]) = _
      rw [unsentBy, List.filter_append, ← unsentBy, hnone]
      simp

theorem Idle.send (h : b.Idle l) (hne : request ≠ []) :
    (b.act (.send l request)).Reading l request [] := by
  obtain ⟨hbytes, hputs⟩ := h.pour hne
  have hkeeps := (b.keeps_send l request l).1
  refine ⟨hkeeps.known.2 (lt_of_open h.opened.1), h.whole.of_retains hkeeps.retains, fun _ => ?_⟩
  refine ⟨_, hputs, fun buffer handed _ hh => ?_⟩
  rw [hbytes]
  cases hh with
  | none => exact .start
  | one call hc hbegun => exact absurd ((hkeeps.begun call hc).1 hbegun) (h.heardOut.unbegun call hc)

/-- The calls of a run tell which pieces of a message were read, if nothing else is sent. -/
theorem Idle.reading {after : List Act} (h : b.Idle l) (hb : b.Sane) (hne : request ≠ [])
    (hafter : ∀ bytes, .send l bytes ∉ after) :
    (b.run (.send l request :: after)).Reading l request
      ((calls (on l (b.story (.send l request :: after)))).map Prod.fst) := by
  have hrun := (h.send hne).run (hb.act _) hafter
  rw [run_cons, story, on_append, calls_append, calls_observe_send]
  exact hrun

/-- A message that was heard out was read in a finished cut. -/
theorem Reading.finished {s : Server} {c : Conn}
    (h : b.Reading l request pieces) (ho : b.Open l) (hheard : b.HeardOut l) (hc : c.link = l)
    (hserves : b.Serves id c errand) (hs : b.server? id = some s) :
    Wire.Cut s.buffer request pieces [] [] := by
  obtain ⟨later, hlater, hcut⟩ := h.cut ho.1
  have hnone := hlater.eq_nil hheard.unsent
  subst hnone
  have hfinished := hcut s.buffer [] (.served id s c _ hc hserves hs rfl) (.none hheard.unbegun)
  rwa [hheard.unasked, List.append_nil] at hfinished

/-! ## Getting to the end of a message -/

theorem pending_of_flushFirst {n : Network} {unsent : List (LinkId × List UInt8)}
    (h : flushFirst n unsent = none) :
    ∀ u ∈ unsent, (n.write u.1 .client u.2).1 = .pending := by
  induction unsent with
  | nil => simp
  | cons u rest ih =>
    obtain ⟨link, bytes⟩ := u
    rw [flushFirst] at h
    split at h
    · cases h
    · cases h
    · rename_i hw
      intro u hu
      rcases List.mem_cons.1 hu with rfl | hu
      · exact congrArg Prod.fst hw
      · exact ih (Option.map_eq_none_iff.1 h) u hu

/-- When all is quiet and the client has received all that was on its way to it, it was heard
out. -/
theorem Attends.heardOut_of_quiet (h : b.Attends id l) (hq : b.Quiet)
    (hdrained : (b.site.network.link l).fromHost.bytes = []) : b.HeardOut l := by
  obtain ⟨⟨u, s, e, hs, ht⟩, hopen⟩ := h
  have hstalled : s.move b.site = none := by simpa [moveServer, hs] using hq.1 id
  have hasked : (b.site.network.link l).fromClient.bytes = [] := by
    rcases Server.stalled_of_move hstalled with ht' | ⟨time, ht'⟩ | ⟨e', n, ht', -⟩
      | ⟨e', c, after, n, ht', hr⟩ | ⟨e', c, u', n, ht', hne, hw⟩
    · cases ht.symm.trans ht'
    · cases ht.symm.trans ht'
    · cases ht.symm.trans ht'
    · cases ht.symm.trans ht'
      exact (Conn.read_pending hr).1
    · cases ht.symm.trans ht'
      have hroom := (Conn.write_pending hw).2.2
      rw [Pipe.room, hdrained] at hroom
      cases hroom
  refine ⟨hasked, fun k _ => hq.not_begun k, fun bytes hmem => ?_⟩
  have hpending := pending_of_flushFirst (Option.map_eq_none_iff.1 hq.2.1) _ hmem
  rw [Network.write_client, hopen.1, Pipe.room, hasked] at hpending
  cases hpending

/-- What is on its way between a server and its client, with what the client put off. -/
structure Midway (b : Switchboard) (id : ServerId) (l : LinkId) (asked later : List UInt8)
    (errand : Errand) : Prop where
  sane : b.Sane
  between : ∃ told, (b.withUnsent []).Between id l asked told errand
  putsOff : b.PutsOff l later

/-- What a server does for its client, and what the client does to be heard out. -/
def Act.Proceeds (id : ServerId) (l : LinkId) (a : Act) : Prop :=
  a = .move id ∨ a = .receive l ∨ ∃ index, a = .write index

theorem Between.receive (h : b.Between id l asked told errand) (hb : b.Sane) :
    (b.act (.receive l)).Between id l asked [] errand := by
  have hlink : (b.act (.receive l)).site.network.link l
      = (b.site.network.link l).withReply [] :=
    Network.link_setLink_self _ _ _ (h.serves.lt hb.tidy)
  refine ⟨h.serves, h.opened.of_link hlink rfl rfl, ?_, by rw [hlink]; rfl, h.unsent⟩
  rw [hlink]
  exact h.asked_eq

/-- A client that receives what there is makes room for more of the reply. -/
theorem Between.relieved (h : (b.withUnsent []).Between id l asked told (.reply rest))
    (hb : b.Sane) (hne : rest ≠ []) : ∃ told' rest' : List UInt8, rest'.length < rest.length
      ∧ ((b.run [.receive l, .move id]).withUnsent []).Between id l asked told' (.reply rest') := by
  have hreceived := h.receive (hb.withUnsent [])
  rw [act_withUnsent (by simp) (by simp)] at hreceived
  have hwrote := hreceived.wrote ((hb.act (.receive l)).withUnsent []) hne (by decide)
  rw [act_move_withUnsent] at hwrote
  refine ⟨_, _, ?_, hwrote⟩
  have hpos := List.length_pos_iff.2 hne
  have hcapacity : 0 < Pipe.capacity := by decide
  rw [List.length_drop, List.length_nil]
  omega

/-- Moves of the server and receipts leave what the client put off. -/
theorem Midway.putsOff_act (h : b.Midway id l asked later errand)
    (ha : a = .move id ∨ a = .receive l) : (b.act a).PutsOff l later := by
  rcases ha with rfl | rfl
  · exact h.putsOff.act h.sane (by simp) (by simp) (by simp)
  · exact h.putsOff.act h.sane (by simp) (by simp) (by simp)

theorem Midway.wrote (h : b.Midway id l asked later (.reply rest)) (hne : rest ≠ []) :
    ∃ rest' : List UInt8, rest'.length < rest.length
      ∧ (b.run [.receive l, .move id]).Midway id l asked later (.reply rest') := by
  obtain ⟨told, hbetween⟩ := h.between
  obtain ⟨told', rest', hshorter, hwrote⟩ := hbetween.relieved h.sane hne
  have hmoved : ((b.act (.receive l)).act (.move id)).PutsOff l later :=
    (h.putsOff_act (.inr rfl)).act (h.sane.act _) (by simp) (by simp) (by simp)
  exact ⟨rest', hshorter, h.sane.run _, ⟨told', hwrote⟩, hmoved⟩

/-- A server that has written its reply reads on. -/
theorem Midway.heard (h : b.Midway id l asked later (.reply [])) (hne : asked ≠ []) :
    ∃ asked' message : List UInt8, asked'.length < asked.length
      ∧ (b.act (.move id)).Midway id l asked' later (.call message) := by
  obtain ⟨told, hbetween⟩ := h.between
  have hserves := hbetween.serves
  obtain ⟨s, e, hs, -⟩ := hserves
  obtain ⟨hheard, -⟩ := hbetween.heard (h.sane.withUnsent []) hne hs
  rw [act_move_withUnsent] at hheard
  refine ⟨_, _, ?_, h.sane.act _, ⟨told, hheard⟩, h.putsOff_act (.inl rfl)⟩
  have hbuffer := h.sane.readable s (mem_servers_of_server? hs)
  have hpos := List.length_pos_iff.2 hne
  rw [List.length_drop]
  rw [Server.minBuffer] at hbuffer
  omega

theorem Midway.answered {message : List UInt8} (h : b.Midway id l asked later (.call message)) :
    ∃ rest, (b.act (.move id)).Midway id l asked later (.reply rest) := by
  obtain ⟨told, hbetween⟩ := h.between
  have hserves := hbetween.serves
  obtain ⟨s, e, hs, -⟩ := hserves
  have hanswered := hbetween.answered (h.sane.withUnsent []) hs
  rw [act_move_withUnsent] at hanswered
  exact ⟨_, h.sane.act _, ⟨told, hanswered⟩, h.putsOff_act (.inl rfl)⟩

/-- A client whose pipe is empty goes on writing. -/
theorem Midway.poured (h : b.Midway id l [] later (.reply [])) (hne : later ≠ []) :
    ∃ index, (b.act (.write index)).Midway id l (later.take Pipe.capacity)
      (later.drop Pipe.capacity) (.reply []) := by
  obtain ⟨told, hbetween⟩ := h.between
  obtain ⟨index, hu⟩ := h.putsOff.exists_index hne
  have hopen : b.Open l := hbetween.opened
  have hroom : (b.site.network.link l).fromClient.room = Pipe.capacity := hbetween.room_eq
  have hact := act_write hu hopen.1 (by rw [hroom]; decide)
  have hlt := lt_of_open hopen.1
  have hpoured : (b.act (.write index)).site.network.link l
      = (b.site.network.link l).pour later := by
    rw [hact]
    exact Network.link_setLink_self _ _ _ hlt
  refine ⟨index, h.sane.act _,
    ⟨told, ?_, hopen.of_link hpoured rfl rfl, ?_, ?_, by simp [withUnsent]⟩, ?_⟩
  · have hserves : b.Serves id ⟨l, none⟩ (.reply []) := hbetween.serves
    exact ((b.keeps_write index l).serves id ⟨l, none⟩ _ rfl).2 hserves
  · have hempty : (b.site.network.link l).fromClient.bytes = [] := hbetween.asked_eq
    show ((b.act (.write index)).site.network.link l).fromClient.bytes = _
    rw [hpoured, bytes_pour, hroom, hempty, List.nil_append]
  · show ((b.act (.write index)).site.network.link l).fromHost.bytes = _
    rw [hpoured]
    exact hbetween.told_eq
  · rw [PutsOff, hact, hroom]
    exact h.putsOff.write hu

/-- The connection can come so far that nothing is on its way to the server. -/
def Finishes (b : Switchboard) (id : ServerId) (l : LinkId) : Prop :=
  ∃ acts : List Act, (∀ a ∈ acts, a.Proceeds id l) ∧ (b.run acts).Midway id l [] [] (.reply [])

theorem Finishes.after (first : List Act) (hfirst : ∀ a ∈ first, a.Proceeds id l)
    (h : (b.run first).Finishes id l) : b.Finishes id l := by
  obtain ⟨acts, hacts, hend⟩ := h
  refine ⟨first ++ acts, fun a ha => (List.mem_append.1 ha).elim (hfirst a) (hacts a), ?_⟩
  rw [run_append]
  exact hend

/-- The server writes its reply before it reads on, and reads and answers all that is in the pipe
before the client has to write more. -/
theorem Midway.reply_finishes {b : Switchboard} {asked later rest : List UInt8}
    (h : b.Midway id l asked later (.reply rest)) : b.Finishes id l := by
  by_cases hrest : rest = []
  · subst hrest
    by_cases hasked : asked = []
    · subst hasked
      by_cases hlater : later = []
      · subst hlater
        exact ⟨[], by simp, h⟩
      · obtain ⟨index, hnext⟩ := h.poured hlater
        have hpos := List.length_pos_iff.2 hlater
        have hcapacity : 0 < Pipe.capacity := by decide
        have hshorter : 2 * (later.drop Pipe.capacity).length + (later.take Pipe.capacity).length
            < 2 * later.length := by
          rw [List.length_drop, List.length_take]
          omega
        exact .after [.write index] (by simp [Act.Proceeds]) hnext.reply_finishes
    · obtain ⟨asked', message, hshorter, hheard⟩ := h.heard hasked
      obtain ⟨rest', hnext⟩ := hheard.answered
      exact .after [.move id, .move id] (by simp [Act.Proceeds]) hnext.reply_finishes
  · obtain ⟨rest', hshorter, hnext⟩ := h.wrote hrest
    exact .after [.receive l, .move id] (by simp [Act.Proceeds]) hnext.reply_finishes
termination_by (2 * later.length + asked.length, rest.length)
decreasing_by
  · exact .left _ _ (by omega)
  · exact .left _ _ (by omega)
  · exact .right _ hshorter

theorem Midway.finishes (h : b.Midway id l asked later errand) : b.Finishes id l := by
  cases errand with
  | call message =>
    obtain ⟨rest, hnext⟩ := h.answered
    exact .after [.move id] (by simp [Act.Proceeds]) hnext.reply_finishes
  | reply rest => exact h.reply_finishes

theorem Reading.midway (h : b.Reading l request pieces) (hb : b.Sane)
    (hs : b.Serves id ⟨l, none⟩ errand) (ho : b.Open l) :
    ∃ asked later, b.Midway id l asked later errand := by
  obtain ⟨later, hlater, -⟩ := h.cut ho.1
  exact ⟨_, later, hb, ⟨_, hs, ho, rfl, rfl, by simp [withUnsent]⟩, hlater⟩

theorem Midway.attends (h : b.Midway id l asked later errand) : b.Attends id l := by
  obtain ⟨told, hbetween⟩ := h.between
  exact ⟨⟨errand, hbetween.serves⟩, hbetween.opened⟩

theorem Midway.heardOut (h : b.Midway id l [] [] (.reply rest)) : b.HeardOut l := by
  obtain ⟨told, hbetween⟩ := h.between
  have hserves : b.Serves id ⟨l, none⟩ (.reply rest) := hbetween.serves
  refine ⟨hbetween.asked_eq, fun k hk hbegun => ?_, putsOff_nil.1 h.putsOff⟩
  obtain ⟨-, hcall, -⟩ := h.sane.tidy.errand_of_begun hbegun hserves hk.symm
  cases hcall

/-! ## What is read of a message -/

theorem server_run {s : Server} (hb : b.Sane) (hs : b.server? id = some s) (acts : List Act) :
    ∃ s', (b.run acts).server? id = some s' ∧ s'.profile = s.profile := by
  induction acts generalizing b s with
  | nil => exact ⟨s, hs, rfl⟩
  | cons a acts ih =>
    obtain ⟨s₁, hs₁, hprofile₁⟩ := (change_act hb.tidy a).server hs
    obtain ⟨s₂, hs₂, hprofile₂⟩ := ih (hb.act a) hs₁
    exact ⟨s₂, hs₂, hprofile₂.trans hprofile₁⟩

theorem server?_add_self (b : Switchboard) (name : String) (handler : Handler)
    (buffer backoff : Nat) : (b.act (.add name handler buffer backoff)).server? ⟨b.servers.length⟩
      = some (Server.create name handler buffer backoff) := by
  simp [act, add, server?]

/-- A server stays as it was made. -/
theorem profile_of_add {made : List Act} {name : String} {handler : Handler} {size backoff : Nat}
    {s : Server} (hmade : (b.run made).Sane) (more : List Act)
    (hs : (b.run (made ++ .add name handler size backoff :: more)).server?
      ⟨(b.run made).servers.length⟩ = some s) :
    s.profile = (Server.create name handler size backoff).profile := by
  obtain ⟨s', hs', hprofile⟩ := server_run (hmade.act (.add name handler size backoff))
    (server?_add_self _ name handler size backoff) more
  rw [run_append, run_cons, hs'] at hs
  cases hs
  exact hprofile

/-- A server is made with a buffer of some size. On an idle connection its client sends a message of
plain characters in one go, stays, and sends nothing more. When the message was heard out, the texts
that the handler got are together the message if and only if no unit but the last was cut: the
buffer is even, or holds all that the pipe holds, or all but the last byte of the message. The
message was heard out whenever all is quiet and the client received all replies, and can always be
heard out. -/
theorem read_whole_iff (host : Host) (made more after : List Act) (name : String)
    (handler : Handler) (size backoff : Nat) {id : ServerId} {l : LinkId} {m : String}
    {b b' : Switchboard} (hid : id = ⟨((create (.inMemory host)).run made).servers.length⟩)
    (hb : b = (create (.inMemory host)).run (made ++ .add name handler size backoff :: more))
    (hidle : b.Idle l) (hplain : ∀ c ∈ m.toList, Wire.Plain c)
    (hafter : ∀ bytes, .send l bytes ∉ after)
    (hb' : b' = b.run (.send l (Wire.encode m) :: after)) (hattends : b'.Attends id l) :
    (b'.HeardOut l →
      (Wire.textOf
          ((calls (on l (b.story (.send l (Wire.encode m) :: after)))).map Prod.fst) = m
        ↔ max size Server.minBuffer % 2 = 0 ∨ Pipe.capacity ≤ max size Server.minBuffer
          ∨ (Wire.encode m).length ≤ max size Server.minBuffer + 1))
    ∧ (b'.Quiet → (b'.site.network.link l).fromHost.bytes = [] → b'.HeardOut l)
    ∧ ∃ finish : List Act, (∀ a ∈ finish, a.Proceeds id l)
      ∧ (b'.run finish).Attends id l ∧ (b'.run finish).HeardOut l := by
  have hmade := (sane_create host).run made
  have hsane : b.Sane := hb ▸ (sane_create host).run _
  have hsane' : b'.Sane := hb' ▸ hsane.run _
  obtain ⟨⟨u, hserves⟩, hopen⟩ := hattends
  have hreading : b'.Reading l (Wire.encode m)
      ((calls (on l (b.story (.send l (Wire.encode m) :: after)))).map Prod.fst) :=
    hb' ▸ hidle.reading hsane (Wire.encode_ne_nil m) hafter
  refine ⟨fun hheard => ?_, fun hq hdrained => Attends.heardOut_of_quiet ⟨⟨u, hserves⟩, hopen⟩ hq
    hdrained, ?_⟩
  · have hserver := hserves
    obtain ⟨s, e, hs, -⟩ := hserver
    have hfinished := hreading.finished hopen hheard rfl hserves hs
    have hbuffer : s.buffer = max size Server.minBuffer := by
      rw [hb', hb, ← run_append, List.append_assoc, List.cons_append, hid] at hs
      exact congrArg (·.2.2.1) (profile_of_add hmade _ hs)
    rw [hbuffer] at hfinished
    exact hfinished.textOf_eq_iff (Nat.lt_of_lt_of_le (by decide) (Nat.le_max_right ..)) hplain
  · obtain ⟨asked, later, hmidway⟩ := hreading.midway hsane' hserves hopen
    obtain ⟨finish, hfinish, hend⟩ := hmidway.finishes
    exact ⟨finish, hfinish, hend.attends, hend.heardOut⟩

/-- A client connects to a server with a buffer of this size, which repeats what it hears. -/
def vestibule (size : Nat) : List Act :=
  .add "parlour" (.callback fun message => .reply message) size 1
    :: [.start ⟨0⟩, .move ⟨0⟩, .connect "parlour"]

/-- The server takes the client, reads, answers and writes so many times, and the client receives the
replies. -/
def audience (rounds : Nat) : List Act :=
  .move ⟨0⟩ :: (List.replicate (3 * rounds) (.move ⟨0⟩) ++ [.receive ⟨0⟩])

/-- What the server hears of a greeting. -/
def heardGreeting (size rounds : Nat) : List (List UInt8) :=
  (calls (on ⟨0⟩ ((lobby.run (vestibule size)).story
    (.send ⟨0⟩ (Wire.encode "hello") :: audience rounds)))).map Prod.fst

theorem idle_vestibule (size : Nat) : (lobby.run (vestibule size)).Idle ⟨0⟩ where
  opened := ⟨rfl, rfl⟩
  heardOut := ⟨rfl, fun k _ hbegun => (by cases begun_iff_mem.1 hbegun), fun _ hmem => by cases hmem⟩
  whole := by
    have hlisteners : (lobby.run (vestibule size)).site.network.listeners
        = [⟨"parlour", [.conn ⟨⟨0⟩, none⟩], true, true⟩] := rfl
    rintro c - (⟨lis, hlis, hmem⟩ | ⟨⟨_ | index⟩, u, s, e, hs, ht⟩)
    · rw [hlisteners, List.mem_singleton] at hlis
      subst hlis
      cases List.mem_singleton.1 hmem
      rfl
    · cases hs
      cases ht
    · cases hs

theorem plain_hello : ∀ c ∈ "hello".toList, Wire.Plain c := by
  have hall : ("hello".toList.all fun c => decide (Wire.Plain c)) = true := by decide
  exact fun c hc => of_decide_eq_true (List.all_eq_true.1 hall c hc)

theorem greeting_heard :
    ((lobby.run (vestibule 4)).Idle ⟨0⟩ ∧ (∀ c ∈ "hello".toList, Wire.Plain c)
      ∧ (∀ bytes, .send ⟨0⟩ bytes ∉ audience 3)
      ∧ ((lobby.run (vestibule 4)).run
        (.send ⟨0⟩ (Wire.encode "hello") :: audience 3)).Attends ⟨0⟩ ⟨0⟩
      ∧ ((lobby.run (vestibule 4)).run
        (.send ⟨0⟩ (Wire.encode "hello") :: audience 3)).HeardOut ⟨0⟩)
    ∧ Wire.textOf (heardGreeting 4 3) = "hello" := by
  have hstays : ∀ bytes, .send ⟨0⟩ bytes ∉ audience 3 := by simp [audience]
  have hattends : ((lobby.run (vestibule 4)).run
      (.send ⟨0⟩ (Wire.encode "hello") :: audience 3)).Attends ⟨0⟩ ⟨0⟩ :=
    ⟨⟨.reply [], _, _, rfl, rfl⟩, rfl, rfl⟩
  have hheard : ((lobby.run (vestibule 4)).run
      (.send ⟨0⟩ (Wire.encode "hello") :: audience 3)).HeardOut ⟨0⟩ :=
    ⟨rfl, fun k _ hbegun => (by cases begun_iff_mem.1 hbegun), fun _ hmem => by cases hmem⟩
  refine ⟨⟨idle_vestibule 4, plain_hello, hstays, hattends, hheard⟩, ?_⟩
  have hread := read_whole_iff (.fresh 8) [] [.start ⟨0⟩, .move ⟨0⟩, .connect "parlour"]
    (audience 3) "parlour" (.callback fun message => .reply message) 4 1 rfl rfl (idle_vestibule 4)
    plain_hello hstays rfl hattends
  exact (hread.1 hheard).2 (.inl rfl)

/-- With a buffer of three bytes the greeting is cut in the midst of its second character. -/
theorem greeting_garbled : (lobby.run (vestibule 3)).Idle ⟨0⟩
    ∧ (∀ c ∈ "hello".toList, Wire.Plain c) ∧ (∀ bytes, .send ⟨0⟩ bytes ∉ audience 4)
    ∧ ((lobby.run (vestibule 3)).run
      (.send ⟨0⟩ (Wire.encode "hello") :: audience 4)).Attends ⟨0⟩ ⟨0⟩
    ∧ ((lobby.run (vestibule 3)).run
      (.send ⟨0⟩ (Wire.encode "hello") :: audience 4)).HeardOut ⟨0⟩
    ∧ Wire.textOf (heardGreeting 3 4) ≠ "hello" := by
  refine ⟨idle_vestibule 3, plain_hello, by simp [audience], ⟨⟨.reply [], _, _, rfl, rfl⟩, rfl, rfl⟩,
    ⟨rfl, ?_, ?_⟩, ?_⟩
  · intro k _ hbegun
    cases begun_iff_mem.1 hbegun
  · intro bytes hmem
    cases hmem
  · have hheard : heardGreeting 3 4 = [[104, 0, 101], [0, 108, 0], [108, 0, 111], [0, 0, 0]] := rfl
    rw [hheard]
    decide

end Switchboard

end KeyBridge
