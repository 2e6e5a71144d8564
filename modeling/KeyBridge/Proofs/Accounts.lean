-- SUMMARY: What is owed on a connection whose client sends one request at a time.
import KeyBridge.Proofs.Codec
import KeyBridge.Proofs.Passages

/-!
# Accounts

A polite client sends its next request when it has received the whole reply to the one before. Its
connection then has an account that balances at every moment: what was received, what is on its way
back and what the server has yet to write are together the replies to all calls so far; and what
is on its way to the server, or was handed over for a call that was begun, is what was asked and not
called. `Orderly.act` keeps the accounts in every act.
-/

namespace KeyBridge

namespace Switchboard

open Incident

/-! ## Politeness -/

/-- All that was asked on a connection was answered, and the client received the replies. -/
def CaughtUp (h : List Incident) : Prop :=
  (calls h).length = (requests h).length ∧ receipts h = replies (calls h)

/-- Clients send one message at a time, each of at most so many bytes, and servers have room for
them. Anything else may happen. -/
def Polite (room : Nat) (_ : Switchboard) (past : List Incident) : Act → Prop
  | .add _ _ buffer _ => room ≤ max buffer Server.minBuffer
  | .send link bytes =>
    (∃ text, bytes = Wire.encode text) ∧ bytes.length ≤ room ∧ CaughtUp (on link past)
  | _ => True

/-! ## Accounts -/

variable {room : Nat} {b b' : Switchboard} {l : LinkId} {a : Act}
  {h i : List Incident}

/-- A connection that does not exist yet. -/
structure Unborn (b : Switchboard) (l : LinkId) (h : List Incident) : Prop where
  ahead : b.site.network.links.length ≤ l.index
  unbroken : breaks h = []
  unasked : requests h = []
  uncalled : calls h = []
  unreceived : receipts h = []

/-- The account of a client's connection. -/
structure Client (room : Nat) (b : Switchboard) (l : LinkId) (h : List Incident) : Prop where
  born : l.index < b.site.network.links.length
  unbroken : breaks h = []
  /-- Who waits has not been called. -/
  queued : ∀ c, c.link = l → b.Queued c → c.breakage = none ∧ calls h = []
  /-- What was received, what is on its way and what is left to write are the replies. -/
  served : ∀ id c u, c.link = l → b.Serves id c u → c.breakage = none
    ∧ receipts h ++ (b.site.network.link l).fromHost.bytes ++ u.unsent = replies (calls h)
  told : receipts h ++ (b.site.network.link l).fromHost.bytes <+: replies (calls h)
  texts : ∀ r ∈ requests h, (∃ text, r = Wire.encode text) ∧ r.length ≤ room
  /-- What is on its way to the server was asked and not called. -/
  heard : (∀ k : Call, k.conn.link = l → ¬ b.Begun k) →
    (b.site.network.link l).fromClient.bytes = ((requests h).drop (calls h).length).flatten
  /-- A call that was begun is for the one request that was not called. -/
  begun : ∀ k : Call, k.conn.link = l → b.Begun k →
    (requests h).drop (calls h).length = [k.bytes]
      ∧ (b.site.network.link l).fromClient.bytes = []
  called : (calls h).map Prod.fst = (requests h).take (calls h).length
  turn : (calls h).length ≤ (requests h).length ∧ (requests h).length ≤ (calls h).length + 1
  behind : replies ((calls h).take ((requests h).length - 1)) <+: receipts h

/-- The account of a connection that breaks on purpose: it has no client, and one call at most. -/
structure Broken (b : Switchboard) (l : LinkId) (h : List Incident) (how : Breakage) : Prop where
  born : l.index < b.site.network.links.length
  broken : breaks h = [how]
  unasked : requests h = []
  unreceived : receipts h = []
  dropped : b.site.network.link l = Link.fresh.drop
  queued : ∀ c, c.link = l → b.Queued c → c.breakage = some how ∧ calls h = []
  served : ∀ id c u, c.link = l → b.Serves id c u →
    (calls h = [] ∧ u = .reply [] ∧ c.breakage = some how) ∨ (u ≠ .reply [] ∧ c.breakage.isSome)
  begun : ∀ k : Call, k.conn.link = l → b.Begun k →
    calls h = [] ∧ ∃ message count, how = .writing message ∧ k.bytes = message.take count
  once : calls h = [] ∨
    ∃ message count answer, how = .writing message ∧ calls h = [(message.take count, answer)]

/-- Every connection has one of the three accounts. -/
def Account (room : Nat) (b : Switchboard) (l : LinkId) (h : List Incident) : Prop :=
  Unborn b l h ∨ Client room b l h ∨ ∃ how, Broken b l h how

/-! ## Connections that are made -/

theorem Unborn.of_unknown (ha : Unborn b l h) (hnot : ¬ l.index < b'.site.network.links.length) :
    Unborn b' l h where
  ahead := by omega
  unbroken := ha.unbroken
  unasked := ha.unasked
  uncalled := ha.uncalled
  unreceived := ha.unreceived

/-- Someone who connects owes nothing and is owed nothing. -/
theorem Unborn.step_opened (ha : Unborn b l h) (ht' : b'.Tidy)
    (hlink : b'.site.network.link l = .fresh) (hqueued : b'.Queued ⟨l, none⟩)
    (hunique : ∀ c, c.link = l → b'.Queued c → c = ⟨l, none⟩) : Client room b' l h where
  born := Queued.lt ht' hqueued
  unbroken := ha.unbroken
  queued c hc hq := by
    rw [hunique c hc hq]
    exact ⟨rfl, ha.uncalled⟩
  served id c u hc hs := absurd hs (ht'.not_serves hqueued hc)
  told := by simp [ha.unreceived, hlink, Link.fresh, Pipe.fresh]
  texts := by simp [ha.unasked]
  heard _ := by simp [ha.unasked, hlink, Link.fresh, Pipe.fresh]
  begun k hk hbegun := absurd hqueued (ht'.not_queued_of_begun hbegun hk.symm)
  called := by simp [ha.unasked, ha.uncalled]
  turn := by simp [ha.unasked, ha.uncalled]
  behind := by simp [ha.uncalled]

theorem Unborn.step_broke (ha : Unborn b l h) (ht' : b'.Tidy) {how : Breakage}
    (hlink : b'.site.network.link l = Link.fresh.drop) (hqueued : b'.Queued ⟨l, some how⟩)
    (hunique : ∀ c, c.link = l → b'.Queued c → c = ⟨l, some how⟩) :
    Broken b' l (h ++ [.broke l how]) how where
  born := Queued.lt ht' hqueued
  broken := by simp [ha.unbroken]
  unasked := by simp [ha.unasked]
  unreceived := by simp [ha.unreceived]
  dropped := hlink
  queued c hc hq := by
    rw [hunique c hc hq]
    simp [ha.uncalled]
  served id c u hc hs := absurd hs (ht'.not_serves hqueued hc)
  begun k hk hbegun := absurd hqueued (ht'.not_queued_of_begun hbegun hk.symm)
  once := by simp [ha.uncalled]

theorem Unborn.step (ha : Unborn b l h) (hp : Passage b b' a l i) (ht : b.Tidy) (ht' : b'.Tidy)
    (hunsent : b.unsent = []) : Account room b' l (h ++ i) := by
  have hborn : ¬ l.index < b.site.network.links.length := Nat.not_lt.2 ha.ahead
  have hlink : b.site.network.link l = Link.fresh.drop := Network.link_of_le _ _ ha.ahead
  cases hp with
  | kept hkeeps =>
    rw [List.append_nil]
    exact .inl (ha.of_unknown (mt hkeeps.known.1 hborn))
  | left hretains =>
    rw [List.append_nil]
    exact .inl (ha.of_unknown (mt hretains.known.1 hborn))
  | opened hindex hlink hqueued hunique =>
    rw [List.append_nil]
    exact .inr (.inl (ha.step_opened ht' hlink hqueued hunique))
  | broke name how hfail hindex hlink hqueued hunique =>
    exact .inr (.inr ⟨how, ha.step_broke ht' hlink hqueued hunique⟩)
  | asked bytes hkeeps hsend hne hopen => exact absurd (lt_of_open hopen) hborn
  | flushed bytes hkeeps hmem => simp [hunsent] at hmem
  | received hkeeps =>
    obtain ⟨hahead, hunbroken, hunasked, huncalled, hunreceived⟩ :=
      ha.of_unknown (mt hkeeps.known.1 hborn)
    refine .inl ⟨hahead, ?_, ?_, ?_, ?_⟩
    · simpa using hunbroken
    · simpa using hunasked
    · simpa using huncalled
    · simp [hunreceived, hlink, Link.fresh, Pipe.fresh]
  | accepted id c hc hq => exact absurd (hc ▸ Queued.lt ht hq) hborn
  | heard id s c after bytes n hs hc hserves => exact absurd (hc ▸ Serves.lt ht hserves) hborn
  | answered id k hk hbegun => exact absurd (hk ▸ hbegun.lt ht) hborn
  | carriedOut k hk hmem => exact absurd (hk ▸ ht.called k hmem) hborn
  | told id c unsent count n hc hserves => exact absurd (hc ▸ Serves.lt ht hserves) hborn

/-! ## Connections that break on purpose -/

section Broken

variable {how : Breakage} {id : ServerId} {c : Conn}

theorem Broken.of_retains (ha : Broken b l h how) (hretains : Retains b b' l)
    (hlink : b'.site.network.link l = b.site.network.link l
      ∨ b'.site.network.link l = (b.site.network.link l).drop) : Broken b' l h how where
  born := hretains.known.2 ha.born
  broken := ha.broken
  unasked := ha.unasked
  unreceived := ha.unreceived
  dropped := by
    rcases hlink with hlink | hlink <;> rw [hlink, ha.dropped]
    exact Link.drop_drop _
  queued c hc hq := ha.queued c hc (hretains.queued c hc hq)
  served id c u hc hs := ha.served id c u hc (hretains.serves id c u hc hs)
  begun k hk hbegun := ha.begun k hk ((hretains.begun k hk).1 hbegun)
  once := ha.once

theorem Broken.step_received (ha : Broken b l h how) (hkeeps : Keeps b b' l)
    (hlink : b'.site.network.link l = (b.site.network.link l).withReply []) :
    Broken b' l (h ++ [.received l (b.site.network.link l).fromHost.bytes]) how where
  born := hkeeps.known.2 ha.born
  broken := by simpa using ha.broken
  unasked := by simpa using ha.unasked
  unreceived := by simpa [ha.dropped, Link.fresh, Pipe.fresh] using ha.unreceived
  dropped := by
    rw [hlink, ha.dropped]
    rfl
  queued c hc hq := by simpa using ha.queued c hc ((hkeeps.queued c hc).1 hq)
  served id c u hc hs := by simpa using ha.served id c u hc ((hkeeps.serves id c u hc).1 hs)
  begun k hk hbegun := by simpa using ha.begun k hk ((hkeeps.begun k hk).1 hbegun)
  once := by simpa using ha.once

theorem Broken.step_accepted (ha : Broken b l h how) (ht' : b'.Tidy) (hc : c.link = l)
    (hq : b.Queued c) (hserves : b'.Serves id c (.reply []))
    (hlink : b'.site.network.link l = b.site.network.link l) : Broken b' l h how where
  born := hc ▸ hserves.lt ht'
  broken := ha.broken
  unasked := ha.unasked
  unreceived := ha.unreceived
  dropped := hlink.trans ha.dropped
  queued c' hc' hq' := absurd hq' (ht'.not_queued hserves (hc'.trans hc.symm))
  served id' c' u' hc' hs' := by
    obtain ⟨-, rfl, rfl⟩ := ht'.serves_unique hserves hs' (hc'.trans hc.symm)
    obtain ⟨hhow, huncalled⟩ := ha.queued c' hc hq
    exact .inl ⟨huncalled, rfl, hhow⟩
  begun k hk hbegun := by
    obtain ⟨-, hcall, -⟩ := ht'.errand_of_begun hbegun hserves (hc.trans hk.symm)
    cases hcall
  once := ha.once

/-- Its one call is for the message that the failing write comes with. -/
theorem Broken.step_heard (ha : Broken b l h how) (ht' : b'.Tidy) {s : Server} {after : Conn}
    {bytes : List UInt8} {n : Network} (hc : c.link = l)
    (hserves : b.Serves id c (.reply [])) (hne : bytes ≠ [])
    (hr : c.read s.buffer b.site.network = (.done bytes, after, n))
    (hlink : b'.site.network.link l = n.link l) (hserves' : b'.Serves id after (.call bytes)) :
    Broken b' l h how := by
  have hdropped := ha.dropped
  rw [← hc] at hdropped
  rcases ha.served id c _ hc hserves with ⟨huncalled, -, hhow⟩ | ⟨hnil, -⟩
  · rcases Conn.read_message hr hne with ⟨-, hbytes, -⟩
      | ⟨message, -, hwriting, rfl, hbytes, hafter⟩
    · rw [hdropped] at hbytes
      exact absurd rfl hbytes
    · cases hhow.symm.trans hwriting
      have hafterLink : after.link = l := by rw [hafter, hc]
      exact {
        born := hafterLink ▸ hserves'.lt ht'
        broken := ha.broken
        unasked := ha.unasked
        unreceived := ha.unreceived
        dropped := hlink.trans ha.dropped
        queued := fun c' hc' hq' =>
          absurd hq' (ht'.not_queued hserves' (hc'.trans hafterLink.symm))
        served := by
          intro id' c' u' hc' hs'
          obtain ⟨-, rfl, rfl⟩ := ht'.serves_unique hserves' hs' (hc'.trans hafterLink.symm)
          exact .inr ⟨by simp, by simp [hafter]⟩
        begun := by
          intro k hk hbegun
          obtain ⟨-, hcall, -⟩ := ht'.errand_of_begun hbegun hserves' (hafterLink.trans hk.symm)
          cases hcall
          exact ⟨huncalled, message, s.buffer, rfl, hbytes⟩
        once := .inl huncalled }
  · exact absurd rfl hnil

/-- Its one call is over, and nothing more is called. -/
theorem Broken.step_called (ha : Broken b l h how) {k : Call} {host : Host} (hk : k.conn.link = l)
    (hbegun : b.Begun k) (hlink : b'.site.network.link l = b.site.network.link l)
    (hknown : l.index < b'.site.network.links.length)
    (hqueued : ∀ c, c.link = l → ¬ b'.Queued c)
    (hserves : ∀ id c u, c.link = l → b'.Serves id c u → u ≠ .reply [] ∧ c.breakage.isSome)
    (hgone : ∀ k : Call, k.conn.link = l → ¬ b'.Begun k) :
    Broken b' l (h ++ [k.incident host]) how := by
  obtain ⟨huncalled, message, count, rfl, hbytes⟩ := ha.begun k hk hbegun
  have hcalls : calls (h ++ [k.incident host])
      = [(message.take count, (k.handler.run (Wire.decode k.bytes) host).1)] := by
    rw [calls_append, huncalled, ← hbytes]
    rfl
  exact {
    born := hknown
    broken := by simpa [Call.incident] using ha.broken
    unasked := by simpa [Call.incident] using ha.unasked
    unreceived := by simpa [Call.incident] using ha.unreceived
    dropped := hlink.trans ha.dropped
    queued := fun c hc hq => absurd hq (hqueued c hc)
    served := fun id c u hc hs => .inr (hserves id c u hc hs)
    begun := fun k' hk' hbegun' => absurd hbegun' (hgone k' hk')
    once := .inr ⟨message, count, _, rfl, hcalls⟩ }

theorem Broken.step_answered (ha : Broken b l h how) (ht' : b'.Tidy) {k : Call}
    (hk : k.conn.link = l) (hbegun : b.Begun k) (hserves : b.Serves id k.conn (.call k.bytes))
    (hlink : b'.site.network.link l = b.site.network.link l) {text : String} {host : Host}
    (hserves' : b'.Serves id k.conn (.reply (Wire.encode text))) :
    Broken b' l (h ++ [k.incident host]) how := by
  refine ha.step_called hk hbegun hlink (hk ▸ hserves'.lt ht') ?_ ?_ ?_
  · exact fun c hc => ht'.not_queued hserves' (hc.trans hk.symm)
  · intro id' c u hc hs
    obtain ⟨-, rfl, rfl⟩ := ht'.serves_unique hserves' hs (hc.trans hk.symm)
    rcases ha.served id k.conn _ hk hserves with ⟨-, hcall, -⟩ | ⟨-, hsome⟩
    · cases hcall
    · exact ⟨by simpa using Wire.encode_ne_nil text, hsome⟩
  · intro k' hk' hbegun'
    obtain ⟨-, hcall, -⟩ := ht'.errand_of_begun hbegun' hserves' (hk.trans hk'.symm)
    cases hcall

theorem Broken.step (ha : Broken b l h how) (hp : Passage b b' a l i) (ht' : b'.Tidy) :
    Broken b' l (h ++ i) how := by
  cases hp with
  | kept hkeeps hlink =>
    rw [List.append_nil]
    exact ha.of_retains hkeeps.retains (.inl hlink)
  | left hretains hcause hlink =>
    rw [List.append_nil]
    exact ha.of_retains hretains hlink
  | opened hindex => exact absurd ha.born (by omega)
  | broke name how hfail hindex => exact absurd ha.born (by omega)
  | asked bytes hkeeps hsend hne hopen =>
    rw [ha.dropped] at hopen
    cases hopen
  | flushed bytes hkeeps hmem hopen =>
    rw [ha.dropped] at hopen
    cases hopen
  | received hkeeps hlink => exact ha.step_received hkeeps hlink
  | accepted id c hc hq hserves hlink =>
    rw [List.append_nil]
    exact ha.step_accepted ht' hc hq hserves hlink
  | heard id s c after bytes n hs hc hserves hne hr hlink hserves' =>
    rw [List.append_nil]
    exact ha.step_heard ht' hc hserves hne hr hlink hserves'
  | answered id k hk hbegun hserves hlink hserves' =>
    exact ha.step_answered ht' hk hbegun hserves hlink hserves'
  | carriedOut k hk hmem hnet hvacant =>
    refine ha.step_called hk (.inl hmem) (by rw [hnet]) (by rw [hnet]; exact ha.born)
      hvacant.queued ?_ hvacant.begun
    exact fun id c u hc hs => absurd hs (hvacant.serves id c u hc)
  | told id c unsent count n hc hserves hne hw =>
    rcases ha.served id c _ hc hserves with ⟨-, heq, -⟩ | ⟨-, hsome⟩
    · exact absurd (Errand.reply.inj heq) hne
    · rw [(Conn.write_done hw).1] at hsome
      cases hsome

end Broken

/-! ## Clients -/

theorem eq_nil_of_turn {α : Type} {k : Nat} {xs : List α} (h : k = xs.length) : xs.drop k = [] :=
  List.drop_eq_nil_of_le (Nat.le_of_eq h.symm)

/-- What waits to be read is one request, if there is anything. -/
theorem Client.next (ha : Client room b l h)
    (hbytes : (b.site.network.link l).fromClient.bytes ≠ []) :
    ∃ r, (requests h).drop (calls h).length = [r]
      ∧ (b.site.network.link l).fromClient.bytes = r ∧ r.length ≤ room
      ∧ (requests h).length = (calls h).length + 1 := by
  have hturn := ha.turn
  have hlength : ((requests h).drop (calls h).length).length
      = (requests h).length - (calls h).length := List.length_drop
  have hheard := ha.heard fun k hk hbegun => hbytes (ha.begun k hk hbegun).2
  rcases hrest : (requests h).drop (calls h).length with _ | ⟨r, rest⟩
  · rw [hrest] at hheard
    exact absurd hheard hbytes
  · have hmem : r ∈ requests h := List.mem_of_mem_drop (hrest ▸ List.mem_cons_self)
    rw [hrest, List.length_cons] at hlength
    have hnil : rest = [] := List.length_eq_zero_iff.1 (by omega)
    subst hnil
    exact ⟨r, rfl, by simpa [hrest] using hheard, (ha.texts r hmem).2, by omega⟩

/-- No call was begun for a client that is caught up. -/
theorem Client.not_begun (ha : Client room b l h) (hcalls : (calls h).length = (requests h).length)
    (k : Call) (hk : k.conn.link = l) : ¬ b.Begun k := by
  intro hbegun
  have hrest := (ha.begun k hk hbegun).1
  rw [eq_nil_of_turn hcalls] at hrest
  cases hrest

theorem Client.step_asked (ha : Client room b l h) (hroom : room ≤ Pipe.capacity)
    {bytes : List UInt8} (hkeeps : Keeps b b' l)
    (hlink : b'.site.network.link l = (b.site.network.link l).pour bytes)
    (htext : ∃ text, bytes = Wire.encode text) (hfits : bytes.length ≤ room)
    (hcaught : CaughtUp h) : Client room b' l (h ++ [.asked l bytes]) := by
  obtain ⟨hcalls, hreceipts⟩ := hcaught
  have hempty : (b.site.network.link l).fromClient.bytes = [] := by
    rw [ha.heard (ha.not_begun hcalls), eq_nil_of_turn hcalls]
    rfl
  have hpoured : b'.site.network.link l = (b.site.network.link l).withRequest bytes := by
    rw [hlink, Link.pour, hempty, List.nil_append, List.take_of_length_le]
    simp only [Pipe.room, hempty, List.length_nil]
    omega
  exact {
    born := hkeeps.known.2 ha.born
    unbroken := by simpa using ha.unbroken
    queued := fun c hc hq => by simpa using ha.queued c hc ((hkeeps.queued c hc).1 hq)
    served := by
      intro id c u hc hs
      have hserved := ha.served id c u hc ((hkeeps.serves id c u hc).1 hs)
      simpa [hpoured, Link.withRequest] using hserved
    told := by simpa [hpoured, Link.withRequest] using ha.told
    texts := by
      intro r hr
      rw [requests_append, List.mem_append] at hr
      rcases hr with hr | hr
      · exact ha.texts r hr
      · have heq : r = bytes := by simpa using hr
        exact heq ▸ ⟨htext, hfits⟩
    heard := fun _ => by simp [hpoured, Link.withRequest, hcalls]
    begun := fun k hk hbegun => absurd ((hkeeps.begun k hk).1 hbegun) (ha.not_begun hcalls k hk)
    called := by simpa [hcalls] using ha.called
    turn := by simp [hcalls]
    behind := by simp [← hcalls, hreceipts] }

theorem Client.step_received (ha : Client room b l h) (hkeeps : Keeps b b' l)
    (hlink : b'.site.network.link l = (b.site.network.link l).withReply []) :
    Client room b' l (h ++ [.received l (b.site.network.link l).fromHost.bytes]) where
  born := hkeeps.known.2 ha.born
  unbroken := by simpa using ha.unbroken
  queued c hc hq := by simpa using ha.queued c hc ((hkeeps.queued c hc).1 hq)
  served id c u hc hs := by
    have hserved := ha.served id c u hc ((hkeeps.serves id c u hc).1 hs)
    simpa [hlink, Link.withReply] using hserved
  told := by simpa [hlink, Link.withReply] using ha.told
  texts r hr := ha.texts r (by simpa using hr)
  heard hnone := by
    simpa [hlink, Link.withReply] using ha.heard fun k hk => mt (hkeeps.begun k hk).2 (hnone k hk)
  begun k hk hbegun := by
    simpa [hlink, Link.withReply] using ha.begun k hk ((hkeeps.begun k hk).1 hbegun)
  called := by simpa using ha.called
  turn := by simpa using ha.turn
  behind := by
    rw [receipts_append]
    refine List.IsPrefix.trans ?_ (List.prefix_append _ _)
    simpa using ha.behind

theorem Client.step_accepted (ha : Client room b l h) (ht' : b'.Tidy) {id : ServerId} {c : Conn}
    (ht : b.Tidy) (hc : c.link = l) (hq : b.Queued c) (hserves : b'.Serves id c (.reply []))
    (hlink : b'.site.network.link l = b.site.network.link l) : Client room b' l h where
  born := hc ▸ hserves.lt ht'
  unbroken := ha.unbroken
  queued c' hc' hq' := absurd hq' (ht'.not_queued hserves (hc'.trans hc.symm))
  served id' c' u' hc' hs' := by
    obtain ⟨-, rfl, rfl⟩ := ht'.serves_unique hserves hs' (hc'.trans hc.symm)
    obtain ⟨hwhole, huncalled⟩ := ha.queued c' hc hq
    have htold := ha.told
    rw [huncalled, replies_nil, List.prefix_nil] at htold
    exact ⟨hwhole, by rw [hlink, htold, huncalled]; rfl⟩
  told := hlink ▸ ha.told
  texts := ha.texts
  heard _ := by
    rw [hlink]
    exact ha.heard fun k hk hbegun => ht.not_queued_of_begun hbegun (hc.trans hk.symm) hq
  begun k hk hbegun := by
    obtain ⟨-, hcall, -⟩ := ht'.errand_of_begun hbegun hserves (hc.trans hk.symm)
    cases hcall
  called := ha.called
  turn := ha.turn
  behind := ha.behind

theorem Client.step_heard (ha : Client room b l h) (ht' : b'.Tidy) {id : ServerId} {s : Server}
    {c after : Conn} {bytes : List UInt8} {n : Network} (hbuffer : room ≤ s.buffer)
    (hc : c.link = l) (hserves : b.Serves id c (.reply [])) (hne : bytes ≠ [])
    (hr : c.read s.buffer b.site.network = (.done bytes, after, n))
    (hlink : b'.site.network.link l = n.link l) (hserves' : b'.Serves id after (.call bytes)) :
    Client room b' l h := by
  obtain ⟨hwhole, howed⟩ := ha.served id c _ hc hserves
  rcases Conn.read_message hr hne with ⟨-, hbytes, rfl, hread, rfl⟩ | ⟨_, -, hwriting, -⟩
  · rw [hc] at hbytes hread hlink
    obtain ⟨r, hrest, hwaiting, hfits, -⟩ := ha.next hbytes
    rw [hwaiting, List.take_of_length_le (Nat.le_trans hfits hbuffer)] at hread
    subst hread
    rw [Network.link_setLink_self _ _ _ ha.born, hwaiting,
      List.drop_of_length_le (Nat.le_trans hfits hbuffer)] at hlink
    have hto : (b'.site.network.link l).fromClient.bytes = [] := by rw [hlink]; rfl
    have hback : (b'.site.network.link l).fromHost.bytes
        = (b.site.network.link l).fromHost.bytes := by rw [hlink]; rfl
    have hsame (k : Call) (hk : k.conn.link = l) (hbegun : b'.Begun k) : k.bytes = bytes := by
      obtain ⟨-, hcall, -⟩ := ht'.errand_of_begun hbegun hserves' (hc.trans hk.symm)
      cases hcall
      rfl
    obtain ⟨handler, e, hthere⟩ := hserves'.begun
    exact {
      born := hc ▸ hserves'.lt ht'
      unbroken := ha.unbroken
      queued := fun c' hc' hq' => absurd hq' (ht'.not_queued hserves' (hc'.trans hc.symm))
      served := by
        intro id' c' u' hc' hs'
        obtain ⟨-, rfl, rfl⟩ := ht'.serves_unique hserves' hs' (hc'.trans hc.symm)
        exact ⟨hwhole, by rw [hback]; exact howed⟩
      told := by
        rw [hback]
        exact ha.told
      texts := ha.texts
      heard := fun hnone => absurd hthere (hnone _ hc)
      begun := fun k hk hbegun => by rw [hsame k hk hbegun]; exact ⟨hrest, hto⟩
      called := ha.called
      turn := ha.turn
      behind := ha.behind }
  · rw [hwhole] at hwriting
    cases hwriting

/-- A call that is carried out, by its server or after the server was shut down. -/
theorem Client.step_called (ha : Client room b l h) {k : Call} {host : Host} (hk : k.conn.link = l)
    (hbegun : b.Begun k) (hlink : b'.site.network.link l = b.site.network.link l)
    (hknown : l.index < b'.site.network.links.length)
    (hqueued : ∀ c, c.link = l → ¬ b'.Queued c)
    (hserves : ∀ id c u, c.link = l → b'.Serves id c u → c.breakage = none
      ∧ receipts h ++ (b'.site.network.link l).fromHost.bytes ++ u.unsent
        = replies (calls h ++ [(k.bytes, (k.handler.run (Wire.decode k.bytes) host).1)]))
    (hgone : ∀ k : Call, k.conn.link = l → ¬ b'.Begun k) :
    Client room b' l (h ++ [k.incident host]) := by
  obtain ⟨hrest, hempty⟩ := ha.begun k hk hbegun
  have hone : (requests h).length = (calls h).length + 1 := by
    have hlength := congrArg List.length hrest
    rw [List.length_drop, List.length_singleton] at hlength
    omega
  have hall : requests h = (requests h).take (calls h).length ++ [k.bytes] := by
    rw [← hrest, List.take_append_drop]
  have hcalls : calls (h ++ [k.incident host])
      = calls h ++ [(k.bytes, (k.handler.run (Wire.decode k.bytes) host).1)] := by
    rw [calls_append]
    rfl
  have hrequests : requests (h ++ [k.incident host]) = requests h := by
    rw [requests_append]
    exact List.append_nil _
  have hreceipts : receipts (h ++ [k.incident host]) = receipts h := by
    rw [receipts_append]
    exact List.append_nil _
  exact {
    born := hknown
    unbroken := by simpa [Call.incident] using ha.unbroken
    queued := fun c hc hq => absurd hq (hqueued c hc)
    served := by
      rw [hcalls, hreceipts]
      exact hserves
    told := by
      rw [hcalls, hreceipts, hlink, replies_append]
      exact ha.told.trans (List.prefix_append ..)
    texts := by
      rw [hrequests]
      exact ha.texts
    heard := by
      rw [hlink, hempty, hcalls, hrequests, List.length_append, List.length_singleton,
        eq_nil_of_turn hone.symm]
      exact fun _ => rfl
    begun := fun k' hk' hbegun' => absurd hbegun' (hgone k' hk')
    called := by
      rw [hcalls, hrequests, List.map_append, ha.called, List.length_append, List.length_singleton,
        List.take_of_length_le (Nat.le_of_eq hone)]
      exact hall.symm
    turn := by
      rw [hcalls, hrequests, List.length_append, List.length_singleton]
      omega
    behind := by
      rw [hcalls, hrequests, hreceipts, List.take_append_of_le_length (by omega)]
      exact ha.behind }

theorem Client.step_answered (ha : Client room b l h) (ht' : b'.Tidy) {id : ServerId} {k : Call}
    {host : Host} (hk : k.conn.link = l) (hbegun : b.Begun k)
    (hserves : b.Serves id k.conn (.call k.bytes))
    (hlink : b'.site.network.link l = b.site.network.link l)
    (hserves' : b'.Serves id k.conn
      (.reply (Wire.encode (k.handler.run (Wire.decode k.bytes) host).1.text))) :
    Client room b' l (h ++ [k.incident host]) := by
  obtain ⟨hwhole, howed⟩ := ha.served id k.conn _ hk hserves
  refine ha.step_called hk hbegun hlink (hk ▸ hserves'.lt ht') ?_ ?_ ?_
  · exact fun c hc => ht'.not_queued hserves' (hc.trans hk.symm)
  · intro id' c u hc hs
    obtain ⟨-, rfl, rfl⟩ := ht'.serves_unique hserves' hs (hc.trans hk.symm)
    refine ⟨hwhole, ?_⟩
    rw [Errand.unsent, List.append_nil] at howed
    rw [hlink, howed, replies_append, replies_singleton]
    rfl
  · intro k' hk' hbegun'
    obtain ⟨-, hcall, -⟩ := ht'.errand_of_begun hbegun' hserves' (hk.trans hk'.symm)
    cases hcall

theorem Client.step_told (ha : Client room b l h) (ht' : b'.Tidy) {id : ServerId} {c : Conn}
    {u : List UInt8} {count : Nat} {n : Network} (hc : c.link = l)
    (hserves : b.Serves id c (.reply u))
    (hw : c.write u b.site.network = (.done count, n)) (hlink : b'.site.network.link l = n.link l)
    (ht : b.Tidy) (hserves' : b'.Serves id c (.reply (u.drop count))) : Client room b' l h := by
  obtain ⟨hwhole, howed⟩ := ha.served id c _ hc hserves
  obtain ⟨-, -, -, rfl⟩ := Conn.write_done hw
  rw [hc, Network.link_setLink_self _ _ _ ha.born] at hlink
  have howed' : receipts h ++ (b'.site.network.link l).fromHost.bytes ++ u.drop count
      = replies (calls h) := by
    rw [hlink, ← howed]
    simp [Link.withReply, Errand.unsent]
  exact {
    born := hc ▸ hserves'.lt ht'
    unbroken := ha.unbroken
    queued := fun c' hc' hq' => absurd hq' (ht'.not_queued hserves' (hc'.trans hc.symm))
    served := by
      intro id' c' u' hc' hs'
      obtain ⟨-, rfl, rfl⟩ := ht'.serves_unique hserves' hs' (hc'.trans hc.symm)
      exact ⟨hwhole, howed'⟩
    told := ⟨_, howed'⟩
    texts := ha.texts
    heard := by
      rw [hlink]
      refine fun _ => ha.heard fun k hk hbegun => ?_
      obtain ⟨-, hcall, -⟩ := ht.errand_of_begun hbegun hserves (hc.trans hk.symm)
      cases hcall
    begun := by
      intro k hk hbegun
      obtain ⟨-, hcall, -⟩ := ht'.errand_of_begun hbegun hserves' (hc.trans hk.symm)
      cases hcall
    called := ha.called
    turn := ha.turn
    behind := ha.behind }

theorem Client.of_retains (ha : Client room b l h) (hretains : Retains b b' l)
    (hlink : b'.site.network.link l = b.site.network.link l
      ∨ b'.site.network.link l = (b.site.network.link l).drop) : Client room b' l h := by
  have hto : (b'.site.network.link l).fromClient.bytes
      = (b.site.network.link l).fromClient.bytes := by
    rcases hlink with hlink | hlink <;> rw [hlink]
    rfl
  have hback : (b'.site.network.link l).fromHost.bytes
      = (b.site.network.link l).fromHost.bytes := by
    rcases hlink with hlink | hlink <;> rw [hlink]
    rfl
  exact {
    born := hretains.known.2 ha.born
    unbroken := ha.unbroken
    queued := fun c hc hq => ha.queued c hc (hretains.queued c hc hq)
    served := fun id c u hc hs => hback ▸ ha.served id c u hc (hretains.serves id c u hc hs)
    told := hback ▸ ha.told
    texts := ha.texts
    heard := fun hnone => hto ▸ ha.heard fun k hk => mt (hretains.begun k hk).2 (hnone k hk)
    begun := fun k hk hbegun => hto ▸ ha.begun k hk ((hretains.begun k hk).1 hbegun)
    called := ha.called
    turn := ha.turn
    behind := ha.behind }

theorem Client.step (ha : Client room b l h) (hp : Passage b b' a l i)
    (hroom : room ≤ Pipe.capacity) (ht : b.Tidy) (ht' : b'.Tidy)
    (hbuffers : ∀ s ∈ b.servers, room ≤ s.buffer)
    (hunsent : b.unsent = [])
    (hasked : ∀ bytes, a = .send l bytes →
      (∃ text, bytes = Wire.encode text) ∧ bytes.length ≤ room ∧ CaughtUp h) :
    Client room b' l (h ++ i) := by
  cases hp with
  | kept hkeeps hlink =>
    rw [List.append_nil]
    exact ha.of_retains hkeeps.retains (.inl hlink)
  | left hretains hcause hlink =>
    rw [List.append_nil]
    exact ha.of_retains hretains hlink
  | opened hindex => exact absurd ha.born (by omega)
  | broke name how hfail hindex => exact absurd ha.born (by omega)
  | asked bytes hkeeps hsend hne hopen hlink =>
    obtain ⟨htext, hfits, hcaught⟩ := hasked bytes hsend
    exact ha.step_asked hroom hkeeps hlink htext hfits hcaught
  | flushed bytes hkeeps hmem => simp [hunsent] at hmem
  | received hkeeps hlink => exact ha.step_received hkeeps hlink
  | accepted id c hc hq hserves hlink =>
    rw [List.append_nil]
    exact ha.step_accepted ht' ht hc hq hserves hlink
  | heard id s c after bytes n hs hc hserves hne hr hlink hserves' =>
    rw [List.append_nil]
    exact ha.step_heard ht' (hbuffers s (mem_servers_of_server? hs)) hc hserves hne hr hlink
      hserves'
  | answered id k hk hbegun hserves hlink hserves' =>
    exact ha.step_answered ht' hk hbegun hserves hlink hserves'
  | carriedOut k hk hmem hnet hvacant =>
    refine ha.step_called hk (.inl hmem) (by rw [hnet]) (by rw [hnet]; exact ha.born)
      hvacant.queued ?_ hvacant.begun
    exact fun id c u hc hs => absurd hs (hvacant.serves id c u hc)
  | told id c unsent count n hc hserves hne hw hlink hserves' =>
    rw [List.append_nil]
    exact ha.step_told ht' hc hserves hw hlink ht hserves'

/-! ## Runs -/

/-- What holds at every moment of a polite run. -/
structure Orderly (room : Nat) (b : Switchboard) (past : List Incident) : Prop extends Sane b where
  buffers : ∀ s ∈ b.servers, room ≤ s.buffer
  unsent : b.unsent = []
  accounts : ∀ l, Account room b l (on l past)

theorem orderly_create (room : Nat) (host : Host) : Orderly room (create (.inMemory host)) [] where
  toSane := sane_create host
  buffers := by simp [create]
  unsent := rfl
  accounts l := .inl ⟨by simp [create, Site.inMemory, Network.fresh], rfl, rfl, rfl, rfl⟩

/-- A client that is caught up finds its pipe empty. -/
theorem Orderly.room_of_caughtUp {past : List Incident} (ho : Orderly room b past) {l : LinkId}
    (hopen : (b.site.network.link l).fromClient.closed = false) (hcaught : CaughtUp (on l past)) :
    (b.site.network.link l).fromClient.room = Pipe.capacity := by
  rcases ho.accounts l with ha | ha | ⟨how, ha⟩
  · have := lt_of_open hopen
    have := ha.ahead
    omega
  · rw [Pipe.room, ha.heard (ha.not_begun hcaught.1), eq_nil_of_turn hcaught.1]
    rfl
  · rw [ha.dropped] at hopen
    cases hopen

theorem Orderly.act {past : List Incident} (ho : Orderly room b past) (hroom : room ≤ Pipe.capacity)
    {a : Act} (hp : Polite room b past a) : Orderly room (b.act a) (past ++ b.observe a) where
  toSane := ho.toSane.act a
  buffers := by
    apply buffer_act ho.tidy ho.buffers
    intro p hmem
    cases a with
    | add name handler buffer backoff =>
      rw [List.mem_singleton.1 hmem]
      exact hp
    | _ => cases hmem
  unsent := by
    apply (change_act ho.tidy a).unsent ho.unsent
    intro link bytes ha hopen
    subst ha
    rw [ho.room_of_caughtUp hopen hp.2.2]
    exact Nat.le_trans hp.2.1 hroom
  accounts l := by
    have hpassage := ho.passage a l
    rw [on_append]
    rcases ho.accounts l with ha | ha | ⟨how, ha⟩
    · exact ha.step hpassage ho.tidy (ho.tidy.act a) ho.unsent
    · refine .inr (.inl (ha.step hpassage hroom ho.tidy (ho.tidy.act a) ho.buffers ho.unsent ?_))
      intro bytes hsend
      subst hsend
      exact hp
    · exact .inr (.inr ⟨how, ha.step hpassage (ho.tidy.act a)⟩)

theorem orderly_run {acts : List Act} (host : Host) (hroom : room ≤ Pipe.capacity)
    (hp : Obeys (Polite room) [] (create (.inMemory host)) acts) :
    Orderly room ((create (.inMemory host)).run acts) ((create (.inMemory host)).story acts) :=
  hp.keeps (fun _ _ _ ho hp => ho.act hroom hp) (orderly_create room host)

end Switchboard

end KeyBridge
