-- SUMMARY: What clients can do to servers by hanging up.
import KeyBridge.Proofs.Endpoints

/-!
# Hang-ups

A server that reads takes leave of a client that hung up and listens again at the same endpoint. A
server that writes to a client that hung up loses the endpoint, with all who wait there. In
undisturbed runs this is all that can happen to endpoints, so servers are as steady as their clients
are considerate: `Withstands` says how far.
-/

namespace KeyBridge

namespace Switchboard

variable {b b' : Switchboard} {a : Act} {id : ServerId} {l : LinkId} {lost past : List String}
  {acts : List Act}

/-! ## Books -/

/-- One for the address of a server that has the name and an endpoint. -/
def home (name : String) (x : String × Option Endpoint) : Nat :=
  if x.1 = name ∧ x.2.isSome then 1 else 0

/-- How many servers of a name have an endpoint. -/
def homes (b : Switchboard) (name : String) : Nat := (b.addresses.map (home name)).sum

theorem homes_le (b : Switchboard) (name : String) :
    b.homes name ≤ (b.addresses.map Prod.fst).count name := by
  rw [homes]
  induction b.addresses with
  | nil => exact Nat.le_refl _
  | cons x xs ih =>
    simp only [List.map_cons, List.sum_cons, List.count_cons, home, beq_iff_eq]
    split
    · rename_i hx
      simp only [hx.1, if_true]
      omega
    · omega

/-- What holds at every moment of an undisturbed run, given which servers wrote in vain so far. -/
structure Books (past : List String) (b : Switchboard) (lost : List String) : Prop
    extends Sane b where
  undisturbed : b.Undisturbed
  distinct : (b.addresses.map Prod.fst).Nodup
  named : b.Named
  /-- Every binding is lost or in use. -/
  counted : ∀ name, b.site.network.bound.count name = lost.count name + b.homes name
  noted : rebuilds b.site.host.events = past ++ lost

theorem books_create (host : Host) : Books (rebuilds host.events) (create (.inMemory host)) [] where
  toSane := sane_create host
  undisturbed := undisturbed_create host
  distinct := List.nodup_nil
  named := fun _ _ h => by cases h
  counted _ := rfl
  noted := (List.append_nil _).symm

theorem names_set {i : Nat} {x y : String × Option Endpoint} (hx : b.addresses[i]? = some x)
    (hset : b'.addresses = b.addresses.set i y) (hname : y.1 = x.1) :
    b'.addresses.map Prod.fst = b.addresses.map Prod.fst := by
  have hx' : (b.addresses.map Prod.fst)[i]? = some y.1 := by
    rw [List.getElem?_map, hx, hname]
    rfl
  rw [hset, List.map_set, set_of_getElem? hx']

/-- Servers keep their names, and those that are added bring their own. -/
theorem Resettling.names_eq {new : List String} (h : Resettling b b' a new) :
    b'.addresses.map Prod.fst = b.addresses.map Prod.fst ++ a.profiles.map Prod.fst := by
  cases h with
  | stayed haddresses =>
    rw [haddresses, List.map_append, List.map_map]
    rfl
  | settled i name hadd hat haddresses =>
    rw [hadd, names_set hat haddresses rfl]
    exact (List.append_nil _).symm
  | lost i name e hadd hat haddresses =>
    rw [hadd, names_set hat haddresses rfl]
    exact (List.append_nil _).symm

theorem Books.resettling (h : Books past b lost) (ha : a.disturbs = false) :
    Resettling b (b.act a) a (b.vain a) :=
  resettling_act h.tidy h.undisturbed h.named h.distinct ha

theorem Resettling.named {new : List String} (h : Resettling b b' a new) (hb : b.Named) :
    b'.Named := by
  intro name e hmem
  cases h with
  | stayed haddresses hbound =>
    rw [haddresses, List.mem_append] at hmem
    rw [hbound]
    rcases hmem with hmem | hmem
    · exact hb name e hmem
    · obtain ⟨p, -, hp⟩ := List.mem_map.1 hmem
      cases hp
  | settled i name' hadd hat haddresses hbound =>
    rw [haddresses] at hmem
    rw [hbound]
    rcases List.mem_or_eq_of_mem_set hmem with hmem | heq
    · have hget := hb name e hmem
      exact (List.getElem?_append_left (List.getElem?_eq_some_iff.1 hget).1).trans hget
    · cases heq
      simp [Network.bound, Network.nextListener]
  | lost i name' e' hadd hat haddresses hbound =>
    rw [haddresses] at hmem
    rw [hbound]
    rcases List.mem_or_eq_of_mem_set hmem with hmem | heq
    · exact hb name e hmem
    · cases heq

theorem Resettling.counted {new : List String} (h : Resettling b b' a new)
    (hb : ∀ name, b.site.network.bound.count name = lost.count name + b.homes name) (name : String) :
    b'.site.network.bound.count name = (lost ++ new).count name + b'.homes name := by
  have hname := hb name
  cases h with
  | stayed haddresses hbound =>
    have hnone : ((a.profiles.map fun p => (p.1, none)).map (home name)).sum = 0 := by
      simp [Function.comp_def, home]
    have hhomes : b'.homes name = b.homes name := by
      rw [homes, haddresses, List.map_append, List.sum_append, hnone, Nat.add_zero, homes]
    rw [hbound, hhomes, List.append_nil]
    exact hname
  | settled i name' hadd hat haddresses hbound =>
    have hset := sum_map_set (f := home name) (name', some ⟨b.site.network.nextListener, none⟩) hat
    rw [hbound, List.count_append, List.count_singleton, List.append_nil, homes, haddresses]
    simp [home, homes] at hname hset ⊢
    omega
  | lost i name' e hadd hat haddresses hbound =>
    have hset := sum_map_set (f := home name) (name', none) hat
    rw [hbound, List.count_append, List.count_singleton, homes, haddresses]
    simp [home, homes] at hname hset ⊢
    omega

theorem Resettling.rebuilds_eq {new : List String} (h : Resettling b b' a new) :
    rebuilds b'.site.host.events = rebuilds b.site.host.events ++ new := by
  cases h with
  | stayed haddresses hbound hevents => rw [hevents, List.append_nil]
  | settled i name hadd hat haddresses hbound hevents => rw [hevents, List.append_nil]
  | lost i name e hadd hat haddresses hbound hevents => exact hevents

theorem Books.act (h : Books past b lost) (ha : a.disturbs = false)
    (hdistinct : (b.addresses.map Prod.fst ++ a.profiles.map Prod.fst).Nodup) :
    Books past (b.act a) (lost ++ b.vain a) where
  toSane := h.toSane.act a
  undisturbed := h.undisturbed.act h.toSane ha
  distinct := by
    rw [(h.resettling ha).names_eq]
    exact hdistinct
  named := (h.resettling ha).named h.named
  counted := (h.resettling ha).counted h.counted
  noted := by
    rw [(h.resettling ha).rebuilds_eq, h.noted, List.append_assoc]

/-- All names that servers have or will have are different. -/
def Distinct (b : Switchboard) (acts : List Act) : Prop :=
  (b.addresses.map Prod.fst ++ (acts.flatMap Act.profiles).map Prod.fst).Nodup

theorem Books.distinct_act (h : Books past b lost) (ha : a.disturbs = false)
    (hdistinct : b.Distinct (a :: acts)) :
    (b.addresses.map Prod.fst ++ a.profiles.map Prod.fst).Nodup ∧ (b.act a).Distinct acts := by
  rw [Distinct, List.flatMap_cons, List.map_append, ← List.append_assoc] at hdistinct
  refine ⟨(List.nodup_append.1 hdistinct).1, ?_⟩
  rw [Distinct, (h.resettling ha).names_eq]
  exact hdistinct

theorem Books.run (h : Books past b lost) (hcalm : ∀ a ∈ acts, a.disturbs = false)
    (hdistinct : b.Distinct acts) : Books past (b.run acts) (lost ++ b.vainWrites acts) := by
  induction acts generalizing b lost with
  | nil => simpa [vainWrites] using h
  | cons a acts ih =>
    have ha := hcalm a List.mem_cons_self
    obtain ⟨hnow, hrest⟩ := h.distinct_act ha hdistinct
    have hact := h.act ha hnow
    rw [vainWrites, ← List.append_assoc]
    exact ih hact (fun x hx => hcalm x (List.mem_cons_of_mem _ hx)) hrest

theorem Books.distinct_append {more : List Act} (h : Books past b lost)
    (hcalm : ∀ a ∈ acts, a.disturbs = false) (hdistinct : b.Distinct (acts ++ more)) :
    b.Distinct acts ∧ (b.run acts).Distinct more := by
  induction acts generalizing b lost with
  | nil => exact ⟨by simpa [Distinct] using h.distinct, hdistinct⟩
  | cons a acts ih =>
    have ha := hcalm a List.mem_cons_self
    obtain ⟨hnow, hrest⟩ := h.distinct_act ha hdistinct
    obtain ⟨hacts, hmore⟩ := ih (h.act ha hnow) (fun x hx => hcalm x (List.mem_cons_of_mem _ hx)) hrest
    rw [Distinct, (h.resettling ha).names_eq, List.append_assoc, ← List.map_append] at hacts
    exact ⟨hacts, hmore⟩

/-! ## Runs in which nobody writes in vain -/

theorem not_breakdown_of_vain (hu : b.Undisturbed) (hvain : b.vain a = []) :
    ∀ id, a = .move id → ¬ b.Breakdown id := by
  rintro id rfl hbreak
  obtain ⟨c, u, ⟨s, e, hs, ht⟩, hne, hclosed⟩ := hu.breakdown hbreak
  rw [vain_move hs, Server.writesInVain_eq ht hne, hclosed] at hvain
  cases hvain

theorem breakdown_of_vain {s : Server} (hs : b.server? id = some s)
    (hvain : s.writesInVain b.site = true) : b.Breakdown id := by
  unfold Server.writesInVain at hvain
  split at hvain
  · rename_i e c byte more ht
    exact .cutOff c (byte :: more) ⟨s, e, hs, ht⟩ (by simp) hvain
  · cases hvain

/-- An endpoint is lost only by writing in vain. -/
theorem Resettling.steady (h : Resettling b b' a []) {i : Nat} {name : String} {e : Endpoint}
    (hat : b.addresses[i]? = some (name, some e)) : b'.addresses[i]? = some (name, some e) := by
  cases h with
  | stayed haddresses =>
    rw [haddresses]
    exact (List.getElem?_append_left (List.getElem?_eq_some_iff.1 hat).1).trans hat
  | settled j name' hadd hat' haddresses =>
    have hne : j ≠ i := by
      rintro rfl
      cases hat.symm.trans hat'
    rw [haddresses, List.getElem?_set_ne hne]
    exact hat

theorem vainWrites_cons_eq_nil (h : b.vainWrites (a :: acts) = []) :
    b.vain a = [] ∧ (b.act a).vainWrites acts = [] :=
  List.append_eq_nil_iff.1 h

theorem Books.steady (h : Books past b lost) (hcalm : ∀ a ∈ acts, a.disturbs = false)
    (hdistinct : b.Distinct acts) (hvain : b.vainWrites acts = []) {i : Nat} {name : String}
    {e : Endpoint} (hat : b.addresses[i]? = some (name, some e)) :
    (b.run acts).addresses[i]? = some (name, some e) := by
  induction acts generalizing b lost with
  | nil => exact hat
  | cons a acts ih =>
    have ha := hcalm a List.mem_cons_self
    obtain ⟨hnow, hrest⟩ := h.distinct_act ha hdistinct
    obtain ⟨hvain', hvains⟩ := vainWrites_cons_eq_nil hvain
    have hresettling := h.resettling ha
    rw [hvain'] at hresettling
    exact ih (h.act ha hnow) (fun x hx => hcalm x (List.mem_cons_of_mem _ hx)) hrest hvains
      (hresettling.steady hat)

/-- Nobody loses a connection but by hanging up. -/
def Connected (b : Switchboard) (gone : LinkId → Prop) : Prop :=
  ∀ l : LinkId, l.index < b.site.network.links.length → gone l ∨ (b.Open l ∧ b.Placed l)

theorem Connected.run {gone : LinkId → Prop} (hc : b.Connected gone) (h : b.Sane)
    (hu : b.Undisturbed) (hcalm : ∀ a ∈ acts, a.disturbs = false) (hvain : b.vainWrites acts = [])
    (hgone : ∀ l, .hangUp l ∈ acts → gone l) : (b.run acts).Connected gone := by
  induction acts generalizing b with
  | nil => exact hc
  | cons a acts ih =>
    have ha := hcalm a List.mem_cons_self
    obtain ⟨hvain', hvains⟩ := vainWrites_cons_eq_nil hvain
    refine ih ?_ (h.act a) (hu.act h ha) (fun x hx => hcalm x (List.mem_cons_of_mem _ hx)) hvains
      (fun l hl => hgone l (List.mem_cons_of_mem _ hl))
    intro l hborn'
    have hpassage := h.passage a l
    by_cases hborn : l.index < b.site.network.links.length
    · rcases hc l hborn with hl | ⟨hopen, hplaced⟩
      · exact .inl hl
      · by_cases hhang : a = .hangUp l
        · subst hhang
          exact .inl (hgone l List.mem_cons_self)
        · exact .inr (hpassage.placed h.tidy hu ha (not_breakdown_of_vain hu hvain') hopen hplaced
            hhang)
    · exact .inr (hpassage.placed_new h.tidy ha hborn hborn')

/-! ## Considerate clients -/

/-- Something of a client is unread, or its server does more for it than to read. -/
def Owed (b : Switchboard) (l : LinkId) : Prop :=
  (b.site.network.link l).fromClient.bytes ≠ []
    ∨ ∃ id c u, c.link = l ∧ u ≠ .reply [] ∧ b.Serves id c u

/-- Clients hang up only when nothing is owed to them. -/
def Considerate : Rule := fun b _ a => ∀ l, a = .hangUp l → ¬ b.Owed l

/-- The two ends of a connection go together, and nothing is owed to a client that is gone. -/
structure Tended (b : Switchboard) (l : LinkId) : Prop where
  paired : (b.site.network.link l).fromHost.closed = (b.site.network.link l).fromClient.closed
  owed : b.Owed l → (b.site.network.link l).fromClient.closed = false

theorem Owed.of_keeps (h : b'.Owed l) (hkeeps : Keeps b b' l)
    (hbytes : (b'.site.network.link l).fromClient.bytes = (b.site.network.link l).fromClient.bytes) :
    b.Owed l := by
  rcases h with hne | ⟨id, c, u, hc, hne, hs⟩
  · exact .inl (hbytes ▸ hne)
  · exact .inr ⟨id, c, u, hc, hne, (hkeeps.serves id c u hc).1 hs⟩

theorem Tended.not_breakdown (hu : b.Undisturbed) (hatt : ∀ l, b.Tended l) (id : ServerId) :
    ¬ b.Breakdown id := by
  intro hbreak
  obtain ⟨c, u, hs, hne, hclosed⟩ := hu.breakdown hbreak
  have hopen := (hatt c.link).owed (.inr ⟨id, c, .reply u, rfl, by simpa using hne, hs⟩)
  rw [(hatt c.link).paired, hopen] at hclosed
  cases hclosed

theorem Tended.of_open (hl : b.Tended l) {x : Link} (hlink : b'.site.network.link l = x)
    (hto : x.fromClient.closed = (b.site.network.link l).fromClient.closed)
    (hback : x.fromHost.closed = (b.site.network.link l).fromHost.closed)
    (hopen : (b.site.network.link l).fromClient.closed = false) : b'.Tended l where
  paired := by rw [hlink, hto, hback, hl.paired]
  owed _ := by rw [hlink, hto, hopen]

theorem Tended.of_owed (hl : b.Tended l) {x : Link} (hlink : b'.site.network.link l = x)
    (hto : x.fromClient.closed = (b.site.network.link l).fromClient.closed)
    (hback : x.fromHost.closed = (b.site.network.link l).fromHost.closed)
    (howed : b'.Owed l → b.Owed l) : b'.Tended l where
  paired := by rw [hlink, hto, hback, hl.paired]
  owed h := by rw [hlink, hto, hl.owed (howed h)]

/-- A considerate client keeps its place as long as it is owed something. -/
theorem Tended.not_owed (hatt : ∀ l, b.Tended l) (hu : b.Undisturbed) (ha : a.disturbs = false)
    (hkind : ∀ l, a = .hangUp l → ¬ b.Owed l) (hcause : Cause b a l) : ¬ b.Owed l := by
  intro howed
  have hl := hatt l
  cases hcause with
  | hungUp heq => exact hkind l heq howed
  | shutDown id c u heq =>
    rw [heq] at ha
    cases ha
  | letGo index t heq hmem => simp [hu.abandoned] at hmem
  | parted id c heq hc hs hclosed =>
    rw [hl.owed howed] at hclosed
    cases hclosed
  | waited id heq hbreak => exact Tended.not_breakdown hu hatt id hbreak
  | brokeDown id c u heq hc hs hwhy =>
    rcases hwhy with hbroken | ⟨hne, hclosed⟩
    · simp [hu.served id c _ hs] at hbroken
    · rw [hl.paired, hl.owed (.inr ⟨id, c, .reply u, hc, by simpa using hne, hs⟩)] at hclosed
      cases hclosed

theorem Tended.act (hatt : ∀ l, b.Tended l) (h : b.Sane) (hu : b.Undisturbed)
    (ha : a.disturbs = false) (hkind : ∀ l, a = .hangUp l → ¬ b.Owed l) (l : LinkId) :
    (b.act a).Tended l := by
  have hl := hatt l
  have hpassage := h.passage a l
  have hlt {i : ServerId} {c : Conn} {u : Errand} (hs : b.Serves i c u) (hc : c.link = l) :
      l.index < b.site.network.links.length := hc ▸ hs.lt h.tidy
  generalize Incident.on l (b.observe a) = i at hpassage
  cases hpassage with
  | kept hkeeps hlink =>
    exact hl.of_owed hlink rfl rfl fun howed => howed.of_keeps hkeeps (by rw [hlink])
  | left hretains hcause hlink =>
    have hback (howed : (b.act a).Owed l) : b.Owed l := by
      rcases howed with hne | ⟨id, c, u, hc, hne, hs⟩
      · refine .inl ?_
        rcases hlink with hlink | hlink <;> simpa [hlink] using hne
      · exact .inr ⟨id, c, u, hc, hne, hretains.serves id c u hc hs⟩
    have hnot := Tended.not_owed hatt hu ha hkind hcause
    refine ⟨?_, fun howed => absurd (hback howed) hnot⟩
    rcases hlink with hlink | hlink <;> rw [hlink]
    · exact hl.paired
    · simp
  | opened hindex hlink => exact ⟨by rw [hlink]; rfl, fun _ => by rw [hlink]; rfl⟩
  | broke name how hfail =>
    rw [hfail] at ha
    cases ha
  | asked bytes hkeeps hsend hne hopen hlink => exact hl.of_open hlink rfl rfl hopen
  | flushed bytes hkeeps hmem hopen hlink => exact hl.of_open hlink rfl rfl hopen
  | received hkeeps hlink =>
    exact hl.of_owed hlink rfl rfl fun howed => howed.of_keeps hkeeps (by rw [hlink]; rfl)
  | accepted id c hc hq hserves hlink =>
    refine hl.of_owed hlink rfl rfl fun howed => ?_
    rcases howed with hne | ⟨id', c', u, hc', hne, hs⟩
    · exact .inl (hlink ▸ hne)
    · obtain ⟨-, -, rfl⟩ := (h.act a).tidy.serves_unique hserves hs (hc'.trans hc.symm)
      exact absurd rfl hne
  | heard id s c after bytes n hs hc hserves hne hr hlink =>
    rcases Conn.read_message hr hne with ⟨-, hbytes, -, -, rfl⟩ | ⟨_, -, hwriting, -⟩
    · rw [hc] at hbytes hlink
      rw [Network.link_setLink_self _ _ _ (hlt hserves hc)] at hlink
      exact hl.of_open hlink rfl rfl (hl.owed (.inl hbytes))
    · rw [hu.served id c _ hserves] at hwriting
      cases hwriting
  | answered id k hk hbegun hserves hlink =>
    refine hl.of_open hlink rfl rfl (hl.owed (.inr ⟨id, k.conn, _, hk, ?_, hserves⟩))
    exact fun heq => by cases heq
  | carriedOut k hk hmem => simp [hu.unawaited] at hmem
  | told id c u count n hc hserves hne hw hlink =>
    obtain ⟨-, -, -, rfl⟩ := Conn.write_done hw
    rw [hc, Network.link_setLink_self _ _ _ (hlt hserves hc)] at hlink
    exact hl.of_open hlink rfl rfl
      (hl.owed (.inr ⟨id, c, .reply u, hc, by simpa using hne, hserves⟩))

/-- No server writes in vain to considerate clients. -/
theorem Tended.vainWrites {h : List Incident} (hatt : ∀ l, b.Tended l) (hb : b.Sane)
    (hu : b.Undisturbed) (hcalm : ∀ a ∈ acts, a.disturbs = false)
    (hkind : Obeys Considerate h b acts) : b.vainWrites acts = [] := by
  induction acts generalizing b h with
  | nil => rfl
  | cons a acts ih =>
    have ha := hcalm a List.mem_cons_self
    have hrest := ih (Tended.act hatt hb hu ha hkind.1) (hb.act a) (hu.act hb ha)
      (fun x hx => hcalm x (List.mem_cons_of_mem _ hx)) hkind.2
    rw [Switchboard.vainWrites, hrest, List.append_nil]
    cases a with
    | move id =>
      rcases hs : b.server? id with _ | s
      · simp [vain, hs]
      · rw [vain_move hs]
        split
        · rename_i hvain
          exact absurd (breakdown_of_vain hs hvain) (Tended.not_breakdown hu hatt id)
        · rfl
    | _ => rfl

/-! ## Parting -/

/-- A server that reads takes leave of a client that hung up, and listens at the same endpoint. -/
theorem parted_move {s : Server} {e : Endpoint} {c : Conn} (hu : b.Undisturbed)
    (hs : b.server? id = some s) (ht : s.task = some (.serving e c (.reply [])))
    (hempty : (b.site.network.link c.link).fromClient = ⟨[], true⟩) :
    ∃ b', b.moveServer id = some b' ∧ b'.server? id = some (s.turnTo .listening (.listening e))
      ∧ b'.site.network.listeners = b.site.network.listeners
      ∧ b'.site.host.events = b.site.host.events
          ++ .pipeClientDisconnected s.name :: s.announcement .listening := by
  have hread : c.read s.buffer b.site.network = (.done [], c, b.site.network) := by
    simp [Conn.read, hu.served id c _ ⟨s, e, hs, ht⟩, Network.read_host, hempty]
  have hmove : s.move b.site = some (s.turnTo .listening (.listening e),
      (b.site.withNetwork (c.drop b.site.network)).log
        (.pipeClientDisconnected s.name :: s.announcement .listening)) := by
    simp only [Server.move, ht, Server.hear, hread, Server.partFrom, Server.goOn_eq, Site.note_eq,
      Site.log_log]
    rfl
  have hb : b.moveServer id = some (b.put id (s.turnTo .listening (.listening e))
      ((b.site.withNetwork (c.drop b.site.network)).log
        (.pipeClientDisconnected s.name :: s.announcement .listening))) := by
    simp only [moveServer, hs, hmove]
    rfl
  exact ⟨_, hb, List.getElem?_set_self (List.getElem?_eq_some_iff.1 hs).1, rfl, rfl⟩

/-! ## What servers withstand -/

/-- What hang-ups do to the servers of a run. -/
structure Withstands (b : Switchboard) (acts : List Act) : Prop where
  /-- A server rebuilds when it writes to a client that hung up, and at no other time. -/
  rebuilt : rebuilds (b.run acts).site.host.events
    = rebuilds b.site.host.events ++ b.vainWrites acts
  /-- It binds once, and once more after each of these writes. -/
  bound : ∀ name, (b.run acts).site.network.bindCount name
    = (b.vainWrites acts).count name + (b.run acts).homes name
  single : ∀ name, (b.run acts).homes name ≤ 1
  /-- A server that reads goes back to listening where it was. -/
  parted : ∀ id s e c, (b.run acts).server? id = some s →
    s.task = some (.serving e c (.reply [])) →
    ((b.run acts).site.network.link c.link).fromClient = ⟨[], true⟩ →
    ∃ b', (b.run acts).moveServer id = some b'
      ∧ b'.server? id = some (s.turnTo .listening (.listening e))
      ∧ b'.site.network.listeners = (b.run acts).site.network.listeners
      ∧ b'.site.host.events = (b.run acts).site.host.events
          ++ .pipeClientDisconnected s.name :: s.announcement .listening
  /-- Where nobody writes in vain, endpoints are for good. -/
  steady : b.vainWrites acts = [] → ∀ before after, acts = before ++ after →
    ∀ (i : Nat) (name : String) (e : Endpoint),
    (b.run before).addresses[i]? = some (name, some e) →
    (b.run acts).addresses[i]? = some (name, some e)
  /-- There, only those lose their connections who hang up. -/
  connected : b.vainWrites acts = [] → ∀ l : LinkId,
    l.index < (b.run acts).site.network.links.length → .hangUp l ∉ acts → (b.run acts).Open l
  considerate : Obeys Considerate [] b acts → b.vainWrites acts = []

/-- Undisturbed servers with names of their own lose endpoints, and clients, only to writes to
clients that hung up. -/
theorem withstands_hang_ups (host : Host) (acts : List Act)
    (hcalm : ∀ a ∈ acts, a.disturbs = false)
    (hdistinct : ((acts.flatMap Act.profiles).map Prod.fst).Nodup) :
    Withstands (create (.inMemory host)) acts := by
  have hstart := books_create host
  have hend := hstart.run hcalm hdistinct
  refine ⟨?_, ?_, ?_, ?_, ?_, ?_, ?_⟩
  · have hnoted := hend.noted
    rw [List.nil_append] at hnoted
    exact hnoted
  · intro name
    rw [hend.tidy.sound.bindCount_eq, hend.counted name, List.nil_append]
  · intro name
    exact Nat.le_trans (homes_le _ _) (List.nodup_iff_count.1 hend.distinct name)
  · intro id s e c hs ht hempty
    exact parted_move hend.undisturbed hs ht hempty
  · intro hvain before after hacts i name e hat
    subst hacts
    rw [vainWrites_append] at hvain
    have hdistinct' : Distinct (create (.inMemory host)) (before ++ after) := hdistinct
    obtain ⟨hbefore, hafter⟩ := hstart.distinct_append
      (fun a ha => hcalm a (List.mem_append_left _ ha)) hdistinct'
    rw [run_append]
    exact (hstart.run (fun a ha => hcalm a (List.mem_append_left _ ha)) hbefore).steady
      (fun a ha => hcalm a (List.mem_append_right _ ha)) hafter (List.append_eq_nil_iff.1 hvain).2
      hat
  · intro hvain l hl hstays
    have hnone : Connected (create (.inMemory host)) fun l => .hangUp l ∈ acts :=
      fun l hl => absurd hl (Nat.not_lt_zero _)
    rcases hnone.run hstart.toSane hstart.undisturbed hcalm hvain (fun _ => id) l hl with hgone | h
    · exact absurd hgone hstays
    · exact h.1
  · intro hkind
    refine Tended.vainWrites (fun l => ⟨?_, ?_⟩) hstart.toSane hstart.undisturbed hcalm hkind
    · rw [Network.link_of_le _ _ (Nat.zero_le _)]
      rfl
    · rintro (hne | ⟨id, c, u, hc, hne, s, e, hs, ht⟩)
      · rw [Network.link_of_le _ _ (Nat.zero_le _)] at hne
        exact absurd rfl hne
      · cases hs

/-- Two clients come to a server that repeats what it hears. The first one asks something, and hangs
up when it has the reply. -/
def farewells : List Act :=
  [.add "parlour" (.callback fun message => .reply message) 64 1, .start ⟨0⟩, .move ⟨0⟩,
    .connect "parlour", .connect "parlour", .send ⟨0⟩ (Wire.encode "hi"), .move ⟨0⟩, .move ⟨0⟩,
    .move ⟨0⟩, .move ⟨0⟩, .receive ⟨0⟩, .hangUp ⟨0⟩, .move ⟨0⟩]

theorem withstands_farewells :
    ((∀ a ∈ farewells, a.disturbs = false)
      ∧ ((farewells.flatMap Act.profiles).map Prod.fst).Nodup
      ∧ Obeys Considerate [] lobby farewells)
    ∧ Withstands lobby farewells
    ∧ (lobby.run farewells).site.network.bindCount "parlour" = 1
    ∧ rebuilds (lobby.run farewells).site.host.events = []
    ∧ (lobby.run farewells).Open ⟨1⟩ := by
  have hcalm : ∀ a ∈ farewells, a.disturbs = false := by decide
  have hdistinct : ((farewells.flatMap Act.profiles).map Prod.fst).Nodup := by decide
  have hkind : Obeys Considerate [] lobby farewells := by
    refine ⟨?_, ?_, ?_, ?_, ?_, ?_, ?_, ?_, ?_, ?_, ?_, ?_, ?_, trivial⟩
    case refine_12 =>
      intro l hl howed
      cases hl
      rcases howed with hne | ⟨⟨_ | index⟩, c, u, hc, hne, s, e, hs, ht⟩
      · exact hne rfl
      · cases hs
        cases ht
        exact hne rfl
      · cases hs
    all_goals
      intro l hl
      cases hl
  have hwithstands : Withstands lobby farewells :=
    withstands_hang_ups (.fresh 8) farewells hcalm hdistinct
  have hvain := hwithstands.considerate hkind
  refine ⟨⟨hcalm, hdistinct, hkind⟩, hwithstands, rfl, ?_, ?_⟩
  · rw [hwithstands.rebuilt, hvain]
    rfl
  · exact hwithstands.connected hvain ⟨1⟩ (by decide) (by simp [farewells])

/-- The first client asks something and hangs up at once. -/
def slammed : List Act :=
  [.add "parlour" (.callback fun message => .reply message) 64 1, .start ⟨0⟩, .move ⟨0⟩,
    .connect "parlour", .connect "parlour", .send ⟨0⟩ (Wire.encode "hi"), .hangUp ⟨0⟩, .move ⟨0⟩,
    .move ⟨0⟩, .move ⟨0⟩, .move ⟨0⟩, .elapse 1, .move ⟨0⟩]

/-- The server binds again, and the client that waited is gone. -/
theorem slammed_costs :
    ((∀ a ∈ slammed, a.disturbs = false)
      ∧ ((slammed.flatMap Act.profiles).map Prod.fst).Nodup ∧ .hangUp ⟨1⟩ ∉ slammed)
    ∧ (lobby.run slammed).site.network.bindCount "parlour" = 2
    ∧ rebuilds (lobby.run slammed).site.host.events = ["parlour"]
    ∧ ¬ (lobby.run slammed).Open ⟨1⟩ := by
  refine ⟨⟨by decide, by decide, by simp [slammed]⟩, rfl, rfl, ?_⟩
  rintro ⟨hopen, -⟩
  cases hopen

end Switchboard

end KeyBridge
