-- SUMMARY: Who has a name on a network, and what reaches whoever has it.
import KeyBridge.Proofs.Stations

/-!
# Leases

Anyone who has a handle on a network binds names, connects to them and puts failures under them;
whoever bound a name takes what was delivered under it until the listener is dropped. A listener is
known to its owner as a lease: the name, and how many bindings of the name came before.

`Kept` says of a network and of the record of all that was done to it who has which name and what
still waits for whom; `Kept.run` carries it through every run. What became of a lease is read off
the record alone.
-/

namespace KeyBridge

/-- Where a name stands in a list for the first time after so many times before. -/
def nthPlace (name : String) : List String → Nat → Option Nat
  | [], _ => none
  | x :: xs, earlier =>
    if x = name then
      match earlier with
      | 0 => some 0
      | earlier + 1 => (nthPlace name xs earlier).map (· + 1)
    else (nthPlace name xs earlier).map (· + 1)

section

variable {name x : String} {xs : List String}

theorem nthPlace_cons_ne (h : x ≠ name) (earlier : Nat) :
    nthPlace name (x :: xs) earlier = (nthPlace name xs earlier).map (· + 1) := by
  simp [nthPlace, h]

theorem nthPlace_cons_zero : nthPlace name (name :: xs) 0 = some 0 := by
  simp [nthPlace]

theorem nthPlace_cons_succ (earlier : Nat) :
    nthPlace name (name :: xs) (earlier + 1) = (nthPlace name xs earlier).map (· + 1) := by
  simp [nthPlace]

end

theorem nthPlace_eq_some {name : String} {names : List String} {earlier i : Nat} :
    nthPlace name names earlier = some i
      ↔ names[i]? = some name ∧ (names.take i).count name = earlier := by
  induction names generalizing earlier i with
  | nil => simp [nthPlace]
  | cons x xs ih =>
    by_cases hx : x = name
    · cases earlier <;> cases i <;> simp [nthPlace, hx, ih]
    · cases i <;> simp [nthPlace, hx, ih]

theorem nthPlace_eq_none {name : String} {names : List String} {earlier : Nat} :
    nthPlace name names earlier = none ↔ names.count name ≤ earlier := by
  induction names generalizing earlier with
  | nil => simp [nthPlace]
  | cons x xs ih =>
    by_cases hx : x = name
    · cases earlier <;> simp [nthPlace, hx, ih]
    · simp [nthPlace, hx, ih]

/-- A listener as its owner knows it: the name that was bound, and how many bindings of the name
came before. -/
structure Lease where
  name : String
  earlier : Nat
deriving DecidableEq, Repr

/-- The connection of an item. -/
def Incoming.link? : Incoming → Option LinkId
  | .conn c => some c.link
  | .failure => none

/-- The connection of an item is one of those with ids below a bound. -/
def Incoming.Below (bound : Nat) (item : Incoming) : Prop :=
  ∀ id, item.link? = some id → id.index < bound

/-- What the owner of a listener gets while something waits in the queue, or nothing does. -/
def Incoming.answer : List Incoming → Progress Conn
  | [] => .pending
  | .conn c :: _ => .done c
  | .failure :: _ => .failed .injected

namespace Network

/-! ## What is done to a network -/

/-- The listener of a lease. -/
def lessee? (n : Network) (t : Lease) : Option ListenerId :=
  (nthPlace t.name n.bound t.earlier).map ListenerId.mk

/-- One thing that someone does to a network. -/
inductive Act where
  /-- Binds a name. -/
  | bind (name : String)
  /-- Drops the listener of a lease. -/
  | drop (t : Lease)
  /-- Connects a client to a name. -/
  | connect (name : String)
  /-- Puts a failure under a name. -/
  | failAccept (name : String)
  /-- Puts a connection that breaks under a name. -/
  | failConn (name : String) (how : Breakage)
  /-- Asks the listener of a lease for what comes first. -/
  | accept (t : Lease)
deriving DecidableEq, Repr

/-- The name that an act is about. -/
def Act.name : Act → String
  | .bind name => name
  | .drop t => t.name
  | .connect name => name
  | .failAccept name => name
  | .failConn name _ => name
  | .accept t => t.name

/-- What comes of an act. -/
inductive Record where
  /-- A name was bound. -/
  | bound (t : Lease)
  /-- Something was put into the queue of a name's listener. -/
  | delivered (name : String) (item : Incoming)
  /-- A name could not be bound, or nobody could connect to it. -/
  | denied (name : String) (error : NetworkError)
  /-- There was no listener of the name that could fail. -/
  | unheard (name : String)
  /-- The listener of a lease was dropped. -/
  | dropped (t : Lease)
  /-- The listener of a lease gave an answer. -/
  | accepted (t : Lease) (answer : Progress Conn)
  /-- Nobody has the lease. -/
  | idle (t : Lease)
deriving DecidableEq, Repr

/-- What comes of an act, and the network after it. -/
def undertake (n : Network) : Act → Record × Network
  | .bind name =>
    match n.bind name with
    | .ok (_, n') => (.bound ⟨name, n.bindCount name⟩, n')
    | .error error => (.denied name error, n)
  | .drop t =>
    match n.lessee? t with
    | some e => (.dropped t, n.dropListener e)
    | none => (.idle t, n)
  | .connect name =>
    match n.connect name with
    | .ok (link, n') => (.delivered name (.conn ⟨link, none⟩), n')
    | .error error => (.denied name error, n)
  | .failAccept name =>
    match n.failAccept name with
    | (true, n') => (.delivered name .failure, n')
    | (false, n') => (.unheard name, n')
  | .failConn name how =>
    match n.failConn name how with
    | (true, n') => (.delivered name (.conn ⟨⟨n.links.length⟩, some how⟩), n')
    | (false, n') => (.unheard name, n')
  | .accept t =>
    match n.lessee? t with
    | some e => (.accepted t (n.accept e).1, (n.accept e).2)
    | none => (.idle t, n)

/-- What comes of an act. -/
def record (n : Network) (a : Act) : Record := (n.undertake a).1

/-- The network after an act. -/
def act (n : Network) (a : Act) : Network := (n.undertake a).2

/-- The network after acts. -/
def run (n : Network) (acts : List Act) : Network := acts.foldl act n

/-- What comes of acts, one after the other. -/
def log (n : Network) : List Act → List Record
  | [] => []
  | a :: acts => n.record a :: (n.act a).log acts

/-! ## What a record tells -/

namespace Record

/-- Whether a name was bound. -/
def binds (name : String) : Record → Bool
  | .bound t => t.name = name
  | _ => false

/-- What was put into the queue of a name's listener. -/
def delivery? (name : String) : Record → Option Incoming
  | .delivered name' item => if name' = name then some item else none
  | _ => none

/-- What the listener of a lease took from its queue. -/
def taking? (t : Lease) : Record → Option Incoming
  | .accepted t' answer =>
    if t' = t then
      match answer with
      | .done c => some (.conn c)
      | .failed _ => some .failure
      | .pending => none
    else none
  | _ => none

/-- Whether someone was turned away, without any trace in the network. -/
def isInert : Record → Bool
  | .denied .. | .unheard _ | .idle _ => true
  | _ => false

/-- The connection that was made. -/
def link? : Record → Option LinkId
  | .delivered _ item => item.link?
  | _ => none

end Record

/-- How often a name was bound. -/
def bindings (log : List Record) (name : String) : Nat := log.countP (Record.binds name)

/-- A lease was granted, and its listener was not dropped. -/
def Stands (log : List Record) (t : Lease) : Prop := .bound t ∈ log ∧ .dropped t ∉ log

/-- A name is someone's. -/
def Taken (log : List Record) (name : String) : Prop := ∃ t, t.name = name ∧ Stands log t

/-- What happened from when a lease was granted until its listener was dropped. -/
def tenure : List Record → Lease → List Record
  | [], _ => []
  | r :: log, t => if r = .bound t then log.takeWhile (· ≠ .dropped t) else tenure log t

/-- What was delivered under the name of a lease while it stood, in order. -/
def delivered (log : List Record) (t : Lease) : List Incoming :=
  (tenure log t).filterMap (Record.delivery? t.name)

/-- What the listener of a lease took, in order. -/
def taken (log : List Record) (t : Lease) : List Incoming := log.filterMap (Record.taking? t)

/-- The connections that were made, in order. -/
def made (log : List Record) : List LinkId := log.filterMap Record.link?

section

variable {log : List Record} {t : Lease}

theorem tenure_granted (hbound : .bound t ∉ log) : tenure (log ++ [.bound t]) t = [] := by
  induction log with
  | nil => simp [tenure]
  | cons r log ih =>
    obtain ⟨hne, hlog⟩ := not_or.1 (mt List.mem_cons.2 hbound)
    rw [List.cons_append, tenure, if_neg (Ne.symm hne), ih hlog]

theorem tenure_subset : tenure log t ⊆ log := by
  induction log with
  | nil => exact List.Subset.refl _
  | cons r log ih =>
    rw [tenure]
    split
    · exact fun x hx => List.mem_cons_of_mem _ ((List.takeWhile_sublist _).subset hx)
    · exact fun x hx => List.mem_cons_of_mem _ (ih hx)

/-- What happens while a lease stands belongs to it, up to the drop. -/
theorem tenure_append (hstands : Stands log t) (more : List Record) :
    tenure (log ++ more) t = tenure log t ++ more.takeWhile (· ≠ .dropped t) := by
  induction log with
  | nil => cases hstands.1
  | cons r log ih =>
    have hkept : .dropped t ∉ log := fun h => hstands.2 (List.mem_cons_of_mem _ h)
    by_cases hr : r = .bound t
    · have hall : ∀ r ∈ log, decide (r ≠ .dropped t) = true := fun r hmem =>
        decide_eq_true fun h => hkept (h ▸ hmem)
      have hwhole : log.takeWhile (· ≠ .dropped t) = log := by
        simpa using @List.takeWhile_append_of_pos _ _ _ [] hall
      rw [List.cons_append, tenure, if_pos hr, tenure, if_pos hr, hwhole,
        List.takeWhile_append_of_pos hall]
    · have hbound : .bound t ∈ log :=
        (List.mem_cons.1 hstands.1).resolve_left fun h => hr h.symm
      rw [List.cons_append, tenure, if_neg hr, tenure, if_neg hr, ih ⟨hbound, hkept⟩]

end

/-! ## Leases and listeners -/

variable {n n' : Network} {e e' : ListenerId} {t u : Lease} {name : String}

theorem lessee?_eq_some : n.lessee? t = some e
    ↔ n.bound[e.index]? = some t.name ∧ (n.bound.take e.index).count t.name = t.earlier := by
  rw [← nthPlace_eq_some, lessee?, Option.map_eq_some_iff]
  constructor
  · rintro ⟨i, hi, rfl⟩
    exact hi
  · intro h
    exact ⟨e.index, h, rfl⟩

theorem lessee?_eq_none : n.lessee? t = none ↔ n.bound.count t.name ≤ t.earlier := by
  rw [lessee?, Option.map_eq_none_iff, nthPlace_eq_none]

theorem lessee?_of_bound (h : n'.bound = n.bound) (t : Lease) : n'.lessee? t = n.lessee? t := by
  rw [lessee?, h, lessee?]

/-- A listener belongs to one lease. -/
theorem lessee?_inj (ht : n.lessee? t = some e) (hu : n.lessee? u = some e) : t = u := by
  obtain ⟨hname, hearlier⟩ := lessee?_eq_some.1 ht
  obtain ⟨hname', hearlier'⟩ := lessee?_eq_some.1 hu
  have hsame : t.name = u.name := Option.some.inj (hname.symm.trans hname')
  rw [hsame] at hearlier
  cases t; cases u
  cases hsame
  exact congrArg _ (hearlier.symm.trans hearlier')

theorem exists_listener_of_lessee (h : n.lessee? t = some e) :
    ∃ l, n.listeners[e.index]? = some l ∧ l.name = t.name := by
  have hname := (lessee?_eq_some.1 h).1
  rw [bound, List.getElem?_map] at hname
  exact Option.map_eq_some_iff.1 hname

theorem index_lt_of_lessee (h : n.lessee? t = some e) : e.index < n.listeners.length := by
  obtain ⟨l, hl, -⟩ := exists_listener_of_lessee h
  exact (List.getElem?_eq_some_iff.1 hl).1

theorem Answers.exists_lessee (h : n.Answers name e) :
    ∃ t, t.name = name ∧ n.lessee? t = some e := by
  obtain ⟨l, hl, hat⟩ := h
  have hname : l.name = name := by
    simp only [isLiveAt, Bool.and_eq_true, decide_eq_true_eq] at hat
    exact hat.1.2
  have hbound : n.bound[e.index]? = some name := by
    rw [bound, List.getElem?_map, hl, ← hname]
    rfl
  exact ⟨⟨name, (n.bound.take e.index).count name⟩, rfl, lessee?_eq_some.2 ⟨hbound, rfl⟩⟩

theorem Sound.answers_of_lessee (h : n.Sound) (ht : n.lessee? t = some e) :
    n.Answers t.name e ↔ n.lives e = 1 := by
  have hle : n.lives e ≤ 1 := Bool.toNat_le _
  rw [h.answers_iff]
  constructor
  · rintro ⟨hpos, -⟩
    omega
  · intro hone
    exact ⟨by omega, (lessee?_eq_some.1 ht).1⟩

/-- A listener that is opened gets the next lease of its name; the other leases stay. -/
theorem lessee?_openListener (n : Network) (name : String) (t : Lease) :
    (n.openListener name).lessee? t
      = if t = ⟨name, n.bound.count name⟩ then some n.nextListener else n.lessee? t := by
  have hlength : n.bound.length = n.listeners.length := List.length_map ..
  split
  · rename_i ht
    subst ht
    rw [lessee?_eq_some, bound_openListener, nextListener, ← hlength]
    simp
  · rename_i ht
    rcases hold : n.lessee? t with _ | e
    · rw [lessee?_eq_none] at hold ⊢
      rw [bound_openListener, List.count_append]
      by_cases hname : name = t.name
      · have hne : n.bound.count t.name ≠ t.earlier := fun h => ht (by rw [hname, h])
        simp only [hname, List.count_singleton_self]
        omega
      · simpa [hname] using hold
    · have hlt : e.index < n.bound.length := hlength ▸ index_lt_of_lessee hold
      rw [lessee?_eq_some] at hold ⊢
      rwa [bound_openListener, List.getElem?_append_left hlt,
        List.take_append_of_le_length (Nat.le_of_lt hlt)]

/-! ## What one act does -/

@[simp] theorem run_nil (n : Network) : n.run [] = n := rfl

@[simp] theorem run_cons (n : Network) (a : Act) (acts : List Act) :
    n.run (a :: acts) = (n.act a).run acts := rfl

@[simp] theorem log_nil (n : Network) : n.log [] = [] := rfl

@[simp] theorem log_cons (n : Network) (a : Act) (acts : List Act) :
    n.log (a :: acts) = n.record a :: (n.act a).log acts := rfl

/-- What an act puts into a queue if it finds one, and the connections that are made for it. -/
def Act.offer (n : Network) : Act → Option (Incoming × List Link)
  | .connect _ => some (.conn ⟨⟨n.links.length⟩, none⟩, [.fresh])
  | .failAccept _ => some (.failure, [])
  | .failConn _ how => some (.conn ⟨⟨n.links.length⟩, some how⟩, [Link.fresh.drop])
  | _ => none

/-- What comes of an act that does not find a queue. -/
def Act.missed : Act → NetworkError → Record
  | .connect name, error => .denied name error
  | a, _ => .unheard a.name

theorem reach_eq_ok (hx : n.Exclusive) : n.reach name = .ok e ↔ n.Answers name e := by
  have hfound {i : Nat} (hi : n.listeners.findIdx? (isLiveAt name) = some i) :
      n.Answers name ⟨i⟩ := by
    obtain ⟨hlt, hl, -⟩ := List.findIdx?_eq_some_iff_getElem.1 hi
    exact ⟨n.listeners[i], List.getElem?_eq_getElem hlt, hl⟩
  rcases hi : n.listeners.findIdx? (isLiveAt name) with _ | i
  · have hnobody : ¬ n.Answers name e := by
      rintro ⟨l, hl, hat⟩
      rw [List.findIdx?_eq_none_iff.1 hi l (List.mem_of_getElem? hl)] at hat
      cases hat
    simp [reach, liveListener?, hi, hnobody]
  · rw [reach, liveListener?, hi]
    constructor
    · intro h
      cases h
      exact hfound hi
    · intro he
      rw [← hx name e ⟨i⟩ he (hfound hi)]
      rfl

theorem reach_eq_error (hfree : n.isBound name = false) :
    n.reach name = .error (if n.bindCount name = 0 then .notFound name else .refused name) := by
  have hnone : n.listeners.findIdx? (isLiveAt name) = none := by
    rw [List.findIdx?_eq_none_iff]
    simpa [isBound] using hfree
  simp [reach, liveListener?, hnone]

theorem undertake_bind (n : Network) (name : String) : n.undertake (.bind name)
    = if n.isBound name then (.denied name (.nameInUse name), n)
      else (.bound ⟨name, n.bindCount name⟩, n.openListener name) := by
  rcases hbound : n.isBound name <;> simp [undertake, bind, hbound]

theorem undertake_offer {a : Act} {item : Incoming} {new : List Link}
    (ho : a.offer n = some (item, new)) :
    n.undertake a = match n.reach a.name with
      | .ok e => (.delivered a.name item, enqueue { n with links := n.links ++ new } e item)
      | .error error => (a.missed error, n) := by
  cases a with
  | connect name =>
    cases ho
    rcases hr : n.reach name <;>
      simp [undertake, connect, Act.name, hr, Except.map, connectTo, newLink, Act.missed]
  | failAccept name =>
    cases ho
    rcases hr : n.reach name <;> simp [undertake, failAccept, Act.name, hr, Act.missed]
  | failConn name how =>
    cases ho
    rcases hr : n.reach name <;>
      simp [undertake, failConn, Act.name, hr, newLink, Act.missed]
  | _ => cases ho

/-- An owner gets what waits first, and waits if nothing does. -/
theorem Sound.accept_eq (h : n.Sound) {l : Listener} (hl : n.listeners[e.index]? = some l) :
    n.accept e = (Incoming.answer l.queue,
      { n with listeners := n.listeners.set e.index { l with queue := l.queue.tail } }) := by
  have hattached := h.attached l (List.mem_of_getElem? hl)
  rcases hq : l.queue with _ | ⟨item, rest⟩
  · have hsame : { l with queue := ([] : List Incoming).tail } = l := by rw [List.tail_nil, ← hq]
    rw [hsame, set_of_getElem? hl]
    simp [accept, listener?, hl, hq, hattached, Incoming.answer]
  · simp only [accept, listener?, hl, hq]
    cases item <;> rfl

/-! ## What became of a lease -/

/-- What a network and the record of all that was done to it say about one lease. -/
inductive Phase (n : Network) (log : List Record) (t : Lease) : Prop where
  /-- Nobody had it. -/
  | unborn (hnone : n.lessee? t = none) (hbound : .bound t ∉ log) (hdropped : .dropped t ∉ log)
      (htaken : taken log t = [])
  /-- Its listener exists. -/
  | standing {e : ListenerId} (he : n.lessee? t = some e) (hlive : n.lives e = 1)
      (hstands : Stands log t) (hqueue : taken log t ++ n.queueOf e = delivered log t)
  /-- Its listener was dropped. -/
  | ended {e : ListenerId} (he : n.lessee? t = some e) (hdead : n.lives e = 0)
      (hbound : .bound t ∈ log) (hdropped : .dropped t ∈ log)
      (hclosed : ∀ more, tenure (log ++ more) t = tenure log t)
      (htaken : taken log t <+: delivered log t)

section

variable {log : List Record} {r : Record}

theorem taken_concat : taken (log ++ [r]) t = taken log t ++ (r.taking? t).toList := by
  rw [taken, List.filterMap_append, taken]
  cases h : r.taking? t <;> simp [h]

theorem made_concat : made (log ++ [r]) = made log ++ r.link?.toList := by
  rw [made, List.filterMap_append, made]
  cases h : r.link? <;> simp [h]

theorem made_of_none (hr : r.link? = none) : made (log ++ [r]) = made log := by
  rw [made_concat, hr]
  exact List.append_nil _

theorem stands_concat (hstands : Stands log t) (hr : r ≠ .dropped t) : Stands (log ++ [r]) t := by
  refine ⟨List.mem_append_left _ hstands.1, fun hmem => ?_⟩
  rcases List.mem_append.1 hmem with h | h
  · exact hstands.2 h
  · exact hr (List.mem_singleton.1 h).symm

theorem delivered_concat (hstands : Stands log t) (hr : r ≠ .dropped t) :
    delivered (log ++ [r]) t = delivered log t ++ (r.delivery? t.name).toList := by
  rw [delivered, tenure_append hstands, delivered, List.filterMap_append]
  cases h : r.delivery? t.name <;> simp [hr, h]

theorem not_mem_concat {x : Record} (hlog : x ∉ log) (hr : r ≠ x) : x ∉ log ++ [r] := by
  intro hmem
  rcases List.mem_append.1 hmem with h | h
  · exact hlog h
  · exact hr (List.mem_singleton.1 h).symm

/-- What does not concern a lease leaves it as it is. -/
theorem Phase.leave (h : Phase n log t) (hlessee : n'.lessee? t = n.lessee? t)
    (hsame : ∀ e, n.lessee? t = some e → n'.lives e = n.lives e ∧ n'.queueOf e = n.queueOf e)
    (hbound : r ≠ .bound t) (hdropped : r ≠ .dropped t) (htaking : r.taking? t = none)
    (hdelivery : ∀ e, n.lessee? t = some e → n.lives e = 1 → r.delivery? t.name = none) :
    Phase n' (log ++ [r]) t := by
  have htaken : taken (log ++ [r]) t = taken log t := by
    rw [taken_concat, htaking]
    exact List.append_nil _
  cases h with
  | unborn hnone hb hd ht =>
    exact .unborn (hlessee.trans hnone) (not_mem_concat hb hbound) (not_mem_concat hd hdropped)
      (htaken.trans ht)
  | standing he hlive hstands hqueue =>
    obtain ⟨hlives, hkept⟩ := hsame _ he
    refine .standing (hlessee.trans he) (hlives.trans hlive) (stands_concat hstands hdropped) ?_
    rw [htaken, hkept, hqueue, delivered_concat hstands hdropped, hdelivery _ he hlive]
    exact (List.append_nil _).symm
  | ended he hdead hb hd hclosed ht =>
    refine .ended (hlessee.trans he) ((hsame _ he).1.trans hdead) (List.mem_append_left _ hb)
      (List.mem_append_left _ hd) ?_ ?_
    · intro more
      rw [List.append_assoc, hclosed, hclosed]
    · rwa [htaken, delivered, hclosed]

end

/-! ## The record of a network -/

/-- A network is in the state that the record of all that was done to it tells of. -/
structure Kept (n : Network) (log : List Record) : Prop where
  sound : n.Sound
  exclusive : n.Exclusive
  count : ∀ name, n.bound.count name = bindings log name
  phase : ∀ t, Phase n log t
  known : ∀ id ∈ made log, id.index < n.links.length
  distinct : (made log).Nodup

theorem kept_fresh : Kept .fresh [] where
  sound := sound_fresh
  exclusive := by
    rintro name e e' ⟨l, hl, -⟩
    cases hl
  count _ := rfl
  phase _ := .unborn rfl List.not_mem_nil List.not_mem_nil rfl
  known id hid := by cases hid
  distinct := List.nodup_nil

namespace Kept

variable {log : List Record} {r : Record}

theorem still (h : n.Kept log) (hr : r.isInert = true) : n.Kept (log ++ [r]) := by
  obtain ⟨hbinds, hbound, hdropped, htaking, hdelivery, hlink⟩ :
      (∀ name, r.binds name = false) ∧ (∀ t, r ≠ .bound t) ∧ (∀ t, r ≠ .dropped t)
        ∧ (∀ t, r.taking? t = none) ∧ (∀ name, r.delivery? name = none) ∧ r.link? = none := by
    cases r with
    | denied | unheard | idle =>
      exact ⟨fun _ => rfl, by simp, by simp, fun _ => rfl, fun _ => rfl, rfl⟩
    | _ => cases hr
  refine ⟨h.sound, h.exclusive, ?_, ?_, ?_, ?_⟩
  · intro name
    simp [bindings, h.count, hbinds]
  · intro t
    exact (h.phase t).leave rfl (fun _ _ => ⟨rfl, rfl⟩) (hbound t) (hdropped t) (htaking t)
      fun _ _ _ => hdelivery _
  · rw [made_of_none hlink]
    exact h.known
  · rw [made_of_none hlink]
    exact h.distinct

theorem opened (h : n.Kept log) (hfree : n.isBound name = false) :
    (n.openListener name).Kept (log ++ [.bound ⟨name, n.bindCount name⟩]) where
  sound := h.sound.openListener name
  exclusive := h.exclusive.openListener hfree
  count other := by
    by_cases hother : name = other <;>
      simp [bindings, h.count, Record.binds, hother]
  phase t := by
    rw [h.sound.bindCount_eq]
    by_cases ht : t = ⟨name, n.bound.count name⟩
    · subst ht
      have hnone : n.lessee? ⟨name, n.bound.count name⟩ = none :=
        lessee?_eq_none.2 (Nat.le_refl _)
      have hnext : n.listeners[n.nextListener.index]? = none :=
        List.getElem?_eq_none (Nat.le_refl _)
      cases h.phase ⟨name, n.bound.count name⟩ with
      | unborn _ hbound hdropped htaken =>
        refine .standing (e := n.nextListener) (by rw [lessee?_openListener, if_pos rfl]) ?_ ?_ ?_
        · rw [lives_openListener, if_pos rfl, lives, isLive, hnext]
          rfl
        · exact ⟨List.mem_append_right _ (List.mem_singleton_self _),
            not_mem_concat hdropped (by simp)⟩
        · rw [taken_concat, htaken, queueOf_openListener, queueOf_of_none hnext, delivered,
            tenure_granted hbound]
          rfl
      | standing he _ _ _ => cases hnone.symm.trans he
      | ended he _ _ _ _ _ => cases hnone.symm.trans he
    · refine (h.phase t).leave (by rw [lessee?_openListener, if_neg ht]) ?_ ?_ (by simp) rfl
        (fun _ _ _ => rfl)
      · intro e he
        have hne : n.nextListener ≠ e := by
          rintro rfl
          exact Nat.lt_irrefl _ (index_lt_of_lessee he)
        rw [lives_openListener, if_neg hne]
        exact ⟨rfl, queueOf_openListener name⟩
      · rintro hr
        cases hr
        exact ht rfl
  known := by
    rw [made_of_none rfl]
    exact h.known
  distinct := by
    rw [made_of_none rfl]
    exact h.distinct

/-- Something reaches the listener of a name, once its connection is there. -/
theorem delivered (h : n.Kept log) {m : Network} {item : Incoming} (he : n.Answers name e)
    (hm : m.listeners = n.listeners) (hlinks : n.links.length ≤ m.links.length)
    (hnew : ∀ id, item.link? = some id →
      id.index = n.links.length ∧ n.links.length < m.links.length) :
    (m.enqueue e item).Kept (log ++ [.delivered name item]) := by
  obtain ⟨l, hl, hat⟩ := id he
  obtain ⟨⟨-, hname⟩, hlive⟩ : (l.attached = true ∧ l.name = name) ∧ l.live = true := by
    simpa [isLiveAt] using hat
  have hl' : m.listeners[e.index]? = some l := by rw [hm, hl]
  have hsound' : (m.enqueue e item).Sound := (h.sound.of_listeners hm).enqueue item hl' hlive
  have haged : n.Aged (m.enqueue e item) := (aged_of_listeners hm).trans (aged_enqueue item hl')
  refine ⟨hsound', h.exclusive.aged h.sound hsound' haged, ?_, ?_, ?_, ?_⟩
  · intro other
    simp [haged.bound, bindings, h.count, Record.binds]
  · intro t
    have hlessee := lessee?_of_bound haged.bound t
    have hlives (e' : ListenerId) : (m.enqueue e item).lives e' = n.lives e' :=
      (lives_enqueue item hl' e').trans (lives_of_listeners hm e')
    have hqueue (e' : ListenerId) : (m.enqueue e item).queueOf e'
        = if e' = e then n.queueOf e' ++ [item] else n.queueOf e' := by
      rw [queueOf_enqueue item hl', queueOf_of_listeners hm]
    by_cases ht : n.lessee? t = some e
    · have hsame : t.name = name := by
        obtain ⟨l', hl', hname'⟩ := exists_listener_of_lessee ht
        rw [← hname', ← hname, Option.some.inj (hl'.symm.trans hl)]
      subst hsame
      have hone := (h.sound.answers_of_lessee ht).1 he
      cases h.phase t with
      | unborn hnone _ _ _ => cases hnone.symm.trans ht
      | standing he' hlive' hstands hwaiting =>
        cases he'.symm.trans ht
        refine .standing (hlessee.trans ht) ((hlives e).trans hlive') (stands_concat hstands
          (by simp)) ?_
        rw [taken_concat, hqueue, if_pos rfl, delivered_concat hstands (by simp), ← hwaiting]
        simp [Record.taking?, Record.delivery?]
      | ended he' hdead _ _ _ _ =>
        cases he'.symm.trans ht
        omega
    · refine (h.phase t).leave hlessee ?_ (by simp) (by simp) rfl ?_
      · intro e' he'
        have hne : e' ≠ e := by
          rintro rfl
          exact ht he'
        rw [hlives, hqueue, if_neg hne]
        exact ⟨rfl, rfl⟩
      · intro e' he' hlive'
        have hne : name ≠ t.name := by
          rintro rfl
          rw [h.exclusive t.name e e' he ((h.sound.answers_of_lessee he').2 hlive')] at he'
          exact ht he'
        simp [Record.delivery?, hne]
  · intro id hid
    rw [made_concat, List.mem_append, Option.mem_toList] at hid
    rw [links_enqueue]
    rcases hid with hid | hid
    · exact Nat.lt_of_lt_of_le (h.known id hid) hlinks
    · obtain ⟨hindex, hlt⟩ := hnew id hid
      rwa [hindex]
  · rw [made_concat, List.nodup_append]
    refine ⟨h.distinct, by cases item <;> simp [Record.link?, Incoming.link?], ?_⟩
    rintro id hold id' hid rfl
    rw [Option.mem_toList] at hid
    exact absurd (h.known id hold) (by rw [(hnew id hid).1]; exact Nat.lt_irrefl _)

theorem dropped (h : n.Kept log) (he : n.lessee? u = some e) :
    (n.dropListener e).Kept (log ++ [.dropped u]) := by
  have haged := aged_dropListener n e
  have hsound' := h.sound.dropListener e
  refine ⟨hsound', h.exclusive.aged h.sound hsound' haged, ?_, ?_, ?_, ?_⟩
  · intro name
    simp [haged.bound, bindings, h.count, Record.binds]
  · intro t
    have hlessee := lessee?_of_bound haged.bound t
    by_cases ht : t = u
    · subst ht
      have hdead : (n.dropListener e).lives e = 0 := by rw [lives_dropListener, if_pos rfl]
      have htaken : taken (log ++ [.dropped t]) t = taken log t := by
        rw [taken_concat]
        exact List.append_nil _
      cases h.phase t with
      | unborn hnone _ _ _ => cases hnone.symm.trans he
      | standing he' _ hstands hqueue =>
        cases he'.symm.trans he
        have hover (more : List Record) : tenure (log ++ .dropped t :: more) t = tenure log t := by
          rw [tenure_append hstands, List.takeWhile_cons_of_neg (by simp), List.append_nil]
        refine .ended (hlessee.trans he) hdead (List.mem_append_left _ hstands.1)
          (List.mem_append_right _ (List.mem_singleton_self _)) ?_ ?_
        · intro more
          rw [List.append_assoc, List.singleton_append, hover, hover]
        · rw [htaken, Network.delivered, hover, ← Network.delivered, ← hqueue]
          exact List.prefix_append _ _
      | ended he' _ hbound hdropped hclosed hprefix =>
        cases he'.symm.trans he
        refine .ended (hlessee.trans he) hdead (List.mem_append_left _ hbound)
          (List.mem_append_left _ hdropped) ?_ ?_
        · intro more
          rw [List.append_assoc, hclosed, hclosed]
        · rwa [htaken, Network.delivered, hclosed]
    · refine (h.phase t).leave hlessee ?_ (by simp) (by simpa using Ne.symm ht) rfl
        (fun _ _ _ => rfl)
      intro e' he'
      have hne : e' ≠ e := by
        rintro rfl
        exact ht (lessee?_inj he' he)
      rw [lives_dropListener, if_neg (Ne.symm hne), queueOf_dropListener, if_neg hne]
      exact ⟨rfl, rfl⟩
  · rw [made_of_none rfl, length_links_dropListener]
    exact h.known
  · rw [made_of_none rfl]
    exact h.distinct

/-- The owner of a listener asks for what comes first. -/
theorem accepted (h : n.Kept log) (he : n.lessee? u = some e) :
    (n.accept e).2.Kept (log ++ [.accepted u (n.accept e).1]) := by
  obtain ⟨l, hl, -⟩ := exists_listener_of_lessee he
  have hmem := List.mem_of_getElem? hl
  have hattached := h.sound.attached l hmem
  rw [h.sound.accept_eq hl]
  have hsound' : Sound ⟨n.listeners.set e.index { l with queue := l.queue.tail }, n.links⟩ := by
    refine h.sound.set _ hattached fun hdead => ?_
    simp [h.sound.drained l hmem hdead]
  have hlives (e' : ListenerId) :
      lives ⟨n.listeners.set e.index { l with queue := l.queue.tail }, n.links⟩ e' = n.lives e' :=
    lives_set hl (by rfl) e'
  have hbound : bound ⟨n.listeners.set e.index { l with queue := l.queue.tail }, n.links⟩
      = n.bound := bound_set rfl hl rfl
  have haged : n.Aged ⟨n.listeners.set e.index { l with queue := l.queue.tail }, n.links⟩ :=
    ⟨hbound, fun e' => Nat.le_of_eq (hlives e')⟩
  refine ⟨hsound', h.exclusive.aged h.sound hsound' haged, ?_, ?_, ?_, ?_⟩
  · intro name
    simp [haged.bound, bindings, h.count, Record.binds]
  · intro t
    have hlessee := lessee?_of_bound hbound t
    by_cases ht : t = u
    · subst ht
      have htaking : (Record.accepted t (Incoming.answer l.queue)).taking? t = l.queue.head? := by
        rcases l.queue with _ | ⟨_ | _, _⟩ <;> simp [Record.taking?, Incoming.answer]
      have hqueue := queueOf_of_listener? hl
      cases h.phase t with
      | unborn hnone _ _ _ => cases hnone.symm.trans he
      | standing he' hlive hstands hwaiting =>
        cases he'.symm.trans he
        refine .standing (hlessee.trans he) ((hlives e).trans hlive)
          (stands_concat hstands (by simp)) ?_
        rw [taken_concat, htaking, queueOf_set hl, if_pos rfl,
          delivered_concat hstands (by simp), ← hwaiting, hqueue, List.append_assoc]
        rcases l.queue with _ | ⟨item, rest⟩ <;> simp [Record.delivery?]
      | ended he' hdead hbound' hdropped hclosed hprefix =>
        cases he'.symm.trans he
        have hempty : l.queue = [] := by
          refine h.sound.drained l hmem ?_
          simpa [lives, isLive, hl] using hdead
        refine .ended (hlessee.trans he) ((hlives e).trans hdead) (List.mem_append_left _ hbound')
          (List.mem_append_left _ hdropped) ?_ ?_
        · intro more
          rw [List.append_assoc, hclosed, hclosed]
        · rw [taken_concat, htaking, hempty, Network.delivered, hclosed]
          exact (List.append_nil (taken log t)).symm ▸ hprefix
    · have htaking : (Record.accepted u (Incoming.answer l.queue)).taking? t = none := by
        simp [Record.taking?, Ne.symm ht]
      refine (h.phase t).leave hlessee ?_ (by simp) (by simp) htaking (fun _ _ _ => rfl)
      intro e' he'
      have hne : e' ≠ e := by
        rintro rfl
        exact ht (lessee?_inj he' he)
      rw [hlives, queueOf_set hl, if_neg hne]
      exact ⟨rfl, rfl⟩
  · rw [made_of_none rfl]
    exact h.known
  · rw [made_of_none rfl]
    exact h.distinct

theorem offered (h : n.Kept log) {a : Act} {item : Incoming} {new : List Link}
    (ho : a.offer n = some (item, new)) : (n.act a).Kept (log ++ [n.record a]) := by
  rw [Network.act, record, undertake_offer ho]
  rcases hr : n.reach a.name with error | e
  · exact h.still (by cases a <;> rfl)
  · refine h.delivered ((reach_eq_ok h.exclusive).1 hr) rfl (by simp) ?_
    intro id hid
    cases a <;> cases ho <;> cases hid <;> simp

theorem act (h : n.Kept log) (a : Act) : (n.act a).Kept (log ++ [n.record a]) := by
  cases a with
  | bind name =>
    rw [Network.act, record, undertake_bind]
    rcases hbound : n.isBound name
    · exact h.opened hbound
    · exact h.still rfl
  | drop t =>
    rw [Network.act, record, undertake]
    rcases he : n.lessee? t with _ | e
    · exact h.still rfl
    · exact h.dropped he
  | accept t =>
    rw [Network.act, record, undertake]
    rcases he : n.lessee? t with _ | e
    · exact h.still rfl
    · exact h.accepted he
  | connect name => exact h.offered rfl
  | failAccept name => exact h.offered rfl
  | failConn name how => exact h.offered rfl

theorem run (h : n.Kept log) (acts : List Act) : (n.run acts).Kept (log ++ n.log acts) := by
  induction acts generalizing n log with
  | nil => simpa using h
  | cons a acts ih => simpa using ih (h.act a)

end Kept

/-- A network is in the state that its record tells of, whatever was done to it. -/
theorem kept_run (acts : List Act) : (fresh.run acts).Kept (fresh.log acts) :=
  kept_fresh.run acts

/-! ## What the record says of names and of leases -/

namespace Kept

variable {log : List Record}

theorem stands_iff (h : n.Kept log) :
    Stands log t ↔ ∃ e, n.lessee? t = some e ∧ n.isLive e = true := by
  have hlive {e : ListenerId} : n.isLive e = true ↔ n.lives e = 1 := by
    rw [lives]
    cases n.isLive e <;> simp
  simp only [hlive]
  cases h.phase t with
  | unborn hnone hbound _ _ => simp [hnone, Stands, hbound]
  | standing he hone hstands _ => simp [he, hone, hstands]
  | ended he hdead _ hdropped _ _ => simp [he, hdead, Stands, hdropped]

/-- A name is someone's as long as it has a live listener. -/
theorem taken_iff (h : n.Kept log) : Taken log name ↔ n.isBound name = true := by
  have hlive {e : ListenerId} : n.isLive e = true ↔ n.lives e = 1 := by
    rw [lives]
    cases n.isLive e <;> simp
  rw [isBound_iff]
  constructor
  · rintro ⟨t, rfl, hstands⟩
    obtain ⟨e, he, hlives⟩ := h.stands_iff.1 hstands
    exact ⟨e, (h.sound.answers_of_lessee he).2 (hlive.1 hlives)⟩
  · rintro ⟨e, hanswers⟩
    obtain ⟨t, rfl, he⟩ := hanswers.exists_lessee
    exact ⟨t, rfl, h.stands_iff.2 ⟨e, he, hlive.2 ((h.sound.answers_of_lessee he).1 hanswers)⟩⟩

theorem bindCount_eq (h : n.Kept log) (name : String) : n.bindCount name = bindings log name := by
  rw [h.sound.bindCount_eq, h.count]

/-- A name that is someone's leads to its listener; one that is nobody's leads nowhere. -/
theorem reach_cases (h : n.Kept log) (name : String) :
    (Taken log name ∧ ∃ e, n.reach name = .ok e)
      ∨ (¬ Taken log name ∧ n.reach name
        = .error (if bindings log name = 0 then .notFound name else .refused name)) := by
  rw [h.taken_iff]
  rcases hbound : n.isBound name
  · refine .inr ⟨Bool.false_ne_true, ?_⟩
    rw [reach_eq_error hbound, h.bindCount_eq]
  · obtain ⟨e, he⟩ := isBound_iff.1 hbound
    exact .inl ⟨rfl, e, (reach_eq_ok h.exclusive).2 he⟩

/-- The listener of a lease has taken what was delivered while the lease stood, in that order and up
to some point. -/
theorem taken_prefix (h : n.Kept log) (t : Lease) : taken log t <+: Network.delivered log t := by
  cases h.phase t with
  | unborn _ _ _ htaken => exact htaken ▸ List.nil_prefix
  | standing _ _ _ hqueue => exact hqueue ▸ List.prefix_append _ _
  | ended _ _ _ _ _ htaken => exact htaken

/-- What waits was delivered, so that its connection is there. -/
theorem below (h : n.Kept log) {l : Listener} {item : Incoming}
    (hl : n.listeners[e.index]? = some l) (hitem : item ∈ l.queue) :
    item.Below n.links.length := by
  have hlive := h.sound.live (List.mem_of_getElem? hl) hitem
  have hattached := h.sound.attached l (List.mem_of_getElem? hl)
  have hanswers : n.Answers l.name e := ⟨l, hl, by simp [isLiveAt, hattached, hlive]⟩
  obtain ⟨t, -, he⟩ := hanswers.exists_lessee
  have hwaits : item ∈ n.queueOf e := by rwa [queueOf_of_listener? hl]
  cases h.phase t with
  | unborn hnone _ _ _ => cases hnone.symm.trans he
  | standing he' _ _ hqueue =>
    cases he'.symm.trans he
    have hmem : item ∈ Network.delivered log t := hqueue ▸ List.mem_append_right _ hwaits
    obtain ⟨r, hr, hdelivery⟩ := List.mem_filterMap.1 hmem
    intro id hid
    apply h.known id
    refine List.mem_filterMap.2 ⟨r, tenure_subset hr, ?_⟩
    cases r with
    | delivered name item' =>
      obtain ⟨-, rfl⟩ : name = t.name ∧ item' = item := by simpa [Record.delivery?] using hdelivery
      exact hid
    | _ => cases hdelivery
  | ended he' hdead _ _ _ _ =>
    cases he'.symm.trans he
    simp [lives, isLive, hl, hlive] at hdead

/-- Whoever has a lease gets what was delivered next, or waits until something is. -/
theorem record_accept (h : n.Kept log) (hstands : Stands log t) : n.record (.accept t)
    = .accepted t (Incoming.answer ((Network.delivered log t).drop (taken log t).length)) := by
  cases h.phase t with
  | unborn _ hbound _ _ => exact absurd hstands.1 hbound
  | standing he _ _ hqueue =>
    obtain ⟨l, hl, -⟩ := exists_listener_of_lessee he
    rw [record, undertake, he, ← hqueue, List.drop_left, queueOf_of_listener? hl]
    simp only [h.sound.accept_eq hl]
  | ended _ _ _ hdropped _ _ => exact absurd hdropped hstands.2

end Kept

end Network

end KeyBridge
