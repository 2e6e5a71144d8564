-- SUMMARY: What is done under one name is the same whatever is done under others.
import KeyBridge.Proofs.Leases

/-!
# Neighbours

Many names live on one network. Whoever looks at one name only sees the same whether or not anything
is done under other names: if those acts are left out of a run, all that comes of the remaining ones
is the same, and so are their connections (`Apart.run`). Connections are counted through for the
whole network, so the two runs give different ids to the same connection; `Apart` keeps a list of
what the connections of the shorter run are called in the longer one.
-/

namespace KeyBridge

/-! ## Other ids for the same connections -/

/-- The connection that a list has at the place of an id. -/
def LinkId.within (names : List LinkId) (id : LinkId) : LinkId :=
  (names[id.index]?).getD id

/-- The same item with its connection under another id. -/
def Incoming.relink (ρ : LinkId → LinkId) : Incoming → Incoming
  | .conn c => .conn { c with link := ρ c.link }
  | .failure => .failure

/-- The same listener with the connections in its queue under other ids. -/
def Listener.relink (ρ : LinkId → LinkId) (l : Listener) : Listener :=
  { l with queue := l.queue.map (Incoming.relink ρ) }

/-- The same answer with its connection under another id. -/
def Progress.relink (ρ : LinkId → LinkId) : Progress Conn → Progress Conn
  | .done c => .done { c with link := ρ c.link }
  | .pending => .pending
  | .failed error => .failed error

theorem Incoming.answer_relink (ρ : LinkId → LinkId) (queue : List Incoming) :
    Incoming.answer (queue.map (Incoming.relink ρ)) = (Incoming.answer queue).relink ρ := by
  rcases queue with _ | ⟨_ | _, _⟩ <;> rfl

section

variable {names more : List LinkId} {id id' : LinkId}

theorem LinkId.within_append (h : id.index < names.length) :
    id.within (names ++ more) = id.within names := by
  rw [within, List.getElem?_append_left h, within]

theorem LinkId.within_of_lt (h : id.index < names.length) : id.within names = names[id.index] := by
  rw [within, List.getElem?_eq_getElem h]
  rfl

theorem LinkId.within_mem (h : id.index < names.length) : id.within names ∈ names := by
  rw [within_of_lt h]
  exact List.getElem_mem h

theorem LinkId.within_inj (hnodup : names.Nodup) (h : id.index < names.length)
    (h' : id'.index < names.length) (hsame : id.within names = id'.within names) : id = id' := by
  rw [within_of_lt h, within_of_lt h'] at hsame
  have hdistinct := List.pairwise_iff_getElem.1 hnodup
  rcases Nat.lt_trichotomy id.index id'.index with hlt | heq | hgt
  · exact absurd hsame (hdistinct _ _ h h' hlt)
  · exact congrArg LinkId.mk heq
  · exact absurd hsame.symm (hdistinct _ _ h' h hgt)

theorem Incoming.relink_append {item : Incoming} (h : item.Below names.length) :
    item.relink (LinkId.within (names ++ more)) = item.relink (LinkId.within names) := by
  cases item with
  | conn c => rw [relink, relink, LinkId.within_append (h c.link rfl)]
  | failure => rfl

theorem Incoming.isOn_relink {item : Incoming} (hnodup : names.Nodup)
    (hitem : item.Below names.length) (hid : id.index < names.length) :
    (item.relink (LinkId.within names)).isOn (id.within names) = item.isOn id := by
  cases item with
  | conn c =>
    rw [relink, isOn, isOn, decide_eq_decide]
    exact ⟨fun hsame => LinkId.within_inj hnodup (hitem c.link rfl) hid hsame,
      fun hsame => congrArg (LinkId.within names) hsame⟩
  | failure => rfl

end

namespace Network

/-- The name that a record is about. -/
def Record.name : Record → String
  | .bound t => t.name
  | .delivered name _ => name
  | .denied name _ => name
  | .unheard name => name
  | .dropped t => t.name
  | .accepted t _ => t.name
  | .idle t => t.name

/-- The connections of a record are among those with ids below a bound. -/
def Record.Below (bound : Nat) : Record → Prop
  | .delivered _ item => item.Below bound
  | .accepted _ (.done c) => c.link.index < bound
  | _ => True

/-- The same record with its connection under another id. -/
def Record.relink (ρ : LinkId → LinkId) : Record → Record
  | .delivered name item => .delivered name (item.relink ρ)
  | .accepted t answer => .accepted t (answer.relink ρ)
  | r => r

theorem Record.relink_append {names more : List LinkId} {r : Record} (h : r.Below names.length) :
    r.relink (LinkId.within (names ++ more)) = r.relink (LinkId.within names) := by
  cases r with
  | delivered name item => exact congrArg (Record.delivered name) (Incoming.relink_append h)
  | accepted t answer =>
    cases answer with
    | done c =>
      rw [relink, relink, Progress.relink, Progress.relink, LinkId.within_append h]
    | pending => rfl
    | failed error => rfl
  | _ => rfl

theorem name_record (n : Network) (a : Act) : (n.record a).name = a.name := by
  have hoffer {a : Act} {item : Incoming} {new : List Link} (ho : a.offer n = some (item, new)) :
      (n.record a).name = a.name := by
    rw [record, undertake_offer ho]
    rcases n.reach a.name
    · cases a <;> rfl
    · rfl
  cases a with
  | bind name =>
    rw [record, undertake_bind]
    split <;> rfl
  | drop t =>
    rw [record, undertake]
    split <;> rfl
  | accept t =>
    rw [record, undertake]
    split <;> rfl
  | connect name => exact hoffer rfl
  | failAccept name => exact hoffer rfl
  | failConn name how => exact hoffer rfl

/-! ## The listeners of a name -/

/-- The listeners that were opened under a name. -/
def under (name : String) (listeners : List Listener) : List Listener :=
  listeners.filter (·.name = name)

section

variable {name : String} {listeners : List Listener} {earlier i : Nat} {l : Listener}

/-- The listener of a lease is the one that was opened under its name after those of the earlier
leases. -/
theorem under_getElem? (h : nthPlace name (listeners.map Listener.name) earlier = some i) :
    (under name listeners)[earlier]? = listeners[i]? := by
  induction listeners generalizing earlier i with
  | nil => simp [nthPlace] at h
  | cons x xs ih =>
    rw [List.map_cons] at h
    by_cases hx : x.name = name
    · rw [hx] at h
      rcases earlier with _ | earlier
      · cases nthPlace_cons_zero.symm.trans h
        simp [under, hx]
      · rw [nthPlace_cons_succ] at h
        obtain ⟨j, hj, rfl⟩ := Option.map_eq_some_iff.1 h
        simpa [under, hx] using ih hj
    · rw [nthPlace_cons_ne hx] at h
      obtain ⟨j, hj, rfl⟩ := Option.map_eq_some_iff.1 h
      simpa [under, hx] using ih hj

theorem under_set (h : nthPlace name (listeners.map Listener.name) earlier = some i)
    (hl : l.name = name) :
    under name (listeners.set i l) = (under name listeners).set earlier l := by
  induction listeners generalizing earlier i with
  | nil => simp [nthPlace] at h
  | cons x xs ih =>
    rw [List.map_cons] at h
    by_cases hx : x.name = name
    · rw [hx] at h
      rcases earlier with _ | earlier
      · cases nthPlace_cons_zero.symm.trans h
        simp [under, hx, hl]
      · rw [nthPlace_cons_succ] at h
        obtain ⟨j, hj, rfl⟩ := Option.map_eq_some_iff.1 h
        simpa [under, hx] using ih hj
    · rw [nthPlace_cons_ne hx] at h
      obtain ⟨j, hj, rfl⟩ := Option.map_eq_some_iff.1 h
      simpa [under, hx] using ih hj

theorem under_set_other {l' : Listener} (hl : listeners[i]? = some l) (hname : l.name ≠ name)
    (hname' : l'.name = l.name) : under name (listeners.set i l') = under name listeners := by
  induction listeners generalizing i with
  | nil => rfl
  | cons x xs ih =>
    cases i with
    | zero =>
      cases Option.some.inj hl
      simp [under, hname', hname]
    | succ i =>
      have hrest := ih (i := i) (by simpa using hl)
      by_cases hx : x.name = name <;> simpa [under, hx] using hrest

theorem length_under :
    (under name listeners).length = (listeners.map Listener.name).count name := by
  rw [under, ← List.countP_eq_length_filter, List.count, List.countP_map]
  apply List.countP_congr
  simp

theorem under_append (more : List Listener) :
    under name (listeners ++ more) = under name listeners ++ under name more :=
  List.filter_append ..

theorem mem_under : l ∈ under name listeners ↔ l ∈ listeners ∧ l.name = name := by
  simp [under]

end

/-! ## Two networks that look the same under one name -/

variable {n n' : Network} {e e' : ListenerId} {t : Lease} {name : String} {names : List LinkId}

theorem under_of_lessee (he : n.lessee? t = some e) :
    (under t.name n.listeners)[t.earlier]? = n.listeners[e.index]? := by
  obtain ⟨i, hi, rfl⟩ := Option.map_eq_some_iff.1 he
  exact under_getElem? hi

theorem under_set_of_lessee {l : Listener} (he : n.lessee? t = some e) (hl : l.name = t.name) :
    under t.name (n.listeners.set e.index l) = (under t.name n.listeners).set t.earlier l := by
  obtain ⟨i, hi, rfl⟩ := Option.map_eq_some_iff.1 he
  exact under_set hi hl

theorem lessee?_eq_none_under :
    n.lessee? t = none ↔ (under t.name n.listeners).length ≤ t.earlier := by
  rw [lessee?_eq_none, length_under]
  rfl

/-- The second network looks under one name as the first does. A list tells what its connections are
called in the first; there they wait under no other name. -/
structure Apart (name : String) (names : List LinkId) (n n' : Network) : Prop where
  kept : ∃ log, n.Kept log
  kept' : ∃ log, n'.Kept log
  listeners : under name n.listeners
    = (under name n'.listeners).map (Listener.relink (LinkId.within names))
  links : ∀ id, id.index < names.length → n.link (id.within names) = n'.link id
  count : n'.links.length = names.length
  known : ∀ id ∈ names, id.index < n.links.length
  distinct : names.Nodup
  outer : ∀ l ∈ n.listeners, l.name ≠ name → ∀ item ∈ l.queue, ∀ id ∈ names, item.isOn id = false

theorem apart_fresh (name : String) : Apart name [] fresh fresh where
  kept := ⟨[], kept_fresh⟩
  kept' := ⟨[], kept_fresh⟩
  listeners := rfl
  links id hid := absurd hid (Nat.not_lt_zero _)
  count := rfl
  known id hid := by cases hid
  distinct := List.nodup_nil
  outer l hl := by cases hl

namespace Apart

theorem below (h : Apart name names n n') {l : Listener} (hl : l ∈ n'.listeners) {item : Incoming}
    (hitem : item ∈ l.queue) : item.Below names.length := by
  obtain ⟨log, hkept⟩ := h.kept'
  obtain ⟨i, hi⟩ := List.getElem?_of_mem hl
  rw [← h.count]
  exact hkept.below (e := ⟨i⟩) hi hitem

/-- With more connections the listeners look the same. -/
theorem listeners_append (h : Apart name names n n') (more : List LinkId) :
    under name n.listeners
      = (under name n'.listeners).map (Listener.relink (LinkId.within (names ++ more))) := by
  rw [h.listeners]
  apply List.map_congr_left
  intro l hl
  have hqueue : l.queue.map (Incoming.relink (LinkId.within names))
      = l.queue.map (Incoming.relink (LinkId.within (names ++ more))) :=
    List.map_congr_left fun item hitem =>
      (Incoming.relink_append (h.below (mem_under.1 hl).1 hitem)).symm
  rw [Listener.relink, hqueue, Listener.relink]

/-- A lease has a listener in both networks or in neither. -/
theorem lessee_cases (h : Apart t.name names n n') :
    (n.lessee? t = none ∧ n'.lessee? t = none)
      ∨ ∃ e e', n.lessee? t = some e ∧ n'.lessee? t = some e' := by
  have hnone : n.lessee? t = none ↔ n'.lessee? t = none := by
    rw [lessee?_eq_none_under, lessee?_eq_none_under, h.listeners, List.length_map]
  rcases he : n.lessee? t with _ | e
  · exact .inl ⟨rfl, hnone.1 he⟩
  · rcases he' : n'.lessee? t with _ | e'
    · cases he.symm.trans (hnone.2 he')
    · exact .inr ⟨e, e', rfl, rfl⟩

theorem listener (h : Apart t.name names n n') (he : n.lessee? t = some e)
    (he' : n'.lessee? t = some e') {l' : Listener} (hl' : n'.listeners[e'.index]? = some l') :
    n.listeners[e.index]? = some (l'.relink (LinkId.within names)) := by
  rw [← under_of_lessee he, h.listeners, List.getElem?_map, under_of_lessee he', hl']
  rfl

theorem isBound_eq (h : Apart name names n n') : n.isBound name = n'.isBound name := by
  have hunder (m : Network) :
      m.isBound name = (under name m.listeners).any fun l => l.attached && l.live := by
    rw [isBound, under, List.any_filter]
    congr 1
    funext l
    rw [isLiveAt]
    cases l.attached <;> cases l.live <;> simp
  rw [hunder, hunder, h.listeners, List.any_map]
  rfl

theorem bindCount_eq (h : Apart name names n n') : n.bindCount name = n'.bindCount name := by
  have hunder (m : Network) :
      m.bindCount name = (under name m.listeners).countP Listener.attached := by
    rw [bindCount, under, List.countP_filter]
  rw [hunder, hunder, h.listeners, List.countP_map]
  rfl

/-- The name leads to the listeners of the same lease, or nowhere for the same reason. -/
theorem reach_cases (h : Apart name names n n') :
    (∃ t e e', t.name = name ∧ n.lessee? t = some e ∧ n'.lessee? t = some e'
      ∧ n.reach name = .ok e ∧ n'.reach name = .ok e')
      ∨ ∃ error, n.reach name = .error error ∧ n'.reach name = .error error := by
  obtain ⟨log, hkept⟩ := h.kept
  obtain ⟨log', hkept'⟩ := h.kept'
  rcases hbound : n'.isBound name
  · refine .inr ⟨_, reach_eq_error (h.isBound_eq.trans hbound), ?_⟩
    rw [reach_eq_error hbound, h.bindCount_eq]
  · obtain ⟨e', he'⟩ := isBound_iff.1 hbound
    obtain ⟨t, rfl, ht'⟩ := he'.exists_lessee
    obtain ⟨l', hl', hat⟩ := id he'
    rcases h.lessee_cases with ⟨-, hnone'⟩ | ⟨e, found, ht, hfound⟩
    · cases ht'.symm.trans hnone'
    · cases ht'.symm.trans hfound
      have he : n.Answers t.name e := ⟨_, h.listener ht ht' hl', hat⟩
      exact .inl ⟨t, e, e', rfl, ht, ht', (reach_eq_ok hkept.exclusive).2 he,
        (reach_eq_ok hkept'.exclusive).2 he'⟩

/-! ## What is done under another name -/

/-- One listener of another name changes, and connections that are not in the list. -/
theorem set_other (h : Apart name names n n') {m : Network} {l l' : Listener}
    (hkept : ∃ log, m.Kept log) (hl : n.listeners[e.index]? = some l) (hne : l.name ≠ name)
    (hname : l'.name = l.name) (hm : m.listeners = n.listeners.set e.index l')
    (hlength : n.links.length ≤ m.links.length)
    (hlinks : ∀ id ∈ names, m.link id = n.link id)
    (hqueue : ∀ item ∈ l'.queue, ∀ id ∈ names, item.isOn id = false) :
    Apart name names m n' where
  kept := hkept
  kept' := h.kept'
  listeners := by rw [hm, under_set_other hl hne hname, h.listeners]
  links id hid := by
    rw [hlinks _ (LinkId.within_mem hid), h.links id hid]
  count := h.count
  known id hid := Nat.lt_of_lt_of_le (h.known id hid) hlength
  distinct := h.distinct
  outer := by
    rw [hm]
    intro x hx hnx
    rcases List.mem_or_eq_of_mem_set hx with hx | rfl
    · exact h.outer x hx hnx
    · exact hqueue

theorem act_other (h : Apart name names n n') {a : Act} (ha : a.name ≠ name) :
    Apart name names (n.act a) n' := by
  obtain ⟨log, hkept⟩ := h.kept
  have hafter : ∃ log, (n.act a).Kept log := ⟨_, hkept.act a⟩
  have hoffer {item : Incoming} {new : List Link} (ho : a.offer n = some (item, new)) :
      Apart name names (n.act a) n' := by
    rw [act, undertake_offer ho] at hafter ⊢
    rcases hr : n.reach a.name with error | e
    · exact h
    · rw [hr] at hafter
      obtain ⟨l, hl, -, hname⟩ := reach_ok hr
      have hset := congrArg Network.listeners
        (enqueue_eq (n := { n with links := n.links ++ new }) item hl)
      refine h.set_other hafter hl (hname ▸ ha) (by rfl) hset (by simp) ?_ ?_
      · intro id hid
        have hlt := h.known id hid
        simp [link, List.getD_eq_getElem?_getD, List.getElem?_append_left hlt]
      · intro x hx id hid
        rcases List.mem_append.1 hx with hx | hx
        · exact h.outer l (List.mem_of_getElem? hl) (hname ▸ ha) x hx id hid
        · have hne : n.links.length ≠ id.index := Nat.ne_of_gt (h.known id hid)
          cases List.mem_singleton.1 hx
          cases a <;> cases ho <;> simp [Incoming.isOn]
          all_goals
            rintro rfl
            exact hne rfl
  cases a with
  | bind other =>
    rw [act, undertake_bind] at hafter ⊢
    split
    · exact h
    · rename_i hfree
      rw [if_neg hfree] at hafter
      have hother : under name (n.openListener other).listeners = under name n.listeners := by
        have hne : other ≠ name := ha
        simp [openListener, under, hne]
      refine ⟨hafter, h.kept', hother.trans h.listeners, h.links, h.count, h.known, h.distinct, ?_⟩
      intro l hl hne
      rcases List.mem_append.1 hl with hl | hl
      · exact h.outer l hl hne
      · cases List.mem_singleton.1 hl
        intro item hitem
        cases hitem
  | drop t =>
    rw [act, undertake] at hafter ⊢
    rcases he : n.lessee? t with _ | e
    · exact h
    · rw [he] at hafter
      obtain ⟨l, hl, hname⟩ := exists_listener_of_lessee he
      have hne : l.name ≠ name := hname ▸ ha
      refine h.set_other hafter hl hne (by rfl) (listeners_dropListener hl)
        (Nat.le_of_eq (length_links_dropListener n e).symm) ?_ fun item hitem => by cases hitem
      intro id hid
      have hnot : (n.queueOf e).any (Incoming.isOn id) = false := by
        rw [queueOf_of_listener? hl]
        simpa using fun item hitem => h.outer l (List.mem_of_getElem? hl) hne item hitem id hid
      exact (link_dropListener n e id).trans (by rw [hnot]; rfl)
  | accept t =>
    rw [act, undertake] at hafter ⊢
    rcases he : n.lessee? t with _ | e
    · exact h
    · obtain ⟨l, hl, hname⟩ := exists_listener_of_lessee he
      have hne : l.name ≠ name := hname ▸ ha
      simp only [he, hkept.sound.accept_eq hl] at hafter ⊢
      have hset := Eq.refl (n.listeners.set e.index { l with queue := l.queue.tail })
      refine h.set_other hafter hl hne (by rfl) hset (Nat.le_refl _) (fun _ _ => rfl) ?_
      exact fun item hitem => h.outer l (List.mem_of_getElem? hl) hne item
        (List.mem_of_mem_tail hitem)
  | connect other => exact hoffer rfl
  | failAccept other => exact hoffer rfl
  | failConn other how => exact hoffer rfl

/-! ## What is done under the name -/

/-- The same listener changes in both networks, and new connections are added to the list. -/
theorem set_own (h : Apart t.name names n n') (he : n.lessee? t = some e)
    (he' : n'.lessee? t = some e') {m m' : Network} (l : Listener) (more : List LinkId)
    (hkept : ∃ log, m.Kept log) (hkept' : ∃ log, m'.Kept log) (hname : l.name = t.name)
    (hm : m.listeners = n.listeners.set e.index (l.relink (LinkId.within (names ++ more))))
    (hm' : m'.listeners = n'.listeners.set e'.index l)
    (hlinks : ∀ id, id.index < (names ++ more).length →
      m.link (id.within (names ++ more)) = m'.link id)
    (hcount : m'.links.length = (names ++ more).length)
    (hlength : n.links.length ≤ m.links.length)
    (hmore : ∀ id ∈ more, n.links.length ≤ id.index ∧ id.index < m.links.length)
    (hdistinct : more.Nodup) : Apart t.name (names ++ more) m m' where
  kept := hkept
  kept' := hkept'
  listeners := by
    have hname' : (l.relink (LinkId.within (names ++ more))).name = t.name := hname
    rw [hm, hm', under_set_of_lessee he hname', under_set_of_lessee he' hname,
      h.listeners_append more, List.map_set]
  links := hlinks
  count := hcount
  known id hid := by
    rcases List.mem_append.1 hid with hid | hid
    · exact Nat.lt_of_lt_of_le (h.known id hid) hlength
    · exact (hmore id hid).2
  distinct := by
    rw [List.nodup_append]
    refine ⟨h.distinct, hdistinct, ?_⟩
    rintro id hold id' hnew rfl
    exact absurd (h.known id hold) (Nat.not_lt.2 (hmore id hnew).1)
  outer := by
    rw [hm]
    intro x hx hne item hitem id hid
    rcases List.mem_or_eq_of_mem_set hx with hx | rfl
    · rcases List.mem_append.1 hid with hid | hid
      · exact h.outer x hx hne item hitem id hid
      · -- What waits under another name is older than the new connections.
        obtain ⟨log, hold⟩ := h.kept
        obtain ⟨i, hi⟩ := List.getElem?_of_mem hx
        have hbelow := hold.below (e := ⟨i⟩) hi hitem
        cases item with
        | failure => rfl
        | conn c =>
          have hlt := hbelow c.link rfl
          have hle := (hmore id hid).1
          refine decide_eq_false ?_
          rintro rfl
          omega
    · exact absurd hname hne

theorem opened (h : Apart name names n n') (hfree : n.isBound name = false) :
    Apart name names (n.openListener name) (n'.openListener name) := by
  obtain ⟨log, hkept⟩ := h.kept
  obtain ⟨log', hkept'⟩ := h.kept'
  refine ⟨⟨_, hkept.opened hfree⟩, ⟨_, hkept'.opened (h.isBound_eq.symm.trans hfree)⟩, ?_,
    h.links, h.count, h.known, h.distinct, ?_⟩
  · show under name (n.listeners ++ _) = (under name (n'.listeners ++ _)).map _
    rw [under_append, under_append, List.map_append, h.listeners]
    simp [under, Listener.relink]
  · intro l hl hne
    rcases List.mem_append.1 hl with hl | hl
    · exact h.outer l hl hne
    · cases List.mem_singleton.1 hl
      intro item hitem
      cases hitem

theorem queueOf_eq (h : Apart t.name names n n') (he : n.lessee? t = some e)
    (he' : n'.lessee? t = some e') :
    n.queueOf e = (n'.queueOf e').map (Incoming.relink (LinkId.within names)) := by
  obtain ⟨l, hl, -⟩ := exists_listener_of_lessee he'
  rw [queueOf_of_listener? hl, queueOf_of_listener? (h.listener he he' hl)]
  rfl

theorem dropped (h : Apart t.name names n n') (he : n.lessee? t = some e)
    (he' : n'.lessee? t = some e') :
    Apart t.name names (n.dropListener e) (n'.dropListener e') := by
  obtain ⟨log, hkept⟩ := h.kept
  obtain ⟨log', hkept'⟩ := h.kept'
  obtain ⟨l, hl, hname⟩ := exists_listener_of_lessee he'
  have hset := listeners_dropListener (h.listener he he' hl)
  have hafter := h.set_own he he' { l with queue := [], live := false } [] ⟨_, hkept.dropped he⟩
    ⟨_, hkept'.dropped he'⟩ hname hset (listeners_dropListener hl)
  simp only [List.append_nil] at hafter
  refine hafter ?_ (by simpa using h.count) (by simp) (by simp) List.nodup_nil
  intro id hid
  have hsame : (n.queueOf e).any (Incoming.isOn (id.within names))
      = (n'.queueOf e').any (Incoming.isOn id) := by
    rw [h.queueOf_eq he he', List.any_map, Bool.eq_iff_iff]
    simp only [List.any_eq_true, Function.comp_apply]
    have hitem {item : Incoming} (hmem : item ∈ n'.queueOf e') :
        (item.relink (LinkId.within names)).isOn (id.within names) = item.isOn id := by
      rw [queueOf_of_listener? hl] at hmem
      exact Incoming.isOn_relink h.distinct (h.below (List.mem_of_getElem? hl) hmem) hid
    constructor
    · rintro ⟨item, hmem, hon⟩
      exact ⟨item, hmem, hitem hmem ▸ hon⟩
    · rintro ⟨item, hmem, hon⟩
      exact ⟨item, hmem, (hitem hmem).trans hon⟩
  rw [link_dropListener, link_dropListener, hsame, h.links id hid]

theorem accepted (h : Apart t.name names n n') (he : n.lessee? t = some e)
    (he' : n'.lessee? t = some e') :
    Apart t.name names (n.accept e).2 (n'.accept e').2
      ∧ (n.accept e).1 = (n'.accept e').1.relink (LinkId.within names)
      ∧ (Record.accepted t (n'.accept e').1).Below names.length := by
  obtain ⟨log, hkept⟩ := h.kept
  obtain ⟨log', hkept'⟩ := h.kept'
  obtain ⟨l, hl, hname⟩ := exists_listener_of_lessee he'
  have hl' := h.listener he he' hl
  have hkeeps : ∃ log, (n.accept e).2.Kept log := ⟨_, hkept.accepted he⟩
  have hkeeps' : ∃ log, (n'.accept e').2.Kept log := ⟨_, hkept'.accepted he'⟩
  rw [hkept.sound.accept_eq hl', hkept'.sound.accept_eq hl] at *
  refine ⟨?_, Incoming.answer_relink _ _, ?_⟩
  · have hset : n.listeners.set e.index { l.relink (LinkId.within names) with
        queue := (l.relink (LinkId.within names)).queue.tail }
        = n.listeners.set e.index
          (Listener.relink (LinkId.within (names ++ [])) { l with queue := l.queue.tail }) := by
      simp [Listener.relink]
    have hafter := h.set_own he he' { l with queue := l.queue.tail } [] hkeeps hkeeps' hname hset
      rfl
    simp only [List.append_nil] at hafter
    exact hafter h.links h.count (Nat.le_refl _) (by simp) List.nodup_nil
  · have hbelow {item : Incoming} (hitem : item ∈ l.queue) :=
      h.below (List.mem_of_getElem? hl) hitem
    rcases hq : l.queue with _ | ⟨c | _, rest⟩
    · trivial
    · exact hbelow (hq ▸ List.mem_cons_self) c.link rfl
    · trivial

/-- Something new reaches the same listener in both networks. -/
theorem delivered (h : Apart t.name names n n') (he : n.lessee? t = some e)
    (he' : n'.lessee? t = some e') {m m' : Network} (item : Incoming) (more : List LinkId)
    (hkept : ∃ log, (m.enqueue e (item.relink (LinkId.within (names ++ more)))).Kept log)
    (hkept' : ∃ log, (m'.enqueue e' item).Kept log)
    (hm : m.listeners = n.listeners) (hm' : m'.listeners = n'.listeners)
    (hlinks : ∀ id, id.index < (names ++ more).length →
      m.link (id.within (names ++ more)) = m'.link id)
    (hcount : m'.links.length = (names ++ more).length)
    (hlength : n.links.length ≤ m.links.length)
    (hmore : ∀ id ∈ more, n.links.length ≤ id.index ∧ id.index < m.links.length)
    (hdistinct : more.Nodup) :
    Apart t.name (names ++ more) (m.enqueue e (item.relink (LinkId.within (names ++ more))))
      (m'.enqueue e' item) := by
  obtain ⟨l, hl, hname⟩ := exists_listener_of_lessee he'
  have hqueue : l.queue.map (Incoming.relink (LinkId.within names))
      = l.queue.map (Incoming.relink (LinkId.within (names ++ more))) :=
    List.map_congr_left fun x hx =>
      (Incoming.relink_append (h.below (List.mem_of_getElem? hl) hx)).symm
  have hl' := h.listener he he' hl
  refine h.set_own he he' { l with queue := l.queue ++ [item] } more hkept hkept' hname ?_ ?_
    hlinks hcount hlength hmore hdistinct
  · rw [enqueue_eq _ (hm.symm ▸ hl'), hm]
    simp [Listener.relink, hqueue]
  · rw [enqueue_eq _ (hm'.symm ▸ hl), hm']

/-- A connection is made in both networks, if the name has a listener. -/
theorem offered_conn {a : Act} (h : Apart a.name names n n') {how : Option Breakage} {new : Link}
    (ho : ∀ m : Network, a.offer m = some (.conn ⟨⟨m.links.length⟩, how⟩, [new])) :
    ∃ more, Apart a.name (names ++ more) (n.act a) (n'.act a)
      ∧ n.record a = (n'.record a).relink (LinkId.within (names ++ more))
      ∧ (n'.record a).Below (names ++ more).length := by
  obtain ⟨log, hkept⟩ := h.kept
  obtain ⟨log', hkept'⟩ := h.kept'
  have hafter := hkept.act a
  have hafter' := hkept'.act a
  simp only [act, record, undertake_offer (ho _)] at hafter hafter' ⊢
  rcases h.reach_cases with ⟨t, e, e', ht, he, he', hr, hr'⟩ | ⟨error, hr, hr'⟩
  · simp only [hr, hr'] at hafter hafter' ⊢
    refine ⟨[⟨n.links.length⟩], ?_⟩
    have hwithin : LinkId.within (names ++ [⟨n.links.length⟩]) ⟨n'.links.length⟩
        = ⟨n.links.length⟩ := by
      simp [LinkId.within, h.count]
    have hitem : (Incoming.conn ⟨⟨n'.links.length⟩, how⟩).relink
        (LinkId.within (names ++ [⟨n.links.length⟩])) = .conn ⟨⟨n.links.length⟩, how⟩ := by
      rw [Incoming.relink, hwithin]
    have hbelow : (Incoming.conn ⟨⟨n'.links.length⟩, how⟩).Below
        (names ++ [LinkId.mk n.links.length]).length := by
      intro id hid
      cases hid
      simp [h.count]
    refine ⟨?_, ?_, hbelow⟩
    · rw [← hitem] at hafter ⊢
      rw [← ht] at h ⊢
      refine h.delivered he he' (.conn ⟨⟨n'.links.length⟩, how⟩) [⟨n.links.length⟩] ⟨_, hafter⟩
        ⟨_, hafter'⟩ rfl rfl ?_ (by simp [h.count]) (by simp) (by simp)
        (List.pairwise_singleton _ _)
      intro id hid
      by_cases hlt : id.index < names.length
      · have hold := h.known _ (LinkId.within_mem hlt)
        have hlink := h.links id hlt
        rw [LinkId.within_append hlt]
        rw [link, link, List.getD_eq_getElem?_getD, List.getD_eq_getElem?_getD,
          List.getElem?_append_left hold, List.getElem?_append_left (h.count ▸ hlt),
          ← List.getD_eq_getElem?_getD, ← List.getD_eq_getElem?_getD]
        exact hlink
      · have hid : id = ⟨n'.links.length⟩ := by
          have hindex : id.index = n'.links.length := by
            rw [List.length_append, List.length_singleton] at hid
            rw [h.count]
            omega
          exact congrArg LinkId.mk hindex
        rw [hid, hwithin]
        simp [link]
    · rw [Record.relink, hitem]
  · simp only [hr, hr']
    refine ⟨[], ?_⟩
    rw [List.append_nil]
    refine ⟨h, ?_, ?_⟩ <;> cases a <;> first | rfl | trivial

theorem offered_failure (h : Apart name names n n') :
    Apart name names (n.act (.failAccept name)) (n'.act (.failAccept name))
      ∧ n.record (.failAccept name)
        = (n'.record (.failAccept name)).relink (LinkId.within names)
      ∧ (n'.record (.failAccept name)).Below names.length := by
  obtain ⟨log, hkept⟩ := h.kept
  obtain ⟨log', hkept'⟩ := h.kept'
  have hafter := hkept.act (.failAccept name)
  have hafter' := hkept'.act (.failAccept name)
  have ho (m : Network) : (Act.failAccept name).offer m = some (.failure, []) := rfl
  simp only [act, record, undertake_offer (ho _), List.append_nil] at hafter hafter' ⊢
  rcases h.reach_cases with ⟨t, e, e', rfl, he, he', hr, hr'⟩ | ⟨error, hr, hr'⟩
  · simp only [Act.name, hr, hr'] at hafter hafter' ⊢
    refine ⟨?_, rfl, fun id hid => by cases hid⟩
    have hdone := h.delivered he he' .failure [] ⟨_, hafter⟩ ⟨_, hafter'⟩ rfl rfl
    simp only [List.append_nil] at hdone
    exact hdone h.links h.count (Nat.le_refl _) (by simp) List.nodup_nil
  · simp only [Act.name, hr, hr']
    exact ⟨h, rfl, trivial⟩

theorem act_own {a : Act} (h : Apart a.name names n n') :
    ∃ more, Apart a.name (names ++ more) (n.act a) (n'.act a)
      ∧ n.record a = (n'.record a).relink (LinkId.within (names ++ more))
      ∧ (n'.record a).Below (names ++ more).length := by
  cases a with
  | bind name =>
    have h : Apart name names n n' := h
    refine ⟨[], ?_⟩
    rw [List.append_nil, act, act, record, record, undertake_bind, undertake_bind, ← h.isBound_eq]
    rcases hbound : n.isBound name
    · refine ⟨h.opened hbound, ?_, trivial⟩
      rw [h.bindCount_eq]
      rfl
    · exact ⟨h, rfl, trivial⟩
  | drop t =>
    refine ⟨[], ?_⟩
    rw [List.append_nil, act, act, record, record, undertake, undertake]
    rcases h.lessee_cases with ⟨hnone, hnone'⟩ | ⟨e, e', he, he'⟩
    · rw [hnone, hnone']
      exact ⟨h, rfl, trivial⟩
    · rw [he, he']
      exact ⟨h.dropped he he', rfl, trivial⟩
  | accept t =>
    refine ⟨[], ?_⟩
    rw [List.append_nil, act, act, record, record, undertake, undertake]
    rcases h.lessee_cases with ⟨hnone, hnone'⟩ | ⟨e, e', he, he'⟩
    · rw [hnone, hnone']
      exact ⟨h, rfl, trivial⟩
    · obtain ⟨hafter, hanswer, hbelow⟩ := h.accepted he he'
      rw [he, he']
      exact ⟨hafter, congrArg (Record.accepted t) hanswer, hbelow⟩
  | connect name => exact h.offered_conn fun _ => rfl
  | failAccept name =>
    refine ⟨[], ?_⟩
    rw [List.append_nil]
    exact h.offered_failure
  | failConn name how => exact h.offered_conn fun _ => rfl

/-- Two networks that look the same under one name still do when everything is done to the first,
and only what is about the name to the second. -/
theorem run (h : Apart name names n n') (acts : List Act) :
    ∃ more, Apart name (names ++ more) (n.run acts) (n'.run (acts.filter (·.name = name)))
      ∧ (n.log acts).filter (·.name = name) = (n'.log (acts.filter (·.name = name))).map
        (Record.relink (LinkId.within (names ++ more))) := by
  induction acts generalizing n n' names with
  | nil =>
    refine ⟨[], ?_, rfl⟩
    rw [List.append_nil]
    exact h
  | cons a acts ih =>
    by_cases ha : a.name = name
    · subst ha
      obtain ⟨more, hact, hrecord, hbelow⟩ := h.act_own
      obtain ⟨rest, hrun, hlog⟩ := ih hact
      rw [List.append_assoc] at hrun hlog
      refine ⟨more ++ rest, by simpa using hrun, ?_⟩
      have hsame : (n'.record a).relink (LinkId.within (names ++ (more ++ rest))) = n.record a := by
        rw [hrecord, ← List.append_assoc, Record.relink_append hbelow]
      simp [name_record, hlog, hsame]
    · obtain ⟨more, hrun, hlog⟩ := ih (h.act_other ha)
      exact ⟨more, by simpa [ha] using hrun, by simpa [name_record, ha] using hlog⟩

end Apart

/-! ## All names -/

/-- After anything that was done to a network: no two live listeners have a name in common, and they
belong to the leases that stand. A name can be bound while nobody has it, and only then; a name that
cannot be bound stays as it is. One can connect to a name, or have it fail, while somebody has it;
otherwise it was never bound, or its listeners are gone. A listener gives what was delivered under
its name while its lease stood, in order and each connection once, and nothing else. What is done
under one name comes out the same, up to the ids of connections, if all that is done under other
names is left out. -/
theorem leases_hold (acts : List Act) :
    let n := fresh.run acts
    let log := fresh.log acts
    n.Exclusive
    ∧ (∀ t, Stands log t ↔ ∃ e, n.lessee? t = some e ∧ n.isLive e = true)
    ∧ (∀ name, n.bindCount name = bindings log name)
    ∧ (∀ name, (¬ Taken log name → ∃ e n', n.bind name = .ok (e, n')
          ∧ n'.lessee? ⟨name, bindings log name⟩ = some e)
        ∧ (Taken log name → n.bind name = .error (.nameInUse name) ∧ n.act (.bind name) = n))
    ∧ (∀ name, ((∃ link n', n.connect name = .ok (link, n')) ↔ Taken log name)
        ∧ (n.connect name = .error (.notFound name) ↔ bindings log name = 0)
        ∧ (n.connect name = .error (.refused name) ↔ 0 < bindings log name ∧ ¬ Taken log name)
        ∧ ((n.failAccept name).1 = true ↔ Taken log name)
        ∧ ∀ how, (n.failConn name how).1 = true ↔ Taken log name)
    ∧ (∀ t, taken log t <+: delivered log t)
    ∧ (∀ t, Stands log t → n.record (.accept t)
        = .accepted t (Incoming.answer ((delivered log t).drop (taken log t).length)))
    ∧ (made log).Nodup
    ∧ ∀ name, ∃ ρ : LinkId → LinkId,
        let acts' := acts.filter (·.name = name)
        let n' := fresh.run acts'
        log.filter (·.name = name) = (fresh.log acts').map (Record.relink ρ)
        ∧ (∀ id, id.index < n'.links.length → n.link (ρ id) = n'.link id)
        ∧ ∀ id id', id.index < n'.links.length → id'.index < n'.links.length →
          ρ id = ρ id' → id = id' := by
  intro n log
  have hkept : n.Kept log := kept_run acts
  refine ⟨hkept.exclusive, fun t => hkept.stands_iff, hkept.bindCount_eq, ?_, ?_,
    hkept.taken_prefix, fun t => hkept.record_accept, hkept.distinct, ?_⟩
  · intro name
    rw [hkept.taken_iff]
    constructor
    · intro hfree
      refine ⟨n.nextListener, n.openListener name, if_neg hfree, ?_⟩
      rw [lessee?_openListener, hkept.count, if_pos rfl]
    · intro hbound
      refine ⟨if_pos hbound, ?_⟩
      rw [act, undertake_bind, if_pos hbound]
  · intro name
    rcases hkept.reach_cases name with ⟨htaken, e, hr⟩ | ⟨hfree, hr⟩
    · have hpos : bindings log name ≠ 0 := by
        obtain ⟨t, rfl, hstands⟩ := htaken
        exact Nat.ne_of_gt (List.countP_pos_iff.2 ⟨_, hstands.1, by simp [Record.binds]⟩)
      have hconnects : ∃ link n', n.connectTo e = (link, n') := ⟨_, _, rfl⟩
      simp [connect, failAccept, failConn, hr, htaken, hpos, Except.map, hconnects]
    · by_cases hnever : bindings log name = 0
      · simp [connect, failAccept, failConn, hr, hfree, hnever, Except.map]
      · simp [connect, failAccept, failConn, hr, hfree, hnever, Except.map, Nat.pos_iff_ne_zero]
  · intro name
    obtain ⟨names, hapart, hlog⟩ := (apart_fresh name).run acts
    rw [List.nil_append] at hapart hlog
    refine ⟨LinkId.within names, hlog, ?_, ?_⟩
    · intro id hid
      exact hapart.links id (hapart.count ▸ hid)
    · intro id id' hid hid' hsame
      exact LinkId.within_inj hapart.distinct (hapart.count ▸ hid) (hapart.count ▸ hid') hsame

/-- A name is let twice, and somebody still waits when its first listener is dropped; another name
is let besides. -/
def lettings : List Act :=
  [.bind "x", .connect "x", .failAccept "y", .bind "y", .connect "y", .accept ⟨"x", 0⟩, .bind "x",
    .connect "x", .drop ⟨"x", 0⟩, .connect "x", .bind "x", .failConn "x" .reading,
    .accept ⟨"x", 1⟩, .failAccept "x"]

theorem lettings_hold :
    Stands (fresh.log lettings) ⟨"x", 1⟩ ∧ ¬ Stands (fresh.log lettings) ⟨"x", 0⟩
    ∧ delivered (fresh.log lettings) ⟨"x", 0⟩ = [.conn ⟨⟨0⟩, none⟩, .conn ⟨⟨2⟩, none⟩]
    ∧ taken (fresh.log lettings) ⟨"x", 0⟩ = [.conn ⟨⟨0⟩, none⟩]
    ∧ (fresh.run lettings).bindCount "x" = 2
    ∧ (fresh.run lettings).connect "z" = .error (.notFound "z")
    ∧ (fresh.run lettings).record (.accept ⟨"x", 1⟩) = .accepted ⟨"x", 1⟩ (.failed .injected) := by
  have hstands : Stands (fresh.log lettings) ⟨"x", 1⟩ := by
    unfold Stands
    decide +kernel
  have hover : ¬ Stands (fresh.log lettings) ⟨"x", 0⟩ := by
    unfold Stands
    decide +kernel
  obtain ⟨-, -, hcount, -, hconnect, -, haccept, -⟩ := leases_hold lettings
  refine ⟨hstands, hover, by decide +kernel, by decide +kernel, ?_, ?_, ?_⟩
  · rw [hcount]
    decide +kernel
  · exact (hconnect "z").2.1.2 (by decide +kernel)
  · rw [haccept _ hstands]
    decide +kernel

end Network

end KeyBridge
