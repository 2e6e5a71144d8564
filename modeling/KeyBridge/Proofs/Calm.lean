-- SUMMARY: Runs without injected failures and shutdowns.
import KeyBridge.Proofs.Passages

/-!
# Undisturbed runs

Without injected failures and without shutdowns no end of a connection breaks, no listener fails
and no task is abandoned. What can then still break a server down is a client that hangs up while
there is more to write to it.
-/

namespace KeyBridge

namespace Switchboard

variable {b b' : Switchboard} {a : Act} {id : ServerId} {l : LinkId}

/-- Whether an act is a shutdown or puts in a failure. -/
def Act.disturbs : Act → Bool
  | .shutdown _ | .failAccept _ | .failConn _ _ => true
  | _ => false

/-- Nothing is broken or abandoned. -/
structure Undisturbed (b : Switchboard) : Prop where
  abandoned : b.abandoned = []
  unawaited : b.unawaited = []
  working : ¬ b.site.network.Queues .failure
  queued : ∀ c, b.Queued c → c.breakage = none
  served : ∀ id c u, b.Serves id c u → c.breakage = none

theorem undisturbed_create (host : Host) : (create (.inMemory host)).Undisturbed where
  abandoned := rfl
  unawaited := rfl
  working := by simp [create, Site.inMemory, Network.fresh, Network.Queues]
  queued := by simp [create, Site.inMemory, Network.fresh, Network.Queues, Queued]
  served := by simp [create, Serves, server?]

/-! ## Acts -/

theorem queues_of_step {s s' : Server} {site' : Site} (h : s.Step b.site s' site')
    (hn : b.site.network.Sound) {item : Incoming} (hq : site'.network.Queues item) :
    b.site.network.Queues item := by
  cases h with
  | bound => exact Network.queues_openListener.1 hq
  | refused => exact hq
  | accepted e conn n _ ha => exact Network.Queues.of_accept_done ha hq
  | notAccepted e error n _ ha =>
    exact Network.Queues.of_accept_failed hn ha (Network.Queues.of_dropListener hq)
  | heard e conn after bytes n _ _ hr =>
    exact (Network.queues_of_listeners (Conn.read_frame hr).2.1).1 hq
  | answered => exact hq
  | parted e conn after n _ hr =>
    have hd : (after.drop n).listeners = b.site.network.listeners := (Conn.read_frame hr).2.1
    exact (Network.queues_of_listeners hd).1 hq
  | unheard e conn after error n _ hr =>
    have hd : (after.drop n).listeners = b.site.network.listeners := (Conn.read_frame hr).2.1
    exact (Network.queues_of_listeners hd).1 (Network.Queues.of_dropListener hq)
  | told e conn unsent count n _ _ hw =>
    exact (Network.queues_of_listeners (Conn.write_frame hw).1).1 hq
  | cutOff e conn unsent error n _ _ hw =>
    have hd : (conn.drop n).listeners = b.site.network.listeners := (Conn.write_frame hw).1
    exact (Network.queues_of_listeners hd).1 (Network.Queues.of_dropListener hq)

/-- A failure waits in a queue only if it was put there. -/
theorem Change.not_queues_failure (h : Change b a b') (hn : b.site.network.Sound)
    (hworking : ¬ b.site.network.Queues .failure) (habandoned : b.abandoned = [])
    (ha : a.disturbs = false) : ¬ b'.site.network.Queues .failure := by
  cases h with
  | connect channel e l hl =>
    intro hq
    rcases (Network.queues_enqueue (n := (b.site.network.newLink Link.fresh).2) hl).1 hq with hq | hq
    · cases hq
    · exact hworking hq
  | send link bytes =>
    rw [site_putOff]
    exact hworking
  | failAccept => cases ha
  | failConn => cases ha
  | move id s s' b' hs hstep => exact fun hq => hworking (queues_of_step hstep hn hq)
  | letGo index t ht => simp [habandoned] at ht
  | _ => exact hworking

theorem Undisturbed.whole (hu : b.Undisturbed) (l : LinkId) : b.Whole l := by
  rintro c - (hq | ⟨id, u, hs⟩)
  · exact hu.queued c hq
  · exact hu.served id c u hs

theorem Undisturbed.whole_act (hu : b.Undisturbed) (h : b.Sane) (ha : a.disturbs = false)
    (l : LinkId) : (b.act a).Whole l := by
  have hp := h.passage a l
  have ht' := h.tidy.act a
  by_cases hknown : l.index < b.site.network.links.length
  · exact hp.whole ht' (hu.whole l) hknown
  · rcases hp.whole_or_broke h.tidy ht' (Nat.le_of_not_lt hknown) with hwhole | ⟨⟨_, _, rfl⟩, -⟩
    · exact hwhole
    · cases ha

theorem Undisturbed.act (hu : b.Undisturbed) (h : b.Sane) (ha : a.disturbs = false) :
    (b.act a).Undisturbed where
  abandoned := by
    apply List.eq_nil_iff_forall_not_mem.2
    intro t ht
    have hmem := (change_act h.tidy a).abandoned (fun id heq => by rw [heq] at ha; cases ha) ht
    simp [hu.abandoned] at hmem
  unawaited := by
    apply List.eq_nil_iff_forall_not_mem.2
    intro c hc
    rcases (change_act h.tidy a).unawaited hc with hmem | ⟨id, s, rfl, -⟩
    · simp [hu.unawaited] at hmem
    · cases ha
  working := (change_act h.tidy a).not_queues_failure h.tidy.sound hu.working hu.abandoned ha
  queued c hq := (hu.whole_act h ha c.link) c rfl (.inl hq)
  served id c u hs := (hu.whole_act h ha c.link) c rfl (.inr ⟨id, u, hs⟩)

/-- What can break a server down is a client that hung up while there is more to write to it. -/
theorem Undisturbed.breakdown (hu : b.Undisturbed) (hbreak : b.Breakdown id) :
    ∃ c u, b.Serves id c (.reply u) ∧ u ≠ [] ∧ (b.site.network.link c.link).fromHost.closed = true := by
  cases hbreak with
  | failure hq => exact absurd hq hu.working
  | broken c u hs hbroken =>
    rw [hu.served id c _ hs] at hbroken
    cases hbroken
  | cutOff c u hs hne hclosed => exact ⟨c, u, hs, hne, hclosed⟩

/-! ## Clients keep their places -/

/-- The host's end of a connection waits, or a server has it. -/
def Placed (b : Switchboard) (l : LinkId) : Prop :=
  ∃ c, c.link = l ∧ (b.Queued c ∨ ∃ id u, b.Serves id c u)

/-- A new connection waits, and both of its ends are there. -/
theorem Passage.placed_new {i : List Incident} (hp : Passage b b' a l i) (h : b.Tidy)
    (ha : a.disturbs = false) (hborn : ¬ l.index < b.site.network.links.length)
    (hborn' : l.index < b'.site.network.links.length) : b'.Open l ∧ b'.Placed l := by
  obtain ⟨breakage, hqueued, -, ⟨-, hlink⟩ | ⟨-, ⟨_, _, rfl⟩, -⟩⟩ :=
    hp.born h (Nat.le_of_not_lt hborn) hborn'
  · exact ⟨by rw [Open, hlink]; exact ⟨rfl, rfl⟩, _, rfl, .inl hqueued⟩
  · cases ha

/-- While no server breaks down, a client that is connected stays so until it hangs up. -/
theorem Passage.placed {i : List Incident} (hp : Passage b b' a l i) (h : b.Tidy)
    (hu : b.Undisturbed) (ha : a.disturbs = false)
    (hbreak : ∀ id, a = .move id → ¬ b.Breakdown id) (hopen : b.Open l) (hplaced : b.Placed l)
    (hhang : a ≠ .hangUp l) : b'.Open l ∧ b'.Placed l := by
  obtain ⟨c, hc, hq | ⟨id, u, hs⟩⟩ := hplaced
  · obtain ⟨hplace, hopen'⟩ := hp.queued h hq hc hopen hhang
      (fun index t _ => by simp [hu.abandoned]) hbreak
    refine ⟨hopen', ?_⟩
    rcases hplace with hq' | ⟨id, c', hc', hs'⟩
    · exact ⟨c, hc, .inl hq'⟩
    · exact ⟨c', hc', .inr ⟨id, _, hs'⟩⟩
  · have hshut : a ≠ .shutdown id := by
      rintro rfl
      cases ha
    obtain ⟨⟨u', hs'⟩, hopen'⟩ := hp.serves h hs hc (hu.served id c u hs) hopen hhang hshut
    exact ⟨hopen', c, hc, .inr ⟨id, u', hs'⟩⟩

end Switchboard

end KeyBridge
