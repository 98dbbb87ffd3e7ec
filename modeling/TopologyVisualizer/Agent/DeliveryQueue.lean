import TopologyVisualizer.Agent.Delivery

/-! # The Delivery Queue

    The client refines a bounded queue that evicts the oldest
    (`step_refines_queue`), so the bound, the order of arrival and the count
    of evictions are those of `BoundedQueue`. The other half is the loop of
    `Run`: it holds copies of enqueued batches only (`held_enqueued`), and
    it pops a batch only when the last POST was of this batch and settled it
    (`lastPost_of_reachable`).
-/

namespace TopologyVisualizer.Agent.Delivery

open LTS Wire

/-! ### Refinement -/

/-- Between the eviction and the append of `Enqueue`. -/
def Producer.handover : Producer → BoundedQueue.Handover IngestBatch
  | .dropping b => .evicted b
  | .appending b => .counted b
  | _ => .none

/-- The abstract queue of a client. -/
def State.queue (s : State) : BoundedQueue.Queue IngestBatch where
  items := s.pending
  handover := s.producer.handover
  arrived := s.history.enqueued
  evicted := s.history.evicted
  dropped := s.counters.dropped

/-- The batch the loop of `Run` holds a copy of. -/
def Sender.held : Sender → Option IngestBatch
  | .posting b => some b
  | .counting b _ => some b
  | .sleeping b => some b
  | .popping b => some b
  | .drainDeadline b => some b
  | .drainPosting b => some b
  | .drainCounting b => some b
  | .drainPopping b => some b
  | _ => none

/-- Nothing is held when `drain` starts, nor after the check of the context. -/
theorem held_drainEntry (timeout : Int) : (drainEntry timeout).held = none := by
  unfold drainEntry
  split <;> rfl

theorem held_checked (cancelled : Bool) (timeout : Int) :
    (if cancelled then drainEntry timeout else Sender.peeking).held = none := by
  split
  · exact held_drainEntry timeout
  · rfl

/-- The queue operation a step performs. -/
def Label.queueOp (s : State) : Label → Option (BoundedQueue.Op IngestBatch String)
  | .enqueue b => some (.arrive b)
  | .evict b => some (.evict b)
  | .countDropped => some .countDrop
  | .append => some .append
  | .pop => s.sender.held.map (fun b => .remove b.batchID)
  | .drainPop => s.sender.held.map (fun b => .remove b.batchID)
  | _ => none

@[simp] theorem Counters.record_dropped (c : Counters) (out : Outcome) :
    (c.record out).dropped = c.dropped := by
  cases out <;> rfl

@[simp] theorem History.record_enqueued (h : History) (b : IngestBatch) (out : Outcome) :
    (h.record b out).enqueued = h.enqueued := by
  cases out <;> rfl

@[simp] theorem History.record_evicted (h : History) (b : IngestBatch) (out : Outcome) :
    (h.record b out).evicted = h.evicted := by
  cases out <;> rfl

variable {maxPending drainTimeout : Int} {s s' : State} {l : Label}

/-- **Refinement**: a step of the client is a step of the bounded queue, or leaves it alone. -/
theorem step_refines_queue (hstep : (system maxPending drainTimeout).step s l s') :
    match l.queueOp s with
    | some op => (BoundedQueue.system (maxSize maxPending) IngestBatch.batchID).step
        s.queue op s'.queue
    | none => s'.queue = s.queue := by
  simp only [system] at hstep
  match l with
  | .enqueue b =>
    obtain ⟨hidle, hroom, rfl⟩ := hstep
    exact ⟨by simp [State.queue, hidle, Producer.handover, BoundedQueue.Handover.carried], hroom,
      by simp [State.queue, hidle, Producer.handover]⟩
  | .evict b =>
    obtain ⟨hidle, hfull, oldest, rest, hpending, rfl⟩ := hstep
    exact ⟨by simp [State.queue, hidle, Producer.handover, BoundedQueue.Handover.carried], hfull,
      oldest, rest, hpending, rfl⟩
  | .countDropped =>
    obtain ⟨b, hb, rfl⟩ := hstep
    exact ⟨b, by simp [State.queue, hb, Producer.handover], rfl⟩
  | .append =>
    obtain ⟨b, hb, rfl⟩ := hstep
    exact ⟨b, by simp [State.queue, hb, Producer.handover], rfl⟩
  | .raiseHigh =>
    obtain ⟨depth, hp, rfl⟩ := hstep
    simp [Label.queueOp, State.queue, hp, Producer.handover]
  | .wake =>
    obtain ⟨hp, rfl⟩ := hstep
    simp [Label.queueOp, State.queue, hp, Producer.handover]
  | .cancel => subst hstep; rfl
  | .peek => obtain ⟨-, rfl⟩ := hstep; rfl
  | .signalled => obtain ⟨-, -, rfl⟩ := hstep; rfl
  | .timer => obtain ⟨-, rfl⟩ := hstep; rfl
  | .ctxDone => obtain ⟨-, -, rfl⟩ := hstep; rfl
  | .postReturn out => obtain ⟨b, -, rfl⟩ := hstep; rfl
  | .count => obtain ⟨b, out, -, rfl⟩ := hstep; simp [Label.queueOp, State.queue]
  | .sleepElapsed => obtain ⟨b, -, rfl⟩ := hstep; rfl
  | .sleepEnded => obtain ⟨b, -, -, rfl⟩ := hstep; rfl
  | .check => obtain ⟨-, rfl⟩ := hstep; rfl
  | .pop =>
    obtain ⟨b, hb, rfl⟩ := hstep
    simp only [Label.queueOp, hb, Sender.held, Option.map_some]
    rfl
  | .drainPeek => obtain ⟨-, rfl⟩ := hstep; rfl
  | .drainInTime => obtain ⟨b, -, rfl⟩ := hstep; rfl
  | .drainExpired => obtain ⟨b, -, rfl⟩ := hstep; rfl
  | .drainPostReturn out => obtain ⟨b, -, rfl⟩ := hstep; rfl
  | .drainCount => obtain ⟨b, -, rfl⟩ := hstep; rfl
  | .drainPop =>
    obtain ⟨b, hb, rfl⟩ := hstep
    simp only [Label.queueOp, hb, Sender.held, Option.map_some]
    rfl

/-- The queue of a reachable client is reachable. -/
theorem reachable_queue (h : Reachable (system maxPending drainTimeout) s) :
    Reachable (BoundedQueue.system (maxSize maxPending) IngestBatch.batchID) s.queue := by
  refine Reachable.project State.queue ?_ ?_ h
  · rintro s rfl
    rfl
  · intro s l s' hstep
    have hrefines := step_refines_queue hstep
    cases hop : l.queueOp s with
    | none => rw [hop] at hrefines; exact .inr hrefines
    | some op => rw [hop] at hrefines; exact .inl ⟨op, hrefines⟩

/-! ### The loop of `Run` -/

/-- What the queue holds was enqueued. -/
theorem pending_enqueued (h : Reachable (system maxPending drainTimeout) s) {b : IngestBatch}
    (hb : b ∈ s.pending) : b ∈ s.history.enqueued :=
  (BoundedQueue.sublist_arrived (reachable_queue h)).subset (List.mem_append_left _ hb)

/-- `Run` holds copies of enqueued batches only. -/
theorem held_enqueued (h : Reachable (system maxPending drainTimeout) s) :
    ∀ b ∈ s.sender.held, b ∈ s.history.enqueued := by
  refine System.invariant_of_reachable
    (fun s => ∀ b ∈ s.sender.held, b ∈ s.history.enqueued) ?_ ?_ s h
  · rintro s rfl
    intro b hb
    cases hb
  · intro s l s' hreach hinv hstep
    have hkeep : ∀ c, s.sender.held = some c → c ∈ s.history.enqueued := fun c hc => hinv c hc
    simp only [system] at hstep
    intro b hb
    match l with
    | .enqueue c => obtain ⟨-, -, rfl⟩ := hstep; exact List.mem_append_left _ (hinv b hb)
    | .evict c => obtain ⟨-, -, _, _, -, rfl⟩ := hstep; exact List.mem_append_left _ (hinv b hb)
    | .countDropped => obtain ⟨_, -, rfl⟩ := hstep; exact hinv b hb
    | .append => obtain ⟨_, -, rfl⟩ := hstep; exact hinv b hb
    | .raiseHigh => obtain ⟨_, -, rfl⟩ := hstep; exact hinv b hb
    | .wake => obtain ⟨-, rfl⟩ := hstep; exact hinv b hb
    | .cancel => subst hstep; exact hinv b hb
    | .peek =>
      obtain ⟨-, rfl⟩ := hstep
      cases hp : s.pending with
      | nil => simp [hp, Sender.held] at hb
      | cons c rest =>
        simp only [hp, Sender.held, Option.mem_some_iff] at hb
        exact pending_enqueued hreach (by simp [hp, hb])
    | .signalled => obtain ⟨-, -, rfl⟩ := hstep; cases hb
    | .timer => obtain ⟨-, rfl⟩ := hstep; cases hb
    | .ctxDone =>
      obtain ⟨-, -, rfl⟩ := hstep
      cases (held_drainEntry drainTimeout).symm.trans hb
    | .postReturn out => obtain ⟨c, hc, rfl⟩ := hstep; exact hinv b (by rw [hc]; exact hb)
    | .count =>
      obtain ⟨c, out, hc, rfl⟩ := hstep
      have : b = c := by cases out <;> (cases hb; rfl)
      rw [this]
      simpa using hkeep c (by rw [hc]; rfl)
    | .sleepElapsed => obtain ⟨c, hc, rfl⟩ := hstep; exact hinv b (by rw [hc]; exact hb)
    | .sleepEnded => obtain ⟨c, -, -, rfl⟩ := hstep; cases hb
    | .check =>
      obtain ⟨-, rfl⟩ := hstep
      cases (held_checked s.cancelled drainTimeout).symm.trans hb
    | .pop => obtain ⟨c, -, rfl⟩ := hstep; cases hb
    | .drainPeek =>
      obtain ⟨-, rfl⟩ := hstep
      cases hp : s.pending with
      | nil => simp [hp, Sender.held] at hb
      | cons c rest =>
        simp only [hp, Sender.held, Option.mem_some_iff] at hb
        exact pending_enqueued hreach (by simp [hp, hb])
    | .drainInTime => obtain ⟨c, hc, rfl⟩ := hstep; exact hinv b (by rw [hc]; exact hb)
    | .drainExpired => obtain ⟨c, -, rfl⟩ := hstep; cases hb
    | .drainPostReturn out =>
      obtain ⟨c, hc, rfl⟩ := hstep
      cases out with
      | accepted => exact hinv b (by rw [hc]; exact hb)
      | duplicate => exact hinv b (by rw [hc]; exact hb)
      | permanent => cases hb
      | retryable => cases hb
    | .drainCount => obtain ⟨c, hc, rfl⟩ := hstep; exact hinv b (by rw [hc]; exact hb)
    | .drainPop => obtain ⟨c, -, rfl⟩ := hstep; cases hb

/-- What the last POST was when `Run` is about to count its outcome or to pop. -/
def Sender.Answered (posts : List Post) : Sender → Prop
  | .counting b out => posts.getLast? = some ⟨b, out, false⟩
  | .popping b => ∃ out, posts.getLast? = some ⟨b, out, false⟩ ∧ out ≠ .retryable
  | .drainCounting b =>
    ∃ out, posts.getLast? = some ⟨b, out, true⟩ ∧ (out = .accepted ∨ out = .duplicate)
  | .drainPopping b =>
    ∃ out, posts.getLast? = some ⟨b, out, true⟩ ∧ (out = .accepted ∨ out = .duplicate)
  | _ => True

/-- Only what is held is counted or popped. -/
theorem Sender.Answered.of_held {sender : Sender} {posts : List Post} (h : sender.held = none) :
    sender.Answered posts := by
  unfold Sender.Answered
  split
  · cases h
  · cases h
  · cases h
  · cases h
  · trivial

/-- `Run` counts and pops only what the last POST was about. -/
theorem lastPost_of_reachable (h : Reachable (system maxPending drainTimeout) s) :
    s.sender.Answered s.history.posts := by
  refine System.invariant (fun s => s.sender.Answered s.history.posts) ?_ ?_ s h
  · rintro s rfl
    trivial
  · intro s l s' hinv hstep
    simp only [system] at hstep
    match l with
    | .enqueue c => obtain ⟨-, -, rfl⟩ := hstep; exact hinv
    | .evict c => obtain ⟨-, -, _, _, -, rfl⟩ := hstep; exact hinv
    | .countDropped => obtain ⟨_, -, rfl⟩ := hstep; exact hinv
    | .append => obtain ⟨_, -, rfl⟩ := hstep; exact hinv
    | .raiseHigh => obtain ⟨_, -, rfl⟩ := hstep; exact hinv
    | .wake => obtain ⟨-, rfl⟩ := hstep; exact hinv
    | .cancel => subst hstep; exact hinv
    | .peek =>
      obtain ⟨-, rfl⟩ := hstep
      cases s.pending <;> trivial
    | .signalled => obtain ⟨-, -, rfl⟩ := hstep; trivial
    | .timer => obtain ⟨-, rfl⟩ := hstep; trivial
    | .ctxDone =>
      obtain ⟨-, -, rfl⟩ := hstep
      exact .of_held (held_drainEntry drainTimeout)
    | .postReturn out =>
      obtain ⟨c, -, rfl⟩ := hstep
      simp [Sender.Answered]
    | .count =>
      obtain ⟨c, out, hc, rfl⟩ := hstep
      rw [hc] at hinv
      cases out with
      | retryable => trivial
      | accepted => exact ⟨_, hinv, by decide⟩
      | duplicate => exact ⟨_, hinv, by decide⟩
      | permanent => exact ⟨_, hinv, by decide⟩
    | .sleepElapsed => obtain ⟨c, -, rfl⟩ := hstep; trivial
    | .sleepEnded => obtain ⟨c, -, -, rfl⟩ := hstep; trivial
    | .check =>
      obtain ⟨-, rfl⟩ := hstep
      exact .of_held (held_checked s.cancelled drainTimeout)
    | .pop => obtain ⟨c, -, rfl⟩ := hstep; trivial
    | .drainPeek =>
      obtain ⟨-, rfl⟩ := hstep
      cases s.pending <;> trivial
    | .drainInTime => obtain ⟨c, -, rfl⟩ := hstep; trivial
    | .drainExpired => obtain ⟨c, -, rfl⟩ := hstep; trivial
    | .drainPostReturn out =>
      obtain ⟨c, -, rfl⟩ := hstep
      cases out <;> simp [afterDrainPost, Sender.Answered]
    | .drainCount => obtain ⟨c, hc, rfl⟩ := hstep; rw [hc] at hinv; exact hinv
    | .drainPop => obtain ⟨c, -, rfl⟩ := hstep; trivial

/-- A POST that settles its batch: success, or a permanent refusal outside of `drain`. -/
def Post.Settles (p : Post) : Prop :=
  p.outcome = .accepted ∨ p.outcome = .duplicate ∨ (p.draining = false ∧ p.outcome = .permanent)

/-- A step that pops `b` comes after a POST of `b` that settled it. -/
theorem settled_of_pop (h : Reachable (system maxPending drainTimeout) s)
    (hstep : (system maxPending drainTimeout).step s l s') (hl : l = .pop ∨ l = .drainPop) :
    ∃ post, s.history.posts.getLast? = some post ∧ post.Settles ∧
      s.sender.held = some post.batch := by
  have hanswered := lastPost_of_reachable h
  rcases hl with rfl | rfl
  · obtain ⟨b, hb, -⟩ := hstep
    rw [hb] at hanswered
    obtain ⟨out, hlast, hout⟩ := hanswered
    refine ⟨_, hlast, ?_, by rw [hb]; rfl⟩
    cases out with
    | accepted => exact .inl rfl
    | duplicate => exact .inr (.inl rfl)
    | permanent => exact .inr (.inr ⟨rfl, rfl⟩)
    | retryable => exact absurd rfl hout
  · obtain ⟨b, hb, -⟩ := hstep
    rw [hb] at hanswered
    obtain ⟨out, hlast, hout⟩ := hanswered
    exact ⟨_, hlast, hout.imp_right .inl, by rw [hb]; rfl⟩

/-- Only `pop` removes by id. -/
theorem pop_of_queueOp_remove {k : String} (h : l.queueOp s = some (.remove k)) :
    (l = .pop ∨ l = .drainPop) ∧ ∃ b, s.sender.held = some b ∧ b.batchID = k := by
  cases l <;> simp [Label.queueOp] at h ⊢ <;> exact h

/-- Only a full queue evicts. -/
theorem evict_of_queueOp {b : IngestBatch} (h : l.queueOp s = some (.evict b)) :
    l = .evict b := by
  cases l <;> simp [Label.queueOp] at h ⊢
  exact h

/-- **Queue integrity**: in every interleaving of `Enqueue` calls of one producer with the
    steps of `Run`, the queue is bounded and in order of arrival, every eviction is counted,
    and a batch leaves only as the oldest of a full queue or by a pop after a POST of this
    very batch settled it. -/
theorem queue_integrity (maxPending drainTimeout : Int) (s : State)
    (hreach : Reachable (system maxPending drainTimeout) s)
    (hids : (s.history.enqueued.map IngestBatch.batchID).Nodup) :
    s.pending.length ≤ maxSize maxPending ∧
    s.pending.Sublist s.history.enqueued ∧
    s.counters.dropped + s.producer.handover.uncounted = s.history.evicted.length ∧
    ∀ l s', (system maxPending drainTimeout).step s l s' →
      ∀ b ∈ s.pending, b ∉ s'.pending →
        ((∃ b', l = .evict b') ∧ s.pending.length = maxSize maxPending ∧
          s.pending.head? = some b ∧ s'.history.evicted = s.history.evicted ++ [b]) ∨
        ((l = .pop ∨ l = .drainPop) ∧
          ∃ post, s.history.posts.getLast? = some post ∧ post.batch = b ∧ post.Settles) := by
  have hqueue := reachable_queue hreach
  have hbound : s.pending.length ≤ maxSize maxPending :=
    le_trans (Nat.le_add_right _ _) (BoundedQueue.length_le_cap hqueue)
  refine ⟨hbound, ?_, BoundedQueue.dropped_eq hqueue, ?_⟩
  · exact (List.sublist_append_left _ _).trans (BoundedQueue.sublist_arrived hqueue)
  · intro l s' hstep b hb hb'
    have hrefines := step_refines_queue hstep
    cases hop : l.queueOp s with
    | none =>
      rw [hop] at hrefines
      have hsame : s'.pending = s.pending := congrArg BoundedQueue.Queue.items hrefines
      exact absurd (hsame ▸ hb) hb'
    | some op =>
      rw [hop] at hrefines
      rcases BoundedQueue.leaves hrefines hb hb' with ⟨c, rfl, hfull, hhead, hevicted⟩ | rfl
      · exact .inl ⟨⟨c, evict_of_queueOp hop⟩, le_antisymm hbound hfull, hhead, hevicted⟩
      · right
        obtain ⟨hl, c, hheld, hid⟩ := pop_of_queueOp_remove hop
        obtain ⟨post, hlast, hsettles, hpost⟩ := settled_of_pop hreach hstep hl
        refine ⟨hl, post, hlast, ?_, hsettles⟩
        -- the popped copy and the batch that left have one id, and ids are distinct
        have hpc : post.batch = c := Option.some.inj (hpost.symm.trans hheld)
        have hc := held_enqueued hreach c hheld
        rw [hpc]
        exact List.inj_on_of_nodup_map hids hc (pending_enqueued hreach hb) hid

/-! ### The head is evicted while its POST is in flight -/

/-- A batch without edges. -/
def emptyBatch (batchID : String) : IngestBatch where
  schemaVersion := Agent.schemaVersion
  clusterID := "c"
  agentID := "topology-agent/n1"
  batchID := batchID
  observedAt := ⟨0, none⟩
  intervalSeconds := 10
  edges := []

/-- A queue of one batch: `A` is posted, and evicted to make room for `B`. -/
def evictedInFlight : State where
  pending := [emptyBatch "B"]
  signal := true
  counters := { dropped := 1, queueHigh := 1 }
  producer := .raising 1
  sender := .posting (emptyBatch "A")
  history := { enqueued := [emptyBatch "A", emptyBatch "B"], evicted := [emptyBatch "A"] }

theorem reachable_evictedInFlight : Reachable (system 1 15) evictedInFlight := by
  have h₀ : Reachable (system 1 15) {} := .init rfl
  have h₁ := h₀.step (l := Label.enqueue (emptyBatch "A")) ⟨rfl, by decide, rfl⟩
  have h₂ := h₁.step (l := Label.raiseHigh) ⟨1, rfl, rfl⟩
  have h₃ := h₂.step (l := Label.wake) ⟨rfl, rfl⟩
  have h₄ := h₃.step (l := Label.peek) ⟨rfl, rfl⟩
  have h₅ := h₄.step (l := Label.evict (emptyBatch "B"))
    ⟨rfl, by decide, emptyBatch "A", [], rfl, rfl⟩
  have h₆ := h₅.step (l := Label.countDropped) ⟨emptyBatch "B", rfl, rfl⟩
  exact h₆.step (l := Label.append) ⟨emptyBatch "B", rfl, rfl⟩

theorem queue_integrity_evictedInFlight :
    evictedInFlight.pending.length ≤ maxSize 1 ∧
    evictedInFlight.pending.Sublist evictedInFlight.history.enqueued ∧
    evictedInFlight.counters.dropped = evictedInFlight.history.evicted.length := by
  obtain ⟨h₁, h₂, h₃, -⟩ :=
    queue_integrity 1 15 evictedInFlight reachable_evictedInFlight (by decide)
  exact ⟨h₁, h₂, h₃⟩

end TopologyVisualizer.Agent.Delivery
