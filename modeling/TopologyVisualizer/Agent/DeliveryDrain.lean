import TopologyVisualizer.Agent.DeliverySent

/-! # What Becomes of a Batch

    With distinct ids every enqueued batch is queued, evicted, counted in
    `Sent` or counted in `Rejected` (`accounted_of_reachable`). What is still
    queued after `Run` returned is what `drain` left behind when it gave up,
    provided nothing was appended after it returned
    (`leftover_of_returned`).
-/

namespace TopologyVisualizer.Agent.Delivery

open LTS Wire

variable {maxPending drainTimeout : Int} {s s' : State} {l : Label}

/-! ### Every batch is accounted for -/

/-- Queued or on its way there, evicted, or counted in `Sent` or in `Rejected`. -/
def State.Accounts (s : State) (b : IngestBatch) : Prop :=
  s.queue.Retains b ∨ b ∈ s.history.sent ∨ b ∈ s.history.rejected

/-- A step loses no batch: what it removes by id is the batch that was settled. -/
theorem State.Accounts.step (hreach : Reachable (system maxPending drainTimeout) s)
    (hids : (s.history.enqueued.map IngestBatch.batchID).Nodup)
    (hstep : (system maxPending drainTimeout).step s l s') {b : IngestBatch}
    (hb : b ∈ s.history.enqueued) (h : s.Accounts b) : s'.Accounts b := by
  obtain ⟨hsent, hrejected⟩ := counted_grows_of_step hstep
  have hcounted : b ∈ s.history.sent ∨ b ∈ s.history.rejected → s'.Accounts b := by
    intro hc
    exact .inr (hc.imp (fun h => hsent.subset h) (fun h => hrejected.subset h))
  rcases h with hretains | hc
  · have hrefines := step_refines_queue hstep
    cases hop : l.queueOp s with
    | none =>
      rw [hop] at hrefines
      left
      rw [hrefines]
      exact hretains
    | some op =>
      rw [hop] at hrefines
      rcases hretains.step hrefines with hretains | rfl
      · exact .inl hretains
      · -- a pop: the copy `Run` holds has the id of `b`, so it is `b`
        obtain ⟨hl, c, hheld, hid⟩ := pop_of_queueOp_remove hop
        have hc := held_enqueued hreach c hheld
        have hcb : c = b := List.inj_on_of_nodup_map hids hc hb hid
        refine hcounted ((booked_of_reachable hreach).settled b ?_)
        rw [← hcb]
        rcases hl with rfl | rfl
        · obtain ⟨d, hd, -⟩ := hstep
          rw [hd] at hheld ⊢
          exact hheld
        · obtain ⟨d, hd, -⟩ := hstep
          rw [hd] at hheld ⊢
          exact hheld
  · exact hcounted hc

/-- **No batch is lost**: with distinct ids, every enqueued batch is accounted for. -/
theorem accounted_of_reachable (h : Reachable (system maxPending drainTimeout) s)
    (hids : (s.history.enqueued.map IngestBatch.batchID).Nodup) :
    ∀ b ∈ s.history.enqueued, s.Accounts b := by
  refine System.invariant_of_reachable
    (fun s => (s.history.enqueued.map IngestBatch.batchID).Nodup →
      ∀ b ∈ s.history.enqueued, s.Accounts b) ?_ ?_ s h hids
  · intro s hs _ b hb
    rw [hs] at hb
    cases hb
  · intro s l s' hreach hinv hstep hids' b hb
    have hids := hids'.sublist ((enqueued_grows_of_step hstep).sublist.map _)
    by_cases hold : b ∈ s.history.enqueued
    · exact (hinv hids b hold).step hreach hids hstep hold
    · -- the step enqueued it
      rcases enqueued_of_step hstep with hsame | ⟨op, hop⟩
      · rw [hsame] at hb
        exact absurd hb hold
      · rcases BoundedQueue.retains_of_arrived hop hb with harrived | hretains
        · exact absurd harrived hold
        · exact .inl hretains

/-! ### What `drain` leaves behind -/

/-- Nothing enters the queue after `Run` returned. -/
def Punctual (s : State) (l : Label) : Prop :=
  (∃ b, l = .enqueue b) ∨ l = .append → s.sender ≠ .returned

theorem drainEntry_of_pos (h : 0 < drainTimeout) : drainEntry drainTimeout = .drainPeeking := by
  unfold drainEntry
  exact if_neg (Int.not_le.mpr h)

/-- **The leftover**: without late arrivals, what is queued after `Run` returned is what `drain`
    left behind when a POST failed or its deadline passed. -/
theorem leftover_of_returned (hpos : 0 < drainTimeout)
    (h : Reachable ((system maxPending drainTimeout).restrict Punctual) s)
    (hreturned : s.sender = .returned) : ∀ b ∈ s.pending, b ∈ s.history.leftover := by
  refine System.invariant
    (fun s => s.sender = .returned → ∀ b ∈ s.pending, b ∈ s.history.leftover) ?_ ?_ s h hreturned
  · intro s hs hret
    rw [hs] at hret
    cases hret
  · intro s l s' hinv hok hret b hb
    obtain ⟨hpunctual, hstep⟩ := hok
    simp only [system] at hstep
    cases l with
    | enqueue c =>
      obtain ⟨-, -, rfl⟩ := hstep
      exact absurd hret (hpunctual (.inl ⟨c, rfl⟩))
    | evict c =>
      obtain ⟨-, -, oldest, rest, hpending, rfl⟩ := hstep
      exact hinv hret b (by rw [hpending]; exact List.mem_cons_of_mem _ hb)
    | countDropped => obtain ⟨_, -, rfl⟩ := hstep; exact hinv hret b hb
    | append =>
      obtain ⟨_, -, rfl⟩ := hstep
      exact absurd hret (hpunctual (.inr rfl))
    | raiseHigh => obtain ⟨_, -, rfl⟩ := hstep; exact hinv hret b hb
    | wake => obtain ⟨-, rfl⟩ := hstep; exact hinv hret b hb
    | cancel => subst hstep; exact hinv hret b hb
    | peek =>
      obtain ⟨-, rfl⟩ := hstep
      cases hp : s.pending <;> simp [hp] at hret
    | signalled => obtain ⟨-, -, rfl⟩ := hstep; cases hret
    | timer => obtain ⟨-, rfl⟩ := hstep; cases hret
    | ctxDone =>
      obtain ⟨-, -, rfl⟩ := hstep
      rw [show drainEntry drainTimeout = _ from drainEntry_of_pos hpos] at hret
      cases hret
    | postReturn out => obtain ⟨_, -, rfl⟩ := hstep; cases hret
    | count =>
      obtain ⟨c, out, -, rfl⟩ := hstep
      cases out <;> cases hret
    | sleepElapsed => obtain ⟨_, -, rfl⟩ := hstep; cases hret
    | sleepEnded => obtain ⟨_, -, -, rfl⟩ := hstep; cases hret
    | check =>
      obtain ⟨-, rfl⟩ := hstep
      rw [drainEntry_of_pos hpos] at hret
      cases hc : s.cancelled <;> simp [hc] at hret
    | pop => obtain ⟨_, -, rfl⟩ := hstep; cases hret
    | drainPeek =>
      -- `drain` returns here only when the queue is empty
      obtain ⟨-, rfl⟩ := hstep
      cases hp : s.pending with
      | nil => simp [hp] at hb
      | cons c rest => simp [hp] at hret
    | drainInTime => obtain ⟨_, -, rfl⟩ := hstep; cases hret
    | drainExpired => obtain ⟨_, -, rfl⟩ := hstep; exact hb
    | drainPostReturn out =>
      obtain ⟨c, -, rfl⟩ := hstep
      cases out with
      | accepted => cases hret
      | duplicate => cases hret
      | permanent => exact hb
      | retryable => exact hb
    | drainCount => obtain ⟨_, -, rfl⟩ := hstep; cases hret
    | drainPop => obtain ⟨_, -, rfl⟩ := hstep; cases hret

/-! ### Who moves what -/

/-- The steps of the loop of `Run`, and of an `Enqueue` under way: neither a new call of
    `Enqueue` nor the end of the context. -/
def Label.isOwn : Label → Bool
  | .enqueue _ => false
  | .evict _ => false
  | .cancel => false
  | _ => true

/-- Only a call of `Enqueue` adds to what was enqueued. -/
theorem enqueued_of_own (hl : l.isOwn = true)
    (hstep : (system maxPending drainTimeout).step s l s') :
    s'.history.enqueued = s.history.enqueued := by
  cases l <;> simp only [system] at hstep <;> grind [Label.isOwn, History.record_enqueued]

/-- Between two calls the producer stays idle. -/
theorem idle_of_own (hl : l.isOwn = true) (hstep : (system maxPending drainTimeout).step s l s')
    (hidle : s.producer = .idle) : s'.producer = .idle := by
  cases l <;> simp only [system] at hstep <;> grind [Label.isOwn]

/-- `Run` returns once. -/
theorem returned_of_step (hstep : (system maxPending drainTimeout).step s l s')
    (hreturned : s.sender = .returned) : s'.sender = .returned := by
  cases l <;> simp only [system] at hstep <;> grind

/-- The context, once ended, stays so. -/
theorem cancelled_of_step (hstep : (system maxPending drainTimeout).step s l s')
    (hcancelled : s.cancelled = true) : s'.cancelled = true := by
  cases l <;> simp only [system] at hstep <;> grind

/-- The client does not end its own context. -/
theorem cancelled_of_own (hl : l.isOwn = true)
    (hstep : (system maxPending drainTimeout).step s l s') : s'.cancelled = s.cancelled := by
  cases l <;> simp only [system] at hstep <;> grind [Label.isOwn]

/-- The points of `Run` after it saw the end of the context. -/
def Sender.draining : Sender → Bool
  | .checking => true
  | .drainPeeking => true
  | .drainDeadline _ => true
  | .drainPosting _ => true
  | .drainCounting _ => true
  | .drainPopping _ => true
  | .returned => true
  | _ => false

theorem draining_afterAttempt (b : IngestBatch) (out : Outcome) :
    (afterAttempt b out).draining = false := by
  cases out <;> rfl

/-- `Run` drains only after the context ended. -/
theorem cancelled_of_draining (h : Reachable (system maxPending drainTimeout) s)
    (hdrain : s.sender.draining = true) : s.cancelled = true := by
  refine System.invariant
    (fun s => s.sender.draining = true → s.cancelled = true) ?_ ?_ s h hdrain
  · intro s hs hdrain
    rw [hs] at hdrain
    cases hdrain
  · intro s l s' hinv hstep hdrain
    simp only [system] at hstep
    cases l with
    | enqueue c => obtain ⟨-, -, rfl⟩ := hstep; exact hinv hdrain
    | evict c => obtain ⟨-, -, _, _, -, rfl⟩ := hstep; exact hinv hdrain
    | countDropped => obtain ⟨_, -, rfl⟩ := hstep; exact hinv hdrain
    | append => obtain ⟨_, -, rfl⟩ := hstep; exact hinv hdrain
    | raiseHigh => obtain ⟨_, -, rfl⟩ := hstep; exact hinv hdrain
    | wake => obtain ⟨-, rfl⟩ := hstep; exact hinv hdrain
    | cancel => subst hstep; rfl
    | peek =>
      obtain ⟨-, rfl⟩ := hstep
      cases hp : s.pending <;> simp [hp, Sender.draining] at hdrain
    | signalled => obtain ⟨-, -, rfl⟩ := hstep; cases hdrain
    | timer => obtain ⟨-, rfl⟩ := hstep; cases hdrain
    | ctxDone => obtain ⟨-, hc, rfl⟩ := hstep; exact hc
    | postReturn out => obtain ⟨_, -, rfl⟩ := hstep; cases hdrain
    | count =>
      obtain ⟨b, out, -, rfl⟩ := hstep
      exact absurd (hdrain.symm.trans (draining_afterAttempt b out)) (by decide)
    | sleepElapsed => obtain ⟨_, -, rfl⟩ := hstep; cases hdrain
    | sleepEnded => obtain ⟨_, -, hc, rfl⟩ := hstep; exact hc
    | check => obtain ⟨hs, rfl⟩ := hstep; exact hinv (by rw [hs]; rfl)
    | pop => obtain ⟨_, -, rfl⟩ := hstep; cases hdrain
    | drainPeek => obtain ⟨hs, rfl⟩ := hstep; exact hinv (by rw [hs]; rfl)
    | drainInTime => obtain ⟨_, hs, rfl⟩ := hstep; exact hinv (by rw [hs]; rfl)
    | drainExpired => obtain ⟨_, hs, rfl⟩ := hstep; exact hinv (by rw [hs]; rfl)
    | drainPostReturn out => obtain ⟨_, hs, rfl⟩ := hstep; exact hinv (by rw [hs]; rfl)
    | drainCount => obtain ⟨_, hs, rfl⟩ := hstep; exact hinv (by rw [hs]; rfl)
    | drainPop => obtain ⟨_, hs, rfl⟩ := hstep; exact hinv (by rw [hs]; rfl)

end TopologyVisualizer.Agent.Delivery
