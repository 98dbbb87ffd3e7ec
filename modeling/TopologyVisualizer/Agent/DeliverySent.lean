import TopologyVisualizer.Agent.DeliveryQueue

/-! # What `Sent` Counts

    The part of the loop of `Run` that an end-to-end argument needs: between
    two returns of `post` nothing becomes credited (`quiet_of_step`), a
    return credits the batch in flight (`PostReturns.spec`), and the counters
    are the books of what was credited or rejected (`booked_of_reachable`).
-/

namespace TopologyVisualizer.Agent.Delivery

open LTS Wire

variable {maxPending drainTimeout : Int} {s s' : State} {l : Label}

/-! ### Between two POSTs -/

/-- The batch whose POST is in flight. -/
def Sender.inFlight : Sender → Option IngestBatch
  | .posting b => some b
  | .drainPosting b => some b
  | _ => none

/-- The batch the next step of `Run` counts in `Sent`. -/
def Sender.credited : Sender → Option IngestBatch
  | .counting b .accepted => some b
  | .counting b .duplicate => some b
  | .drainCounting b => some b
  | _ => none

theorem held_of_inFlight {b : IngestBatch} (h : s.sender.inFlight = some b) :
    s.sender.held = some b := by
  unfold Sender.inFlight at h
  split at h
  · next hs => rw [hs, ← h]; rfl
  · next hs => rw [hs, ← h]; rfl
  · cases h

/-- Is this step the return of `post`? -/
def Label.isPostReturn : Label → Bool
  | .postReturn _ => true
  | .drainPostReturn _ => true
  | _ => false

/-- `post` returns `out`, in `attemptWithRetry` or in `drain`. -/
def PostReturns (maxPending drainTimeout : Int) (s : State) (out : Outcome) (s' : State) : Prop :=
  (system maxPending drainTimeout).step s (.postReturn out) s' ∨
  (system maxPending drainTimeout).step s (.drainPostReturn out) s'

/-- What a step other than the return of a POST does to `Run`: a POST stays in flight, no
    batch becomes credited, and only a credited batch is counted in `Sent`. -/
structure Quiet (s s' : State) : Prop where
  inFlight : ∀ b, s.sender.inFlight = some b → s'.sender.inFlight = some b
  credited : ∀ b, s'.sender.credited = some b → s.sender.credited = some b
  sent : ∀ b ∈ s'.history.sent, b ∈ s.history.sent ∨ s.sender.credited = some b

/-- A step that leaves the sender and the `Sent` history alone. -/
theorem Quiet.of_same (hsender : s'.sender = s.sender)
    (hsent : s'.history.sent = s.history.sent) : Quiet s s' where
  inFlight b hb := by rw [hsender]; exact hb
  credited b hb := by rw [← hsender]; exact hb
  sent b hb := .inl (by rw [← hsent]; exact hb)

/-- A step of the sender out of a point where nothing is in flight, to one where nothing is
    credited. -/
theorem Quiet.of_move (hfrom : s.sender.inFlight = none) (hto : s'.sender.credited = none)
    (hsent : s'.history.sent = s.history.sent) : Quiet s s' where
  inFlight b hb := by rw [hfrom] at hb; cases hb
  credited b hb := by rw [hto] at hb; cases hb
  sent b hb := .inl (by rw [← hsent]; exact hb)

theorem credited_of_held {sender : Sender} (h : sender.held = none) : sender.credited = none := by
  unfold Sender.credited
  split
  · cases h
  · cases h
  · cases h
  · rfl

theorem credited_afterAttempt (b : IngestBatch) (out : Outcome) :
    (afterAttempt b out).credited = none := by
  cases out <;> rfl

/-- `count` counts in `Sent` what is credited, and nothing else. -/
theorem sent_record {h : History} {b c : IngestBatch} {out : Outcome}
    (hc : c ∈ (h.record b out).sent) :
    c ∈ h.sent ∨ (Sender.counting b out).credited = some c := by
  cases out <;> simp [History.record, Sender.credited] at hc ⊢
  · exact hc.imp_right Eq.symm
  · exact hc.imp_right Eq.symm
  · exact hc
  · exact hc

theorem quiet_of_step (hstep : (system maxPending drainTimeout).step s l s')
    (hl : l.isPostReturn = false) : Quiet s s' := by
  simp only [system] at hstep
  cases l with
  | enqueue b => obtain ⟨-, -, rfl⟩ := hstep; exact .of_same rfl rfl
  | evict b => obtain ⟨-, -, _, _, -, rfl⟩ := hstep; exact .of_same rfl rfl
  | countDropped => obtain ⟨_, -, rfl⟩ := hstep; exact .of_same rfl rfl
  | append => obtain ⟨_, -, rfl⟩ := hstep; exact .of_same rfl rfl
  | raiseHigh => obtain ⟨_, -, rfl⟩ := hstep; exact .of_same rfl rfl
  | wake => obtain ⟨-, rfl⟩ := hstep; exact .of_same rfl rfl
  | cancel => subst hstep; exact .of_same rfl rfl
  | peek =>
    obtain ⟨hs, rfl⟩ := hstep
    refine .of_move (by rw [hs]; rfl) ?_ rfl
    cases s.pending <;> simp [Sender.credited]
  | signalled => obtain ⟨hs, -, rfl⟩ := hstep; exact .of_move (by rw [hs]; rfl) rfl rfl
  | timer => obtain ⟨hs, rfl⟩ := hstep; exact .of_move (by rw [hs]; rfl) rfl rfl
  | ctxDone =>
    obtain ⟨hs, -, rfl⟩ := hstep
    exact .of_move (by rw [hs]; rfl) (credited_of_held (held_drainEntry _)) rfl
  | postReturn out => cases hl
  | count =>
    obtain ⟨b, out, hs, rfl⟩ := hstep
    refine ⟨?_, ?_, ?_⟩
    · intro c hc
      rw [hs] at hc
      cases hc
    · intro c hc
      rw [show (afterAttempt b out).credited = none from credited_afterAttempt b out] at hc
      cases hc
    · intro c hc
      rw [hs]
      exact sent_record hc
  | sleepElapsed => obtain ⟨b, hs, rfl⟩ := hstep; exact .of_move (by rw [hs]; rfl) rfl rfl
  | sleepEnded => obtain ⟨b, hs, -, rfl⟩ := hstep; exact .of_move (by rw [hs]; rfl) rfl rfl
  | check =>
    obtain ⟨hs, rfl⟩ := hstep
    exact .of_move (by rw [hs]; rfl) (credited_of_held (held_checked _ _)) rfl
  | pop => obtain ⟨b, hs, rfl⟩ := hstep; exact .of_move (by rw [hs]; rfl) rfl rfl
  | drainPeek =>
    obtain ⟨hs, rfl⟩ := hstep
    refine .of_move (by rw [hs]; rfl) ?_ rfl
    cases s.pending <;> simp [Sender.credited]
  | drainInTime => obtain ⟨b, hs, rfl⟩ := hstep; exact .of_move (by rw [hs]; rfl) rfl rfl
  | drainExpired => obtain ⟨b, hs, rfl⟩ := hstep; exact .of_move (by rw [hs]; rfl) rfl rfl
  | drainPostReturn out => cases hl
  | drainCount =>
    obtain ⟨b, hs, rfl⟩ := hstep
    refine ⟨?_, ?_, ?_⟩
    · intro c hc
      rw [hs] at hc
      cases hc
    · intro c hc
      cases hc
    · intro c hc
      rw [hs]
      rcases List.mem_append.mp hc with hc | hc
      · exact .inl hc
      · right
        rw [List.mem_singleton.mp hc]
        rfl
  | drainPop => obtain ⟨b, hs, rfl⟩ := hstep; exact .of_move (by rw [hs]; rfl) rfl rfl

/-- A returning POST credits the batch in flight if it succeeded, and counts nothing yet. -/
theorem PostReturns.spec {out : Outcome} (h : PostReturns maxPending drainTimeout s out s') :
    (∀ b, s'.sender.credited = some b →
      s.sender.inFlight = some b ∧ (out = .accepted ∨ out = .duplicate)) ∧
    s'.history.sent = s.history.sent ∧ s'.history.enqueued = s.history.enqueued := by
  rcases h with h | h
  · obtain ⟨b, hs, rfl⟩ := h
    refine ⟨?_, rfl, rfl⟩
    intro c hc
    rw [hs]
    cases out <;> simp_all [Sender.credited, Sender.inFlight]
  · obtain ⟨b, hs, rfl⟩ := h
    refine ⟨?_, rfl, rfl⟩
    intro c hc
    rw [hs]
    cases out <;> simp_all [afterDrainPost, Sender.credited, Sender.inFlight]

/-- A step is one of the queue, or enqueues nothing. -/
theorem enqueued_of_step (hstep : (system maxPending drainTimeout).step s l s') :
    s'.history.enqueued = s.history.enqueued ∨
      ∃ op, (BoundedQueue.system (maxSize maxPending) IngestBatch.batchID).step s.queue op
        s'.queue := by
  have hrefines := step_refines_queue hstep
  cases hop : l.queueOp s with
  | none =>
    rw [hop] at hrefines
    exact .inl (congrArg BoundedQueue.Queue.arrived hrefines)
  | some op =>
    rw [hop] at hrefines
    exact .inr ⟨op, hrefines⟩

/-- Nothing is taken back from what was enqueued. -/
theorem enqueued_grows_of_step (hstep : (system maxPending drainTimeout).step s l s') :
    s.history.enqueued <+: s'.history.enqueued := by
  rcases enqueued_of_step hstep with hsame | ⟨op, hop⟩
  · rw [hsame]
  · exact BoundedQueue.arrived_grows hop

/-! ### The books of `Run` -/

/-- The batch `Run` is about to pop. -/
def Sender.settled : Sender → Option IngestBatch
  | .popping b => some b
  | .drainPopping b => some b
  | _ => none

/-- What is popped was counted, and the counters count the history. -/
structure Booked (s : State) : Prop where
  settled : ∀ b, s.sender.settled = some b → b ∈ s.history.sent ∨ b ∈ s.history.rejected
  sent : s.counters.sent = s.history.sent.length
  rejected : s.counters.rejected = s.history.rejected.length

/-- A step that counts nothing and leads to no pop. -/
theorem Booked.of_same (h : Booked s)
    (hsettled : s'.sender.settled = none ∨ s'.sender = s.sender)
    (hsent : s'.counters.sent = s.counters.sent ∧ s'.history.sent = s.history.sent)
    (hrejected : s'.counters.rejected = s.counters.rejected ∧
      s'.history.rejected = s.history.rejected) : Booked s' where
  settled := by
    intro b hb
    rcases hsettled with hnone | hsame
    · rw [hnone] at hb
      cases hb
    · rw [hsame] at hb
      rw [hsent.2, hrejected.2]
      exact h.settled b hb
  sent := by rw [hsent.1, hsent.2]; exact h.sent
  rejected := by rw [hrejected.1, hrejected.2]; exact h.rejected

theorem settled_of_held {sender : Sender} (h : sender.held = none) : sender.settled = none := by
  unfold Sender.settled
  split
  · cases h
  · cases h
  · rfl

/-- `attemptWithRetry` counts what it lets go. -/
theorem Booked.count (h : Booked s) (b : IngestBatch) (out : Outcome) :
    Booked { s with
      sender := afterAttempt b out
      counters := s.counters.record out
      history := s.history.record b out } where
  settled := by
    intro c hc
    cases out with
    | accepted => cases hc; exact .inl (List.mem_append_right _ (List.mem_singleton_self b))
    | duplicate => cases hc; exact .inl (List.mem_append_right _ (List.mem_singleton_self b))
    | permanent => cases hc; exact .inr (List.mem_append_right _ (List.mem_singleton_self b))
    | retryable => cases hc
  sent := by cases out <;> simp [Counters.record, History.record, h.sent]
  rejected := by cases out <;> simp [Counters.record, History.record, h.rejected]

theorem booked_of_reachable (h : Reachable (system maxPending drainTimeout) s) : Booked s := by
  refine System.invariant Booked ?_ ?_ s h
  · intro s hs
    rw [hs]
    exact ⟨by simp [Sender.settled], rfl, rfl⟩
  · intro s l s' hinv hstep
    simp only [system] at hstep
    cases l with
    | enqueue c => obtain ⟨-, -, rfl⟩ := hstep; exact hinv.of_same (.inr rfl) ⟨rfl, rfl⟩ ⟨rfl, rfl⟩
    | evict c =>
      obtain ⟨-, -, _, _, -, rfl⟩ := hstep
      exact hinv.of_same (.inr rfl) ⟨rfl, rfl⟩ ⟨rfl, rfl⟩
    | countDropped => obtain ⟨_, -, rfl⟩ := hstep; exact hinv.of_same (.inr rfl) ⟨rfl, rfl⟩ ⟨rfl, rfl⟩
    | append => obtain ⟨_, -, rfl⟩ := hstep; exact hinv.of_same (.inr rfl) ⟨rfl, rfl⟩ ⟨rfl, rfl⟩
    | raiseHigh => obtain ⟨_, -, rfl⟩ := hstep; exact hinv.of_same (.inr rfl) ⟨rfl, rfl⟩ ⟨rfl, rfl⟩
    | wake => obtain ⟨-, rfl⟩ := hstep; exact hinv.of_same (.inr rfl) ⟨rfl, rfl⟩ ⟨rfl, rfl⟩
    | cancel => subst hstep; exact hinv.of_same (.inr rfl) ⟨rfl, rfl⟩ ⟨rfl, rfl⟩
    | peek =>
      obtain ⟨-, rfl⟩ := hstep
      refine hinv.of_same (.inl ?_) ⟨rfl, rfl⟩ ⟨rfl, rfl⟩
      cases s.pending <;> simp [Sender.settled]
    | signalled => obtain ⟨-, -, rfl⟩ := hstep; exact hinv.of_same (.inl rfl) ⟨rfl, rfl⟩ ⟨rfl, rfl⟩
    | timer => obtain ⟨-, rfl⟩ := hstep; exact hinv.of_same (.inl rfl) ⟨rfl, rfl⟩ ⟨rfl, rfl⟩
    | ctxDone =>
      obtain ⟨-, -, rfl⟩ := hstep
      exact hinv.of_same (.inl (settled_of_held (held_drainEntry _))) ⟨rfl, rfl⟩ ⟨rfl, rfl⟩
    | postReturn out => obtain ⟨_, -, rfl⟩ := hstep; exact hinv.of_same (.inl rfl) ⟨rfl, rfl⟩ ⟨rfl, rfl⟩
    | count => obtain ⟨b, out, -, rfl⟩ := hstep; exact hinv.count b out
    | sleepElapsed => obtain ⟨_, -, rfl⟩ := hstep; exact hinv.of_same (.inl rfl) ⟨rfl, rfl⟩ ⟨rfl, rfl⟩
    | sleepEnded =>
      obtain ⟨_, -, -, rfl⟩ := hstep
      exact hinv.of_same (.inl rfl) ⟨rfl, rfl⟩ ⟨rfl, rfl⟩
    | check =>
      obtain ⟨-, rfl⟩ := hstep
      exact hinv.of_same (.inl (settled_of_held (held_checked _ _))) ⟨rfl, rfl⟩ ⟨rfl, rfl⟩
    | pop => obtain ⟨_, -, rfl⟩ := hstep; exact hinv.of_same (.inl rfl) ⟨rfl, rfl⟩ ⟨rfl, rfl⟩
    | drainPeek =>
      obtain ⟨-, rfl⟩ := hstep
      refine hinv.of_same (.inl ?_) ⟨rfl, rfl⟩ ⟨rfl, rfl⟩
      cases s.pending <;> simp [Sender.settled]
    | drainInTime => obtain ⟨_, -, rfl⟩ := hstep; exact hinv.of_same (.inl rfl) ⟨rfl, rfl⟩ ⟨rfl, rfl⟩
    | drainExpired => obtain ⟨_, -, rfl⟩ := hstep; exact hinv.of_same (.inl rfl) ⟨rfl, rfl⟩ ⟨rfl, rfl⟩
    | drainPostReturn out =>
      obtain ⟨b, -, rfl⟩ := hstep
      refine hinv.of_same (.inl ?_) ⟨rfl, rfl⟩ ⟨rfl, rfl⟩
      show (afterDrainPost b out).settled = none
      cases out <;> rfl
    | drainCount =>
      obtain ⟨b, -, rfl⟩ := hstep
      refine ⟨?_, by simp [hinv.sent], hinv.rejected⟩
      intro c hc
      cases hc
      exact .inl (List.mem_append_right _ (List.mem_singleton_self b))
    | drainPop => obtain ⟨_, -, rfl⟩ := hstep; exact hinv.of_same (.inl rfl) ⟨rfl, rfl⟩ ⟨rfl, rfl⟩

/-- Nothing is taken back from what was counted. -/
theorem counted_grows_of_step (hstep : (system maxPending drainTimeout).step s l s') :
    s.history.sent <+: s'.history.sent ∧ s.history.rejected <+: s'.history.rejected := by
  by_cases hcount : l = .count ∨ l = .drainCount
  · rcases hcount with rfl | rfl
    · obtain ⟨b, out, -, rfl⟩ := hstep
      cases out <;> simp [History.record]
    · obtain ⟨b, -, rfl⟩ := hstep
      exact ⟨List.prefix_append _ _, List.prefix_rfl⟩
  · -- every other step writes neither list
    simp only [not_or] at hcount
    have hsame : s'.history.sent = s.history.sent ∧
        s'.history.rejected = s.history.rejected := by
      cases l <;> simp only [system] at hstep <;> grind
    rw [hsame.1, hsame.2]
    exact ⟨List.prefix_rfl, List.prefix_rfl⟩

end TopologyVisualizer.Agent.Delivery
