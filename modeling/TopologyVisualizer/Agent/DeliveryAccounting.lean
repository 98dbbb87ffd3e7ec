import TopologyVisualizer.Agent.DeliverySent

/-! # Delivery Accounting

    Whether every batch is accounted for once: the completed calls of
    `Enqueue` against `Sent`, `Rejected`, `Dropped` and the queue, and the
    answers 200 against `Duplicate`. Here `Enqueue` may be called by any
    number of goroutines at once.

    A batch in the hands of a call, and one that is counted but not popped,
    are on their way between two of the columns. With them the columns
    balance after every step (`filed_of_step`, `duplicates_of_step`) up to
    two kinds of steps: a pop that does not find its batch, because the
    batch was evicted, and counted in `Dropped`, while its delivery was in
    flight; and a 200 during `drain`, which counts `Sent` only.
-/

namespace TopologyVisualizer.Agent.Delivery

open LTS Wire

/-! ### Concurrent callers -/

/-- The call of `Enqueue` a goroutine is in. -/
def Producer.call : Producer → List Producer
  | .idle => []
  | p => [p]

/-- The client with the calls of `Enqueue` in progress. -/
structure Shared where
  /-- The client; its own `producer` is the call a step takes up. -/
  client : State := {}
  /-- The calls in progress. -/
  calls : List Producer := []
  /-- The calls that returned. -/
  completed : Nat := 0

/-- The client as a step that takes up the call `p` finds it. -/
def State.taking (s : State) (p : Producer) : State := { s with producer := p }

/-- Whether a call of `Enqueue` returns with this step. -/
def Label.returns : Label → Nat
  | .wake => 1
  | _ => 0

/-- Any number of goroutines that call `Enqueue`, and the loop of `Run`: a step of the client
    for one of the calls in progress, or for a new one. -/
def shared (maxPending drainTimeout : Int) : System Shared Label where
  init := fun w => w = {}
  step := fun w l w' =>
    ∃ before p after t,
      w.calls = before ++ p.call ++ after ∧
      (system maxPending drainTimeout).step (w.client.taking p) l t ∧
      w' = { client := t.taking .idle
             calls := before ++ t.producer.call ++ after
             completed := w.completed + l.returns }

variable {maxPending drainTimeout : Int} {s s' : State} {l : Label} {ls : List Label}

/-- The client with one producer, among the shared ones. -/
def State.solo (s : State) (completed : Nat) : Shared where
  client := s.taking .idle
  calls := s.producer.call
  completed := completed

/-- One producer is a special case of many. -/
theorem solo_step (hstep : (system maxPending drainTimeout).step s l s') (n : Nat) :
    (shared maxPending drainTimeout).step (s.solo n) l (s'.solo (n + l.returns)) := by
  refine ⟨[], s.producer, [], s', ?_, hstep, ?_⟩
  · simp [State.solo]
  · simp [State.solo]

/-! ### What is on its way -/

/-- What a call has yet to put into `Dropped` or into the queue. -/
def Producer.owed : Producer → Nat
  | .dropping _ => 2
  | .appending _ => 1
  | _ => 0

/-- Whether a batch is counted and not popped yet. -/
def Sender.leaving : Sender → Nat
  | .popping _ => 1
  | .drainPopping _ => 1
  | _ => 0

/-- Whether a 200 is answered and not counted yet. -/
def Sender.answered : Sender → Nat
  | .counting _ .duplicate => 1
  | _ => 0

theorem leaving_of_held {sender : Sender} (h : sender.held = none) : sender.leaving = 0 := by
  unfold Sender.leaving
  split
  · cases h
  · cases h
  · rfl

theorem answered_of_held {sender : Sender} (h : sender.held = none) : sender.answered = 0 := by
  unfold Sender.answered
  split
  · cases h
  · rfl

/-- The columns of the account. -/
def State.filed (s : State) : Nat :=
  s.counters.sent + s.counters.rejected + s.counters.dropped + s.pending.length

/-- The answers 200. -/
def State.duplicates (s : State) : Nat :=
  (s.history.posts.filter (fun p => p.outcome = .duplicate)).length

/-! ### The steps that break the account -/

/-- The batch that is delivered is still queued. -/
def State.Queued (s : State) : Prop :=
  ∃ b ∈ s.sender.held, ∃ queued ∈ s.pending, queued.batchID = b.batchID

instance (s : State) : Decidable s.Queued := by
  unfold State.Queued
  infer_instance

/-- A pop finds its batch, and no POST of `drain` is answered 200. -/
def Undisturbed (s : State) : Label → Prop
  | .pop => s.Queued
  | .drainPop => s.Queued
  | .drainPostReturn .duplicate => False
  | _ => True

/-- Whether a step counts a batch that `Dropped` has counted. -/
def State.twice (s : State) : Label → Nat
  | .pop => if s.Queued then 0 else 1
  | .drainPop => if s.Queued then 0 else 1
  | _ => 0

/-- Whether a step is a 200 that `Duplicate` will not count. -/
def Label.unseen : Label → Nat
  | .drainPostReturn .duplicate => 1
  | _ => 0

theorem undisturbed_iff : Undisturbed s l ↔ s.twice l = 0 ∧ l.unseen = 0 := by
  cases l with
  | drainPostReturn out => cases out <;> simp [Undisturbed, State.twice, Label.unseen]
  | pop => simp [Undisturbed, State.twice, Label.unseen]
  | drainPop => simp [Undisturbed, State.twice, Label.unseen]
  | _ => simp [Undisturbed, State.twice, Label.unseen]

theorem length_popID {b : IngestBatch} (hheld : s.sender.held = some b) :
    (popID b.batchID s.pending).length + 1 =
      s.pending.length + if s.Queued then 0 else 1 := by
  have hqueued : s.Queued ↔ (s.pending.any fun c => c.batchID = b.batchID) = true := by
    simp [State.Queued, hheld]
  unfold popID
  rw [List.length_eraseP]
  by_cases h : s.Queued
  · have hany := hqueued.mp h
    obtain ⟨c, hc, -⟩ := List.any_eq_true.mp hany
    have hpos := List.length_pos_of_mem hc
    rw [if_pos hany, if_pos h]
    omega
  · rw [if_neg (fun hany => h (hqueued.mpr hany)), if_neg h]

/-- **The columns balance** after every step, but for a batch counted twice. -/
theorem filed_of_step (hstep : (system maxPending drainTimeout).step s l s') :
    s'.filed + s'.producer.owed + (s.history.enqueued.length + s.sender.leaving) =
      s.filed + s.producer.owed + (s'.history.enqueued.length + s'.sender.leaving) +
        s.twice l := by
  simp only [system] at hstep
  cases l with
  | enqueue b =>
    obtain ⟨hp, -, rfl⟩ := hstep
    simp only [State.filed, hp, Producer.owed, State.twice, List.length_append, List.length_singleton]
    omega
  | evict b =>
    -- the oldest leaves the queue and `b` is not in it: the call owes two
    obtain ⟨hp, -, oldest, rest, hpending, rfl⟩ := hstep
    simp only [State.filed, hp, hpending, Producer.owed, State.twice, List.length_append,
      List.length_cons, List.length_nil]
    omega
  | countDropped =>
    obtain ⟨b, hp, rfl⟩ := hstep
    simp only [State.filed, hp, Producer.owed, State.twice]
    omega
  | append =>
    obtain ⟨b, hp, rfl⟩ := hstep
    simp only [State.filed, hp, Producer.owed, State.twice, List.length_append, List.length_singleton]
    omega
  | raiseHigh =>
    obtain ⟨depth, hp, rfl⟩ := hstep
    simp only [State.filed, hp, Producer.owed, State.twice, Nat.add_zero]
  | wake =>
    obtain ⟨hp, rfl⟩ := hstep
    simp only [State.filed, hp, Producer.owed, State.twice, Nat.add_zero]
  | cancel => subst hstep; rfl
  | peek =>
    obtain ⟨hs, rfl⟩ := hstep
    cases hpending : s.pending <;> simp [State.filed, hs, hpending, Sender.leaving, State.twice]
  | signalled => obtain ⟨hs, -, rfl⟩ := hstep; rw [hs]; rfl
  | timer => obtain ⟨hs, rfl⟩ := hstep; rw [hs]; rfl
  | ctxDone =>
    obtain ⟨hs, -, rfl⟩ := hstep
    have hbefore : s.sender.leaving = 0 := by rw [hs]; rfl
    have hafter := leaving_of_held (held_drainEntry drainTimeout)
    simp only [State.filed, hbefore, hafter, State.twice, Nat.add_zero]
  | postReturn out => obtain ⟨b, hs, rfl⟩ := hstep; rw [hs]; rfl
  | count =>
    -- what is counted in a column is about to leave the queue
    obtain ⟨b, out, hs, rfl⟩ := hstep
    cases out <;> simp [State.filed, hs, Counters.record, History.record, afterAttempt,
      Sender.leaving, State.twice] <;> omega
  | sleepElapsed => obtain ⟨b, hs, rfl⟩ := hstep; rw [hs]; rfl
  | sleepEnded => obtain ⟨b, hs, -, rfl⟩ := hstep; rw [hs]; rfl
  | check =>
    obtain ⟨hs, rfl⟩ := hstep
    have hbefore : s.sender.leaving = 0 := by rw [hs]; rfl
    have hafter := leaving_of_held (held_checked s.cancelled drainTimeout)
    simp only [State.filed, hbefore, hafter, State.twice, Nat.add_zero]
  | pop =>
    obtain ⟨b, hs, rfl⟩ := hstep
    have hlen := length_popID (s := s) (b := b) (by rw [hs]; rfl)
    simp only [State.filed, hs, Sender.leaving, State.twice]
    omega
  | drainPeek =>
    obtain ⟨hs, rfl⟩ := hstep
    cases hpending : s.pending <;> simp [State.filed, hs, hpending, Sender.leaving, State.twice]
  | drainInTime => obtain ⟨b, hs, rfl⟩ := hstep; rw [hs]; rfl
  | drainExpired => obtain ⟨b, hs, rfl⟩ := hstep; rw [hs]; rfl
  | drainPostReturn out =>
    obtain ⟨b, hs, rfl⟩ := hstep
    rw [hs]
    cases out <;> rfl
  | drainCount =>
    obtain ⟨b, hs, rfl⟩ := hstep
    simp only [State.filed, hs, Sender.leaving, State.twice]
    omega
  | drainPop =>
    obtain ⟨b, hs, rfl⟩ := hstep
    have hlen := length_popID (s := s) (b := b) (by rw [hs]; rfl)
    simp only [State.filed, hs, Sender.leaving, State.twice]
    omega

/-- Another POST, in the count of the answers 200. -/
theorem duplicates_append (posts : List Post) (b : IngestBatch) (out : Outcome) (draining : Bool) :
    ((posts ++ [Post.mk b out draining]).filter (fun p => p.outcome = .duplicate)).length =
      (posts.filter (fun p => p.outcome = .duplicate)).length +
        if out = .duplicate then 1 else 0 := by
  rw [List.filter_append, List.length_append]
  by_cases h : out = .duplicate <;> simp [h]

/-- **`Duplicate` follows the answers 200** at every step, but for those of `drain`. -/
theorem duplicates_of_step (hstep : (system maxPending drainTimeout).step s l s') :
    s'.counters.duplicate + s'.sender.answered + l.unseen + s.duplicates =
      s.counters.duplicate + s.sender.answered + s'.duplicates := by
  simp only [system] at hstep
  cases l with
  | enqueue b => obtain ⟨-, -, rfl⟩ := hstep; rfl
  | evict b => obtain ⟨-, -, _, _, -, rfl⟩ := hstep; rfl
  | countDropped => obtain ⟨_, -, rfl⟩ := hstep; rfl
  | append => obtain ⟨_, -, rfl⟩ := hstep; rfl
  | raiseHigh => obtain ⟨_, -, rfl⟩ := hstep; rfl
  | wake => obtain ⟨-, rfl⟩ := hstep; rfl
  | cancel => subst hstep; rfl
  | peek =>
    obtain ⟨hs, rfl⟩ := hstep
    cases s.pending <;> simp [hs, Sender.answered, Label.unseen, State.duplicates]
  | signalled => obtain ⟨hs, -, rfl⟩ := hstep; rw [hs]; rfl
  | timer => obtain ⟨hs, rfl⟩ := hstep; rw [hs]; rfl
  | ctxDone =>
    obtain ⟨hs, -, rfl⟩ := hstep
    have hbefore : s.sender.answered = 0 := by rw [hs]; rfl
    have hafter := answered_of_held (held_drainEntry drainTimeout)
    simp only [State.duplicates, hbefore, hafter, Label.unseen, Nat.add_zero]
  | postReturn out =>
    obtain ⟨b, hs, rfl⟩ := hstep
    simp only [State.duplicates, hs, duplicates_append]
    cases out <;> simp [Sender.answered, Label.unseen]
    omega
  | count =>
    obtain ⟨b, out, hs, rfl⟩ := hstep
    cases out <;> simp [hs, Counters.record, History.record, afterAttempt, Sender.answered,
      Label.unseen, State.duplicates]
  | sleepElapsed => obtain ⟨b, hs, rfl⟩ := hstep; rw [hs]; rfl
  | sleepEnded => obtain ⟨b, hs, -, rfl⟩ := hstep; rw [hs]; rfl
  | check =>
    obtain ⟨hs, rfl⟩ := hstep
    have hbefore : s.sender.answered = 0 := by rw [hs]; rfl
    have hafter := answered_of_held (held_checked s.cancelled drainTimeout)
    simp only [State.duplicates, hbefore, hafter, Label.unseen, Nat.add_zero]
  | pop => obtain ⟨b, hs, rfl⟩ := hstep; rw [hs]; rfl
  | drainPeek =>
    obtain ⟨hs, rfl⟩ := hstep
    cases s.pending <;> simp [hs, Sender.answered, Label.unseen, State.duplicates]
  | drainInTime => obtain ⟨b, hs, rfl⟩ := hstep; rw [hs]; rfl
  | drainExpired => obtain ⟨b, hs, rfl⟩ := hstep; rw [hs]; rfl
  | drainPostReturn out =>
    obtain ⟨b, hs, rfl⟩ := hstep
    simp only [State.duplicates, hs, duplicates_append]
    cases out <;> simp [afterDrainPost, Sender.answered, Label.unseen]
    omega
  | drainCount => obtain ⟨b, hs, rfl⟩ := hstep; rw [hs]; rfl
  | drainPop => obtain ⟨b, hs, rfl⟩ := hstep; rw [hs]; rfl

/-- A call is counted as arrived when it starts, and as completed when it returns. -/
theorem calls_of_step (hstep : (system maxPending drainTimeout).step s l s') :
    s'.producer.call.length + l.returns + s.history.enqueued.length =
      s.producer.call.length + s'.history.enqueued.length := by
  simp only [system] at hstep
  cases l with
  | enqueue b =>
    obtain ⟨hp, -, rfl⟩ := hstep
    simp [hp, Producer.call, Label.returns]
    omega
  | evict b =>
    obtain ⟨hp, -, _, _, -, rfl⟩ := hstep
    simp [hp, Producer.call, Label.returns]
    omega
  | countDropped => obtain ⟨_, hp, rfl⟩ := hstep; rw [hp]; rfl
  | append => obtain ⟨_, hp, rfl⟩ := hstep; rw [hp]; rfl
  | raiseHigh => obtain ⟨_, hp, rfl⟩ := hstep; rw [hp]; rfl
  | wake =>
    obtain ⟨hp, rfl⟩ := hstep
    simp [hp, Producer.call, Label.returns]
  | cancel => subst hstep; rfl
  | peek => obtain ⟨-, rfl⟩ := hstep; rfl
  | signalled => obtain ⟨-, -, rfl⟩ := hstep; rfl
  | timer => obtain ⟨-, rfl⟩ := hstep; rfl
  | ctxDone => obtain ⟨-, -, rfl⟩ := hstep; rfl
  | postReturn out => obtain ⟨_, -, rfl⟩ := hstep; rfl
  | count => obtain ⟨b, out, -, rfl⟩ := hstep; simp [Label.returns]
  | sleepElapsed => obtain ⟨_, -, rfl⟩ := hstep; rfl
  | sleepEnded => obtain ⟨_, -, -, rfl⟩ := hstep; rfl
  | check => obtain ⟨-, rfl⟩ := hstep; rfl
  | pop => obtain ⟨_, -, rfl⟩ := hstep; rfl
  | drainPeek => obtain ⟨-, rfl⟩ := hstep; rfl
  | drainInTime => obtain ⟨_, -, rfl⟩ := hstep; rfl
  | drainExpired => obtain ⟨_, -, rfl⟩ := hstep; rfl
  | drainPostReturn out => obtain ⟨_, -, rfl⟩ := hstep; rfl
  | drainCount => obtain ⟨_, -, rfl⟩ := hstep; rfl
  | drainPop => obtain ⟨_, -, rfl⟩ := hstep; rfl

/-! ### Whole runs -/

variable {w w' : Shared}

/-- The account after any steps, `lost` of which counted a batch twice and `unseen` of which
    were answers 200 that are not counted. -/
structure Balanced (lost unseen : Nat) (w : Shared) : Prop where
  filed : w.client.filed + (w.calls.map Producer.owed).sum =
    w.client.history.enqueued.length + w.client.sender.leaving + lost
  duplicates : w.client.counters.duplicate + w.client.sender.answered + unseen =
    w.client.duplicates
  calls : w.completed + w.calls.length = w.client.history.enqueued.length

/-- The calls in progress owe what the one a step takes up owes, and the others. -/
theorem sum_owed (before after : List Producer) (p : Producer) :
    ((before ++ p.call ++ after).map Producer.owed).sum =
      p.owed + ((before ++ after).map Producer.owed).sum := by
  have hcall : (p.call.map Producer.owed).sum = p.owed := by cases p <;> rfl
  simp only [List.map_append, List.sum_append, hcall]
  omega

theorem Balanced.step {lost unseen : Nat} (h : Balanced lost unseen w)
    (hstep : (shared maxPending drainTimeout).step w l w') :
    Balanced (lost + w.client.twice l) (unseen + l.unseen) w' := by
  obtain ⟨before, p, after, t, hcalls, hclient, rfl⟩ := hstep
  have hfiled := filed_of_step hclient
  have hduplicates := duplicates_of_step hclient
  have hreturns := calls_of_step hclient
  have hf := h.filed
  have hd := h.duplicates
  have hc := h.calls
  rw [hcalls, sum_owed] at hf
  rw [hcalls, List.length_append, List.length_append] at hc
  refine ⟨?_, ?_, ?_⟩
  · have htwice : (w.client.taking p).twice l = w.client.twice l := by cases l <;> rfl
    rw [htwice] at hfiled
    show t.filed + _ = t.history.enqueued.length + t.sender.leaving + _
    rw [sum_owed]
    change t.filed + t.producer.owed + (w.client.history.enqueued.length + w.client.sender.leaving) =
      w.client.filed + p.owed + (t.history.enqueued.length + t.sender.leaving) + _ at hfiled
    omega
  · show t.counters.duplicate + t.sender.answered + _ = t.duplicates
    change _ + w.client.duplicates = w.client.counters.duplicate + w.client.sender.answered + _
      at hduplicates
    omega
  · show w.completed + l.returns + _ = t.history.enqueued.length
    rw [List.length_append, List.length_append]
    change _ + w.client.history.enqueued.length = p.call.length + _ at hreturns
    omega

/-- No call of `Enqueue` and no delivery is in progress. -/
structure AtRest (w : Shared) : Prop where
  calls : w.calls = []
  held : w.client.sender.held = none

/-- Every completed call is accounted for once, and `Duplicate` counts the answers 200. -/
structure Accounted (w : Shared) : Prop where
  once : w.completed = w.client.counters.sent + w.client.counters.rejected +
    w.client.counters.dropped + w.client.pending.length
  duplicates : w.client.counters.duplicate = w.client.duplicates

/-- At rest nothing is on its way, so the account shows what went wrong. -/
theorem Balanced.accounted_iff_zero {lost unseen : Nat} (h : Balanced lost unseen w)
    (hrest : AtRest w) : Accounted w ↔ lost = 0 ∧ unseen = 0 := by
  have hf := h.filed
  have hd := h.duplicates
  have hc := h.calls
  have hleaving := leaving_of_held hrest.held
  have hanswered := answered_of_held hrest.held
  rw [hrest.calls] at hf hc
  simp only [State.filed, List.map_nil, List.sum_nil, List.length_nil] at hf hc
  constructor
  · intro haccounted
    have honce := haccounted.once
    have hdup := haccounted.duplicates
    omega
  · intro hzero
    exact ⟨by omega, by omega⟩

/-- **Delivery accounting**: in every interleaving of any number of callers of `Enqueue` with
    the steps of `Run` and `drain`, at every point at rest, the account is exact if and only if
    every pop so far found its batch in the queue and no POST of `drain` was answered 200. -/
theorem accounted_iff_undisturbed (maxPending drainTimeout : Int) (ls : List Label) (w : Shared)
    (hrun : Run (shared maxPending drainTimeout) {} ls w) (hrest : AtRest w) :
    Accounted w ↔ Run ((shared maxPending drainTimeout).restrict
      fun w l => Undisturbed w.client l) {} ls w := by
  have hstart : Balanced 0 0 ({} : Shared) := ⟨rfl, rfl, rfl⟩
  constructor
  · intro haccounted
    -- once the account is off it stays off
    have hsplit := hrun.restrict_or (fun w l => Undisturbed w.client l) (Balanced 0 0)
      (fun w => ∃ lost unseen, Balanced lost unseen w ∧ lost + unseen ≠ 0)
      (fun w l w' hgood hok hstep => by
        obtain ⟨htwice, hunseen⟩ := undisturbed_iff.mp hok
        have hnext := hgood.step hstep
        rw [htwice, hunseen] at hnext
        exact hnext)
      (fun w l w' hgood hok hstep => by
        rw [undisturbed_iff] at hok
        exact ⟨_, _, hgood.step hstep, by omega⟩)
      (fun w l w' hbad hstep => by
        obtain ⟨lost, unseen, hbalanced, hne⟩ := hbad
        exact ⟨_, _, hbalanced.step hstep, by omega⟩)
      hstart
    rcases hsplit with ⟨-, hrestricted⟩ | ⟨lost, unseen, hbalanced, hne⟩
    · exact hrestricted
    · obtain ⟨hlost, hunseen⟩ := (hbalanced.accounted_iff_zero hrest).mp haccounted
      omega
  · intro hrestricted
    have hend : Balanced 0 0 w := by
      refine hrestricted.preserves (Balanced 0 0) ?_ hstart
      intro w l w' hgood hstep
      obtain ⟨htwice, hunseen⟩ := undisturbed_iff.mp hstep.1
      have hnext := hgood.step hstep.2
      rw [htwice, hunseen] at hnext
      exact hnext
    exact (hend.accounted_iff_zero hrest).mpr ⟨rfl, rfl⟩

/-- One more step of the only producer or of `Run`. -/
theorem undisturbed_snoc {n : Nat} (hrun : Run ((shared maxPending drainTimeout).restrict
      fun w l => Undisturbed w.client l) w ls (s.solo n))
    (l : Label) (hstep : (system maxPending drainTimeout).step s l s')
    (hok : Undisturbed (s.taking .idle) l) :
    Run ((shared maxPending drainTimeout).restrict fun w l => Undisturbed w.client l) w
      (ls ++ [l]) (s'.solo (n + l.returns)) :=
  hrun.snoc ⟨hok, solo_step hstep n⟩

/-- `A` is enqueued and the call returned. -/
theorem enqueue_first : Run ((shared 1 15).restrict fun w l => Undisturbed w.client l) {}
    [.enqueue (emptyBatch "A"), .raiseHigh, .wake]
    (State.solo { pending := [emptyBatch "A"], signal := true, counters := { queueHigh := 1 },
                  history := { enqueued := [emptyBatch "A"] } } 1) := by
  have h₀ : Run ((shared 1 15).restrict fun w l => Undisturbed w.client l) {} []
    (State.solo {} 0) := .nil _
  have h₁ := undisturbed_snoc h₀ (.enqueue (emptyBatch "A")) ⟨rfl, by decide, rfl⟩ trivial
  have h₂ := undisturbed_snoc h₁ .raiseHigh ⟨1, rfl, rfl⟩ trivial
  exact undisturbed_snoc h₂ .wake ⟨rfl, rfl⟩ trivial

/-- `A` is delivered while nothing else happens. -/
def deliveredOnce : State where
  signal := true
  counters := { sent := 1, queueHigh := 1 }
  history := {
    enqueued := [emptyBatch "A"]
    posts := [⟨emptyBatch "A", .accepted, false⟩]
    sent := [emptyBatch "A"] }

theorem accounted_deliveredOnce : Accounted (deliveredOnce.solo 1) := by
  have h₄ := undisturbed_snoc enqueue_first .peek ⟨rfl, rfl⟩ trivial
  have h₅ := undisturbed_snoc h₄ (.postReturn .accepted) ⟨emptyBatch "A", rfl, rfl⟩ trivial
  have h₆ := undisturbed_snoc h₅ .count ⟨emptyBatch "A", .accepted, rfl, rfl⟩ trivial
  have h₇ : Run ((shared 1 15).restrict fun w l => Undisturbed w.client l) {} _
      (deliveredOnce.solo 1) :=
    undisturbed_snoc h₆ .pop ⟨emptyBatch "A", rfl, rfl⟩
      ⟨emptyBatch "A", rfl, emptyBatch "A", List.mem_singleton_self _, rfl⟩
  exact (accounted_iff_undisturbed 1 15 _ _ h₇.of_restrict ⟨rfl, rfl⟩).mpr h₇

/-! ### Runs that break the account -/

/-- `A` is evicted while its POST is in flight, and the POST then succeeds. -/
def droppedAndSent : State where
  pending := [emptyBatch "B"]
  signal := true
  counters := { sent := 1, dropped := 1, queueHigh := 1 }
  history := {
    enqueued := [emptyBatch "A", emptyBatch "B"]
    evicted := [emptyBatch "A"]
    posts := [⟨emptyBatch "A", .accepted, false⟩]
    sent := [emptyBatch "A"] }

/-- The POST of `A` failed once before the context ended, and `drain` is answered 200. -/
def drainedDuplicate : State where
  signal := true
  counters := { sent := 1, retried := 1, queueHigh := 1 }
  sender := .drainPeeking
  cancelled := true
  history := {
    enqueued := [emptyBatch "A"]
    posts := [⟨emptyBatch "A", .retryable, false⟩, ⟨emptyBatch "A", .duplicate, true⟩]
    sent := [emptyBatch "A"] }

/-- **A batch counted twice, and a 200 not counted**: two calls returned and the account shows
    three batches; and one answer 200 while `Duplicate` is zero. -/
theorem delivery_miscounted :
    (∃ ls w, Run (shared 1 15) {} ls w ∧ AtRest w ∧ w.completed = 2 ∧
      w.client.counters.sent + w.client.counters.rejected + w.client.counters.dropped +
        w.client.pending.length = 3) ∧
    (∃ ls w, Run (shared 1 15) {} ls w ∧ AtRest w ∧ w.client.duplicates = 1 ∧
      w.client.counters.duplicate = 0) := by
  constructor
  · have h₄ := enqueue_first.of_restrict.snoc (solo_step (l := .peek) ⟨rfl, rfl⟩ 1)
    have h₅ := h₄.snoc (solo_step (l := .evict (emptyBatch "B"))
      ⟨rfl, by decide, emptyBatch "A", [], rfl, rfl⟩ 1)
    have h₆ := h₅.snoc (solo_step (l := .countDropped) ⟨emptyBatch "B", rfl, rfl⟩ 1)
    have h₇ := h₆.snoc (solo_step (l := .append) ⟨emptyBatch "B", rfl, rfl⟩ 1)
    have h₈ := h₇.snoc (solo_step (l := .raiseHigh) ⟨1, rfl, rfl⟩ 1)
    have h₉ := h₈.snoc (solo_step (l := .wake) ⟨rfl, rfl⟩ 1)
    have h₁₀ := h₉.snoc (solo_step (l := .postReturn .accepted) ⟨emptyBatch "A", rfl, rfl⟩ 2)
    have h₁₁ := h₁₀.snoc (solo_step (l := .count) ⟨emptyBatch "A", .accepted, rfl, rfl⟩ 2)
    have h₁₂ : Run (shared 1 15) {} _ (droppedAndSent.solo 2) :=
      h₁₁.snoc (solo_step (l := .pop) ⟨emptyBatch "A", rfl, rfl⟩ 2)
    exact ⟨_, _, h₁₂, ⟨rfl, rfl⟩, rfl, rfl⟩
  · have h₄ := enqueue_first.of_restrict.snoc (solo_step (l := .peek) ⟨rfl, rfl⟩ 1)
    have h₅ := h₄.snoc (solo_step (l := .postReturn .retryable) ⟨emptyBatch "A", rfl, rfl⟩ 1)
    have h₆ := h₅.snoc (solo_step (l := .count) ⟨emptyBatch "A", .retryable, rfl, rfl⟩ 1)
    have h₇ := h₆.snoc (solo_step (l := .cancel) rfl 1)
    have h₈ := h₇.snoc (solo_step (l := .sleepEnded) ⟨emptyBatch "A", rfl, rfl, rfl⟩ 1)
    have h₉ := h₈.snoc (solo_step (l := .check) ⟨rfl, rfl⟩ 1)
    have h₁₀ := h₉.snoc (solo_step (l := .drainPeek) ⟨rfl, rfl⟩ 1)
    have h₁₁ := h₁₀.snoc (solo_step (l := .drainInTime) ⟨emptyBatch "A", rfl, rfl⟩ 1)
    have h₁₂ := h₁₁.snoc (solo_step (l := .drainPostReturn .duplicate) ⟨emptyBatch "A", rfl, rfl⟩ 1)
    have h₁₃ := h₁₂.snoc (solo_step (l := .drainCount) ⟨emptyBatch "A", rfl, rfl⟩ 1)
    have h₁₄ : Run (shared 1 15) {} _ (drainedDuplicate.solo 1) :=
      h₁₃.snoc (solo_step (l := .drainPop) ⟨emptyBatch "A", rfl, rfl⟩ 1)
    exact ⟨_, _, h₁₄, ⟨rfl, rfl⟩, rfl, rfl⟩

end TopologyVisualizer.Agent.Delivery
