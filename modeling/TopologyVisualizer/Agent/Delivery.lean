import TopologyVisualizer.Framework.BoundedQueue
import TopologyVisualizer.Wire

/-! # The Delivery Client

    `agent/internal/delivery/delivery.go` as a labelled transition system of
    two goroutines: the caller of `Enqueue` and the loop of `Run`. Each
    critical section of `mu` is one step, each counter update is one step,
    and whatever a goroutine does between two of those is a program point of
    its own, so every interleaving of the source is a run.

    What a POST returns is left open here; the end-to-end model decides it.
    `History` records what the proofs speak about and no step reads it.
-/

namespace TopologyVisualizer.Agent.Delivery

open LTS Wire

/-! ### State -/

/-- `Counters`. -/
structure Counters where
  sent : Nat := 0
  duplicate : Nat := 0
  retried : Nat := 0
  dropped : Nat := 0
  rejected : Nat := 0
  queueHigh : Nat := 0
  deriving DecidableEq

/-- Where the goroutine that calls `Enqueue` is. -/
inductive Producer where
  /-- Not in a call. -/
  | idle
  /-- The oldest batch was evicted and the lock released. -/
  | dropping (batch : IngestBatch)
  /-- `Dropped` was incremented; waiting for the lock. -/
  | appending (batch : IngestBatch)
  /-- The batch is queued; about to raise `QueueHigh`. -/
  | raising (depth : Nat)
  /-- About to signal. -/
  | waking
  deriving DecidableEq

/-- Where the goroutine of `Run` is. -/
inductive Sender where
  /-- At the top of `Run`'s loop. -/
  | peeking
  /-- In the select on an empty queue. -/
  | waiting
  /-- In `attemptWithRetry`, posting. -/
  | posting (batch : IngestBatch)
  /-- `post` returned. -/
  | counting (batch : IngestBatch) (outcome : Outcome)
  /-- Backing off. -/
  | sleeping (batch : IngestBatch)
  /-- `attemptWithRetry` returned true. -/
  | popping (batch : IngestBatch)
  /-- `attemptWithRetry` returned false. -/
  | checking
  /-- At the top of `drain`'s loop. -/
  | drainPeeking
  /-- About to look at the drain deadline. -/
  | drainDeadline (batch : IngestBatch)
  | drainPosting (batch : IngestBatch)
  | drainCounting (batch : IngestBatch)
  | drainPopping (batch : IngestBatch)
  /-- `Run` returned. -/
  | returned
  deriving DecidableEq

/-- A POST that came back. -/
structure Post where
  batch : IngestBatch
  outcome : Outcome
  draining : Bool
  deriving DecidableEq

/-- What happened so far. -/
structure History where
  /-- The batches `Enqueue` was called with. -/
  enqueued : List IngestBatch := []
  /-- The batches evicted as the oldest. -/
  evicted : List IngestBatch := []
  /-- The posts that returned. -/
  posts : List Post := []
  /-- The batches counted in `Sent`. -/
  sent : List IngestBatch := []
  /-- The batches counted in `Rejected`. -/
  rejected : List IngestBatch := []
  /-- What was queued when `drain` gave up. -/
  leftover : List IngestBatch := []
  deriving DecidableEq

/-- The client, its two goroutines and the context of `Run`. -/
structure State where
  pending : List IngestBatch := []
  signal : Bool := false
  counters : Counters := {}
  producer : Producer := .idle
  sender : Sender := .peeking
  cancelled : Bool := false
  history : History := {}
  deriving DecidableEq

/-- `New` raises a capacity below one to one. -/
def maxSize (maxPending : Int) : Nat := if maxPending < 1 then 1 else maxPending.toNat

/-- `drain` returns at once without a positive timeout. -/
def drainEntry (drainTimeout : Int) : Sender :=
  if drainTimeout ≤ 0 then .returned else .drainPeeking

/-- `pop`: remove by id rather than by position. -/
def popID (batchID : String) (pending : List IngestBatch) : List IngestBatch :=
  pending.eraseP (fun b => b.batchID = batchID)

/-! ### Labels -/

inductive Label where
  /-- `Enqueue` finds room and appends. -/
  | enqueue (batch : IngestBatch)
  /-- `Enqueue` finds the queue full and evicts the oldest. -/
  | evict (batch : IngestBatch)
  | countDropped
  | append
  | raiseHigh
  | wake
  /-- The context of `Run` ends. -/
  | cancel
  | peek
  | signalled
  | timer
  | ctxDone
  | postReturn (outcome : Outcome)
  | count
  | sleepElapsed
  | sleepEnded
  | check
  | pop
  | drainPeek
  | drainInTime
  | drainExpired
  | drainPostReturn (outcome : Outcome)
  | drainCount
  | drainPop
  deriving DecidableEq

/-! ### The counter updates of `attemptWithRetry` -/

/-- The counters after `post` returned `outcome`. -/
def Counters.record (c : Counters) : Outcome → Counters
  | .accepted => { c with sent := c.sent + 1 }
  | .duplicate => { c with sent := c.sent + 1, duplicate := c.duplicate + 1 }
  | .permanent => { c with rejected := c.rejected + 1 }
  | .retryable => { c with retried := c.retried + 1 }

/-- The same, in the history. -/
def History.record (h : History) (batch : IngestBatch) : Outcome → History
  | .accepted => { h with sent := h.sent ++ [batch] }
  | .duplicate => { h with sent := h.sent ++ [batch] }
  | .permanent => { h with rejected := h.rejected ++ [batch] }
  | .retryable => h

/-- Where `attemptWithRetry` goes with an outcome. -/
def afterAttempt (batch : IngestBatch) : Outcome → Sender
  | .retryable => .sleeping batch
  | _ => .popping batch

/-- Where `drain` goes with an outcome: it gives up on anything but success. -/
def afterDrainPost (batch : IngestBatch) : Outcome → Sender
  | .accepted => .drainCounting batch
  | .duplicate => .drainCounting batch
  | _ => .returned

/-- What is left behind when `drain` gives up on an outcome. -/
def leftAfterDrainPost (pending : List IngestBatch) : Outcome → List IngestBatch
  | .accepted => []
  | .duplicate => []
  | _ => pending

/-! ### The system -/

/-- The delivery client as a labelled transition system. -/
def system (maxPending drainTimeout : Int) : System State Label where
  init := fun s => s = {}
  step := fun s lbl s' =>
    match lbl with
    | .enqueue b =>
        s.producer = .idle ∧ s.pending.length < maxSize maxPending ∧
        s' = { s with
          pending := s.pending ++ [b]
          producer := .raising (s.pending.length + 1)
          history := { s.history with enqueued := s.history.enqueued ++ [b] } }
    | .evict b =>
        s.producer = .idle ∧ maxSize maxPending ≤ s.pending.length ∧
        ∃ oldest rest, s.pending = oldest :: rest ∧
          s' = { s with
            pending := rest
            producer := .dropping b
            history := { s.history with
              enqueued := s.history.enqueued ++ [b]
              evicted := s.history.evicted ++ [oldest] } }
    | .countDropped =>
        ∃ b, s.producer = .dropping b ∧
          s' = { s with
            producer := .appending b
            counters := { s.counters with dropped := s.counters.dropped + 1 } }
    | .append =>
        ∃ b, s.producer = .appending b ∧
          s' = { s with
            pending := s.pending ++ [b]
            producer := .raising (s.pending.length + 1) }
    | .raiseHigh =>
        ∃ depth, s.producer = .raising depth ∧
          s' = { s with
            producer := .waking
            counters := { s.counters with queueHigh := max s.counters.queueHigh depth } }
    | .wake => s.producer = .waking ∧ s' = { s with producer := .idle, signal := true }
    | .cancel => s' = { s with cancelled := true }
    | .peek =>
        s.sender = .peeking ∧
        s' = { s with
          sender := match s.pending with
            | [] => .waiting
            | b :: _ => .posting b }
    | .signalled =>
        s.sender = .waiting ∧ s.signal = true ∧
        s' = { s with sender := .peeking, signal := false }
    | .timer => s.sender = .waiting ∧ s' = { s with sender := .peeking }
    | .ctxDone =>
        s.sender = .waiting ∧ s.cancelled = true ∧
        s' = { s with sender := drainEntry drainTimeout }
    | .postReturn out =>
        ∃ b, s.sender = .posting b ∧
          s' = { s with
            sender := .counting b out
            history := { s.history with posts := s.history.posts ++ [⟨b, out, false⟩] } }
    | .count =>
        ∃ b out, s.sender = .counting b out ∧
          s' = { s with
            sender := afterAttempt b out
            counters := s.counters.record out
            history := s.history.record b out }
    | .sleepElapsed => ∃ b, s.sender = .sleeping b ∧ s' = { s with sender := .posting b }
    | .sleepEnded =>
        ∃ b, s.sender = .sleeping b ∧ s.cancelled = true ∧ s' = { s with sender := .checking }
    | .check =>
        s.sender = .checking ∧
        s' = { s with sender := if s.cancelled then drainEntry drainTimeout else .peeking }
    | .pop =>
        ∃ b, s.sender = .popping b ∧
          s' = { s with sender := .peeking, pending := popID b.batchID s.pending }
    | .drainPeek =>
        s.sender = .drainPeeking ∧
        s' = { s with
          sender := match s.pending with
            | [] => .returned
            | b :: _ => .drainDeadline b }
    | .drainInTime =>
        ∃ b, s.sender = .drainDeadline b ∧ s' = { s with sender := .drainPosting b }
    | .drainExpired =>
        ∃ b, s.sender = .drainDeadline b ∧
          s' = { s with
            sender := .returned
            history := { s.history with leftover := s.pending } }
    | .drainPostReturn out =>
        ∃ b, s.sender = .drainPosting b ∧
          s' = { s with
            sender := afterDrainPost b out
            history := { s.history with
              posts := s.history.posts ++ [⟨b, out, true⟩]
              leftover := leftAfterDrainPost s.pending out } }
    | .drainCount =>
        ∃ b, s.sender = .drainCounting b ∧
          s' = { s with
            sender := .drainPopping b
            counters := { s.counters with sent := s.counters.sent + 1 }
            history := { s.history with sent := s.history.sent ++ [b] } }
    | .drainPop =>
        ∃ b, s.sender = .drainPopping b ∧
          s' = { s with sender := .drainPeeking, pending := popID b.batchID s.pending }

end TopologyVisualizer.Agent.Delivery
