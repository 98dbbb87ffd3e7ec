import TopologyVisualizer.Agent.DeliveryDrain
import TopologyVisualizer.Agent.Interval

/-! # The Agent Process

    `run` of `agent/cmd/agent/main.go` from the moment its goroutines are
    started, as one labelled transition system:

    - the main goroutine: `coll.Run` with the callback that adds to the
      aggregator, then the joins on `done` and `delivered`;
    - the flush loop with `emitBatch`;
    - the delivery loop, the `Delivery.system` with the flush loop as the
      caller of `Enqueue`;
    - the goroutine of `coll.Run` that closes the reader.

    They share the context, which a signal cancels at any time and which
    `run` itself cancels only after it returned (`defer stop()`).
-/

namespace TopologyVisualizer.Agent.Process

open LTS

/-! ### State -/

/-- What `run` reads of the configuration. -/
structure Config where
  clusterID : String
  nodeName : String
  infraPorts : List UInt16
  intervalSeconds : Int
  maxPendingBatches : Int

/-- The agent id `run` derives from the node name. -/
def Config.agentID (cfg : Config) : String := "topology-agent/" ++ cfg.nodeName

/-- `15*time.Second`. -/
def drainTimeout : Int := 15000000000

/-- Where the main goroutine is. -/
inductive Main where
  /-- In `coll.Run`, at the read. -/
  | reading
  /-- A record was read. -/
  | decoding (record : List UInt8)
  /-- About to call the callback. -/
  | handling (ev : Event)
  /-- `coll.Run` returned; waiting for the flush loop. -/
  | joiningFlush (err : Option String)
  /-- Waiting for the delivery loop. -/
  | joiningDelivery (err : Option String)
  /-- `run` returned. -/
  | returned (err : Option String)
  deriving DecidableEq

/-- Where the flush loop is. `final` marks the flush after the context ended. -/
inductive Flusher where
  | selecting
  /-- In `emitBatch`, before `Flush`. -/
  | flushing (final : Bool)
  | validating (batch : IngestBatch) (final : Bool)
  /-- About to call `Enqueue`. -/
  | enqueuing (batch : IngestBatch) (final : Bool)
  /-- In `Enqueue`. -/
  | inEnqueue (final : Bool)
  | returned
  deriving DecidableEq

/-- What happened so far. -/
structure History where
  /-- The observations `Add` kept. -/
  accepted : List Observation := []
  /-- Those kept since the last `Flush`. -/
  interval : List Observation := []
  /-- The batches `Flush` returned, with the observations it took. -/
  flushes : List (IngestBatch × List Observation) := []
  /-- The batches that failed `Validate`. -/
  invalid : List IngestBatch := []

structure State where
  main : Main := .reading
  flusher : Flusher := .selecting
  readerClosed : Bool := false
  aggregator : Aggregator
  delivery : Delivery.State := {}
  history : History := {}

/-- The context ended. -/
def State.cancelled (s : State) : Bool := s.delivery.cancelled

/-! ### Labels -/

inductive Label where
  /-- SIGINT or SIGTERM. -/
  | signal
  /-- The deferred `stop`, after `run` returned. -/
  | stop
  | closeReader
  | read (record : List UInt8)
  | readClosed
  | readError (message : String)
  | decode (clock : Clock)
  /-- The callback, with the metadata caches as they are. -/
  | handle (caches : Caches)
  | joinFlush
  | joinDelivery
  | tick
  | done
  | flush (now : WallReading) (ulid : Ulid)
  | validate
  /-- `Enqueue` takes the lock: it appends, or evicts the oldest. -/
  | enqueue
  | enqueueReturn
  /-- A step of the delivery loop, or of an `Enqueue` under way. -/
  | delivery (l : Delivery.Label)

/-! ### The system -/

/-- Where `emitBatch` returns to. -/
def afterEmit (final : Bool) : Flusher := if final then .returned else .selecting

/-- The observation the callback adds, unless the connection started on another node. -/
def observed (cfg : Config) (caches : Caches) (ev : Event) : Option Observation :=
  let r : Resolver := ⟨cfg.clusterID, caches⟩
  if r.originatesElsewhere ev.srcIP cfg.nodeName then none else some (r.observation ev)

/-- What `Add` keeps of an event. -/
def keeps (cfg : Config) (caches : Caches) (ev : Event) : List Observation :=
  (observed cfg caches ev).toList.filter (fun o => verdict cfg.infraPorts o = .kept)

/-- `Flush` in the flush loop, and the history of it. -/
def State.flushed (s : State) (cfg : Config) (now : WallReading) (ulid : Ulid) (final : Bool) :
    State :=
  match s.aggregator.flush cfg.intervalSeconds now ulid with
  | (aggregator, none) =>
    { s with
      aggregator := aggregator
      flusher := afterEmit final
      history := { s.history with interval := [] } }
  | (aggregator, some batch) =>
    { s with
      aggregator := aggregator
      flusher := .validating batch final
      history := { s.history with
        interval := []
        flushes := s.history.flushes ++ [(batch, s.history.interval)] } }

/-- The process. `quote` is the `%q` of the messages of `Validate`. -/
def system (quote : String → String) (cfg : Config) : System State Label where
  init := fun s => s = { aggregator := .new cfg.clusterID cfg.agentID cfg.infraPorts }
  step := fun s lbl s' =>
    match lbl with
    | .signal => s' = { s with delivery := { s.delivery with cancelled := true } }
    | .stop =>
        (∃ err, s.main = .returned err) ∧
        s' = { s with delivery := { s.delivery with cancelled := true } }
    | .closeReader => s.cancelled = true ∧ s' = { s with readerClosed := true }
    | .read record =>
        s.main = .reading ∧ s.readerClosed = false ∧ s' = { s with main := .decoding record }
    | .readClosed =>
        s.main = .reading ∧ s.readerClosed = true ∧ s' = { s with main := .joiningFlush none }
    | .readError message =>
        s.main = .reading ∧
        s' = { s with
          main := .joiningFlush
            (if s.cancelled then none else some ("read ring buffer: " ++ message)) }
    | .decode clock =>
        ∃ record, s.main = .decoding record ∧
          s' = { s with
            main := match decodeRecord clock record with
              | .ok ev => .handling ev
              | .error message => .joiningFlush (some ("decode event: " ++ message)) }
    | .handle caches =>
        ∃ ev, s.main = .handling ev ∧
          s' = { s with
            main := .reading
            aggregator := handleEvent ⟨cfg.clusterID, caches⟩ cfg.nodeName s.aggregator ev
            history := { s.history with
              accepted := s.history.accepted ++ keeps cfg caches ev
              interval := s.history.interval ++ keeps cfg caches ev } }
    | .joinFlush =>
        ∃ err, s.main = .joiningFlush err ∧ s.flusher = .returned ∧
          s' = { s with main := .joiningDelivery err }
    | .joinDelivery =>
        ∃ err, s.main = .joiningDelivery err ∧ s.delivery.sender = .returned ∧
          s' = { s with main := .returned err }
    | .tick => s.flusher = .selecting ∧ s' = { s with flusher := .flushing false }
    | .done =>
        s.flusher = .selecting ∧ s.cancelled = true ∧ s' = { s with flusher := .flushing true }
    | .flush now ulid =>
        ∃ final, s.flusher = .flushing final ∧ s' = s.flushed cfg now ulid final
    | .validate =>
        ∃ batch final, s.flusher = .validating batch final ∧
          s' = match batch.validate quote with
            | .ok _ => { s with flusher := .enqueuing batch final }
            | .error _ =>
              { s with
                flusher := afterEmit final
                history := { s.history with invalid := s.history.invalid ++ [batch] } }
    | .enqueue =>
        ∃ batch final d, s.flusher = .enqueuing batch final ∧
          ((Delivery.system cfg.maxPendingBatches drainTimeout).step
              s.delivery (.enqueue batch) d ∨
            (Delivery.system cfg.maxPendingBatches drainTimeout).step
              s.delivery (.evict batch) d) ∧
          s' = { s with flusher := .inEnqueue final, delivery := d }
    | .enqueueReturn =>
        ∃ final, s.flusher = .inEnqueue final ∧ s.delivery.producer = .idle ∧
          s' = { s with flusher := afterEmit final }
    | .delivery l =>
        ∃ d, l.isOwn = true ∧
          (Delivery.system cfg.maxPendingBatches drainTimeout).step s.delivery l d ∧
          s' = { s with delivery := d }

end TopologyVisualizer.Agent.Process
