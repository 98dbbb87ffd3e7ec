import TopologyVisualizer.Agent.DeliverySent
import TopologyVisualizer.Backend.MemoryOrder
import TopologyVisualizer.Framework.Redelivery

/-! # One Agent, a Network and the Backend

    The delivery client composed with the ingest route over the in-memory
    repository. The network is as bad as HTTP allows:

    - a request that was sent stays available for ever, so the backend may
      handle it late, more than once (a transport that replays it), or never;
    - a response may be overtaken by the client's timeout, after which the
      client posts the batch again while the first request is still out;
    - on the way an answer may be replaced by a failure, also after the
      repository committed.

    `merges` records which enqueued batch each merge into the repository
    came from. The composition simulates `Redelivery.system`
    (`reachable_protocol`); with what is stored for a merge (`Stored`) this
    gives `sent_merged_exactly_once`.
-/

namespace TopologyVisualizer.EndToEnd

open LTS Wire Agent Backend

/-! ### State -/

/-- A request the client sent: the batch and its body. -/
structure Request where
  batch : Agent.IngestBatch
  body : Json

/-- A response on its way back. -/
structure Reply where
  /-- The position of the request in the order of sending. -/
  request : Nat
  status : Nat
  deriving DecidableEq

structure State where
  client : Delivery.State := {}
  /-- Every request sent so far, in the order of sending. -/
  requests : List Request := []
  /-- The request whose response `post` waits for. -/
  awaiting : Option Nat := none
  /-- Every response given so far. -/
  replies : List Reply := []
  repo : InMemoryRepository
  /-- The merges into `repo`: the batch as enqueued and as it arrived. -/
  merges : List (Agent.IngestBatch × Backend.IngestBatch) := []

/-! ### Labels -/

inductive Label where
  /-- A step of the client other than the return of `post`. -/
  | client (l : Delivery.Label)
  /-- `httpClient.Do` puts the request on the wire. -/
  | send
  /-- The backend handles a request and answers. -/
  | handle (request : Nat)
  /-- The backend commits, and then fails to answer with its outcome. -/
  | handleThenFail (request : Nat)
  /-- The request fails before the repository saw it. -/
  | fail (request status : Nat)
  /-- A response reaches `post`. -/
  | receive (status : Nat)
  /-- `httpClient.Do` returns an error: a timeout, a reset, the end of the context. -/
  | doError
  /-- `post` could not build the request. -/
  | buildError
  deriving DecidableEq

/-! ### The system -/

/-- What handling a request merges: the parsed batch, if the route lets it through and the
    gate does not know its id. -/
def applied (repo : InMemoryRepository) (req : Request) :
    List (Agent.IngestBatch × Backend.IngestBatch) :=
  match parse req.body with
  | none => []
  | some batch =>
    if routeCheck batch = none ∧ batch.batchId ∉ repo.batches then [(req.batch, batch)] else []

/-- The state after the backend handled `req` and answered `status`. -/
def State.handled (s : State) (i : Nat) (req : Request) (status : Nat) : State :=
  { s with
    repo := (ingestRoute s.repo req.body).1
    merges := s.merges ++ applied s.repo req
    replies := s.replies ++ [⟨i, status⟩] }

/-- The composed system. -/
def system (clusterId : String) (maxPending drainTimeout : Int) : System State Label where
  init := fun s => s = { repo := .new clusterId }
  step := fun s lbl s' =>
    match lbl with
    | .client l =>
        l.isPostReturn = false ∧
        ∃ c, (Delivery.system maxPending drainTimeout).step s.client l c ∧
          s' = { s with client := c }
    | .send =>
        ∃ b body, s.client.sender.inFlight = some b ∧ s.awaiting = none ∧
          marshal b = .ok body ∧
          s' = { s with
            requests := s.requests ++ [⟨b, body⟩]
            awaiting := some s.requests.length }
    | .handle i =>
        ∃ req, s.requests[i]? = some req ∧
          s' = s.handled i req (ingestRoute s.repo req.body).2.status
    | .handleThenFail i => ∃ req, s.requests[i]? = some req ∧ s' = s.handled i req 500
    | .fail i status =>
        ∃ req, s.requests[i]? = some req ∧ status ≠ 200 ∧ status ≠ 202 ∧
          s' = { s with replies := s.replies ++ [⟨i, status⟩] }
    | .receive status =>
        ∃ i c, s.awaiting = some i ∧ ⟨i, status⟩ ∈ s.replies ∧
          Delivery.PostReturns maxPending drainTimeout s.client (Wire.classify status) c ∧
          s' = { s with client := c, awaiting := none }
    | .doError =>
        ∃ c, Delivery.PostReturns maxPending drainTimeout s.client .retryable c ∧
          s' = { s with client := c, awaiting := none }
    | .buildError =>
        ∃ c, s.awaiting = none ∧
          Delivery.PostReturns maxPending drainTimeout s.client .permanent c ∧
          s' = { s with client := c }

variable {clusterId : String} {maxPending drainTimeout : Int} {s s' : State} {l : Label}

/-! ### The client inside the composition -/

/-- The client of the composition is a client. -/
theorem reachable_client (h : Reachable (system clusterId maxPending drainTimeout) s) :
    Reachable (Delivery.system maxPending drainTimeout) s.client := by
  have hpost : ∀ {s : State} {out : Outcome} {c : Delivery.State},
      Delivery.PostReturns maxPending drainTimeout s.client out c →
      ∃ l, (Delivery.system maxPending drainTimeout).step s.client l c := by
    rintro s out c (hc | hc)
    · exact ⟨_, hc⟩
    · exact ⟨_, hc⟩
  refine Reachable.project State.client ?_ ?_ h
  · intro s hs
    rw [hs]
    rfl
  · intro s l s' hstep
    simp only [system] at hstep
    cases l with
    | client l => obtain ⟨-, c, hc, rfl⟩ := hstep; exact .inl ⟨l, hc⟩
    | receive status => obtain ⟨_, c, -, -, hc, rfl⟩ := hstep; exact .inl (hpost hc)
    | doError => obtain ⟨c, hc, rfl⟩ := hstep; exact .inl (hpost hc)
    | buildError => obtain ⟨c, -, hc, rfl⟩ := hstep; exact .inl (hpost hc)
    | _ => exact .inr (by grind [State.handled])

/-! ### What handling a request does -/

/-- The route merges exactly what `applied` records. -/
theorem ingestRoute_repo (repo : InMemoryRepository) (req : Request) :
    (ingestRoute repo req.body).1 =
      ((applied repo req).map Prod.snd).foldl InMemoryRepository.mergeBatch repo := by
  unfold ingestRoute applied
  cases hparse : parse req.body with
  | none => rfl
  | some batch =>
    cases hcheck : routeCheck batch with
    | some refusal => simp [hcheck]
    | none =>
      by_cases hknown : batch.batchId ∈ repo.batches
      · simp [hcheck, hknown, InMemoryRepository.ingestBatch]
      · simp [hcheck, hknown, InMemoryRepository.ingestBatch]

theorem mem_applied {repo : InMemoryRepository} {req : Request}
    {m : Agent.IngestBatch × Backend.IngestBatch} (h : m ∈ applied repo req) :
    m.1 = req.batch ∧ parse req.body = some m.2 ∧ m.2.batchId ∉ repo.batches := by
  unfold applied at h
  split at h
  · cases h
  · next batch hparse =>
    split at h
    · next hfresh =>
      rw [List.mem_singleton.mp h]
      exact ⟨rfl, hparse, hfresh.2⟩
    · cases h

/-- A refusal of the route is not a success. -/
theorem routeCheck_status {batch : Backend.IngestBatch} {refusal : Response}
    (h : routeCheck batch = some refusal) : refusal.status ≠ 200 ∧ refusal.status ≠ 202 := by
  unfold routeCheck at h
  split at h
  · cases h
    simp
  · split at h
    · cases h
      simp
    · cases h

/-- A success means that the batch is in the repository: it was merged now, or its id is
    known. -/
theorem ingestRoute_success {repo : InMemoryRepository} {req : Request}
    (h : (ingestRoute repo req.body).2.status = 200 ∨
      (ingestRoute repo req.body).2.status = 202) :
    ∃ batch, parse req.body = some batch ∧
      ((req.batch, batch) ∈ applied repo req ∨ batch.batchId ∈ repo.batches) := by
  unfold ingestRoute at h
  cases hparse : parse req.body with
  | none =>
    rw [hparse] at h
    rcases h with h | h <;> cases h
  | some batch =>
    refine ⟨batch, rfl, ?_⟩
    cases hcheck : routeCheck batch with
    | some refusal =>
      have hstatus := routeCheck_status hcheck
      simp only [hparse, hcheck] at h
      exact absurd h (not_or.mpr hstatus)
    | none =>
      by_cases hknown : batch.batchId ∈ repo.batches
      · exact .inr hknown
      · left
        simp [applied, hparse, hcheck, hknown]

/-! ### The store -/

theorem foldl_mergeBatch_batches (repo : InMemoryRepository) (bs : List Backend.IngestBatch) :
    (bs.foldl InMemoryRepository.mergeBatch repo).batches =
      (bs.map Backend.IngestBatch.batchId).reverse ++ repo.batches := by
  induction bs generalizing repo with
  | nil => rfl
  | cons b bs ih => simp [ih]

/-- A repository, the merges that made it and the requests that were sent. -/
structure Stored (clusterId : String) (repo : InMemoryRepository)
    (merges : List (Agent.IngestBatch × Backend.IngestBatch)) (requests : List Request) : Prop where
  /-- The repository is the merges, in their order. -/
  repo : repo = (merges.map Prod.snd).foldl InMemoryRepository.mergeBatch (.new clusterId)
  /-- A merged batch is what arrived of one that was sent. -/
  merges : ∀ m ∈ merges, ∃ body, marshal m.1 = .ok body ∧ parse body = some m.2
  requests : ∀ req ∈ requests, marshal req.batch = .ok req.body

section stored
variable {repo : InMemoryRepository} {merges : List (Agent.IngestBatch × Backend.IngestBatch)}
  {requests : List Request} {req : Request}

/-- The gate knows the ids of the merged batches. -/
theorem Stored.mem_batches (h : Stored clusterId repo merges requests) {id : String} :
    id ∈ repo.batches ↔ id ∈ merges.map (fun m => m.1.batchID) := by
  have hids : merges.map (fun m => m.2.batchId) = merges.map (fun m => m.1.batchID) := by
    refine List.map_congr_left ?_
    intro m hm
    obtain ⟨body, hbody, hparse⟩ := h.merges m hm
    exact batchId_of_parse_marshal hbody hparse
  rw [h.repo, foldl_mergeBatch_batches, ← hids]
  simp [InMemoryRepository.new]

theorem Stored.send (h : Stored clusterId repo merges requests)
    (hbody : marshal req.batch = .ok req.body) :
    Stored clusterId repo merges (requests ++ [req]) := by
  refine ⟨h.repo, h.merges, ?_⟩
  intro req' hreq
  rcases List.mem_append.mp hreq with hreq | hreq
  · exact h.requests req' hreq
  · rw [List.mem_singleton.mp hreq]
    exact hbody

/-- Handling a request, however it is answered. -/
theorem Stored.handled (h : Stored clusterId repo merges requests) (hreq : req ∈ requests) :
    Stored clusterId (ingestRoute repo req.body).1 (merges ++ applied repo req) requests where
  repo := by rw [ingestRoute_repo, List.map_append, List.foldl_append, ← h.repo]
  merges := by
    intro m hm
    rcases List.mem_append.mp hm with hm | hm
    · exact h.merges m hm
    · obtain ⟨hbatch, hparse, -⟩ := mem_applied hm
      rw [hbatch]
      exact ⟨req.body, h.requests req hreq, hparse⟩
  requests := h.requests

end stored

/-- **The store of every run** is made of merges of what was sent. -/
theorem stored_of_reachable (h : Reachable (system clusterId maxPending drainTimeout) s) :
    Stored clusterId s.repo s.merges s.requests := by
  refine System.invariant (fun s => Stored clusterId s.repo s.merges s.requests) ?_ ?_ s h
  · intro s hs
    rw [hs]
    exact ⟨rfl, by simp, by simp⟩
  · intro s l s' hinv hstep
    simp only [system] at hstep
    cases l with
    | send => obtain ⟨b, body, -, -, hbody, rfl⟩ := hstep; exact hinv.send hbody
    | handle i => obtain ⟨req, hreq, rfl⟩ := hstep; exact hinv.handled (List.mem_of_getElem? hreq)
    | handleThenFail i =>
      obtain ⟨req, hreq, rfl⟩ := hstep
      exact hinv.handled (List.mem_of_getElem? hreq)
    | client l => obtain ⟨-, c, -, rfl⟩ := hstep; exact hinv
    | fail i status => obtain ⟨_, -, -, -, rfl⟩ := hstep; exact hinv
    | receive status => obtain ⟨_, c, -, -, -, rfl⟩ := hstep; exact hinv
    | doError => obtain ⟨c, -, rfl⟩ := hstep; exact hinv
    | buildError => obtain ⟨c, -, -, rfl⟩ := hstep; exact hinv

/-! ### The protocol -/

/-- A client as a sender of batches. -/
def sender (c : Delivery.State) : Redelivery.Sender Agent.IngestBatch where
  given := c.history.enqueued
  inFlight := c.sender.inFlight
  credited := c.sender.credited
  counted := c.history.sent

/-- A step of the client between two POSTs is a move of the sender. -/
theorem moves_of_step {c c' : Delivery.State} {k : Delivery.Label}
    (hstep : (Delivery.system maxPending drainTimeout).step c k c') (hk : k.isPostReturn = false) :
    (sender c).Moves (sender c') where
  given := Delivery.enqueued_grows_of_step hstep
  inFlight := (Delivery.quiet_of_step hstep hk).inFlight
  credited := (Delivery.quiet_of_step hstep hk).credited
  counted := (Delivery.quiet_of_step hstep hk).sent

/-- The return of `post` concludes the sending, with success only on 200 and 202. -/
theorem concludes_of_postReturns {c c' : Delivery.State} {out : Outcome} {success : Bool}
    (h : Delivery.PostReturns maxPending drainTimeout c out c')
    (hout : out = .accepted ∨ out = .duplicate → success = true) :
    (sender c).Concludes success (sender c') := by
  obtain ⟨hcredited, hsent, henqueued⟩ := h.spec
  exact ⟨henqueued, fun b hb => (hcredited b hb).imp_right hout, hsent⟩

/-- 200 and 202. -/
def isSuccess (status : Nat) : Bool := decide (status = 200 ∨ status = 202)

/-- Only 200 and 202 are read as success. -/
theorem isSuccess_of_classify {status : Nat}
    (h : Wire.classify status = .accepted ∨ Wire.classify status = .duplicate) :
    isSuccess status = true := by
  unfold Wire.classify at h
  refine decide_eq_true ?_
  split_ifs at h with h200 h202
  · exact .inl h200
  · exact .inr h202
  all_goals rcases h with h | h <;> cases h

/-- Is anything merged? -/
def takes (repo : InMemoryRepository) (req : Request) : Bool := !(applied repo req).isEmpty

theorem applied_map {α : Type*} (g : Agent.IngestBatch → α) (repo : InMemoryRepository)
    (req : Request) :
    (applied repo req).map (fun m => g m.1) = if takes repo req then [g req.batch] else [] := by
  unfold takes applied
  split
  · rfl
  · split <;> rfl

/-- Handling takes the batch only if the gate does not know its id, and answers with success only
    if it takes the batch or knows its id. -/
theorem Stored.handle_spec {repo : InMemoryRepository} {requests : List Request} {req : Request}
    {merges : List (Agent.IngestBatch × Backend.IngestBatch)}
    (h : Stored clusterId repo merges requests) (hreq : req ∈ requests) :
    (takes repo req = true → req.batch.batchID ∉ merges.map (fun m => m.1.batchID)) ∧
    (isSuccess (ingestRoute repo req.body).2.status = true →
      takes repo req = true ∨ req.batch.batchID ∈ merges.map (fun m => m.1.batchID)) := by
  have hbody := h.requests req hreq
  constructor
  · intro htakes
    obtain ⟨m, hm⟩ := List.exists_mem_of_ne_nil (applied repo req) (by simpa [takes] using htakes)
    obtain ⟨-, hparse, hfresh⟩ := mem_applied hm
    rw [← h.mem_batches, ← batchId_of_parse_marshal hbody hparse]
    exact hfresh
  · intro hsuccess
    obtain ⟨batch, hparse, hnow | hknown⟩ := ingestRoute_success (of_decide_eq_true hsuccess)
    · left
      rw [takes, Bool.not_eq_true', List.isEmpty_eq_false_iff]
      exact List.ne_nil_of_mem hnow
    · right
      rw [← h.mem_batches, ← batchId_of_parse_marshal hbody hparse]
      exact hknown

/-- The composition as the protocol sees it. -/
def State.protocol (s : State) : Redelivery.State Unit Agent.IngestBatch where
  senders := fun _ => sender s.client
  requests := s.requests.map (fun r => ((), r.batch))
  awaiting := fun _ => s.awaiting
  replies := s.replies.map (fun r => (r.request, isSuccess r.status))
  taken := s.merges.map (fun m => ((), m.1))

theorem update_unit {α : Type} (f : Unit → α) (x : α) : Function.update f () x = fun _ => x :=
  funext fun _ => Function.update_self ..

theorem request_protocol {i : Nat} {req : Request} (hreq : s.requests[i]? = some req) :
    s.protocol.requests[i]? = some ((), req.batch) := by
  show (s.requests.map _)[i]? = _
  rw [List.getElem?_map, hreq]
  rfl

/-- Handling a request is a step of the protocol, whatever failure takes the place of the
    answer. -/
theorem protocol_handled (h : Stored clusterId s.repo s.merges s.requests) {i : Nat} {req : Request}
    {status : Nat} (hreq : s.requests[i]? = some req)
    (hstatus : isSuccess status = true → isSuccess (ingestRoute s.repo req.body).2.status = true) :
    (Redelivery.system Agent.IngestBatch.batchID).step s.protocol
      (.handle i (takes s.repo req) (isSuccess status)) (s.handled i req status).protocol := by
  obtain ⟨hfresh, hsuccess⟩ := h.handle_spec (List.mem_of_getElem? hreq)
  have hids : s.protocol.taken.map (fun t => t.2.batchID) = s.merges.map (fun m => m.1.batchID) := by
    simp [State.protocol]
  refine ⟨((), req.batch), request_protocol hreq, ?_, ?_, ?_⟩
  · rw [hids]
    exact hfresh
  · rw [hids]
    exact fun h => hsuccess (hstatus h)
  · simp [State.protocol, State.handled, applied_map (fun b => ((), b))]

/-- **Simulation**: every step of the composition is a step of the protocol. -/
theorem protocol_step (hreach : Reachable (system clusterId maxPending drainTimeout) s)
    (hstep : (system clusterId maxPending drainTimeout).step s l s') :
    ∃ k, (Redelivery.system Agent.IngestBatch.batchID).step s.protocol k s'.protocol := by
  have hstored := stored_of_reachable hreach
  simp only [system] at hstep
  cases l with
  | client l =>
    obtain ⟨hl, c, hc, rfl⟩ := hstep
    exact ⟨.move (), sender c, moves_of_step hc hl, by rw [update_unit]; rfl⟩
  | send =>
    obtain ⟨b, body, hb, -, -, rfl⟩ := hstep
    refine ⟨.send (), b, hb, ?_, ?_⟩
    · exact Delivery.held_enqueued (reachable_client hreach) b (Delivery.held_of_inFlight hb)
    · rw [update_unit]
      simp [State.protocol]
  | handle i =>
    obtain ⟨req, hreq, rfl⟩ := hstep
    exact ⟨_, protocol_handled hstored hreq (fun h => h)⟩
  | handleThenFail i =>
    obtain ⟨req, hreq, rfl⟩ := hstep
    exact ⟨_, protocol_handled hstored hreq (fun h => absurd h (by decide))⟩
  | fail i status =>
    obtain ⟨req, hreq, h200, h202, rfl⟩ := hstep
    have hfailure : isSuccess status = false := by simp [isSuccess, h200, h202]
    refine ⟨.handle i false false, ((), req.batch), request_protocol hreq, nofun, nofun, ?_⟩
    simp [State.protocol, hfailure]
  | receive status =>
    obtain ⟨i, c, hi, hreply, hc, rfl⟩ := hstep
    refine ⟨.conclude () i (isSuccess status), sender c, hi, List.mem_map.mpr ⟨_, hreply, rfl⟩,
      concludes_of_postReturns hc isSuccess_of_classify, ?_⟩
    rw [update_unit, update_unit]
    rfl
  | doError =>
    obtain ⟨c, hc, rfl⟩ := hstep
    refine ⟨.giveUp (), sender c, concludes_of_postReturns hc (by simp), ?_⟩
    rw [update_unit, update_unit]
    rfl
  | buildError =>
    obtain ⟨c, hnone, hc, rfl⟩ := hstep
    refine ⟨.giveUp (), sender c, concludes_of_postReturns hc (by simp), ?_⟩
    rw [update_unit, update_unit]
    -- nothing was awaited
    simp [State.protocol, hnone]

theorem reachable_protocol (h : Reachable (system clusterId maxPending drainTimeout) s) :
    Reachable (Redelivery.system Agent.IngestBatch.batchID) s.protocol := by
  refine Reachable.simulate State.protocol ?_ (fun s l s' hreach hstep =>
    .inl (protocol_step hreach hstep)) h
  intro s hs
  rw [hs]
  rfl

/-! ### Exactly once -/

/-- How often the batch was merged. -/
def State.mergeCount (s : State) (b : Agent.IngestBatch) : Nat :=
  s.merges.countP (fun m => m.1 = b)

theorem mergeCount_eq_count (s : State) (b : Agent.IngestBatch) :
    s.mergeCount b = s.protocol.taken.count ((), b) := by
  unfold State.mergeCount State.protocol
  rw [List.count, List.countP_map]
  refine List.countP_congr ?_
  intro m _
  simp

/-- **Exactly once, end to end**: in every run with distinct batch ids the repository is the
    fold of the merges, each merge is of what arrived of an enqueued batch, no batch is merged
    twice, and every batch counted in `Sent` is merged exactly once. -/
theorem sent_merged_exactly_once (clusterId : String) (maxPending drainTimeout : Int) (s : State)
    (hreach : Reachable (system clusterId maxPending drainTimeout) s)
    (hids : (s.client.history.enqueued.map Agent.IngestBatch.batchID).Nodup) :
    s.repo = (s.merges.map Prod.snd).foldl InMemoryRepository.mergeBatch (.new clusterId) ∧
    (∀ m ∈ s.merges, m.1 ∈ s.client.history.enqueued ∧
      ∃ body, marshal m.1 = .ok body ∧ parse body = some m.2) ∧
    (∀ b, s.mergeCount b ≤ 1) ∧
    (∀ b ∈ s.client.history.sent, s.mergeCount b = 1) ∧
    s.client.counters.sent = s.client.history.sent.length := by
  have hstored := stored_of_reachable hreach
  have htraced := Redelivery.traced_of_reachable (reachable_protocol hreach)
  have hdistinct : s.protocol.Distinct Agent.IngestBatch.batchID := by
    intro n x hx m y hy hid
    rw [List.inj_on_of_nodup_map hids hx hy hid]
  have hcredit := Redelivery.credit_of_reachable (reachable_protocol hreach) hdistinct
  have hnodup : s.protocol.taken.Nodup := htraced.ids.of_map _
  refine ⟨hstored.repo, ?_, ?_, ?_, (Delivery.booked_of_reachable (reachable_client hreach)).sent⟩
  · intro m hm
    exact ⟨htraced.taken ((), m.1) (List.mem_map.mpr ⟨m, hm, rfl⟩), hstored.merges m hm⟩
  · intro b
    rw [mergeCount_eq_count]
    exact List.nodup_iff_count_le_one.mp hnodup _
  · intro b hb
    rw [mergeCount_eq_count]
    exact List.count_eq_one_of_mem hnodup (hcredit.counted () b hb)

/-! ### A lost response -/

/-- A batch with a connection from `a` to a port of `b`. -/
def connected (batchID : String) (port : Int) : Agent.IngestBatch :=
  { Delivery.emptyBatch batchID with
    edges := [
      { source := ⟨"k8s:c:shop:Deployment:a", "Deployment", some "shop", "a"⟩
        target := ⟨"k8s:c:shop:Service:b", "Service", some "shop", "b"⟩
        protocol := "TCP"
        destinationPort := port
        connectionCount := 1
        failedConnectionCount := some 0
        connectLatencyCount := 1
        connectLatencySumUS := 7
        bytesSent := none
        bytesReceived := none
        firstSeen := ⟨0, none⟩
        lastSeen := ⟨0, none⟩ }] }

def retried : Agent.IngestBatch := connected "01HZX3V9K7QWERTY0123456789" 80

def following : Agent.IngestBatch := connected "01HZX3V9K8QWERTY0123456789" 443

/-- The body of the POST of a batch. -/
def bodyOf (b : Agent.IngestBatch) : Json := .obj (batchFields b)

/-- The first POST is merged and its response lost; the second is answered with 200. Then the next
    batch is delivered. -/
theorem reachable_lostResponse : ∃ s, Reachable (system "c" 4 15) s ∧
    s.client.history.enqueued = [retried, following] ∧
    s.client.history.sent = [retried, following] ∧ s.client.counters.duplicate = 1 := by
  have h₀ : Reachable (system "c" 4 15) { repo := .new "c" } := .init rfl
  have h₁ := h₀.step (l := Label.client (.enqueue retried))
    ⟨rfl, _, ⟨rfl, by decide, rfl⟩, rfl⟩
  have h₂ := h₁.step (l := Label.client .raiseHigh) ⟨rfl, _, ⟨1, rfl, rfl⟩, rfl⟩
  have h₃ := h₂.step (l := Label.client .wake) ⟨rfl, _, ⟨rfl, rfl⟩, rfl⟩
  have h₄ := h₃.step (l := Label.client (.enqueue following))
    ⟨rfl, _, ⟨rfl, by decide, rfl⟩, rfl⟩
  have h₅ := h₄.step (l := Label.client .peek) ⟨rfl, _, ⟨rfl, rfl⟩, rfl⟩
  have h₆ := h₅.step (l := Label.send) ⟨retried, bodyOf retried, rfl, rfl, rfl, rfl⟩
  have h₇ := h₆.step (l := Label.handle 0) ⟨⟨retried, bodyOf retried⟩, rfl, rfl⟩
  have h₈ := h₇.step (l := Label.doError) ⟨_, .inl ⟨retried, rfl, rfl⟩, rfl⟩
  have h₉ := h₈.step (l := Label.client .count) ⟨rfl, _, ⟨retried, .retryable, rfl, rfl⟩, rfl⟩
  have h₁₀ := h₉.step (l := Label.client .sleepElapsed) ⟨rfl, _, ⟨retried, rfl, rfl⟩, rfl⟩
  have h₁₁ := h₁₀.step (l := Label.send) ⟨retried, bodyOf retried, rfl, rfl, rfl, rfl⟩
  have h₁₂ := h₁₁.step (l := Label.handle 1) ⟨⟨retried, bodyOf retried⟩, rfl, rfl⟩
  have h₁₃ := h₁₂.step (l := Label.receive 200)
    ⟨1, _, rfl, by decide +kernel, .inl ⟨retried, rfl, rfl⟩, rfl⟩
  have h₁₄ := h₁₃.step (l := Label.client .count)
    ⟨rfl, _, ⟨retried, .duplicate, rfl, rfl⟩, rfl⟩
  have h₁₅ := h₁₄.step (l := Label.client .pop) ⟨rfl, _, ⟨retried, rfl, rfl⟩, rfl⟩
  have h₁₆ := h₁₅.step (l := Label.client .peek) ⟨rfl, _, ⟨rfl, rfl⟩, rfl⟩
  have h₁₇ := h₁₆.step (l := Label.send) ⟨following, bodyOf following, rfl, rfl, rfl, rfl⟩
  have h₁₈ := h₁₇.step (l := Label.handle 2) ⟨⟨following, bodyOf following⟩, rfl, rfl⟩
  have h₁₉ := h₁₈.step (l := Label.receive 202)
    ⟨2, _, rfl, by decide +kernel, .inl ⟨following, rfl, rfl⟩, rfl⟩
  have h₂₀ := h₁₉.step (l := Label.client .count)
    ⟨rfl, _, ⟨following, .accepted, rfl, rfl⟩, rfl⟩
  exact ⟨_, h₂₀, rfl, rfl, rfl⟩

theorem retried_merged_once : ∃ s, Reachable (system "c" 4 15) s ∧
    s.client.counters.duplicate = 1 ∧ s.client.history.sent = [retried, following] ∧
    s.mergeCount retried = 1 ∧ s.mergeCount following = 1 := by
  obtain ⟨s, hreach, henqueued, hsent, hdup⟩ := reachable_lostResponse
  refine ⟨s, hreach, hdup, hsent, ?_⟩
  obtain ⟨-, -, -, honce, -⟩ :=
    sent_merged_exactly_once "c" 4 15 s hreach (by rw [henqueued]; decide)
  exact ⟨honce retried (by rw [hsent]; simp), honce following (by rw [hsent]; simp)⟩

end TopologyVisualizer.EndToEnd
