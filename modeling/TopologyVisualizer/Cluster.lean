import TopologyVisualizer.Agent.Handover
import TopologyVisualizer.EndToEnd

/-! # The Agents of a Cluster and the Backend

    Any number of agent processes, each with its collector, aggregator,
    flush loop and delivery loop (`Process.system`), post to one backend
    over the network of `EndToEnd`. An agent that is restarted is another
    element of `Node`.

    The composition simulates `Redelivery.system` (`reachable_protocol`), so
    every batch is merged at most once, and what any agent counts in `Sent`
    was merged (`Credit`). What this says about the numbers in the graph is
    in `ClusterTotals.lean`.
-/

namespace TopologyVisualizer.Cluster

open LTS Wire Agent Backend
open EndToEnd (Request applied Stored sender isSuccess takes)

universe u

variable {Node : Type u}

/-! ### State -/

/-- A merge into the repository: who sent the batch, as what, and what arrived. -/
structure Merge (Node : Type u) where
  node : Node
  sent : Agent.IngestBatch
  stored : Backend.IngestBatch

structure State (Node : Type u) where
  agents : Node → Process.State
  /-- Every request sent so far and its sender, in the order of sending. -/
  requests : List (Node × Request) := []
  /-- The request whose response an agent's `post` waits for. -/
  awaiting : Node → Option Nat := fun _ => none
  /-- Every response given so far. -/
  replies : List EndToEnd.Reply := []
  repo : InMemoryRepository
  merges : List (Merge Node) := []

/-! ### Labels -/

inductive Label (Node : Type u) where
  /-- A step of an agent other than the return of `post`. -/
  | agent (n : Node) (l : Process.Label)
  /-- `httpClient.Do` puts the request on the wire. -/
  | send (n : Node)
  /-- The backend handles a request and answers. -/
  | handle (request : Nat)
  /-- The backend commits, and then fails to answer with its outcome. -/
  | handleThenFail (request : Nat)
  /-- The request fails before the repository saw it. -/
  | fail (request status : Nat)
  /-- A response reaches `post`. -/
  | receive (n : Node) (status : Nat)
  /-- `httpClient.Do` returns an error. -/
  | doError (n : Node)
  /-- `post` could not build the request. -/
  | buildError (n : Node)

/-! ### The system -/

/-- Is this step of an agent the return of `post`? -/
def isPostReturn : Process.Label → Bool
  | .delivery l => l.isPostReturn
  | _ => false

/-- `post` of an agent returns `out`. -/
def PostReturns (cfg : Process.Config) (a : Process.State) (out : Outcome) (a' : Process.State) :
    Prop :=
  ∃ d, Delivery.PostReturns cfg.maxPendingBatches Process.drainTimeout a.delivery out d ∧
    a' = { a with delivery := d }

/-- The state after the backend handled the request of an agent and answered `status`. -/
def State.handled (s : State Node) (i : Nat) (req : Node × Request) (status : Nat) : State Node :=
  { s with
    repo := (ingestRoute s.repo req.2.body).1
    merges := s.merges ++ (applied s.repo req.2).map (fun m => ⟨req.1, m.1, m.2⟩)
    replies := s.replies ++ [⟨i, status⟩] }

/-- What is read of each agent's configuration, and the cluster the backend serves. -/
structure Setup (Node : Type u) where
  quote : String → String
  config : Node → Process.Config
  clusterId : String

/-- The cluster. -/
def system [DecidableEq Node] (setup : Setup Node) : System (State Node) (Label Node) where
  init := fun s =>
    (∀ n, (Process.system setup.quote (setup.config n)).init (s.agents n)) ∧
    s.requests = [] ∧ (∀ n, s.awaiting n = none) ∧ s.replies = [] ∧
    s.repo = .new setup.clusterId ∧ s.merges = []
  step := fun s lbl s' =>
    match lbl with
    | .agent n l =>
        isPostReturn l = false ∧
        ∃ a, (Process.system setup.quote (setup.config n)).step (s.agents n) l a ∧
          s' = { s with agents := Function.update s.agents n a }
    | .send n =>
        ∃ b body, (s.agents n).delivery.sender.inFlight = some b ∧ s.awaiting n = none ∧
          marshal b = .ok body ∧
          s' = { s with
            requests := s.requests ++ [(n, ⟨b, body⟩)]
            awaiting := Function.update s.awaiting n (some s.requests.length) }
    | .handle i =>
        ∃ req, s.requests[i]? = some req ∧
          s' = s.handled i req (ingestRoute s.repo req.2.body).2.status
    | .handleThenFail i => ∃ req, s.requests[i]? = some req ∧ s' = s.handled i req 500
    | .fail i status =>
        ∃ req, s.requests[i]? = some req ∧ status ≠ 200 ∧ status ≠ 202 ∧
          s' = { s with replies := s.replies ++ [⟨i, status⟩] }
    | .receive n status =>
        ∃ i a, s.awaiting n = some i ∧ ⟨i, status⟩ ∈ s.replies ∧
          PostReturns (setup.config n) (s.agents n) (Wire.classify status) a ∧
          s' = { s with
            agents := Function.update s.agents n a
            awaiting := Function.update s.awaiting n none }
    | .doError n =>
        ∃ a, PostReturns (setup.config n) (s.agents n) .retryable a ∧
          s' = { s with
            agents := Function.update s.agents n a
            awaiting := Function.update s.awaiting n none }
    | .buildError n =>
        ∃ a, s.awaiting n = none ∧
          PostReturns (setup.config n) (s.agents n) .permanent a ∧
          s' = { s with agents := Function.update s.agents n a }

/-! ### An agent inside the composition -/

/-- The return of `post` is a step of the agent. -/
theorem PostReturns.step {quote : String → String} {cfg : Process.Config} {a a' : Process.State}
    {out : Outcome} (h : PostReturns cfg a out a') :
    ∃ l, (Process.system quote cfg).step a l a' := by
  obtain ⟨d, hd, rfl⟩ := h
  rcases hd with hd | hd
  · exact ⟨.delivery (.postReturn out), d, rfl, hd, rfl⟩
  · exact ⟨.delivery (.drainPostReturn out), d, rfl, hd, rfl⟩

section agents
variable [DecidableEq Node] {setup : Setup Node} {s s' : State Node} {l : Label Node}

/-- What every step keeps of one agent, given that its own steps keep it. -/
theorem update_agents {p : Process.State → Prop} {agents : Node → Process.State} {m : Node}
    {a : Process.State} (n : Node) (h : p (agents n)) (ha : n = m → p a) :
    p (Function.update agents m a n) := by
  by_cases hn : n = m
  · subst hn
    rw [Function.update_self]
    exact ha rfl
  · rw [Function.update_of_ne hn]
    exact h

/-- **Each agent** of the cluster runs as `run` does. -/
theorem reachable_agent (h : Reachable (system setup) s) (n : Node) :
    Reachable (Process.system setup.quote (setup.config n)) (s.agents n) := by
  refine System.invariant (fun s =>
    Reachable (Process.system setup.quote (setup.config n)) (s.agents n)) ?_ ?_ s h
  · intro s hs
    exact .init (hs.1 n)
  · intro s l s' hinv hstep
    have hpost : ∀ {m : Node} {out : Outcome} {a : Process.State},
        PostReturns (setup.config m) (s.agents m) out a → n = m →
        Reachable (Process.system setup.quote (setup.config n)) a := by
      intro m out a ha hn
      subst hn
      obtain ⟨l, hl⟩ := ha.step
      exact hinv.step hl
    simp only [system] at hstep
    cases l with
    | agent m l =>
      obtain ⟨-, a, ha, rfl⟩ := hstep
      refine update_agents n hinv ?_
      intro hn
      subst hn
      exact hinv.step ha
    | receive m status =>
      obtain ⟨_, a, -, -, ha, rfl⟩ := hstep
      exact update_agents n hinv (hpost ha)
    | doError m => obtain ⟨a, ha, rfl⟩ := hstep; exact update_agents n hinv (hpost ha)
    | buildError m => obtain ⟨a, -, ha, rfl⟩ := hstep; exact update_agents n hinv (hpost ha)
    | _ =>
      have hsame : s'.agents = s.agents := by grind [State.handled]
      rw [hsame]
      exact hinv

/-! ### What the protocol sees of an agent -/

/-- What leaves the delivery client alone is no move. -/
theorem moves_of_same {a a' : Process.State} (h : a'.delivery = a.delivery) :
    (sender a.delivery).Moves (sender a'.delivery) := by
  rw [h]
  exact ⟨List.prefix_rfl, fun _ h => h, fun _ h => h, fun _ h => .inl h⟩

/-- A step of an agent other than the return of `post` is a move of the sender. -/
theorem moves_of_step {quote : String → String} {cfg : Process.Config} {a a' : Process.State}
    {l : Process.Label} (hstep : (Process.system quote cfg).step a l a')
    (hl : isPostReturn l = false) : (sender a.delivery).Moves (sender a'.delivery) := by
  -- the labels under which the rest of the process drives the delivery client
  have hdriven : ∀ (k : Delivery.Label),
      (Delivery.system cfg.maxPendingBatches Process.drainTimeout).step a.delivery k a'.delivery →
      k.isPostReturn = false → (sender a.delivery).Moves (sender a'.delivery) := fun k hk hpost =>
    EndToEnd.moves_of_step hk hpost
  simp only [Process.system] at hstep
  cases l with
  | signal => subst hstep; exact hdriven .cancel rfl rfl
  | stop => obtain ⟨-, rfl⟩ := hstep; exact hdriven .cancel rfl rfl
  | enqueue =>
    obtain ⟨batch, final, d, -, hd | hd, rfl⟩ := hstep
    · exact hdriven _ hd rfl
    · exact hdriven _ hd rfl
  | delivery k => obtain ⟨d, -, hd, rfl⟩ := hstep; exact hdriven k hd hl
  | flush now ulid =>
    obtain ⟨final, -, rfl⟩ := hstep
    refine moves_of_same ?_
    unfold Process.State.flushed
    split <;> rfl
  | _ => exact moves_of_same (by grind)

/-- The return of `post` concludes the sending, with success only on 200 and 202. -/
theorem concludes_of_postReturns {cfg : Process.Config} {a a' : Process.State} {out : Outcome}
    {success : Bool} (h : PostReturns cfg a out a')
    (hout : out = .accepted ∨ out = .duplicate → success = true) :
    (sender a.delivery).Concludes success (sender a'.delivery) := by
  obtain ⟨d, hd, rfl⟩ := h
  exact EndToEnd.concludes_of_postReturns hd hout

end agents

/-! ### The store -/

/-- The merges, without who sent them. -/
def State.merged (s : State Node) : List (Agent.IngestBatch × Backend.IngestBatch) :=
  s.merges.map (fun m => (m.sent, m.stored))

/-- The requests, without who sent them. -/
def State.sent (s : State Node) : List Request := s.requests.map Prod.snd

variable {s s' : State Node}

theorem mem_sent {i : Nat} {req : Node × Request} (h : s.requests[i]? = some req) : req.2 ∈ s.sent :=
  List.mem_map_of_mem (List.mem_of_getElem? h)

section runs
variable [DecidableEq Node] {setup : Setup Node} {l : Label Node}

/-- **The store of every run** is made of merges of what was sent. -/
theorem stored_of_reachable (h : Reachable (system setup) s) :
    Stored setup.clusterId s.repo s.merged s.sent := by
  refine System.invariant (fun s => Stored setup.clusterId s.repo s.merged s.sent) ?_ ?_ s h
  · rintro s ⟨-, hrequests, -, -, hrepo, hmerges⟩
    simp only [State.merged, State.sent, hrequests, hrepo, hmerges]
    exact ⟨rfl, by simp, by simp⟩
  · intro s l s' hinv hstep
    have hhandled : ∀ {i : Nat} {req : Node × Request} (status : Nat), s.requests[i]? = some req →
        Stored setup.clusterId (s.handled i req status).repo (s.handled i req status).merged s.sent := by
      intro i req status hreq
      have hmerged : (s.handled i req status).merged = s.merged ++ applied s.repo req.2 := by
        simp [State.merged, State.handled, Function.comp_def]
      rw [hmerged]
      exact hinv.handled (mem_sent hreq)
    simp only [system] at hstep
    cases l with
    | send n =>
      obtain ⟨b, body, -, -, hbody, rfl⟩ := hstep
      have hsent : Stored setup.clusterId s.repo s.merged (s.sent ++ [⟨b, body⟩]) := hinv.send hbody
      simpa [State.sent, State.merged] using hsent
    | handle i => obtain ⟨req, hreq, rfl⟩ := hstep; exact hhandled _ hreq
    | handleThenFail i => obtain ⟨req, hreq, rfl⟩ := hstep; exact hhandled _ hreq
    | agent n l => obtain ⟨-, a, -, rfl⟩ := hstep; exact hinv
    | fail i status => obtain ⟨_, -, -, -, rfl⟩ := hstep; exact hinv
    | receive n status => obtain ⟨_, a, -, -, -, rfl⟩ := hstep; exact hinv
    | doError n => obtain ⟨a, -, rfl⟩ := hstep; exact hinv
    | buildError n => obtain ⟨a, -, -, rfl⟩ := hstep; exact hinv

end runs

/-! ### The protocol -/

/-- The cluster as the protocol sees it. -/
def State.protocol (s : State Node) : Redelivery.State Node Agent.IngestBatch where
  senders := fun n => sender (s.agents n).delivery
  requests := s.requests.map (fun r => (r.1, r.2.batch))
  awaiting := s.awaiting
  replies := s.replies.map (fun r => (r.request, isSuccess r.status))
  taken := s.merges.map (fun m => (m.node, m.sent))

theorem protocol_update_agents [DecidableEq Node] (s : State Node) (n : Node) (a : Process.State) :
    (fun m => sender (Function.update s.agents n a m).delivery) =
      Function.update s.protocol.senders n (sender a.delivery) :=
  Function.comp_update (fun a : Process.State => sender a.delivery) s.agents n a

theorem request_protocol {i : Nat} {req : Node × Request} (hreq : s.requests[i]? = some req) :
    s.protocol.requests[i]? = some (req.1, req.2.batch) := by
  show (s.requests.map _)[i]? = _
  rw [List.getElem?_map, hreq]
  rfl

/-- Handling a request takes its batch if the gate does not know its id. -/
theorem protocol_handled [DecidableEq Node] {clusterId : String}
    (h : Stored clusterId s.repo s.merged s.sent) {i : Nat} {req : Node × Request} {status : Nat}
    (hreq : s.requests[i]? = some req)
    (hstatus : isSuccess status = true → isSuccess (ingestRoute s.repo req.2.body).2.status = true) :
    (Redelivery.system Agent.IngestBatch.batchID).step s.protocol
      (.handle i (takes s.repo req.2) (isSuccess status)) (s.handled i req status).protocol := by
  obtain ⟨hfresh, hsuccess⟩ := h.handle_spec (mem_sent hreq)
  have hids : s.protocol.taken.map (fun t => t.2.batchID) =
      s.merged.map (fun m => m.1.batchID) := by
    simp [State.protocol, State.merged]
  refine ⟨(req.1, req.2.batch), request_protocol hreq, ?_, ?_, ?_⟩
  · rw [hids]
    exact hfresh
  · rw [hids]
    exact fun h => hsuccess (hstatus h)
  · simp [State.protocol, State.handled, Function.comp_def,
      EndToEnd.applied_map (fun b => (req.1, b))]

section simulation
variable [DecidableEq Node] {setup : Setup Node}

/-- **Simulation**: every step of the cluster is a step of the protocol. -/
theorem protocol_step {l : Label Node} (hreach : Reachable (system setup) s)
    (hstep : (system setup).step s l s') :
    ∃ k, (Redelivery.system Agent.IngestBatch.batchID).step s.protocol k s'.protocol := by
  have hstored := stored_of_reachable hreach
  -- an agent that stops waiting for its response
  have hstop : ∀ {n : Node} {a : Process.State},
      State.protocol { s with
        agents := Function.update s.agents n a
        awaiting := Function.update s.awaiting n none } =
      { s.protocol with
        senders := Function.update s.protocol.senders n (sender a.delivery)
        awaiting := Function.update s.protocol.awaiting n none } := by
    intro n a
    unfold State.protocol
    simp only [protocol_update_agents]
    rfl
  simp only [system] at hstep
  cases l with
  | agent n l =>
    obtain ⟨hl, a, ha, rfl⟩ := hstep
    refine ⟨.move n, sender a.delivery, moves_of_step ha hl, ?_⟩
    unfold State.protocol
    simp only [protocol_update_agents]
    rfl
  | send n =>
    obtain ⟨b, body, hb, -, -, rfl⟩ := hstep
    refine ⟨.send n, b, hb, ?_, ?_⟩
    · have hdelivery := Process.reachable_delivery (reachable_agent hreach n)
      exact Delivery.held_enqueued hdelivery b (Delivery.held_of_inFlight hb)
    · simp [State.protocol]
  | handle i =>
    obtain ⟨req, hreq, rfl⟩ := hstep
    exact ⟨_, protocol_handled hstored hreq (fun h => h)⟩
  | handleThenFail i =>
    obtain ⟨req, hreq, rfl⟩ := hstep
    exact ⟨_, protocol_handled hstored hreq (fun h => absurd h (by decide))⟩
  | fail i status =>
    obtain ⟨req, hreq, h200, h202, rfl⟩ := hstep
    have hfailure : isSuccess status = false := by simp [isSuccess, h200, h202]
    refine ⟨.handle i false false, (req.1, req.2.batch), request_protocol hreq, by simp, by simp, ?_⟩
    simp [State.protocol, hfailure]
  | receive n status =>
    obtain ⟨i, a, hi, hreply, ha, rfl⟩ := hstep
    refine ⟨.conclude n i (isSuccess status), sender a.delivery, hi, ?_, ?_, hstop⟩
    · exact List.mem_map.mpr ⟨_, hreply, rfl⟩
    · exact concludes_of_postReturns ha EndToEnd.isSuccess_of_classify
  | doError n =>
    obtain ⟨a, ha, rfl⟩ := hstep
    exact ⟨.giveUp n, sender a.delivery, concludes_of_postReturns ha (by simp), hstop⟩
  | buildError n =>
    obtain ⟨a, hnone, ha, rfl⟩ := hstep
    refine ⟨.giveUp n, sender a.delivery, concludes_of_postReturns ha (by simp), ?_⟩
    rw [← hstop]
    -- nothing was awaited
    rw [show Function.update s.awaiting n none = s.awaiting from by
      rw [← hnone]; exact Function.update_eq_self n s.awaiting]

theorem reachable_protocol (h : Reachable (system setup) s) :
    Reachable (Redelivery.system Agent.IngestBatch.batchID) s.protocol := by
  refine Reachable.simulate State.protocol ?_ (fun s l s' hreach hstep =>
    .inl (protocol_step hreach hstep)) h
  rintro s ⟨hagents, hrequests, hawaiting, hreplies, -, hmerges⟩
  have hsenders : (fun n => sender (s.agents n).delivery) = fun _ => {} := by
    funext n
    rw [hagents n]
    rfl
  show s.protocol = {}
  unfold State.protocol
  rw [hsenders, hrequests, hreplies, hmerges, funext hawaiting]
  rfl

end simulation

end TopologyVisualizer.Cluster
