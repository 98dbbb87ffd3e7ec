import TopologyVisualizer.Framework.Timestamp
import TopologyVisualizer.Backend.NodeDetail
import TopologyVisualizer.Frontend.Grouping

/-! # Details of a Node

    The totals of `DetailsPanel.tsx`, which adds up the two lists of a node's
    detail, against the focus view, which keeps the edges of the node
    (`focusTopology`). The API serves both from one list of edges.

    An edge is behind one entry of the two lists exactly when it is incident
    to the node, so the totals agree (`node_detail_agrees`). Counts are added
    as natural numbers: a number of JavaScript adds them exactly as long as
    no total exceeds 2^53 (2^53, 1 and 1 add up to 2^53 there).
-/

namespace TopologyVisualizer.Frontend

open Backend

/-- An edge as the browser gets it. -/
def Edge.ofApi (e : GraphEdge) : Edge where
  id := e.id
  sourceId := e.sourceId
  targetId := e.targetId
  protocol := e.protocol
  destinationPort := e.destinationPort
  connectionCount := e.connectionCount
  failedConnectionCount := e.failedConnectionCount
  connectLatencyCount := some e.connectLatencyCount
  connectLatencySumUs := some e.connectLatencySumUs
  bytesSent := e.bytesSent
  bytesReceived := e.bytesReceived
  firstSeen := Text.timestamp e.firstSeen
  lastSeen := Text.timestamp e.lastSeen

/-! ### Totals -/

/-- Links, and connections that succeeded and failed. -/
structure Totals where
  links : Nat
  successful : Nat
  failed : Nat
  deriving DecidableEq

/-- `touching.length`, `totalSuccessful` and `totalFailed` of `DetailsPanel`. -/
def panelTotals (detail : Option NodeDetail) : Totals :=
  let touching := (detail.map NodeDetail.incoming).getD [] ++
    (detail.map NodeDetail.outgoing).getD []
  { links := touching.length
    successful := touching.foldl (fun sum d => sum + d.connectionCount) 0
    failed := touching.foldl (fun sum d => sum + d.failedConnectionCount.getD 0) 0 }

/-- What edges add up to. -/
def edgeTotals (edges : List Edge) : Totals where
  links := edges.length
  successful := (edges.map Edge.connectionCount).sum
  failed := (edges.map (fun e => e.failedConnectionCount.getD 0)).sum

/-- The edges that are drawn when a node is in focus, of those the API serves. -/
theorem focusTopology_edges (nodes : List GraphNode) (edges : List EdgeAggregate) (nodeId : String) :
    (focusTopology nodes (edges.map (fun e => Edge.ofApi (toEdge e))) nodeId).2 =
      (incidentEdges nodeId edges).map (fun e => Edge.ofApi (toEdge e)) := by
  unfold focusTopology incidentEdges
  rw [List.filter_map]
  rfl

/-- The panel adds up the edges behind the two lists. -/
theorem panelTotals_eq {detail : NodeDetail} {nodes : List (String × StoredNode)}
    {incoming outgoing : List EdgeAggregate}
    (hincoming : detail.incoming = incoming.map (incomingDependency nodes))
    (houtgoing : detail.outgoing = outgoing.map (outgoingDependency nodes)) :
    panelTotals (some detail) =
      edgeTotals ((incoming ++ outgoing).map (fun e => Edge.ofApi (toEdge e))) := by
  have hadd : ∀ f : NodeDependency → Nat, ∀ l : List NodeDependency,
      l.foldl (fun sum d => sum + f d) 0 = (l.map f).sum := by
    intro f l
    rw [List.sum_eq_foldl, List.foldl_map]
  unfold panelTotals edgeTotals
  simp only [Option.map_some, Option.getD_some, hadd, hincoming, houtgoing, List.map_append,
    List.map_map, List.sum_append, List.length_append, List.length_map]
  rfl

theorem edgeTotals_perm {l l' : List Edge} (h : l.Perm l') : edgeTotals l = edgeTotals l' := by
  unfold edgeTotals
  rw [h.length_eq, (h.map _).sum_eq, (h.map _).sum_eq]

/-- **Detail and focus agree.** The entries of a node's detail are its incident edges, each once:
    an edge from the node, also to itself, is outgoing, any other is incoming. The panel's totals
    are those of the edges in focus, as natural numbers, and each list is in order of peer and
    port. -/
theorem node_detail_agrees (nodeId : String) (edges : List EdgeAggregate)
    (hkeys : (edges.map EdgeAggregate.key).Nodup) (nodes : List (String × StoredNode))
    (stored : StoredNode) (hstored : nodes.lookup nodeId = some stored) (window : ResolvedWindow)
    (canaries : CanarySet) (drawn : List GraphNode) :
    ∃ (detail : NodeDetail) (incoming outgoing : List EdgeAggregate),
      nodeDetail nodeId edges nodes window canaries = some detail ∧
      detail.incoming = incoming.map (incomingDependency nodes) ∧
      detail.outgoing = outgoing.map (outgoingDependency nodes) ∧
      (incoming ++ outgoing).Perm (incidentEdges nodeId edges) ∧ (incoming ++ outgoing).Nodup ∧
      (∀ e ∈ incoming, e.key.sourceId ≠ nodeId) ∧ (∀ e ∈ outgoing, e.key.sourceId = nodeId) ∧
      panelTotals (some detail) = edgeTotals
        (focusTopology drawn (edges.map (fun e => Edge.ofApi (toEdge e))) nodeId).2 ∧
      (detail.incoming.map NodeDependency.sortKey).Pairwise (· < ·) ∧
      (detail.outgoing.map NodeDependency.sortKey).Pairwise (· < ·) := by
  have hperm := incoming_append_outgoing_perm nodeId nodes edges
  have hnodup : (incidentEdges nodeId edges).Nodup := (List.Nodup.of_map _ hkeys).filter _
  refine ⟨_, incomingEdges nodeId nodes edges, outgoingEdges nodeId nodes edges,
    nodeDetail_eq nodeId nodes edges hstored window canaries, rfl, rfl, hperm,
    hperm.nodup_iff.mpr hnodup, fun e he => (mem_incomingEdges.mp he).2.1,
    fun e he => (mem_outgoingEdges.mp he).2, ?_, incoming_strict hkeys, outgoing_strict hkeys⟩
  rw [panelTotals_eq rfl rfl, focusTopology_edges]
  exact edgeTotals_perm (hperm.map _)

/-- Replicas that talk to each other on two ports, and with another workload both ways. -/
def replicaEdges : List EdgeAggregate :=
  let edge (source target : String) (port count : Nat) (failed : Option Nat) : EdgeAggregate :=
    { key := ⟨source, target, .tcp, port⟩, connectionCount := count, firstSeen := 0, lastSeen := 0,
      failedConnectionCount := failed, connectLatencyCount := 0, connectLatencySumUs := 0,
      bytesSent := none, bytesReceived := none }
  [edge "a" "a" 80 1 none, edge "a" "a" 81 2 (some 1), edge "a" "b" 80 4 none,
    edge "b" "a" 80 8 (some 0), edge "b" "b" 80 16 (some 2)]

/-- Each edge of the replicas is counted once. -/
theorem node_detail_agrees_replicas :
    ∃ detail, nodeDetail "a" replicaEdges [("a", ⟨"a", "", .deployment, none, "a", "a", 0, 0⟩)]
        ⟨0, 1⟩ ⟨[]⟩ = some detail ∧
      panelTotals (some detail) = { links := 4, successful := 15, failed := 1 } := by
  obtain ⟨detail, _, _, hdetail, _, _, _, _, _, _, htotals, _⟩ :=
    node_detail_agrees "a" replicaEdges (by decide)
      [("a", ⟨"a", "", .deployment, none, "a", "a", 0, 0⟩)] _ rfl ⟨0, 1⟩ ⟨[]⟩ []
  exact ⟨detail, hdetail, htotals.trans rfl⟩

end TopologyVisualizer.Frontend
