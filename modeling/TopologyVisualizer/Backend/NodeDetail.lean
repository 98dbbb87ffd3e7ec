import TopologyVisualizer.Backend.Graph

/-! # Node Detail

    `node_detail` of `app/domain/graph.py`: the dependencies of one node
    within a window, incoming and outgoing.

    The loop files an edge by its source first, so an edge from the node to
    itself is outgoing and nothing else. The two lists are the edges of the
    node split in two (`incomingEdges`, `outgoingEdges`), each put in order
    of the peer and the port.
-/

namespace TopologyVisualizer.Backend

/-! ### Response models -/

/-- `NodeDependency`. -/
structure NodeDependency where
  nodeId : String
  label : String
  protocol : Protocol
  destinationPort : Nat
  connectionCount : Nat
  failedConnectionCount : Option Nat
  connectLatencyCount : Nat
  connectLatencySumUs : Nat
  bytesTotal : Option Nat
  firstSeen : Datetime
  lastSeen : Datetime
  deriving DecidableEq

/-- `NodeDetail`. -/
structure NodeDetail where
  node : GraphNode
  window : ResolvedWindow
  incoming : List NodeDependency
  outgoing : List NodeDependency
  deriving DecidableEq

/-! ### Assembly -/

/-- `_dependency`. -/
def dependency (edge : EdgeAggregate) (peerId : String) (peer : Option StoredNode) :
    NodeDependency where
  nodeId := peerId
  label := match peer with
    | some peer => peer.label
    | none => peerId
  protocol := edge.key.protocol
  destinationPort := edge.key.destinationPort
  connectionCount := edge.connectionCount
  failedConnectionCount := edge.failedConnectionCount
  connectLatencyCount := edge.connectLatencyCount
  connectLatencySumUs := edge.connectLatencySumUs
  bytesTotal := if edge.bytesSent.isSome || edge.bytesReceived.isSome then
      some (edge.bytesSent.getD 0 + edge.bytesReceived.getD 0)
    else none
  firstSeen := edge.firstSeen
  lastSeen := edge.lastSeen

/-- The key both lists are sorted by. -/
def NodeDependency.sortKey (d : NodeDependency) : String ×ₗ Nat :=
  toLex (d.nodeId, d.destinationPort)

/-- One pass of the loop over the edges. -/
def fileEdge (nodeId : String) (nodes : List (String × StoredNode))
    (lists : List NodeDependency × List NodeDependency) (edge : EdgeAggregate) :
    List NodeDependency × List NodeDependency :=
  if edge.key.sourceId = nodeId then
    (lists.1, lists.2 ++ [dependency edge edge.key.targetId (nodes.lookup edge.key.targetId)])
  else if edge.key.targetId = nodeId then
    (lists.1 ++ [dependency edge edge.key.sourceId (nodes.lookup edge.key.sourceId)], lists.2)
  else lists

/-- `node_detail`. -/
def nodeDetail (nodeId : String) (edges : List EdgeAggregate) (nodes : List (String × StoredNode))
    (window : ResolvedWindow) (canaries : CanarySet) : Option NodeDetail :=
  match nodes.lookup nodeId with
  | none => none
  | some stored =>
    let lists := edges.foldl (fileEdge nodeId nodes) ([], [])
    some
      { node := toNode canaries stored
        window := window
        incoming := sortOn NodeDependency.sortKey lists.1
        outgoing := sortOn NodeDependency.sortKey lists.2 }

/-! ### The edges behind the lists -/

section lists
variable (nodeId : String) (nodes : List (String × StoredNode)) (edges : List EdgeAggregate)

/-- An incoming edge, seen from the node. -/
def incomingDependency (edge : EdgeAggregate) : NodeDependency :=
  dependency edge edge.key.sourceId (nodes.lookup edge.key.sourceId)

/-- An outgoing edge, seen from the node. -/
def outgoingDependency (edge : EdgeAggregate) : NodeDependency :=
  dependency edge edge.key.targetId (nodes.lookup edge.key.targetId)

/-- The edges that start or end at the node. -/
def incidentEdges : List EdgeAggregate :=
  edges.filter (fun e => e.key.sourceId = nodeId ∨ e.key.targetId = nodeId)

/-- The edges from another node, by peer and port. -/
def incomingEdges : List EdgeAggregate :=
  sortOn (fun e => (incomingDependency nodes e).sortKey)
    (edges.filter (fun e => e.key.sourceId ≠ nodeId ∧ e.key.targetId = nodeId))

/-- The edges from the node, by peer and port. -/
def outgoingEdges : List EdgeAggregate :=
  sortOn (fun e => (outgoingDependency nodes e).sortKey)
    (edges.filter (fun e => e.key.sourceId = nodeId))

/-- The loop: each edge is seen from the node, on its side. -/
theorem foldl_fileEdge (lists : List NodeDependency × List NodeDependency) :
    edges.foldl (fileEdge nodeId nodes) lists =
      (lists.1 ++ (edges.filter (fun e => e.key.sourceId ≠ nodeId ∧ e.key.targetId = nodeId)).map
        (incomingDependency nodes),
      lists.2 ++ (edges.filter (fun e => e.key.sourceId = nodeId)).map
        (outgoingDependency nodes)) := by
  induction edges generalizing lists with
  | nil => simp
  | cons e es ih =>
    rw [List.foldl_cons, ih]
    unfold fileEdge
    by_cases hs : e.key.sourceId = nodeId
    · simp [hs, outgoingDependency]
    · by_cases ht : e.key.targetId = nodeId
      · simp [hs, ht, incomingDependency]
      · simp [hs, ht]

theorem nodeDetail_eq {stored : StoredNode} (hstored : nodes.lookup nodeId = some stored)
    (window : ResolvedWindow) (canaries : CanarySet) :
    nodeDetail nodeId edges nodes window canaries = some
      { node := toNode canaries stored
        window := window
        incoming := (incomingEdges nodeId nodes edges).map (incomingDependency nodes)
        outgoing := (outgoingEdges nodeId nodes edges).map (outgoingDependency nodes) } := by
  unfold nodeDetail incomingEdges outgoingEdges
  rw [hstored, foldl_fileEdge]
  simp only [List.nil_append, sortOn_map]

/-- **Both lists**: they are the edges of the node, split in two. -/
theorem incoming_append_outgoing_perm :
    (incomingEdges nodeId nodes edges ++ outgoingEdges nodeId nodes edges).Perm
      (incidentEdges nodeId edges) := by
  refine ((sortOn_perm _ _).append (sortOn_perm _ _)).trans ?_
  unfold incidentEdges
  have hsplit := List.filter_append_perm (fun e => decide (e.key.sourceId ≠ nodeId))
    (edges.filter (fun e => e.key.sourceId = nodeId ∨ e.key.targetId = nodeId))
  rw [List.filter_filter, List.filter_filter] at hsplit
  refine List.Perm.trans (List.Perm.of_eq ?_) hsplit
  congr 1
  · apply List.filter_congr
    intro e _
    by_cases hs : e.key.sourceId = nodeId <;> simp [hs]
  · apply List.filter_congr
    intro e _
    by_cases hs : e.key.sourceId = nodeId <;> simp [hs]

variable {nodeId nodes edges}

theorem mem_incomingEdges {e : EdgeAggregate} : e ∈ incomingEdges nodeId nodes edges ↔
    e ∈ edges ∧ e.key.sourceId ≠ nodeId ∧ e.key.targetId = nodeId := by
  unfold incomingEdges
  rw [mem_sortOn, List.mem_filter, decide_eq_true_eq]

theorem mem_outgoingEdges {e : EdgeAggregate} : e ∈ outgoingEdges nodeId nodes edges ↔
    e ∈ edges ∧ e.key.sourceId = nodeId := by
  unfold outgoingEdges
  rw [mem_sortOn, List.mem_filter, decide_eq_true_eq]

/-- Edges at one end of the node with one peer and one port are the same edge. -/
theorem eq_of_peer_eq (hkeys : (edges.map EdgeAggregate.key).Nodup) {a b : EdgeAggregate}
    (ha : a ∈ edges) (hb : b ∈ edges) (hsource : a.key.sourceId = b.key.sourceId)
    (htarget : a.key.targetId = b.key.targetId)
    (hport : a.key.destinationPort = b.key.destinationPort) : a = b := by
  apply List.inj_on_of_nodup_map hkeys ha hb
  have hprotocol : a.key.protocol = b.key.protocol := by
    cases a.key.protocol
    cases b.key.protocol
    rfl
  cases hka : a.key
  cases hkb : b.key
  simp_all

/-- Edges on one side of the node are in strict order, if peer and port tell them apart. -/
theorem filed_strict (hkeys : (edges.map EdgeAggregate.key).Nodup) {side : EdgeAggregate → Prop}
    [DecidablePred side] {seen : EdgeAggregate → NodeDependency}
    (hpeers : ∀ a ∈ edges, ∀ b ∈ edges, side a → side b → (seen a).nodeId = (seen b).nodeId →
      (seen a).destinationPort = (seen b).destinationPort → a = b) :
    (((sortOn (fun e => (seen e).sortKey) (edges.filter (fun e => side e))).map seen).map
      NodeDependency.sortKey).Pairwise (· < ·) := by
  rw [List.map_map]
  apply sortOn_strict
  refine List.Nodup.map_on ?_ ((List.Nodup.of_map _ hkeys).filter _)
  intro a ha b hb h
  rw [List.mem_filter, decide_eq_true_eq] at ha hb
  obtain ⟨hpeer, hport⟩ := Prod.mk.inj (toLex_inj.mp h)
  exact hpeers a ha.1 b hb.1 ha.2 hb.2 hpeer hport

theorem incoming_strict (hkeys : (edges.map EdgeAggregate.key).Nodup) :
    (((incomingEdges nodeId nodes edges).map (incomingDependency nodes)).map
      NodeDependency.sortKey).Pairwise (· < ·) := by
  apply filed_strict hkeys
  intro a ha b hb hside hside' hpeer hport
  exact eq_of_peer_eq hkeys ha hb hpeer (hside.2.trans hside'.2.symm) hport

theorem outgoing_strict (hkeys : (edges.map EdgeAggregate.key).Nodup) :
    (((outgoingEdges nodeId nodes edges).map (outgoingDependency nodes)).map
      NodeDependency.sortKey).Pairwise (· < ·) := by
  apply filed_strict hkeys
  intro a ha b hb hside hside' hpeer hport
  exact eq_of_peer_eq hkeys ha hb (hside.trans hside'.symm) hpeer hport

end lists

end TopologyVisualizer.Backend
