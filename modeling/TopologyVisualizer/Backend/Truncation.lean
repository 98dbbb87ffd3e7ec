import TopologyVisualizer.Backend.Graph

/-! # The Caps of a Response

    `assemble` and `_truncate` of `app/domain/graph.py`, seen from outside:
    of the prefixes of the edges, a response keeps the longest one within
    both caps (`Longest`). Everything else follows from that: what is cut,
    which nodes appear, and that a higher cap never shows less.
-/

namespace TopologyVisualizer.Backend

/-! ### Prefixes within the caps -/

/-- The first `n` edges are within both caps. -/
structure Fits (maxNodes maxEdges : Nat) (edges : List EdgeAggregate) (n : Nat) : Prop where
  listed : n ≤ edges.length
  withinEdges : n ≤ maxEdges
  withinNodes : (endpoints (edges.take n)).toFinset.card ≤ maxNodes

/-- They are, and one more edge would not be. -/
structure Longest (maxNodes maxEdges : Nat) (edges : List EdgeAggregate) (n : Nat) : Prop
    extends Fits maxNodes maxEdges edges n where
  next : n < edges.length →
    maxEdges < n + 1 ∨ maxNodes < (endpoints (edges.take (n + 1))).toFinset.card

variable {maxNodes maxEdges maxNodes' maxEdges' n n' : Nat} {edges : List EdgeAggregate}

theorem endpoints_take_subset (edges : List EdgeAggregate) (h : n ≤ n') :
    endpoints (edges.take n) ⊆ endpoints (edges.take n') := by
  intro nid hnid
  obtain ⟨e, he, hend⟩ := mem_endpoints.mp hnid
  exact mem_endpoints.mpr ⟨e, (List.take_subset_take_left edges h) he, hend⟩

/-- More edges have no fewer endpoints. -/
theorem card_endpoints_mono (edges : List EdgeAggregate) (h : n ≤ n') :
    (endpoints (edges.take n)).toFinset.card ≤ (endpoints (edges.take n')).toFinset.card := by
  apply Finset.card_le_card
  intro nid hnid
  rw [List.mem_toFinset] at hnid ⊢
  exact endpoints_take_subset edges h hnid

/-- A longest prefix is at least as long as any within lower caps. -/
theorem Longest.le (h : Longest maxNodes' maxEdges' edges n')
    (hfits : Fits maxNodes maxEdges edges n) (hnodes : maxNodes ≤ maxNodes')
    (hedges : maxEdges ≤ maxEdges') : n ≤ n' := by
  by_contra hlt
  have hn : n' + 1 ≤ n := by omega
  have hlength := hfits.listed
  have hwithin := hfits.withinEdges
  rcases h.next (by omega) with hover | hover
  · omega
  · have hcard := card_endpoints_mono edges hn
    have hcap := hfits.withinNodes
    omega

/-! ### What `_truncate` keeps -/

theorem length_truncate (maxNodes maxEdges : Nat) (edges : List EdgeAggregate) :
    (truncate maxNodes maxEdges edges).1.length =
      min (min (nodeCut maxNodes [] (edges.take maxEdges)) maxEdges) edges.length := by
  rw [truncate_fst, List.length_take]

theorem truncate_eq_take (maxNodes maxEdges : Nat) (edges : List EdgeAggregate) :
    (truncate maxNodes maxEdges edges).1 =
      edges.take (truncate maxNodes maxEdges edges).1.length := by
  rw [length_truncate, ← List.take_eq_take_min, ← truncate_fst]

/-- **The caps**: `_truncate` keeps the longest prefix within both. -/
theorem longest_truncate (maxNodes maxEdges : Nat) (edges : List EdgeAggregate) :
    Longest maxNodes maxEdges edges (truncate maxNodes maxEdges edges).1.length where
  listed := by
    rw [length_truncate]
    omega
  withinEdges := by
    rw [length_truncate]
    omega
  withinNodes := by
    rw [← truncate_eq_take]
    exact card_endpoints_truncate maxNodes maxEdges edges
  next := by
    intro hlt
    rw [length_truncate] at hlt ⊢
    by_cases hcap : maxEdges ≤ nodeCut maxNodes [] (edges.take maxEdges)
    · exact .inl (by omega)
    · -- the node loop stopped at this edge
      have hn : min (min (nodeCut maxNodes [] (edges.take maxEdges)) maxEdges) edges.length =
          nodeCut maxNodes [] (edges.take maxEdges) := by omega
      have hi : nodeCut maxNodes [] (edges.take maxEdges) < (edges.take maxEdges).length := by
        rw [List.length_take]
        omega
      have hstop := (lt_nodeCut_iff List.nodup_nil hi).not.mp
        (Nat.lt_irrefl (nodeCut maxNodes [] (edges.take maxEdges)))
      rw [List.nil_append, List.take_take, min_eq_left (by omega)] at hstop
      rw [hn]
      exact .inr (by omega)

/-- A reason is given exactly when an edge is dropped. -/
theorem isSome_truncate_snd (maxNodes maxEdges : Nat) (edges : List EdgeAggregate) :
    (truncate maxNodes maxEdges edges).2.isSome = true ↔
      (truncate maxNodes maxEdges edges).1.length < edges.length := by
  rw [length_truncate]
  have hcut := nodeCut_le maxNodes [] (edges.take maxEdges)
  rw [List.length_take] at hcut
  unfold truncate
  simp only [List.length_take]
  by_cases hnodes : nodeCut maxNodes [] (edges.take maxEdges) < min maxEdges edges.length
  · rw [if_pos hnodes]
    simp only [Option.isSome_some, true_iff]
    omega
  · rw [if_neg hnodes]
    by_cases hedges : edges.length > maxEdges
    · rw [if_pos hedges]
      simp only [Option.isSome_some, true_iff]
      omega
    · rw [if_neg hedges]
      simp only [Option.isSome_none, Bool.false_eq_true, false_iff]
      omega

/-! ### The nodes of a response -/

section nodes
variable {nodes : List (String × StoredNode)} {canaries : CanarySet}

/-- Looking up ids that are all known, the nodes found have these ids. -/
theorem map_id_filterMap {ids : List String}
    (hnodes : ∀ nid ∈ ids, ∃ n, nodes.lookup nid = some n ∧ n.id = nid) :
    (ids.filterMap (fun nid => (nodes.lookup nid).map (toNode canaries))).map GraphNode.id =
      ids := by
  induction ids with
  | nil => rfl
  | cons nid ids ih =>
    obtain ⟨n, hn, hid⟩ := hnodes nid List.mem_cons_self
    have hrest := ih (fun nid' h => hnodes nid' (List.mem_cons_of_mem nid h))
    rw [List.filterMap_cons, hn]
    simp only [Option.map_some, List.map_cons, hrest]
    rw [show (toNode canaries n).id = nid from hid]

/-- The nodes of the edges that were kept, in order of their ids. -/
theorem nodes_strict {kept : List EdgeAggregate}
    (hnodes : ∀ nid ∈ endpoints kept, ∃ n, nodes.lookup nid = some n ∧ n.id = nid) :
    ((sortOn GraphNode.id ((referencedIds kept).filterMap
      (fun nid => (nodes.lookup nid).map (toNode canaries)))).map GraphNode.id).Pairwise
        (· < ·) := by
  apply sortOn_strict
  rw [map_id_filterMap (fun nid h => hnodes nid (mem_referencedIds.mp h))]
  exact nodup_foldl_appendNew List.nodup_nil

theorem mem_nodes_iff {kept : List EdgeAggregate} {node : GraphNode} :
    node ∈ sortOn GraphNode.id ((referencedIds kept).filterMap
        (fun nid => (nodes.lookup nid).map (toNode canaries))) ↔
      ∃ nid ∈ endpoints kept, (nodes.lookup nid).map (toNode canaries) = some node := by
  rw [mem_sortOn, List.mem_filterMap]
  simp only [mem_referencedIds]

end nodes

/-- **Truncation**: for every list of edges and every map of their endpoints, a response has the
    longest prefix of the edges within both caps and says whether it dropped any; its nodes are
    the distinct endpoints of these edges in order of their ids, its total is theirs, and a
    response with higher caps starts with the same edges and has all of its nodes. -/
theorem assemble_longest_prefix (edges : List EdgeAggregate) (nodes : List (String × StoredNode))
    (hnodes : ∀ nid ∈ endpoints edges, ∃ n, nodes.lookup nid = some n ∧ n.id = nid)
    (window : ResolvedWindow) (filters : EffectiveFilters) (generatedAt : Datetime)
    (maxNodes maxEdges : Nat) (canaries : CanarySet) :
    let answer := assemble edges nodes window filters generatedAt maxNodes maxEdges canaries
    ∃ n, Longest maxNodes maxEdges edges n ∧
      answer.edges = (edges.take n).map toEdge ∧
      (answer.summary.truncated = true ↔ n < edges.length) ∧
      (answer.nodes.map GraphNode.id).Pairwise (· < ·) ∧
      (∀ nid, nid ∈ answer.nodes.map GraphNode.id ↔ nid ∈ endpoints (edges.take n)) ∧
      answer.summary.totalConnections = ((edges.take n).map EdgeAggregate.connectionCount).sum ∧
      ∀ maxNodes' ≥ maxNodes, ∀ maxEdges' ≥ maxEdges,
        let wider := assemble edges nodes window filters generatedAt maxNodes' maxEdges' canaries
        answer.edges <+: wider.edges ∧ answer.nodes ⊆ wider.nodes := by
  intro answer
  have hkept : ∀ nid ∈ endpoints (truncate maxNodes maxEdges edges).1,
      ∃ n, nodes.lookup nid = some n ∧ n.id = nid := by
    intro nid hnid
    rw [truncate_fst] at hnid
    obtain ⟨e, he, hend⟩ := mem_endpoints.mp hnid
    exact hnodes nid (mem_endpoints.mpr ⟨e, List.mem_of_mem_take he, hend⟩)
  have hedges : answer.edges =
      (edges.take (truncate maxNodes maxEdges edges).1.length).map toEdge := by
    rw [← truncate_eq_take]
    rfl
  refine ⟨(truncate maxNodes maxEdges edges).1.length, longest_truncate maxNodes maxEdges edges,
    hedges, isSome_truncate_snd maxNodes maxEdges edges, nodes_strict hkept, ?_, ?_, ?_⟩
  · intro nid
    rw [← truncate_eq_take]
    constructor
    · intro h
      obtain ⟨node, hnode, rfl⟩ := List.mem_map.mp h
      obtain ⟨nid, hnid, hfound⟩ := mem_nodes_iff.mp hnode
      obtain ⟨n, hn, hid⟩ := hkept nid hnid
      rw [hn, Option.map_some, Option.some.injEq] at hfound
      rw [← hfound, show (toNode canaries n).id = nid from hid]
      exact hnid
    · intro hnid
      obtain ⟨n, hn, hid⟩ := hkept nid hnid
      refine List.mem_map.mpr ⟨toNode canaries n, mem_nodes_iff.mpr ⟨nid, hnid, ?_⟩, hid⟩
      rw [hn]
      rfl
  · rw [← truncate_eq_take]
    rfl
  · intro maxNodes' hmaxNodes maxEdges' hmaxEdges wider
    have hle := (longest_truncate maxNodes' maxEdges' edges).le
      (longest_truncate maxNodes maxEdges edges).toFits hmaxNodes hmaxEdges
    have hwider : wider.edges =
        (edges.take (truncate maxNodes' maxEdges' edges).1.length).map toEdge := by
      rw [← truncate_eq_take]
      rfl
    constructor
    · rw [hedges, hwider]
      exact (List.take_prefix_take_left hle).map toEdge
    · intro node hnode
      obtain ⟨nid, hnid, hfound⟩ := mem_nodes_iff.mp hnode
      refine mem_nodes_iff.mpr ⟨nid, ?_, hfound⟩
      rw [truncate_eq_take] at hnid ⊢
      exact endpoints_take_subset edges hle hnid

/-- `count` connections from `web` to `target`. -/
def fromWeb (target : String) (count : Nat) : EdgeAggregate where
  key := ⟨"web", target, .tcp, 5432⟩
  connectionCount := count
  firstSeen := 0
  lastSeen := 0
  failedConnectionCount := none
  connectLatencyCount := 0
  connectLatencySumUs := 0
  bytesSent := none
  bytesReceived := none

/-- A node that is stored under its id. -/
def plainNode (nid : String) : String × StoredNode :=
  (nid, ⟨nid, "c", .deployment, some "shop", nid, nid, 0, 0⟩)

/-- The replicas of `web` talk to each other, and to `zed`, with room for one node. -/
theorem assemble_longest_prefix_self_loop :
    let answer := assemble [fromWeb "web" 2, fromWeb "zed" 3] [plainNode "web", plainNode "zed"]
      ⟨0, 60000000⟩ {} 0 1 5 ⟨[]⟩
    answer.edges.map GraphEdge.id = ["web|web|TCP|5432"] ∧
      ∃ n, Longest 1 5 [fromWeb "web" 2, fromWeb "zed" 3] n ∧
        answer.edges = ([fromWeb "web" 2, fromWeb "zed" 3].take n).map toEdge := by
  intro answer
  obtain ⟨n, hlongest, hedges, -⟩ := assemble_longest_prefix [fromWeb "web" 2, fromWeb "zed" 3]
    [plainNode "web", plainNode "zed"] (by decide) ⟨0, 60000000⟩ {} 0 1 5 ⟨[]⟩
  exact ⟨by decide +kernel, n, hlongest, hedges⟩

end TopologyVisualizer.Backend
