import Mathlib.Data.Finset.Card
import TopologyVisualizer.Backend.MemoryOrder

/-! # Graph Responses

    `app/domain/graph.py` and the handler of `GET /graph` in
    `app/api/routes.py`.

    The handler makes two repository calls: `query_edges`, then `nodes_for`
    the endpoints it got. Other requests may write in between, so the model
    takes the store at each of the two calls. `assemble` caps the edges,
    skips an endpoint it has no node for, and says nothing about it.

    An edge survives the caps exactly when it is `Shown`: a condition on how
    many edges, and how many endpoints of edges, come up to it in key order.
-/

namespace TopologyVisualizer.Backend

open InMemoryRepository

/-! ### Response models -/

/-- The wire kind of a node: the kinds of the contract, or `External`. -/
inductive GraphKind where
  | kind (k : NodeKind)
  | external
  deriving DecidableEq

/-- The kind as it is written. -/
def GraphKind.name : GraphKind → String
  | .kind k => k.name
  | .external => "External"

/-- `GraphNode`, without its always empty `attributes`. -/
structure GraphNode where
  id : String
  kind : GraphKind
  «namespace» : Option String
  name : String
  label : String
  firstSeen : Datetime
  lastSeen : Datetime
  canary : Bool
  deriving DecidableEq

/-- `GraphEdge`. -/
structure GraphEdge where
  id : String
  sourceId : String
  targetId : String
  protocol : Protocol
  destinationPort : Nat
  connectionCount : Nat
  failedConnectionCount : Option Nat
  connectLatencyCount : Nat
  connectLatencySumUs : Nat
  bytesSent : Option Nat
  bytesReceived : Option Nat
  firstSeen : Datetime
  lastSeen : Datetime
  deriving DecidableEq

/-- `EffectiveFilters`. -/
structure EffectiveFilters where
  namespaces : List String := []
  kind : Option NodeKind := none
  query : Option String := none
  includeExternal : Bool := true
  includeUnresolved : Bool := false
  deriving DecidableEq

/-- `_to_edge_filters`. -/
def EffectiveFilters.toEdgeFilters (f : EffectiveFilters) : EdgeFilters where
  namespaces := f.namespaces
  kind := f.kind.map NodeKind.name
  query := f.query
  includeExternal := f.includeExternal

/-- `GraphSummary`. -/
structure GraphSummary where
  nodeCount : Nat
  edgeCount : Nat
  totalConnections : Nat
  truncated : Bool
  truncationReason : Option String
  deriving DecidableEq

/-- `GraphResponse`. -/
structure GraphResponse where
  generatedAt : Datetime
  window : ResolvedWindow
  filters : EffectiveFilters
  nodes : List GraphNode
  edges : List GraphEdge
  summary : GraphSummary

/-- `CanarySet`: a selector names a namespace, a kind or none, and a name. -/
structure CanarySet where
  selectors : List (String × Option String × String)

/-- `CanarySet.matches`. -/
def CanarySet.matches (c : CanarySet) (ns : Option String) (kind name : String) : Bool :=
  match ns with
  | none => false
  | some ns => (ns, none, name) ∈ c.selectors ∨ (ns, some kind, name) ∈ c.selectors

/-- `graph_max_nodes` of the settings. -/
def graphMaxNodes : Nat := 500

/-- `graph_max_edges` of the settings. -/
def graphMaxEdges : Nat := 2000

/-! ### Assembly -/

/-- `build_edge_id`. -/
def buildEdgeId (key : EdgeKey) : String :=
  key.sourceId ++ "|" ++ key.targetId ++ "|" ++ key.protocol.name ++ "|" ++
    toString key.destinationPort

/-- `_to_node`. -/
def toNode (canaries : CanarySet) (stored : StoredNode) : GraphNode where
  id := stored.id
  kind := if stored.id = externalNodeId then .external else .kind stored.kind
  «namespace» := stored.namespace
  name := stored.name
  label := stored.label
  firstSeen := stored.firstSeen
  lastSeen := stored.lastSeen
  canary := canaries.matches stored.namespace stored.kind.name stored.name

/-- `_to_edge`. -/
def toEdge (a : EdgeAggregate) : GraphEdge where
  id := buildEdgeId a.key
  sourceId := a.key.sourceId
  targetId := a.key.targetId
  protocol := a.key.protocol
  destinationPort := a.key.destinationPort
  connectionCount := a.connectionCount
  failedConnectionCount := a.failedConnectionCount
  connectLatencyCount := a.connectLatencyCount
  connectLatencySumUs := a.connectLatencySumUs
  bytesSent := a.bytesSent
  bytesReceived := a.bytesReceived
  firstSeen := a.firstSeen
  lastSeen := a.lastSeen

/-- The node loop of `_truncate`: how many edges come before the one that makes `distinct`
    exceed the cap. -/
def nodeCut (maxNodes : Nat) (distinct : List String) : List EdgeAggregate → Nat
  | [] => 0
  | e :: es =>
    let distinct := (distinct.insert e.key.sourceId).insert e.key.targetId
    if distinct.length > maxNodes then 0 else 1 + nodeCut maxNodes distinct es

/-- `_truncate`: the edge cap first, then the node cap. -/
def truncate (maxNodes maxEdges : Nat) (edges : List EdgeAggregate) :
    List EdgeAggregate × Option String :=
  let kept := edges.take maxEdges
  let reason := if edges.length > maxEdges then
      some ("showing the first " ++ toString maxEdges ++ " of " ++ toString edges.length ++
        " edges (GRAPH_MAX_EDGES); narrow the window or add a namespace filter")
    else none
  let cut := nodeCut maxNodes [] kept
  if cut < kept.length then
    let nodeReason := "stopped at " ++ toString maxNodes ++ " nodes (GRAPH_MAX_NODES), dropping " ++
      toString (kept.length - cut) ++
      " further edges; narrow the window or add a namespace filter"
    (kept.take cut, some (match reason with
      | some reason => reason ++ "; " ++ nodeReason
      | none => nodeReason))
  else (kept, reason)

/-- Both endpoints of every edge, in order. -/
def endpoints (edges : List EdgeAggregate) : List String :=
  edges.flatMap (fun e => [e.key.sourceId, e.key.targetId])

/-- The loop that collects the endpoints in order of first appearance. -/
def referencedIds (kept : List EdgeAggregate) : List String :=
  (endpoints kept).foldl appendNew []

/-- `assemble`. -/
def assemble (edges : List EdgeAggregate) (nodes : List (String × StoredNode))
    (window : ResolvedWindow) (filters : EffectiveFilters) (generatedAt : Datetime)
    (maxNodes maxEdges : Nat) (canaries : CanarySet) : GraphResponse :=
  let kept := (truncate maxNodes maxEdges edges).1
  let truncationReason := (truncate maxNodes maxEdges edges).2
  let graphNodes := sortOn GraphNode.id
    ((referencedIds kept).filterMap (fun nid => (nodes.lookup nid).map (toNode canaries)))
  let graphEdges := kept.map toEdge
  { generatedAt := generatedAt
    window := window
    filters := filters
    nodes := graphNodes
    edges := graphEdges
    summary :=
      { nodeCount := graphNodes.length
        edgeCount := graphEdges.length
        totalConnections := (kept.map EdgeAggregate.connectionCount).sum
        truncated := truncationReason.isSome
        truncationReason := truncationReason } }

/-- `get_graph`, for a resolved window: `store` is the repository when the edges are queried,
    `later` when their nodes are. -/
def getGraph (casefold : String → String) (canaries : CanarySet)
    (store later : InMemoryRepository) (window : ResolvedWindow) (filters : EffectiveFilters)
    (generatedAt : Datetime) : GraphResponse :=
  let edges := store.queryEdges casefold window filters.toEdgeFilters
  let nodes := later.nodesFor (endpoints edges)
  assemble edges nodes window filters generatedAt graphMaxNodes graphMaxEdges canaries

/-! ### What the caps keep -/

theorem mem_endpoints {edges : List EdgeAggregate} {nid : String} :
    nid ∈ endpoints edges ↔ ∃ e ∈ edges, nid = e.key.sourceId ∨ nid = e.key.targetId := by
  simp [endpoints]

theorem toFinset_insert_insert (distinct : List String) (e : EdgeAggregate)
    (rest : List EdgeAggregate) :
    (((distinct.insert e.key.sourceId).insert e.key.targetId) ++ endpoints rest).toFinset =
      (distinct ++ endpoints (e :: rest)).toFinset := by
  ext nid
  simp only [List.mem_toFinset, List.mem_append, List.mem_insert_iff, mem_endpoints,
    List.mem_cons]
  grind

/-- The node loop lets an edge through while the endpoints up to it are within the cap. -/
theorem lt_nodeCut_iff {maxNodes : Nat} {distinct : List String} (hnd : distinct.Nodup)
    {edges : List EdgeAggregate} {i : Nat} (hi : i < edges.length) :
    i < nodeCut maxNodes distinct edges ↔
      (distinct ++ endpoints (edges.take (i + 1))).toFinset.card ≤ maxNodes := by
  induction edges generalizing distinct i with
  | nil => exact absurd hi (Nat.not_lt_zero i)
  | cons e es ih =>
    have hnd' : ((distinct.insert e.key.sourceId).insert e.key.targetId).Nodup :=
      (hnd.insert).insert
    have hfirst : ((distinct.insert e.key.sourceId).insert e.key.targetId).length =
        (distinct ++ endpoints [e]).toFinset.card := by
      rw [← toFinset_insert_insert distinct e [], endpoints, List.flatMap_nil, List.append_nil,
        List.toFinset_card_of_nodup hnd']
    unfold nodeCut
    simp only
    split
    · -- the first edge is already too much, and more edges have no fewer endpoints
      next hover =>
      have hsub : (distinct ++ endpoints [e]).toFinset ⊆
          (distinct ++ endpoints ((e :: es).take (i + 1))).toFinset := by
        intro nid
        simp only [List.mem_toFinset, List.mem_append, List.take_succ_cons]
        refine Or.imp_right ?_
        simp only [mem_endpoints, List.mem_cons, List.not_mem_nil, or_false]
        rintro ⟨e', rfl, hnid⟩
        exact ⟨e', .inl rfl, hnid⟩
      have hcard := Finset.card_le_card hsub
      omega
    · next hwithin =>
      cases i with
      | zero =>
        simp only [Nat.zero_add, List.take_succ_cons, List.take_zero]
        omega
      | succ i =>
        have hstep := ih hnd' (Nat.lt_of_succ_lt_succ hi)
        rw [toFinset_insert_insert] at hstep
        rw [List.take_succ_cons, ← hstep]
        omega

theorem nodeCut_le (maxNodes : Nat) (distinct : List String) (edges : List EdgeAggregate) :
    nodeCut maxNodes distinct edges ≤ edges.length := by
  induction edges generalizing distinct with
  | nil => exact Nat.le_refl 0
  | cons e es ih =>
    unfold nodeCut
    simp only
    split
    · exact Nat.zero_le _
    · have := ih ((distinct.insert e.key.sourceId).insert e.key.targetId)
      rw [List.length_cons]
      omega

/-- The edges of an answer up to a key. -/
def upTo (edges : List EdgeAggregate) (k : EdgeKey) : List EdgeAggregate :=
  edges.filter (fun e => e.key ≤ k)

/-- An edge is within both caps: up to it there are at most `maxEdges` edges, and they have at
    most `maxNodes` endpoints. -/
def Shown (maxNodes maxEdges : Nat) (edges : List EdgeAggregate) (e : EdgeAggregate) : Prop :=
  e ∈ edges ∧ (upTo edges e.key).length ≤ maxEdges ∧
    (endpoints (upTo edges e.key)).toFinset.card ≤ maxNodes

theorem upTo_getElem {edges : List EdgeAggregate}
    (hstrict : (edges.map EdgeAggregate.key).Pairwise (· < ·)) {i : Nat} (hi : i < edges.length) :
    upTo edges edges[i].key = edges.take (i + 1) :=
  filter_le_getElem hstrict hi

/-- What `_truncate` keeps is a first part of the edges. -/
theorem truncate_fst (maxNodes maxEdges : Nat) (edges : List EdgeAggregate) :
    (truncate maxNodes maxEdges edges).1 =
      edges.take (min (nodeCut maxNodes [] (edges.take maxEdges)) maxEdges) := by
  unfold truncate
  simp only
  split
  · rw [List.take_take]
  · next hcut =>
    have hall : (edges.take maxEdges).take (nodeCut maxNodes [] (edges.take maxEdges)) =
        edges.take maxEdges := List.take_of_length_le (not_lt.mp hcut)
    rw [← List.take_take, hall]

/-- The endpoints that survive are within the node cap. -/
theorem card_endpoints_truncate (maxNodes maxEdges : Nat) (edges : List EdgeAggregate) :
    (endpoints (truncate maxNodes maxEdges edges).1).toFinset.card ≤ maxNodes := by
  rw [truncate_fst]
  cases hn : min (nodeCut maxNodes [] (edges.take maxEdges)) maxEdges with
  | zero => simp [endpoints]
  | succ i =>
    by_cases hi : i < (edges.take maxEdges).length
    · have hcut : i < nodeCut maxNodes [] (edges.take maxEdges) := by omega
      rw [lt_nodeCut_iff List.nodup_nil hi, List.nil_append, List.take_take,
        min_eq_left (by omega)] at hcut
      exact hcut
    · -- the loop never cuts past the end
      have hle : nodeCut maxNodes [] (edges.take maxEdges) ≤ (edges.take maxEdges).length :=
        nodeCut_le _ _ _
      omega

/-- **The caps**: on a sorted answer `_truncate` keeps exactly the edges within both caps. -/
theorem mem_truncate_iff {maxNodes maxEdges : Nat} {edges : List EdgeAggregate}
    (hstrict : (edges.map EdgeAggregate.key).Pairwise (· < ·)) {e : EdgeAggregate} :
    e ∈ (truncate maxNodes maxEdges edges).1 ↔ Shown maxNodes maxEdges edges e := by
  rw [truncate_fst]
  constructor
  · intro he
    obtain ⟨i, hi, rfl⟩ := List.getElem_of_mem he
    rw [List.length_take] at hi
    have hcut : i < nodeCut maxNodes [] (edges.take maxEdges) := by omega
    have hlen : i < (edges.take maxEdges).length := by
      rw [List.length_take]
      omega
    rw [lt_nodeCut_iff List.nodup_nil hlen, List.nil_append, List.take_take,
      min_eq_left (by omega)] at hcut
    rw [List.getElem_take]
    refine ⟨List.getElem_mem _, ?_, ?_⟩
    · rw [upTo_getElem hstrict (by omega), List.length_take]
      omega
    · rw [upTo_getElem hstrict (by omega)]
      exact hcut
  · rintro ⟨hmem, hedges, hnodes⟩
    obtain ⟨i, hi, rfl⟩ := List.getElem_of_mem hmem
    rw [upTo_getElem hstrict hi] at hedges hnodes
    rw [List.length_take] at hedges
    have hlen : i < (edges.take maxEdges).length := by
      rw [List.length_take]
      omega
    have hcut : i < nodeCut maxNodes [] (edges.take maxEdges) := by
      rw [lt_nodeCut_iff List.nodup_nil hlen, List.nil_append, List.take_take,
        min_eq_left (by omega)]
      exact hnodes
    refine List.mem_take_iff_getElem.mpr ⟨i, by omega, rfl⟩

/-! ### The nodes of a response -/

theorem mem_referencedIds {kept : List EdgeAggregate} {nid : String} :
    nid ∈ referencedIds kept ↔ nid ∈ endpoints kept := by
  unfold referencedIds
  rw [mem_foldl_appendNew]
  simp

theorem lookup_nodesFor (repo : InMemoryRepository) {ids : List String} {nid : String}
    (h : nid ∈ ids) : (repo.nodesFor ids).lookup nid = repo.nodes.get? nid := by
  have hlookup : ∀ l : List String,
      (l.filterMap (fun nid => (repo.nodes.get? nid).map (fun node => (nid, node)))).lookup nid =
        if nid ∈ l then repo.nodes.get? nid else none := by
    intro l
    induction l with
    | nil => rfl
    | cons a l ih =>
      rw [List.filterMap_cons]
      by_cases ha : nid = a
      · subst ha
        rw [if_pos List.mem_cons_self]
        cases hget : repo.nodes.get? nid with
        | none =>
          rw [hget] at ih
          simpa using ih
        | some node => simp
      · have hmem : nid ∈ a :: l ↔ nid ∈ l := by simp [ha]
        simp only [hmem]
        rw [← ih]
        cases repo.nodes.get? a with
        | none => rfl
        | some node => rw [Option.map_some, Dict.lookup_cons_ite, if_neg ha]
  unfold nodesFor
  rw [hlookup, if_pos (List.mem_dedup.mpr h)]

/-- Every node is stored under its own id. -/
def Keyed (nodes : Dict String StoredNode) : Prop :=
  ∀ nid n, nodes.get? nid = some n → n.id = nid

theorem contains_iff_get? {nodes : Dict String StoredNode} {nid : String} :
    nodes.contains nid = true ↔ ∃ n, nodes.get? nid = some n :=
  Option.isSome_iff_exists

section response
variable {casefold : String → String} {canaries : CanarySet} {store later : InMemoryRepository}
  {window : ResolvedWindow} {filters : EffectiveFilters} {generatedAt : Datetime}

theorem queryEdges_strict (casefold : String → String) (repo : InMemoryRepository)
    (window : ResolvedWindow) (filters : EdgeFilters) :
    ((repo.queryEdges casefold window filters).map EdgeAggregate.key).Pairwise (· < ·) := by
  rw [queryEdges_eq_answerOf]
  exact answerOf_sorted _

/-- The edges of a response are those within the caps. -/
theorem mem_getGraph_edges {e : GraphEdge} :
    e ∈ (getGraph casefold canaries store later window filters generatedAt).edges ↔
      ∃ a, Shown graphMaxNodes graphMaxEdges
        (store.queryEdges casefold window filters.toEdgeFilters) a ∧ toEdge a = e := by
  show e ∈ List.map toEdge _ ↔ _
  simp only [List.mem_map, mem_truncate_iff (queryEdges_strict casefold store window _)]

/-- The nodes of a response are the endpoints within the caps that are stored when the nodes
    are read. -/
theorem mem_getGraph_nodes (hkeyed : Keyed later.nodes) {nid : String} :
    nid ∈ (getGraph casefold canaries store later window filters generatedAt).nodes.map
        GraphNode.id ↔
      later.nodes.contains nid = true ∧ ∃ a, Shown graphMaxNodes graphMaxEdges
        (store.queryEdges casefold window filters.toEdgeFilters) a ∧
          (nid = a.key.sourceId ∨ nid = a.key.targetId) := by
  have hshown : ∀ {nid}, nid ∈ referencedIds (truncate graphMaxNodes graphMaxEdges
      (store.queryEdges casefold window filters.toEdgeFilters)).1 ↔
      ∃ a, Shown graphMaxNodes graphMaxEdges
        (store.queryEdges casefold window filters.toEdgeFilters) a ∧
          (nid = a.key.sourceId ∨ nid = a.key.targetId) := by
    intro nid
    simp only [mem_referencedIds, mem_endpoints,
      mem_truncate_iff (queryEdges_strict casefold store window _)]
  have hlookup : ∀ {nid}, (∃ a, Shown graphMaxNodes graphMaxEdges
        (store.queryEdges casefold window filters.toEdgeFilters) a ∧
          (nid = a.key.sourceId ∨ nid = a.key.targetId)) →
      (later.nodesFor (endpoints (store.queryEdges casefold window
        filters.toEdgeFilters))).lookup nid = later.nodes.get? nid := by
    rintro nid ⟨a, ha, hnid⟩
    exact lookup_nodesFor later (mem_endpoints.mpr ⟨a, ha.1, hnid⟩)
  show nid ∈ List.map GraphNode.id (sortOn GraphNode.id (List.filterMap _ _)) ↔ _
  simp only [List.mem_map, mem_sortOn, List.mem_filterMap, Option.map_eq_some_iff, hshown]
  constructor
  · rintro ⟨_, ⟨nid', hshown', stored, hstored, rfl⟩, rfl⟩
    rw [hlookup hshown'] at hstored
    have hid : (toNode canaries stored).id = nid' := hkeyed nid' stored hstored
    rw [hid]
    exact ⟨contains_iff_get?.mpr ⟨stored, hstored⟩, hshown'⟩
  · rintro ⟨hcontains, hshown'⟩
    obtain ⟨stored, hstored⟩ := contains_iff_get?.mp hcontains
    refine ⟨toNode canaries stored, ⟨nid, hshown', stored, ?_, rfl⟩, hkeyed nid stored hstored⟩
    rw [hlookup hshown', hstored]

end response

/-! ### Writes between the calls -/

/-- A repository call of another request that changes the store. -/
inductive StoreCall where
  | ingest (batch : IngestBatch)
  | purge (before : Datetime)

/-- The store after one call. -/
def InMemoryRepository.apply (repo : InMemoryRepository) : StoreCall → InMemoryRepository
  | .ingest batch => (repo.ingestBatch batch).1
  | .purge before => (repo.purgeExpired before).1

/-- The store after a sequence of calls. -/
def InMemoryRepository.applyAll (repo : InMemoryRepository) (calls : List StoreCall) :
    InMemoryRepository :=
  calls.foldl apply repo

/-- What holds of a reported node and does not depend on its interval holds of every node,
    if it did before. -/
theorem forall_upsertNode {P : String → StoredNode → Prop} {nodes : Dict String StoredNode}
    (h : ∀ nid n, nodes.get? nid = some n → P nid n) (clusterId : String) (ref : NodeRef)
    (f l : Datetime)
    (hnew : P ref.id ⟨ref.id, clusterId, ref.kind, ref.namespace, ref.name, ref.name, f, l⟩)
    (hwiden : ∀ n, P ref.id n →
      P ref.id { n with firstSeen := min n.firstSeen f, lastSeen := max n.lastSeen l }) :
    ∀ nid n, (upsertNode nodes clusterId ref f l).get? nid = some n → P nid n := by
  unfold InMemoryRepository.upsertNode
  cases hget : nodes.get? ref.id with
  | none => exact Dict.forall_set h hnew
  | some existing => exact Dict.forall_set h (hwiden existing (h ref.id existing hget))

theorem Keyed.upsertNode {nodes : Dict String StoredNode} (h : Keyed nodes) (clusterId : String)
    (ref : NodeRef) (f l : Datetime) : Keyed (upsertNode nodes clusterId ref f l) :=
  forall_upsertNode h clusterId ref f l rfl (fun _ hn => hn)

/-- A property of the nodes that reporting a node keeps, ingesting a batch keeps. -/
theorem nodes_ingestBatch (p : Dict String StoredNode → Prop)
    (hp : ∀ nodes clusterId ref f l, p nodes → p (upsertNode nodes clusterId ref f l))
    {repo : InMemoryRepository} (h : p repo.nodes) (batch : IngestBatch) :
    p (repo.ingestBatch batch).1.nodes := by
  have hloop : ∀ (edges : List EdgeObservation) (repo : InMemoryRepository), p repo.nodes →
      p (edges.foldl ingestEdge repo).nodes := by
    intro edges
    induction edges with
    | nil => exact fun _ h => h
    | cons e es ih =>
      intro repo h
      exact ih _ (hp _ _ _ _ _ (hp _ _ _ _ _ h))
  unfold ingestBatch
  split
  · exact h
  · exact hloop batch.edges _ h

theorem keyed_apply {repo : InMemoryRepository} (h : Keyed repo.nodes) (call : StoreCall) :
    Keyed (repo.apply call).nodes := by
  cases call with
  | ingest batch =>
    exact nodes_ingestBatch Keyed (fun _ c r f l h => h.upsertNode c r f l) h batch
  | purge before =>
    intro nid n hn
    have hn' : (repo.nodes.filter _).get? nid = some n := hn
    rw [Dict.get?_filter] at hn'
    exact h nid n (Option.filter_eq_some_iff.mp hn').1

/-- In every reachable store, nodes are stored under their own ids. -/
theorem keyed_applyAll {repo : InMemoryRepository} (h : Keyed repo.nodes)
    (calls : List StoreCall) : Keyed (repo.applyAll calls).nodes := by
  induction calls generalizing repo with
  | nil => exact h
  | cons call calls ih => exact ih (keyed_apply h call)

theorem keyed_new (clusterId : String) : Keyed (InMemoryRepository.new clusterId).nodes := by
  intro nid n hn
  cases hn

/-! ### Closure -/

/-- The nodes are exactly the endpoints of the edges. -/
def GraphResponse.Closed (g : GraphResponse) : Prop :=
  (∀ e ∈ g.edges, e.sourceId ∈ g.nodes.map GraphNode.id ∧ e.targetId ∈ g.nodes.map GraphNode.id) ∧
  ∀ n ∈ g.nodes, ∃ e ∈ g.edges, n.id = e.sourceId ∨ n.id = e.targetId

theorem getGraph_closed_iff {casefold : String → String} {canaries : CanarySet}
    {store later : InMemoryRepository} (hkeyed : Keyed later.nodes) {window : ResolvedWindow}
    {filters : EffectiveFilters} {generatedAt : Datetime} :
    (getGraph casefold canaries store later window filters generatedAt).Closed ↔
      ∀ a, Shown graphMaxNodes graphMaxEdges
          (store.queryEdges casefold window filters.toEdgeFilters) a →
        later.nodes.contains a.key.sourceId = true ∧
        later.nodes.contains a.key.targetId = true := by
  unfold GraphResponse.Closed
  constructor
  · rintro ⟨hends, -⟩ a ha
    obtain ⟨hsource, htarget⟩ := hends (toEdge a) (mem_getGraph_edges.mpr ⟨a, ha, rfl⟩)
    exact ⟨((mem_getGraph_nodes hkeyed).mp hsource).1, ((mem_getGraph_nodes hkeyed).mp htarget).1⟩
  · intro hstored
    constructor
    · intro e he
      obtain ⟨a, ha, rfl⟩ := mem_getGraph_edges.mp he
      obtain ⟨hsource, htarget⟩ := hstored a ha
      exact ⟨(mem_getGraph_nodes hkeyed).mpr ⟨hsource, a, ha, .inl rfl⟩,
        (mem_getGraph_nodes hkeyed).mpr ⟨htarget, a, ha, .inr rfl⟩⟩
    · intro n hn
      obtain ⟨-, a, ha, hend⟩ := (mem_getGraph_nodes hkeyed).mp (List.mem_map.mpr ⟨n, hn, rfl⟩)
      exact ⟨toEdge a, mem_getGraph_edges.mpr ⟨a, ha, rfl⟩, hend⟩

/-- **Closure depends on the writes in between**: a graph response is closed exactly when
    every endpoint of an edge within the caps is stored when `nodes_for` runs, whatever was
    ingested and purged before `query_edges` and between the two calls. -/
theorem graph_closed_iff (casefold : String → String) (canaries : CanarySet) (clusterId : String)
    (before between : List StoreCall) (window : ResolvedWindow) (filters : EffectiveFilters)
    (generatedAt : Datetime) :
    (getGraph casefold canaries ((InMemoryRepository.new clusterId).applyAll before)
      (((InMemoryRepository.new clusterId).applyAll before).applyAll between) window filters
      generatedAt).Closed ↔
    ∀ a, Shown graphMaxNodes graphMaxEdges
        (((InMemoryRepository.new clusterId).applyAll before).queryEdges casefold window
          filters.toEdgeFilters) a →
      (((InMemoryRepository.new clusterId).applyAll before).applyAll between).nodes.contains
          a.key.sourceId = true ∧
      (((InMemoryRepository.new clusterId).applyAll before).applyAll between).nodes.contains
          a.key.targetId = true :=
  getGraph_closed_iff (keyed_applyAll (keyed_applyAll (keyed_new clusterId) before) between)

/-- A sweep between the two calls: the response has the edge and neither of its nodes. -/
theorem graph_open_after_sweep :
    ¬ (getGraph id ⟨[]⟩ ((InMemoryRepository.new "c").applyAll [.ingest sampleBatchA])
        (((InMemoryRepository.new "c").applyAll [.ingest sampleBatchA]).applyAll
          [.purge 60000000]) ⟨0, 60000000⟩ {} 0).Closed ∧
    (getGraph id ⟨[]⟩ ((InMemoryRepository.new "c").applyAll [.ingest sampleBatchA])
        (((InMemoryRepository.new "c").applyAll [.ingest sampleBatchA]).applyAll
          [.purge 60000000]) ⟨0, 60000000⟩ {} 0).edges.map GraphEdge.id =
      ["k8s:c:shop:Deployment:web|k8s:c:shop:Deployment:db|TCP|5432"] ∧
    (getGraph id ⟨[]⟩ ((InMemoryRepository.new "c").applyAll [.ingest sampleBatchA])
        (((InMemoryRepository.new "c").applyAll [.ingest sampleBatchA]).applyAll
          [.purge 60000000]) ⟨0, 60000000⟩ {} 0).nodes = [] := by
  refine ⟨?_, by decide +kernel, by decide +kernel⟩
  unfold GraphResponse.Closed
  decide +kernel

/-! ### Endpoints of edges -/

/-- A query only reports edges between stored nodes. -/
theorem contains_of_mem_queryEdges {casefold : String → String} {repo : InMemoryRepository}
    {window : ResolvedWindow} {filters : EdgeFilters} {a : EdgeAggregate}
    (h : a ∈ repo.queryEdges casefold window filters) :
    repo.nodes.contains a.key.sourceId = true ∧ repo.nodes.contains a.key.targetId = true := by
  rw [queryEdges_eq_answerOf] at h
  have hkey := mem_answerOf_keys.mp (List.mem_map.mpr ⟨a, h, rfl⟩)
  obtain ⟨⟨k, v⟩, hmem, hk⟩ := List.mem_map.mp hkey
  obtain ⟨⟨bk, v'⟩, -, haccept⟩ := List.mem_filterMap.mp hmem
  obtain ⟨k', haccepts, heq⟩ := Option.map_eq_some_iff.mp haccept
  cases heq
  rw [← show k = a.key from hk]
  unfold InMemoryRepository.accepts at haccepts
  split at haccepts
  · next hpass =>
    cases haccepts
    rw [Bool.and_eq_true] at hpass
    have hnodes := hpass.2
    unfold passes at hnodes
    split at hnodes
    · next source target hsource htarget =>
      exact ⟨contains_iff_get?.mpr ⟨source, hsource⟩, contains_iff_get?.mpr ⟨target, htarget⟩⟩
    · cases hnodes
  · cases haccepts

end TopologyVisualizer.Backend
