import Mathlib.Data.List.Find
import TopologyVisualizer.Framework.Checks
import TopologyVisualizer.Framework.Decoding
import TopologyVisualizer.Framework.Text
import TopologyVisualizer.Agent.Contract
import TopologyVisualizer.Backend.Anomalies

/-! # Ids of Nodes and Edges

    `build_node_id` and `build_edge_id` of `app/domain/models.py`, and the
    handler of `GET /edges/{edge_id}`.

    The separator of an edge id is not forbidden in the ids of its nodes. An
    edge id is taken apart from both ends: the port and the protocol do not
    contain it, and the two node ids are told apart by the colons, of which
    a node id has a fixed number.
-/

namespace TopologyVisualizer.Backend

open Checks Decoding

/-! ### Node ids -/

/-- What `build_node_id` refuses in a segment. -/
def checkSegment (label segment : String) : Except String Unit := do
  rejectIf (segment = "") ("node id segment '" ++ label ++ "' must not be empty")
  rejectIf (':' ∈ segment.toList) ("node id segment '" ++ label ++ "' must not contain ':'")

/-- `build_node_id`. -/
def buildNodeId (clusterId ns kind name : String) : Except String String := do
  checkSegment "cluster_id" clusterId
  checkSegment "namespace" ns
  checkSegment "kind" kind
  checkSegment "name" name
  return "k8s:" ++ clusterId ++ ":" ++ ns ++ ":" ++ kind ++ ":" ++ name

theorem checkSegment_eq_ok_iff {label segment : String} :
    checkSegment label segment = .ok () ↔ Agent.IsSegment segment := by
  simp only [checkSegment, seq_eq_ok, rejectIf_eq_ok, decide_eq_false_iff_not, Agent.IsSegment]

theorem buildNodeId_eq_ok_iff {c ns kind name id : String} :
    buildNodeId c ns kind name = .ok id ↔
      Agent.IsSegment c ∧ Agent.IsSegment ns ∧ Agent.IsSegment kind ∧ Agent.IsSegment name ∧
        "k8s:" ++ c ++ ":" ++ ns ++ ":" ++ kind ++ ":" ++ name = id := by
  simp only [buildNodeId, seq_eq_ok, checkSegment_eq_ok_iff, pure, Except.pure, Except.ok.injEq]

/-- The ids of nodes: of the external one, and those that were built. -/
inductive NodeId : String → Prop where
  | external : NodeId externalNodeId
  | built {c ns kind name id : String} : buildNodeId c ns kind name = .ok id → NodeId id

/-- A node id begins with one of two schemes. -/
theorem NodeId.scheme {id : String} (h : NodeId id) : ∃ scheme body : List Char,
    id.toList = scheme ++ ':' :: body ∧ ':' ∉ scheme ∧ '|' ∉ scheme := by
  cases h with
  | external => exact ⟨"external".toList, "EXTERNAL".toList, by decide, by decide, by decide⟩
  | @built c ns kind name _ hbuilt =>
    obtain ⟨-, -, -, -, rfl⟩ := buildNodeId_eq_ok_iff.mp hbuilt
    refine ⟨"k8s".toList, (c ++ ":" ++ ns ++ ":" ++ kind ++ ":" ++ name).toList, ?_, by decide,
      by decide⟩
    simp [String.toList_append]

/-- The characters of an id that was built. -/
theorem toList_built (c ns kind name : String) :
    ("k8s:" ++ c ++ ":" ++ ns ++ ":" ++ kind ++ ":" ++ name).toList =
      'k' :: '8' :: 's' :: ':' :: (c.toList ++ ':' :: (ns.toList ++ ':' :: (kind.toList ++
        ':' :: name.toList))) := by
  simp [String.toList_append]

/-- A name in front of a separator and a node id: the colon of the id ends what belongs to the
    name. -/
theorem name_inj {name name' : List Char} {t t' : String} (hname : ':' ∉ name)
    (hname' : ':' ∉ name') (ht : NodeId t) (ht' : NodeId t')
    (h : name ++ '|' :: t.toList = name' ++ '|' :: t'.toList) : name = name' ∧ t = t' := by
  obtain ⟨scheme, body, hlist, hcolon, hbar⟩ := ht.scheme
  obtain ⟨scheme', body', hlist', hcolon', hbar'⟩ := ht'.scheme
  have hsplit : (name ++ '|' :: scheme) ++ ':' :: body =
      (name' ++ '|' :: scheme') ++ ':' :: body' := by
    rw [hlist, hlist'] at h
    simpa using h
  obtain ⟨hfront, hbody⟩ := split_first (by simp [hname, hcolon]) (by simp [hname', hcolon'])
    hsplit
  obtain ⟨hnames, hschemes⟩ := split_last hbar hbar' hfront
  refine ⟨hnames, String.toList_inj.mp ?_⟩
  rw [hlist, hlist', hschemes, hbody]

/-- **Two node ids** with a separator in between can be told apart, whatever the segments
    contain. -/
theorem pair_inj {s s' t t' : String} (hs : NodeId s) (hs' : NodeId s') (ht : NodeId t)
    (ht' : NodeId t') (h : s.toList ++ '|' :: t.toList = s'.toList ++ '|' :: t'.toList) :
    s = s' ∧ t = t' := by
  cases hs with
  | external =>
    cases hs' with
    | external =>
      rw [List.append_cancel_left_eq] at h
      exact ⟨rfl, String.toList_inj.mp (List.cons.inj h).2⟩
    | built hbuilt =>
      obtain ⟨-, -, -, -, rfl⟩ := buildNodeId_eq_ok_iff.mp hbuilt
      rw [toList_built] at h
      exact absurd (List.cons.inj h).1 (by decide)
  | @built c ns kind name _ hbuilt =>
    obtain ⟨hc, hns, hkind, hname, rfl⟩ := buildNodeId_eq_ok_iff.mp hbuilt
    cases hs' with
    | external =>
      rw [toList_built] at h
      exact absurd (List.cons.inj h).1 (by decide)
    | @built c' ns' kind' name' _ hbuilt' =>
      obtain ⟨hc', hns', hkind', hname', rfl⟩ := buildNodeId_eq_ok_iff.mp hbuilt'
      rw [toList_built, toList_built] at h
      simp only [List.cons_append, List.append_assoc, List.cons.injEq, true_and] at h
      obtain ⟨hcc, h⟩ := split_first hc.2 hc'.2 h
      obtain ⟨hnn, h⟩ := split_first hns.2 hns'.2 h
      obtain ⟨hkk, h⟩ := split_first hkind.2 hkind'.2 h
      obtain ⟨hnames, htargets⟩ := name_inj hname.2 hname'.2 ht ht' h
      rw [String.toList_inj.mp hcc, String.toList_inj.mp hnn, String.toList_inj.mp hkk,
        String.toList_inj.mp hnames]
      exact ⟨rfl, htargets⟩

/-! ### Edge ids -/

/-- An edge between nodes with ids of the contract. -/
structure EdgeKey.Addressed (k : EdgeKey) : Prop where
  source : NodeId k.sourceId
  target : NodeId k.targetId

theorem bar_notMem_toString (n : Nat) : '|' ∉ (toString n).toList := by
  intro h
  exact absurd (Text.isDigit_of_mem_toString h) (by decide)

theorem Protocol.bar_notMem_name (p : Protocol) : '|' ∉ p.name.toList := by
  cases p
  decide

theorem Protocol.name_injective : Function.Injective Protocol.name := by
  intro p p' _
  cases p
  cases p'
  rfl

/-- **Edge ids**: an edge id has one key. -/
theorem buildEdgeId_inj {k k' : EdgeKey} (hk : k.Addressed) (hk' : k'.Addressed)
    (h : buildEdgeId k = buildEdgeId k') : k = k' := by
  have hlist : ∀ k : EdgeKey, (buildEdgeId k).toList =
      ((k.sourceId.toList ++ '|' :: k.targetId.toList) ++ '|' :: k.protocol.name.toList) ++
        '|' :: (toString k.destinationPort).toList := by
    intro k
    simp [buildEdgeId, String.toList_append]
  have hchars := congrArg String.toList h
  rw [hlist, hlist] at hchars
  -- the port and the protocol from the right, the node ids from the left
  obtain ⟨hfront, hport⟩ := split_last (bar_notMem_toString _) (bar_notMem_toString _) hchars
  obtain ⟨hids, hprotocol⟩ := split_last (Protocol.bar_notMem_name _) (Protocol.bar_notMem_name _)
    hfront
  obtain ⟨hsource, htarget⟩ := pair_inj hk.source hk'.source hk.target hk'.target hids
  have hports : k.destinationPort = k'.destinationPort :=
    Text.toString_nat_inj (String.toList_inj.mp hport)
  have hprotocols := Protocol.name_injective (String.toList_inj.mp hprotocol)
  cases k
  cases k'
  simp_all

/-! ### `GET /edges/{edge_id}` -/

/-- `EdgeDetail`. -/
structure EdgeDetail where
  edge : GraphEdge
  window : ResolvedWindow
  source : GraphNode
  target : GraphNode

/-- `get_edge`, for a resolved window: `store` is the repository when the edges are queried,
    `later` when their nodes are, and `repr` writes the id in the message of a 404. -/
def getEdge (repr casefold : String → String) (canaries : CanarySet)
    (store later : InMemoryRepository) (edgeId : String) (window : ResolvedWindow) :
    Except String EdgeDetail :=
  let edges := store.queryEdges casefold window {}
  let nodes := later.nodesFor (endpoints edges)
  -- the loop ends at the first edge with this id
  match edges.find? (fun a => buildEdgeId a.key = edgeId) with
  | none => .error ("no edge " ++ repr edgeId ++ " observed in this window")
  | some a =>
    match nodes.lookup a.key.sourceId, nodes.lookup a.key.targetId with
    | some source, some target => .ok {
        edge := toEdge a
        window := window
        source := toNode canaries source
        target := toNode canaries target }
    | _, _ => .error ("no edge " ++ repr edgeId ++ " observed in this window")

/-- An edge shows a key: its id and the fields that the id is made of. -/
structure GraphEdge.Shows (edge : GraphEdge) (k : EdgeKey) : Prop where
  id : edge.id = buildEdgeId k
  sourceId : edge.sourceId = k.sourceId
  targetId : edge.targetId = k.targetId
  protocol : edge.protocol = k.protocol
  destinationPort : edge.destinationPort = k.destinationPort

theorem toEdge_shows (a : EdgeAggregate) : (toEdge a).Shows a.key := ⟨rfl, rfl, rfl, rfl, rfl⟩

section getEdge
variable {repr casefold : String → String} {canaries : CanarySet}
  {store later : InMemoryRepository} {window : ResolvedWindow} {k : EdgeKey}

/-- The edge that is found for the id of a key is the one with this key. -/
theorem find_edge_id (hk : k.Addressed) {edges : List EdgeAggregate}
    (hedges : ∀ a ∈ edges, a.key.Addressed) :
    edges.find? (fun a => buildEdgeId a.key = buildEdgeId k) =
      edges.find? (fun a => a.key = k) := by
  apply List.find?_congr
  intro a ha
  rw [decide_eq_decide]
  constructor
  · intro h
    exact buildEdgeId_inj (hedges a ha) hk h
  · intro h
    rw [h]

/-- Asked for the id of a key, the handler answers with the edge of this key or with 404; with
    the edge when it is observed and both of its nodes are still stored. -/
theorem getEdge_of_key (hk : k.Addressed)
    (hedges : ∀ a ∈ store.queryEdges casefold window {}, a.key.Addressed) :
    (∀ detail, getEdge repr casefold canaries store later (buildEdgeId k) window = .ok detail →
      (∃ a ∈ store.queryEdges casefold window {}, a.key = k ∧ detail.edge = toEdge a) ∧
        detail.edge.Shows k) ∧
    (∀ a ∈ store.queryEdges casefold window {}, a.key = k →
      later.nodes.contains k.sourceId = true → later.nodes.contains k.targetId = true →
      ∃ detail, getEdge repr casefold canaries store later (buildEdgeId k) window = .ok detail ∧
        detail.edge = toEdge a) := by
  unfold getEdge
  simp only [find_edge_id hk hedges]
  constructor
  · intro detail hdetail
    cases hfound : (store.queryEdges casefold window {}).find? (fun a => a.key = k) with
    | none =>
      rw [hfound] at hdetail
      cases hdetail
    | some a =>
      rw [hfound] at hdetail
      have hkey : a.key = k := by simpa using List.find?_some hfound
      dsimp only at hdetail
      split at hdetail
      · cases hdetail
        exact ⟨⟨a, List.mem_of_find?_eq_some hfound, hkey, rfl⟩, hkey ▸ toEdge_shows a⟩
      · cases hdetail
  · intro a ha hkey hsource htarget
    subst hkey
    -- the answer has one edge for each key
    have hfound : (store.queryEdges casefold window {}).find? (fun b => b.key = a.key) =
        some a := by
      cases hfind : (store.queryEdges casefold window {}).find? (fun b => b.key = a.key) with
      | none =>
        have hnone := List.find?_eq_none.mp hfind a ha
        simp at hnone
      | some b =>
        have hb := List.mem_of_find?_eq_some hfind
        have hkey : b.key = a.key := by simpa using List.find?_some hfind
        have hnodup := (queryEdges_strict casefold store window {}).imp ne_of_lt
        rw [List.inj_on_of_nodup_map hnodup hb ha hkey]
    obtain ⟨source, hs⟩ := contains_iff_get?.mp hsource
    obtain ⟨target, ht⟩ := contains_iff_get?.mp htarget
    rw [hfound]
    dsimp only
    rw [lookup_nodesFor later (mem_endpoints.mpr ⟨a, ha, .inl rfl⟩),
      lookup_nodesFor later (mem_endpoints.mpr ⟨a, ha, .inr rfl⟩), hs, ht]
    exact ⟨_, rfl, rfl⟩

end getEdge

/-! ### Anomaly ids -/

/-- Findings with one id are about one edge, and of one type. -/
theorem anomalyId_inj {floats : Anomalies.Floats} {edge edge' : EdgeAggregate}
    {before before' : Option EdgeAggregate} {rule rule' : Anomalies.AnomalyType × String}
    (hedge : edge.key.Addressed) (hedge' : edge'.key.Addressed)
    (h : (Anomalies.toAnomaly floats edge before rule).id =
      (Anomalies.toAnomaly floats edge' before' rule').id) :
    edge.key = edge'.key ∧ rule.1 = rule'.1 := by
  have hid : buildEdgeId edge.key ++ "|" ++ rule.1.name =
      buildEdgeId edge'.key ++ "|" ++ rule'.1.name := h
  have htype : rule.1 = rule'.1 := Anomalies.type_eq_of_id_eq hid
  rw [htype, String.append_left_inj, String.append_left_inj] at hid
  exact ⟨buildEdgeId_inj hedge hedge' hid, htype⟩

/-- **Edge ids are unambiguous**: two keys between nodes of the contract have one id only if they
    are the same; a request for the id of a key is answered with the edge of that key, under that
    id and with its nodes, protocol and port, or with 404; and findings about different edges, or
    of different types, have different ids. -/
theorem edge_ids_unambiguous :
    (∀ k k' : EdgeKey, k.Addressed → k'.Addressed → buildEdgeId k = buildEdgeId k' → k = k') ∧
    (∀ (repr casefold : String → String) (canaries : CanarySet)
      (store later : InMemoryRepository) (window : ResolvedWindow) (k : EdgeKey), k.Addressed →
      (∀ a ∈ store.queryEdges casefold window {}, a.key.Addressed) →
      (∀ detail, getEdge repr casefold canaries store later (buildEdgeId k) window = .ok detail →
        (∃ a ∈ store.queryEdges casefold window {}, a.key = k ∧ detail.edge = toEdge a) ∧
          detail.edge.Shows k) ∧
      (∀ a ∈ store.queryEdges casefold window {}, a.key = k →
        later.nodes.contains k.sourceId = true → later.nodes.contains k.targetId = true →
        ∃ detail, getEdge repr casefold canaries store later (buildEdgeId k) window = .ok detail ∧
          detail.edge = toEdge a)) ∧
    (∀ (floats : Anomalies.Floats) (edge edge' : EdgeAggregate)
      (before before' : Option EdgeAggregate) (rule rule' : Anomalies.AnomalyType × String),
      edge.key.Addressed → edge'.key.Addressed →
      (Anomalies.toAnomaly floats edge before rule).id =
        (Anomalies.toAnomaly floats edge' before' rule').id →
      edge.key = edge'.key ∧ rule.1 = rule'.1) := by
  refine ⟨?_, ?_, ?_⟩
  · intro k k' hk hk' h
    exact buildEdgeId_inj hk hk' h
  · intro repr casefold canaries store later window k hk hedges
    exact getEdge_of_key hk hedges
  · intro floats edge edge' before before' rule rule' hedge hedge' h
    exact anomalyId_inj hedge hedge' h

/-- The id of a `Deployment` in namespace `shop`. -/
def shopId (name : String) : String := "k8s:c:shop:Deployment:" ++ name

/-- Two edges whose ids part at a bar that belongs to the name of a node, and a request for an
    edge that was observed. -/
theorem edge_ids_unambiguous_bars :
    let k : EdgeKey := ⟨shopId "web|db", shopId "cache", .tcp, 5432⟩
    let k' : EdgeKey := ⟨shopId "web", shopId "db|cache", .tcp, 5432⟩
    let seen : EdgeKey := ⟨shopId "web", shopId "db", .tcp, 5432⟩
    let store := (InMemoryRepository.new "c").applyAll [.ingest sampleBatchA]
    buildEdgeId k ≠ buildEdgeId k' ∧
      ∃ a ∈ store.queryEdges id ⟨0, 60000000⟩ {}, a.key = seen ∧
        ∃ detail, getEdge id id ⟨[]⟩ store store (buildEdgeId seen) ⟨0, 60000000⟩ = .ok detail ∧
          detail.edge = toEdge a := by
  intro k k' seen store
  have hshop : ∀ name : String, buildNodeId "c" "shop" "Deployment" name = .ok (shopId name) →
      NodeId (shopId name) := fun _ h => .built h
  have hk : k.Addressed := ⟨hshop _ (by decide), hshop _ (by decide)⟩
  have hk' : k'.Addressed := ⟨hshop _ (by decide), hshop _ (by decide)⟩
  have hseen : seen.Addressed := ⟨hshop _ (by decide), hshop _ (by decide)⟩
  have hkeys : (store.queryEdges id ⟨0, 60000000⟩ {}).map EdgeAggregate.key = [seen] := by
    decide +kernel
  have hkey : ∀ a ∈ store.queryEdges id ⟨0, 60000000⟩ {}, a.key = seen := by
    intro a ha
    have hmem := List.mem_map_of_mem (f := EdgeAggregate.key) ha
    rwa [hkeys, List.mem_singleton] at hmem
  refine ⟨?_, ?_⟩
  · intro h
    exact absurd (edge_ids_unambiguous.1 k k' hk hk' h) (by decide)
  · obtain ⟨a, ha, hseenKey⟩ : ∃ a ∈ store.queryEdges id ⟨0, 60000000⟩ {}, a.key = seen :=
      List.mem_map.mp (hkeys ▸ List.mem_singleton_self seen)
    have hget := edge_ids_unambiguous.2.1 id id ⟨[]⟩ store store ⟨0, 60000000⟩ seen hseen
      (fun b hb => hkey b hb ▸ hseen)
    exact ⟨a, ha, hseenKey, hget.2 a ha hseenKey (by decide +kernel) (by decide +kernel)⟩

end TopologyVisualizer.Backend
