import TopologyVisualizer.Framework.Dict
import TopologyVisualizer.Framework.JsonText
import TopologyVisualizer.Framework.KeyedSum
import TopologyVisualizer.Framework.Text
import TopologyVisualizer.Backend.Graph

/-! # Namespace Grouping

    `frontend/src/features/graph/grouping.ts`, and what it does to nodes.

    An edge as the browser has it (`Edge`) differs from the one the API
    serves: its timestamps are texts, and some of its counts may be missing.
    `groupTopology` writes to edges it has copied, so edges live on a heap
    and are referred to; the nodes and groups are never shared, and are
    values.

    A node is shown by its representative: itself, or the group of its
    namespace. The ids of groups are made up, and kept apart from those of
    the nodes and of each other by `freshId`.
-/

namespace TopologyVisualizer.Frontend

open Backend

/-! ### Payloads -/

/-- `GraphEdge` of the generated schema. A field that may be missing or `null` is an `Option`. -/
structure Edge where
  id : String
  sourceId : String
  targetId : String
  protocol : Protocol
  destinationPort : Nat
  connectionCount : Nat
  failedConnectionCount : Option Nat
  connectLatencyCount : Option Nat
  connectLatencySumUs : Option Nat
  bytesSent : Option Nat
  bytesReceived : Option Nat
  firstSeen : String
  lastSeen : String
  deriving DecidableEq

/-- `NamespaceGroup`. -/
structure NamespaceGroup where
  «namespace» : String
  workloads : Nat
  deriving DecidableEq

/-! ### Ids of groups -/

/-- Fewer texts are as long as a longer text. -/
theorem length_filter_longer {reserved : List String} {id : String} (h : id ∈ reserved) :
    (reserved.filter (fun r => ("_" ++ id).length ≤ r.length)).length <
      (reserved.filter (fun r => id.length ≤ r.length)).length := by
  have hlength : ("_" ++ id).length = id.length + 1 := by
    rw [String.length_append, Nat.add_comm]
    rfl
  rw [hlength]
  refine length_filter_lt ?_ h (by simp) (by simp)
  intro r hr
  rw [decide_eq_true_eq] at hr ⊢
  omega

/-- The loop that puts underscores in front of an id until it is not reserved. -/
def freshId (reserved : List String) (id : String) : String :=
  if id ∈ reserved then freshId reserved ("_" ++ id) else id
termination_by (reserved.filter (fun r => id.length ≤ r.length)).length
decreasing_by exact length_filter_longer ‹id ∈ reserved›

/-- `reserved` and `namespaceIds`. -/
structure Naming where
  reserved : List String
  namespaceIds : Dict String String := .empty

/-- One pass of the loop over the namespaces. -/
def nameNamespace (s : Naming) (ns : String) : Naming :=
  let id := freshId s.reserved ("namespace:" ++ JsonText.quote ns)
  { reserved := id :: s.reserved, namespaceIds := s.namespaceIds.set ns id }

/-- The distinct namespaces of the nodes, in code-unit order. -/
def groupedNamespaces (nodes : List GraphNode) : List String :=
  sortOn Text.utf16 (((nodes.filter (fun n => n.kind ≠ .external)).filterMap
    GraphNode.namespace).foldl appendNew [])

def naming (nodes : List GraphNode) : Naming :=
  (groupedNamespaces nodes).foldl nameNamespace { reserved := nodes.map GraphNode.id }

/-! ### Nodes -/

/-- `representatives`, `groups` and `groupedNodes`. -/
structure Placement where
  representatives : Dict String String := .empty
  groups : Dict String NamespaceGroup := .empty
  groupedNodes : Dict String GraphNode := .empty

/-- One pass of the loop over the nodes. -/
def placeNode (namespaceIds : Dict String String) (expanded : List String) (s : Placement)
    (node : GraphNode) : Placement :=
  match node.namespace with
  | none => { s with
      representatives := s.representatives.set node.id node.id
      groupedNodes := s.groupedNodes.set node.id node }
  | some ns =>
    if node.kind = .external ∨ ns ∈ expanded then { s with
      representatives := s.representatives.set node.id node.id
      groupedNodes := s.groupedNodes.set node.id node }
    else
      -- every namespace that gets here was named
      let id := (namespaceIds.get? ns).getD "undefined"
      let representatives := s.representatives.set node.id id
      match s.groups.get? id with
      | some group => { s with
          representatives := representatives
          groups := s.groups.set id { group with workloads := group.workloads + 1 } }
      | none =>
        { representatives := representatives
          groups := s.groups.set id { «namespace» := ns, workloads := 1 }
          groupedNodes := s.groupedNodes.set id { node with id := id, name := ns, label := ns } }

def placement (nodes : List GraphNode) (expanded : List String) : Placement :=
  nodes.foldl (placeNode (naming nodes).namespaceIds expanded) {}

/-! ### Edges -/

/-- `JSON.stringify([source_id, target_id, protocol, destination_port])`. -/
def groupedEdgeId (key : EdgeKey) : String :=
  "[" ++ JsonText.quote key.sourceId ++ "," ++ JsonText.quote key.targetId ++ "," ++
    JsonText.quote key.protocol.name ++ "," ++ toString key.destinationPort ++ "]"

/-- The edge with the lower text of two, in code-unit order: `a < b ? a : b`. -/
def lesser (a b : String) : String := if Text.utf16 a < Text.utf16 b then a else b

/-- `a > b ? a : b`. -/
def greater (a b : String) : String := if Text.utf16 b < Text.utf16 a then a else b

/-- What is assigned to an edge that is there. -/
def mergeInto (previous edge : Edge) : Edge :=
  { previous with
    connectionCount := previous.connectionCount + edge.connectionCount
    failedConnectionCount :=
      if previous.failedConnectionCount.isNone && edge.failedConnectionCount.isNone then none
      else some (previous.failedConnectionCount.getD 0 + edge.failedConnectionCount.getD 0)
    connectLatencyCount :=
      some (previous.connectLatencyCount.getD 0 + edge.connectLatencyCount.getD 0)
    connectLatencySumUs :=
      some (previous.connectLatencySumUs.getD 0 + edge.connectLatencySumUs.getD 0)
    firstSeen := lesser previous.firstSeen edge.firstSeen
    lastSeen := greater previous.lastSeen edge.lastSeen }

/-- The copy of an edge that a grouped edge begins as. -/
def copyEdge (key : EdgeKey) (edge : Edge) : Edge :=
  { edge with
    id := groupedEdgeId key
    sourceId := key.sourceId
    targetId := key.targetId
    connectLatencyCount := some (edge.connectLatencyCount.getD 0)
    connectLatencySumUs := some (edge.connectLatencySumUs.getD 0)
    bytesSent := none
    bytesReceived := none }

/-- Between which representatives an edge goes; none if one is missing, or is the empty text. -/
def landing (representatives : Dict String String) (edge : Edge) : Option EdgeKey :=
  match representatives.get? edge.sourceId, representatives.get? edge.targetId with
  | some source, some target =>
    if source = "" ∨ target = "" then none
    else some ⟨source, target, edge.protocol, edge.destinationPort⟩
  | _, _ => none

/-- The heap of edges and `groupedEdges`, which refers to it. -/
structure Grouping where
  heap : List Edge
  groupedEdges : Dict String Nat := .empty

/-- One pass of the loop over the edges, each given by its place on the heap. -/
def groupEdge (representatives : Dict String String) (s : Grouping) (ref : Nat) : Grouping :=
  match s.heap[ref]? with
  | none => s
  | some edge =>
    match landing representatives edge with
    | none => s
    | some key =>
      match s.groupedEdges.get? (groupedEdgeId key) with
      | some previous => { s with heap := s.heap.modify previous (fun p => mergeInto p edge) }
      | none =>
        { heap := s.heap ++ [copyEdge key edge]
          groupedEdges := s.groupedEdges.set (groupedEdgeId key) s.heap.length }

/-- What `groupTopology` returns, with the heap it leaves. -/
structure Topology where
  nodes : List GraphNode
  edges : List Nat
  groups : Dict String NamespaceGroup
  heap : List Edge

/-- The edges that a result refers to. -/
def Topology.edgeValues (t : Topology) : List Edge := t.edges.filterMap (fun ref => t.heap[ref]?)

/-- `groupTopology`. -/
def groupTopology (nodes : List GraphNode) (heap : List Edge) (edges : List Nat)
    (expanded : List String) : Topology :=
  let placed := placement nodes expanded
  let grouped := edges.foldl (groupEdge placed.representatives) { heap := heap }
  { nodes := placed.groupedNodes.entries.map Prod.snd
    edges := grouped.groupedEdges.entries.map Prod.snd
    groups := placed.groups
    heap := grouped.heap }

/-- `focusTopology`. -/
def focusTopology (nodes : List GraphNode) (edges : List Edge) (selectedId : String) :
    List GraphNode × List Edge :=
  let incident := edges.filter (fun e => e.sourceId = selectedId ∨ e.targetId = selectedId)
  let ids := selectedId :: incident.flatMap (fun e => [e.sourceId, e.targetId])
  (nodes.filter (fun n => n.id ∈ ids), incident)

/-! ### What the ids of groups are -/

/-- An id that is made fresh is not reserved, and differs by underscores in front. -/
theorem freshId_spec (reserved : List String) (id : String) :
    freshId reserved id ∉ reserved ∧
      ∃ k, freshId reserved id = String.ofList (List.replicate k '_') ++ id := by
  fun_induction freshId reserved id with
  | case1 id hid ih =>
    obtain ⟨hfresh, k, hk⟩ := ih
    refine ⟨hfresh, k + 1, ?_⟩
    rw [hk, List.replicate_succ', String.ofList_append, String.append_assoc]
  | case2 id hid => exact ⟨hid, 0, by simp⟩

/-- What is known of the ids after some namespaces. -/
structure Named (nodeIds done : List String) (s : Naming) : Prop where
  reserved : ∀ r, r ∈ s.reserved ↔ r ∈ nodeIds ∨ ∃ ns, s.namespaceIds.get? ns = some r
  named : ∀ ns, ns ∈ done ↔ ∃ id, s.namespaceIds.get? ns = some id
  apart : ∀ ns id, s.namespaceIds.get? ns = some id → id ∉ nodeIds
  distinct : ∀ ns ns' id, s.namespaceIds.get? ns = some id → s.namespaceIds.get? ns' = some id →
    ns = ns'
  shape : ∀ ns id, s.namespaceIds.get? ns = some id →
    ∃ k, id = String.ofList (List.replicate k '_') ++ ("namespace:" ++ JsonText.quote ns)

theorem Named.step {nodeIds done : List String} {s : Naming} (h : Named nodeIds done s)
    {ns : String} (hns : ns ∉ done) : Named nodeIds (done ++ [ns]) (nameNamespace s ns) := by
  obtain ⟨hfresh, k, hk⟩ := freshId_spec s.reserved ("namespace:" ++ JsonText.quote ns)
  unfold nameNamespace
  set id := freshId s.reserved ("namespace:" ++ JsonText.quote ns)
  have hnew : s.namespaceIds.get? ns = none := by
    cases hget : s.namespaceIds.get? ns with
    | none => rfl
    | some id' => exact absurd ((h.named ns).mpr ⟨id', hget⟩) hns
  have hold : ∀ ns' id', s.namespaceIds.get? ns' = some id' → id' ≠ id := by
    intro ns' id' hget heq
    exact hfresh ((h.reserved id).mpr (.inr ⟨ns', heq ▸ hget⟩))
  constructor
  · intro r
    rw [List.mem_cons, h.reserved r]
    simp only [Dict.get?_set]
    constructor
    · intro hr
      rcases hr with rfl | hr | ⟨ns', hget⟩
      · exact .inr ⟨ns, if_pos rfl⟩
      · exact .inl hr
      · refine .inr ⟨ns', ?_⟩
        rw [if_neg]
        · exact hget
        · rintro rfl
          rw [hnew] at hget
          cases hget
    · intro hr
      rcases hr with hr | ⟨ns', hget⟩
      · exact .inr (.inl hr)
      · split at hget
        · exact .inl (Option.some.inj hget).symm
        · exact .inr (.inr ⟨ns', hget⟩)
  · intro ns'
    rw [List.mem_append, List.mem_singleton, h.named ns']
    simp only [Dict.get?_set]
    by_cases heq : ns' = ns
    · simp [heq]
    · simp [heq]
  · refine Dict.forall_set h.apart ?_
    intro hmem
    exact hfresh ((h.reserved id).mpr (.inl hmem))
  · intro ns₁ ns₂ id' h₁ h₂
    rcases Dict.get?_set_eq_some.mp h₁ with ⟨hn₁, rfl⟩ | ⟨-, hold₁⟩
    · rcases Dict.get?_set_eq_some.mp h₂ with ⟨hn₂, -⟩ | ⟨-, hold₂⟩
      · rw [hn₁, hn₂]
      · exact absurd rfl (hold ns₂ _ hold₂)
    · rcases Dict.get?_set_eq_some.mp h₂ with ⟨-, rfl⟩ | ⟨-, hold₂⟩
      · exact absurd rfl (hold ns₁ _ hold₁)
      · exact h.distinct ns₁ ns₂ id' hold₁ hold₂
  · exact Dict.forall_set h.shape ⟨k, hk⟩

theorem mem_groupedNamespaces {nodes : List GraphNode} {ns : String} :
    ns ∈ groupedNamespaces nodes ↔ ∃ n ∈ nodes, n.kind ≠ .external ∧ n.namespace = some ns := by
  unfold groupedNamespaces
  rw [mem_sortOn, mem_foldl_appendNew]
  simp [and_assoc]

/-- Naming distinct namespaces, one after the other. -/
theorem Named.foldl {nodeIds : List String} (l : List String) {done : List String} {s : Naming}
    (h : Named nodeIds done s) (hnodup : (done ++ l).Nodup) :
    Named nodeIds (done ++ l) (l.foldl nameNamespace s) := by
  induction l generalizing done s with
  | nil => simpa using h
  | cons ns l ih =>
    have hns : ns ∉ done := fun hmem =>
      (List.nodup_append.mp hnodup).2.2 ns hmem ns List.mem_cons_self rfl
    rw [List.append_cons] at hnodup ⊢
    exact ih (h.step hns) hnodup

theorem named_naming (nodes : List GraphNode) :
    Named (nodes.map GraphNode.id) (groupedNamespaces nodes) (naming nodes) := by
  have hnodup : (groupedNamespaces nodes).Nodup :=
    (sortOn_perm _ _).nodup_iff.mpr (nodup_foldl_appendNew List.nodup_nil)
  have hstart : Named (nodes.map GraphNode.id) [] { reserved := nodes.map GraphNode.id } := by
    constructor <;> simp
  exact hstart.foldl (groupedNamespaces nodes) hnodup

/-! ### Which node shows which -/

/-- The namespace whose group a node is shown as. -/
def collapsedInto (expanded : List String) (n : GraphNode) : Option String :=
  if n.kind = .external then none else n.namespace.filter (fun ns => ns ∉ expanded)

/-- The id under which a node is shown. -/
def representative (nodes : List GraphNode) (expanded : List String) (n : GraphNode) : String :=
  match collapsedInto expanded n with
  | none => n.id
  | some ns => ((naming nodes).namespaceIds.get? ns).getD "undefined"

/-- What traffic is attributed to: a namespace, or a node that is in none. -/
inductive Home where
  | node (id : String)
  | «namespace» (name : String)
  deriving DecidableEq

def home (n : GraphNode) : Home :=
  match n.namespace with
  | none => .node n.id
  | some ns => if n.kind = .external then .node n.id else .namespace ns

theorem collapsedInto_eq_some {expanded : List String} {n : GraphNode} {ns : String} :
    collapsedInto expanded n = some ns ↔
      n.kind ≠ .external ∧ n.namespace = some ns ∧ ns ∉ expanded := by
  unfold collapsedInto
  split
  · next hkind => simp [hkind]
  · next hkind => simp [hkind, Option.filter_eq_some_iff]

theorem home_of_collapsedInto {expanded : List String} {n : GraphNode} {ns : String}
    (h : collapsedInto expanded n = some ns) : home n = .namespace ns := by
  obtain ⟨hkind, hns, _⟩ := collapsedInto_eq_some.mp h
  rw [home, hns]
  exact if_neg hkind

section placement
variable {nodes : List GraphNode} {expanded : List String}

/-- The group of a namespace has an id, and this is what the namespace's nodes are shown as. -/
theorem representative_of_collapsedInto {n : GraphNode} (hn : n ∈ nodes) {ns : String}
    (h : collapsedInto expanded n = some ns) :
    (naming nodes).namespaceIds.get? ns = some (representative nodes expanded n) := by
  obtain ⟨hkind, hns, _⟩ := collapsedInto_eq_some.mp h
  obtain ⟨id, hid⟩ := ((named_naming nodes).named ns).mp
    (mem_groupedNamespaces.mpr ⟨n, hn, hkind, hns⟩)
  simp only [representative, h, hid, Option.getD_some]

theorem representative_of_shown {n : GraphNode} (h : collapsedInto expanded n = none) :
    representative nodes expanded n = n.id := by
  rw [representative, h]

/-- A shown node is never confused with a group. -/
theorem representative_ne {n m : GraphNode} (hn : n ∈ nodes) (hm : m ∈ nodes) {ns : String}
    (h : collapsedInto expanded n = some ns) : representative nodes expanded n ≠ m.id := by
  intro heq
  refine (named_naming nodes).apart ns _ (representative_of_collapsedInto hn h) ?_
  rw [heq]
  exact List.mem_map_of_mem hm

/-- Nodes that are shown as one are of one home. -/
theorem home_eq_of_representative_eq (hids : (nodes.map GraphNode.id).Nodup) {n m : GraphNode}
    (hn : n ∈ nodes) (hm : m ∈ nodes)
    (h : representative nodes expanded n = representative nodes expanded m) : home n = home m := by
  cases hcn : collapsedInto expanded n with
  | none =>
    cases hcm : collapsedInto expanded m with
    | none =>
      rw [representative_of_shown hcn, representative_of_shown hcm] at h
      rw [List.inj_on_of_nodup_map hids hn hm h]
    | some ns =>
      rw [representative_of_shown hcn] at h
      exact absurd h.symm (representative_ne hm hn hcm)
  | some ns =>
    cases hcm : collapsedInto expanded m with
    | none =>
      rw [representative_of_shown hcm] at h
      exact absurd h (representative_ne hn hm hcn)
    | some ns' =>
      have hget := representative_of_collapsedInto hn hcn
      rw [h] at hget
      have hns : ns = ns' := (named_naming nodes).distinct ns ns' _ hget
        (representative_of_collapsedInto hm hcm)
      rw [home_of_collapsedInto hcn, home_of_collapsedInto hcm, hns]

/-! ### The loop over the nodes -/

theorem placeNode_shown {n : GraphNode} (h : collapsedInto expanded n = none)
    (namespaceIds : Dict String String) (s : Placement) :
    placeNode namespaceIds expanded s n = { s with
      representatives := s.representatives.set n.id n.id
      groupedNodes := s.groupedNodes.set n.id n } := by
  unfold placeNode
  unfold collapsedInto at h
  cases hns : n.namespace with
  | none => rfl
  | some ns =>
    rw [hns] at h
    refine if_pos ?_
    by_cases hkind : n.kind = .external
    · exact .inl hkind
    · rw [if_neg hkind, Option.filter_eq_none_iff] at h
      exact .inr (by simpa using h)

theorem placeNode_collapsed {n : GraphNode} {ns : String}
    (h : collapsedInto expanded n = some ns) {namespaceIds : Dict String String} {id : String}
    (hid : namespaceIds.get? ns = some id) (s : Placement) :
    placeNode namespaceIds expanded s n =
      match s.groups.get? id with
      | some group => { s with
          representatives := s.representatives.set n.id id
          groups := s.groups.set id { group with workloads := group.workloads + 1 } }
      | none =>
        { representatives := s.representatives.set n.id id
          groups := s.groups.set id { «namespace» := ns, workloads := 1 }
          groupedNodes := s.groupedNodes.set id { n with id := id, name := ns, label := ns } } := by
  obtain ⟨hkind, hns, hexp⟩ := collapsedInto_eq_some.mp h
  unfold placeNode
  rw [hns]
  simp only
  rw [if_neg (by simp [hkind, hexp]), hid]
  rfl

/-- The nodes that are counted in groups. -/
def collapsed (expanded : List String) (nodes : List GraphNode) : List GraphNode :=
  nodes.filter (fun n => (collapsedInto expanded n).isSome)

/-- The workloads of all groups. -/
def workloads (groups : Dict String NamespaceGroup) : Nat :=
  (groups.entries.map (fun e => e.2.workloads)).sum

theorem workloads_set_of_some {groups : Dict String NamespaceGroup} {id : String}
    {group : NamespaceGroup} (h : groups.get? id = some group) :
    workloads (groups.set id { group with workloads := group.workloads + 1 }) =
      workloads groups + 1 := by
  obtain ⟨rest, hold, hnew, _⟩ :=
    Dict.set_perm_of_get? { group with workloads := group.workloads + 1 } h
  unfold workloads
  rw [(hold.map _).sum_eq, (hnew.map _).sum_eq]
  simp only [List.map_cons, List.sum_cons]
  omega

theorem workloads_set_of_none {groups : Dict String NamespaceGroup} {id ns : String}
    (h : groups.get? id = none) :
    workloads (groups.set id { «namespace» := ns, workloads := 1 }) = workloads groups + 1 := by
  unfold workloads
  rw [Dict.set_entries_of_get?_none _ h]
  simp

variable (nodes expanded)

/-- What is known after the loop has passed some of the nodes. -/
structure NodesPlaced (done : List GraphNode) (s : Placement) : Prop where
  representatives : ∀ n ∈ done,
    s.representatives.get? n.id = some (representative nodes expanded n)
  listed : ∀ id r, s.representatives.get? id = some r → ∃ n ∈ done, n.id = id
  shownId : ∀ id v, s.groupedNodes.get? id = some v → v.id = id
  shown : ∀ n ∈ done, ∃ v,
    s.groupedNodes.get? (representative nodes expanded n) = some v ∧ home v = home n
  groups : ∀ id g, s.groups.get? id = some g → ∃ n ∈ done, representative nodes expanded n = id
  workloads : workloads s.groups = (collapsed expanded done).length

variable {nodes expanded} {done : List GraphNode} {s : Placement}

/-- `representatives` after one more node, whatever it is shown as. -/
theorem NodesPlaced.representatives_set (h : NodesPlaced nodes expanded done s) {n : GraphNode}
    (hfresh : n.id ∉ done.map GraphNode.id) {r : String}
    (hr : r = representative nodes expanded n) :
    (∀ m ∈ done ++ [n], (s.representatives.set n.id r).get? m.id =
      some (representative nodes expanded m)) ∧
    ∀ id r', (s.representatives.set n.id r).get? id = some r' → ∃ m ∈ done ++ [n], m.id = id := by
  constructor
  · intro m hm
    rw [Dict.get?_set]
    rcases List.mem_append.mp hm with hm | hm
    · have hne : m.id ≠ n.id := fun heq => hfresh (heq ▸ List.mem_map_of_mem hm)
      rw [if_neg hne]
      exact h.representatives m hm
    · rw [List.mem_singleton.mp hm, if_pos rfl, hr]
  · refine Dict.forall_set ?_ ⟨n, by simp, rfl⟩
    intro id r' hget
    obtain ⟨m, hm, hmid⟩ := h.listed id r' hget
    exact ⟨m, List.mem_append_left _ hm, hmid⟩

/-- `groupedNodes` after a node that stands for itself or begins a group. -/
theorem NodesPlaced.shown_set (hids : (nodes.map GraphNode.id).Nodup) (h : NodesPlaced nodes expanded done s)
    {n : GraphNode} (hsub : ∀ m ∈ done ++ [n], m ∈ nodes) {v : GraphNode}
    (hv : v.id = representative nodes expanded n) (hhome : home v = home n) :
    (∀ id w, (s.groupedNodes.set v.id v).get? id = some w → w.id = id) ∧
    ∀ m ∈ done ++ [n], ∃ w,
      (s.groupedNodes.set v.id v).get? (representative nodes expanded m) = some w ∧
        home w = home m := by
  constructor
  · exact Dict.forall_set h.shownId rfl
  · intro m hm
    rw [Dict.get?_set]
    split
    · next heq =>
      refine ⟨v, rfl, ?_⟩
      rw [hhome]
      exact home_eq_of_representative_eq hids (hsub n (by simp)) (hsub m hm) (hv ▸ heq).symm
    · next hne =>
      rcases List.mem_append.mp hm with hm | hm
      · exact h.shown m hm
      · rw [List.mem_singleton.mp hm, hv] at hne
        exact absurd rfl hne

theorem NodesPlaced.step (hids : (nodes.map GraphNode.id).Nodup) (h : NodesPlaced nodes expanded done s)
    {n : GraphNode} (hsub : ∀ m ∈ done ++ [n], m ∈ nodes)
    (hfresh : n.id ∉ done.map GraphNode.id) :
    NodesPlaced nodes expanded (done ++ [n])
      (placeNode (naming nodes).namespaceIds expanded s n) := by
  have hn : n ∈ nodes := hsub n (by simp)
  have hgroups : ∀ id g, s.groups.get? id = some g →
      ∃ m ∈ done ++ [n], representative nodes expanded m = id := by
    intro id g hget
    obtain ⟨m, hm, hrep⟩ := h.groups id g hget
    exact ⟨m, List.mem_append_left _ hm, hrep⟩
  -- a group that is begun or grows is the one of `n`
  have hset : ∀ id g', id = representative nodes expanded n → ∀ id' g,
      (s.groups.set id g').get? id' = some g →
      ∃ m ∈ done ++ [n], representative nodes expanded m = id' := by
    intro id g' hid
    exact Dict.forall_set hgroups ⟨n, by simp, hid.symm⟩
  cases hc : collapsedInto expanded n with
  | none =>
    have hrep : n.id = representative nodes expanded n := (representative_of_shown hc).symm
    obtain ⟨hreps, hlisted⟩ := h.representatives_set hfresh hrep
    obtain ⟨hshownId, hshown⟩ := h.shown_set hids hsub hrep rfl
    rw [placeNode_shown hc]
    refine ⟨hreps, hlisted, hshownId, hshown, hgroups, ?_⟩
    simp [h.workloads, collapsed, hc]
  | some ns =>
    have hid := representative_of_collapsedInto hn hc
    obtain ⟨hreps, hlisted⟩ := h.representatives_set hfresh rfl
    have hcount : (collapsed expanded (done ++ [n])).length =
        (collapsed expanded done).length + 1 := by
      simp [collapsed, hc]
    rw [placeNode_collapsed hc hid]
    cases hget : s.groups.get? (representative nodes expanded n) with
    | some group =>
      refine ⟨hreps, hlisted, h.shownId, ?_, hset _ _ rfl, ?_⟩
      · intro m hm
        rcases List.mem_append.mp hm with hm | hm
        · exact h.shown m hm
        · -- the node that began the group is of the same home
          obtain ⟨m', hm', hrep⟩ := h.groups _ group hget
          obtain ⟨v, hv, hhome⟩ := h.shown m' hm'
          rw [List.mem_singleton.mp hm, ← hrep]
          refine ⟨v, hv, hhome.trans ?_⟩
          exact home_eq_of_representative_eq hids (hsub m' (by simp [hm'])) hn hrep
      · rw [workloads_set_of_some hget, hcount, h.workloads]
    | none =>
      have hhome : home { n with
          id := representative nodes expanded n, name := ns, label := ns } = home n := by
        obtain ⟨hkind, hns, _⟩ := collapsedInto_eq_some.mp hc
        simp only [home, hns, if_neg hkind]
      obtain ⟨hshownId, hshown⟩ := h.shown_set hids hsub rfl hhome
      refine ⟨hreps, hlisted, hshownId, hshown, hset _ _ rfl, ?_⟩
      rw [workloads_set_of_none hget, hcount, h.workloads]

theorem NodesPlaced.foldl (hids : (nodes.map GraphNode.id).Nodup) (l : List GraphNode)
    (h : NodesPlaced nodes expanded done s) (hall : done ++ l = nodes) :
    NodesPlaced nodes expanded nodes
      (l.foldl (placeNode (naming nodes).namespaceIds expanded) s) := by
  induction l generalizing done s with
  | nil =>
    rw [List.append_nil] at hall
    exact hall ▸ h
  | cons n l ih =>
    rw [List.append_cons] at hall
    have hsub : ∀ m ∈ done ++ [n], m ∈ nodes := fun m hm => hall ▸ List.mem_append_left l hm
    have hfresh : n.id ∉ done.map GraphNode.id := by
      intro hmem
      rw [← hall, List.map_append, List.map_append, List.append_assoc] at hids
      exact (List.nodup_append.mp hids).2.2 n.id hmem n.id (by simp) rfl
    exact ih (h.step hids hsub hfresh) hall

variable (expanded) in
/-- What the loop over the nodes leaves. -/
theorem placed_placement (hids : (nodes.map GraphNode.id).Nodup) :
    NodesPlaced nodes expanded nodes (placement nodes expanded) := by
  have hstart : NodesPlaced nodes expanded [] {} := by
    constructor
    case workloads => rfl
    all_goals simp
  exact hstart.foldl hids nodes rfl

end placement

end TopologyVisualizer.Frontend
