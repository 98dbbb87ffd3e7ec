import TopologyVisualizer.Agent.Resolver
import TopologyVisualizer.Framework.Dict

/-! # The Informer Caches

    `agent/internal/resolver/informers.go`: the `Caches` interface on top of
    indexed stores of Kubernetes objects.

    A store is the list of its objects in the order an index would return
    them, which client-go leaves open. Indexes are keyed by text: `string`
    stands for `netip.Addr.String` and `parseAddr` for `netip.ParseAddr`,
    and nothing here depends on what they compute.
-/

namespace TopologyVisualizer.Agent

/-! ### Objects -/

/-- `metav1.OwnerReference`. -/
structure OwnerReference where
  kind : String
  name : String
  controller : Option Bool
  deriving DecidableEq

/-- What the agent reads of a `corev1.Pod`. -/
structure Pod where
  «namespace» : String
  name : String
  ownerReferences : List OwnerReference
  nodeName : String
  podIP : String
  podIPs : List String
  deriving DecidableEq

/-- What the agent reads of a `corev1.Service`. -/
structure Service where
  «namespace» : String
  name : String
  clusterIP : String
  clusterIPs : List String
  deriving DecidableEq

/-- One entry of an EndpointSlice. -/
structure SliceEndpoint where
  ready : Option Bool
  addresses : List String
  deriving DecidableEq

/-- What the agent reads of a `discoveryv1.EndpointSlice`; an absent label is blank. -/
structure EndpointSlice where
  «namespace» : String
  serviceName : String
  endpoints : List SliceEndpoint
  ports : List (Option Int)
  deriving DecidableEq

/-- `corev1.NodeAddressType`, as far as it is told apart. -/
inductive NodeAddressType where
  | internalIP
  | externalIP
  | other
  deriving DecidableEq

/-- What the agent reads of a `corev1.Node`. -/
structure Node where
  addresses : List (NodeAddressType × String)
  deriving DecidableEq

/-- What the agent reads of an `appsv1.ReplicaSet`. -/
structure ReplicaSet where
  «namespace» : String
  name : String
  ownerReferences : List OwnerReference
  deriving DecidableEq

/-- `InformerCaches`: the content of the stores. -/
structure InformerCaches where
  pods : List Pod
  services : List Service
  endpointSlices : List EndpointSlice
  nodes : List Node
  replicaSets : List ReplicaSet

/-! ### Index functions -/

/-- `podIPIndex`: a pod is found under all its addresses once it has a first one. -/
def podIPIndex (pod : Pod) : List String :=
  if pod.podIP = "" then []
  else pod.podIP :: pod.podIPs.filter (fun ip => ip ≠ "" ∧ ip ≠ pod.podIP)

/-- `corev1.ClusterIPNone`. -/
def clusterIPNone : String := "None"

/-- `clusterIPIndex`: headless Services have no address to match. -/
def clusterIPIndex (svc : Service) : List String :=
  let ips := svc.clusterIPs.filter (fun ip => ip ≠ "" ∧ ip ≠ clusterIPNone)
  if ips.length = 0 ∧ svc.clusterIP ≠ "" ∧ svc.clusterIP ≠ clusterIPNone then [svc.clusterIP]
  else ips

/-- Whether an endpoint counts as serving. -/
def SliceEndpoint.serving (endpoint : SliceEndpoint) : Bool := endpoint.ready ≠ some false

/-- `endpointAddressIndex`. -/
def endpointAddressIndex (slice : EndpointSlice) : List String :=
  (slice.endpoints.filter SliceEndpoint.serving).flatMap SliceEndpoint.addresses

/-- `endpointServiceIndex`. -/
def endpointServiceIndex (slice : EndpointSlice) : List String :=
  if slice.serviceName = "" then [] else [slice.namespace ++ "/" ++ slice.serviceName]

/-- `nodeIPIndex`. -/
def nodeIPIndex (node : Node) : List String :=
  (node.addresses.filter (fun a => a.1 = .internalIP ∨ a.1 = .externalIP)).map Prod.snd

/-- `ByIndex`: the objects an index function files under a key. -/
def byIndex {α : Type} (index : α → List String) (objs : List α) (key : String) : List α :=
  objs.filter (fun obj => key ∈ index obj)

/-! ### The lookups -/

/-- `controllerOf`: the controlling owner, blank when there is none. -/
def controllerOf (refs : List OwnerReference) : OwnerRef :=
  match refs.find? (fun ref => ref.controller = some true) with
  | some ref => ⟨ref.kind, ref.name⟩
  | none => ⟨"", ""⟩

/-- `sliceHasPort`: no ports at all, or a port without a number, stands for every port. -/
def sliceHasPort (slice : EndpointSlice) (port : UInt16) : Bool :=
  slice.ports.length = 0 ∨ slice.ports.any (fun p => p = none ∨ p = some (port.toNat : Int))

namespace InformerCaches

variable (string : Addr → String) (parseAddr : String → Option Addr) (c : InformerCaches)

/-- `PodByIP`: the first pod listed under the address. -/
def podByIP (ip : Addr) : Option PodRef :=
  (byIndex podIPIndex c.pods (string ip)).head?.map (fun pod =>
    { «namespace» := pod.namespace, name := pod.name, owner := controllerOf pod.ownerReferences })

/-- `NodeForPodIP`: the node of the first pod listed under the address, once it is scheduled. -/
def nodeForPodIP (ip : Addr) : Option String :=
  (byIndex podIPIndex c.pods (string ip)).head?.bind (fun pod =>
    if pod.nodeName = "" then none else some pod.nodeName)

/-- `ServiceByClusterIP`. -/
def serviceByClusterIP (ip : Addr) : Option ServiceRef :=
  (byIndex clusterIPIndex c.services (string ip)).head?.map (fun svc => ⟨svc.namespace, svc.name⟩)

/-- `ServicesForEndpoint`. -/
def servicesForEndpoint (ip : Addr) (port : UInt16) : List ServiceRef :=
  (byIndex endpointAddressIndex c.endpointSlices (string ip)).foldl (fun found slice =>
    if slice.serviceName = "" then found
    else if !sliceHasPort slice port then found
    else appendNew found ⟨slice.namespace, slice.serviceName⟩) []

/-- `EndpointsForService`. -/
def endpointsForService (svc : ServiceRef) : List Addr :=
  ((byIndex endpointServiceIndex c.endpointSlices (svc.namespace ++ "/" ++ svc.name)).flatMap
    (fun slice => (endpointAddressIndex slice).filterMap parseAddr)).foldl appendNew []

/-- `ResolveOwner`: from a ReplicaSet to what controls it. -/
def resolveOwner (ns : String) (owner : OwnerRef) : Option OwnerRef :=
  if owner.kind ≠ "ReplicaSet" then none
  else match c.replicaSets.find? (fun rs => rs.namespace ++ "/" ++ rs.name = ns ++ "/" ++ owner.name) with
    | none => none
    | some rs =>
      if (controllerOf rs.ownerReferences).kind = "" then none
      else some (controllerOf rs.ownerReferences)

/-- `IsNodeIP`. -/
def isNodeIP (ip : Addr) : Bool := byIndex nodeIPIndex c.nodes (string ip) ≠ []

/-- The stores as the resolver reads them. -/
def caches : Caches where
  podByIP := c.podByIP string
  serviceByClusterIP := c.serviceByClusterIP string
  servicesForEndpoint := c.servicesForEndpoint string
  endpointsForService := c.endpointsForService parseAddr
  nodeForPodIP := c.nodeForPodIP string
  resolveOwner := c.resolveOwner
  isNodeIP := c.isNodeIP string

end InformerCaches

/-! ### The order of the pods -/

/-- No two pods are listed under one address. -/
def InformerCaches.PodsApart (c : InformerCaches) : Prop :=
  c.pods.Pairwise (fun p q => ∀ ip ∈ podIPIndex p, ip ∉ podIPIndex q)

section apart
variable {α : Type} {index : α → List String} {objs : List α} {key : String}

theorem mem_byIndex {obj : α} : obj ∈ byIndex index objs key ↔ obj ∈ objs ∧ key ∈ index obj := by
  simp [byIndex]

theorem byIndex_eq_nil (h : ∀ obj ∈ objs, key ∉ index obj) : byIndex index objs key = [] := by
  rw [List.eq_nil_iff_forall_not_mem]
  intro obj hobj
  obtain ⟨hmem, hkey⟩ := mem_byIndex.mp hobj
  exact h obj hmem hkey

/-- Of objects that share no key, at most one is listed under a key. -/
theorem byIndex_of_apart (hapart : objs.Pairwise (fun a b => ∀ k ∈ index a, k ∉ index b))
    (key : String) :
    byIndex index objs key = [] ∨ ∃ obj, byIndex index objs key = [obj] := by
  have hpair : (byIndex index objs key).Pairwise (fun a b => ∀ k ∈ index a, k ∉ index b) :=
    hapart.sublist List.filter_sublist
  have hmem : ∀ obj ∈ byIndex index objs key, key ∈ index obj := by
    intro obj hobj
    exact (mem_byIndex.mp hobj).2
  cases hfound : byIndex index objs key with
  | nil => exact .inl rfl
  | cons a rest =>
    cases rest with
    | nil => exact .inr ⟨a, rfl⟩
    | cons b rest =>
      rw [hfound] at hpair hmem
      have hclash := (List.pairwise_cons.mp hpair).1 b List.mem_cons_self key
        (hmem a List.mem_cons_self)
      exact absurd (hmem b (by simp)) hclash

/-- The object that has a key is the one listed under it. -/
theorem byIndex_eq_singleton (hapart : objs.Pairwise (fun a b => ∀ k ∈ index a, k ∉ index b))
    {obj : α} (hobj : obj ∈ objs) (hkey : key ∈ index obj) : byIndex index objs key = [obj] := by
  have hmem : obj ∈ byIndex index objs key := mem_byIndex.mpr ⟨hobj, hkey⟩
  rcases byIndex_of_apart hapart key with hnone | ⟨found, hone⟩
  · rw [hnone] at hmem
    exact absurd hmem List.not_mem_nil
  · rw [hone] at hmem ⊢
    rw [List.mem_singleton.mp hmem]

/-- So which one an index lists first does not depend on its order. -/
theorem head?_byIndex_perm {objs' : List α} (hperm : objs'.Perm objs)
    (hapart : objs.Pairwise (fun a b => ∀ k ∈ index a, k ∉ index b)) (key : String) :
    (byIndex index objs' key).head? = (byIndex index objs key).head? := by
  have hfound : (byIndex index objs' key).Perm (byIndex index objs key) := hperm.filter _
  rcases byIndex_of_apart hapart key with hnone | ⟨obj, hone⟩
  · rw [hnone] at hfound ⊢
    rw [hfound.eq_nil]
  · rw [hone] at hfound ⊢
    rw [List.perm_singleton.mp hfound]

end apart

/-- Agents that list the same pods in different orders resolve alike. -/
theorem InformerCaches.caches_perm (string : Addr → String) (parseAddr : String → Option Addr)
    {c : InformerCaches} (hapart : c.PodsApart) {pods : List Pod} (hperm : pods.Perm c.pods) :
    ({ c with pods := pods } : InformerCaches).caches string parseAddr =
      c.caches string parseAddr := by
  have hpod : ({ c with pods := pods } : InformerCaches).podByIP string = c.podByIP string := by
    funext ip
    unfold podByIP
    rw [head?_byIndex_perm hperm hapart]
  have hnode : ({ c with pods := pods } : InformerCaches).nodeForPodIP string =
      c.nodeForPodIP string := by
    funext ip
    unfold nodeForPodIP
    rw [head?_byIndex_perm hperm hapart]
  unfold caches
  rw [hpod, hnode]
  rfl

/-- When every pod is scheduled, an address without a node has no pod. -/
theorem InformerCaches.podByIP_eq_none (string : Addr → String) {c : InformerCaches}
    (hscheduled : ∀ pod ∈ c.pods, pod.nodeName ≠ "") {ip : Addr}
    (h : c.nodeForPodIP string ip = none) : c.podByIP string ip = none := by
  unfold nodeForPodIP at h
  unfold podByIP
  cases hfound : (byIndex podIPIndex c.pods (string ip)).head? with
  | none => rfl
  | some pod =>
    have hmem : pod ∈ c.pods := (List.mem_filter.mp (List.mem_of_head? hfound)).1
    rw [hfound] at h
    simp [hscheduled pod hmem] at h

/-- The node of an address is the node of one of the pods. -/
theorem InformerCaches.exists_pod_of_node (string : Addr → String) {c : InformerCaches}
    {ip : Addr} {node : String} (h : c.nodeForPodIP string ip = some node) :
    ∃ pod ∈ c.pods, pod.nodeName = node := by
  unfold nodeForPodIP at h
  obtain ⟨pod, hfound, hpod⟩ := Option.bind_eq_some_iff.mp h
  refine ⟨pod, (List.mem_filter.mp (List.mem_of_head? hfound)).1, ?_⟩
  by_cases hblank : pod.nodeName = ""
  · rw [if_pos hblank] at hpod
    cases hpod
  · rw [if_neg hblank] at hpod
    exact Option.some.inj hpod

/-! ### Samples -/

/-- The dotted form of an IPv4 address. -/
def dotted : Addr → String
  | .v4 a b c d =>
    ".".intercalate ([a, b, c, d].map (fun byte => Nat.repr byte.toNat))
  | _ => "invalid IP"

/-- A pod of the StatefulSet `name`. -/
def samplePod (name nodeName podIP : String) : Pod where
  «namespace» := "shop"
  name := name ++ "-0"
  ownerReferences := [⟨"StatefulSet", name, some true⟩]
  nodeName := nodeName
  podIP := podIP
  podIPs := [podIP]

end TopologyVisualizer.Agent
