import TopologyVisualizer.Agent.Fanout

/-! # Attribution

    Whose traffic an address carries when more than one holds it.

    A node address belongs to the node and to every hostNetwork pod on it.
    `ResolveSource` asks for nodes first. `ResolveDestination` asks for pods
    first, and the loop behind a ClusterIP asks for pods only.

    An address of the pod network may still be recorded by pods that have
    terminated when a new pod holds it. The agent never reads the phase of a
    pod, so both are listed under the address, in any order.
-/

namespace TopologyVisualizer.Agent

/-! ### Node addresses -/

namespace Resolver

variable (r : Resolver)

/-- No path names a workload for a node address: not as a source, not as a destination, and not
    as the endpoint that a ClusterIP leads to. -/
structure NodesUnnamed : Prop where
  source : ∀ ip, r.caches.isNodeIP ip → (r.resolveSource ip).class ≠ .workload
  destination : ∀ ip port, r.caches.isNodeIP ip → (r.resolveDestination ip port).class ≠ .workload
  endpoint : ∀ ip svc port, r.caches.serviceByClusterIP ip = some svc →
    (r.resolveDestination ip port).class = .workload →
    ∀ addr ∈ r.caches.endpointsForService svc, r.caches.isNodeIP addr →
      r.workloadAt addr ≠ some (r.resolveDestination ip port)

/-- No pod is on a node address, as far as resolution gets to see: on one that is not a
    ClusterIP, and on one that is an endpoint of a Service that a single workload serves; and
    such a Service is not at a node address itself. -/
structure NodesApart : Prop where
  pod : ∀ ip, r.caches.isNodeIP ip → r.caches.serviceByClusterIP ip = none →
    r.caches.podByIP ip = none
  clusterIP : ∀ ip svc w, r.caches.serviceByClusterIP ip = some svc → r.behind svc = {w} →
    r.caches.isNodeIP ip = false
  endpoint : ∀ ip svc w, r.caches.serviceByClusterIP ip = some svc → r.behind svc = {w} →
    ∀ addr ∈ r.caches.endpointsForService svc, r.caches.isNodeIP addr → r.workloadAt addr = none

variable {r} {ip : Addr} {svc : ServiceRef}

/-- What is behind a Service is a workload. -/
theorem class_of_mem_behind {w : Endpoint} (h : w ∈ r.behind svc) : w.class = .workload := by
  obtain ⟨addr, -, hw⟩ := h
  obtain ⟨pod, -, rfl, -⟩ := r.workloadAt_eq_some_iff.mp hw
  rfl

/-- A ClusterIP resolves to a workload exactly when a single one is behind the Service. -/
theorem class_workload_iff (hsvc : r.caches.serviceByClusterIP ip = some svc) (port : UInt16) :
    (r.resolveDestination ip port).class = .workload ↔ ∃ w, r.behind svc = {w} := by
  constructor
  · intro hclass
    exact ⟨_, (resolveDestination_eq_workload_iff hsvc port hclass).mp rfl⟩
  · intro ⟨w, hset⟩
    have hclass : w.class = .workload := class_of_mem_behind (by rw [hset]; exact Set.mem_singleton w)
    rw [(resolveDestination_eq_workload_iff hsvc port hclass).mpr hset]
    exact hclass

/-- An address that is no ClusterIP resolves to a workload exactly when a pod holds it. -/
theorem class_workload_iff_pod (hsvc : r.caches.serviceByClusterIP ip = none) (port : UInt16) :
    (r.resolveDestination ip port).class = .workload ↔ r.caches.podByIP ip ≠ none := by
  cases hpod : r.caches.podByIP ip with
  | none =>
    have hnot : (r.resolveDestination ip port).class ≠ .workload := by
      simp only [resolveDestination, hsvc, hpod]
      split
      · decide
      · split <;> decide
    simp [hnot]
  | some pod =>
    obtain ⟨candidates, hdestination⟩ := resolveDestination_of_pod hsvc hpod port
    rw [hdestination]
    simp [workloadFor]

/-- A node address is never named as a source. -/
theorem resolveSource_node (h : r.caches.isNodeIP ip) :
    (r.resolveSource ip).class ≠ .workload := by
  unfold resolveSource
  rw [if_pos h]
  decide

end Resolver

/-- **Node addresses**: in every state of the caches, no path names a workload for a node
    address if and only if no pod that resolution can see is on one. -/
theorem nodes_unnamed_iff (r : Resolver) : r.NodesUnnamed ↔ r.NodesApart := by
  constructor
  · intro h
    refine ⟨?_, ?_, ?_⟩
    · intro ip hnode hsvc
      by_contra hpod
      exact h.destination ip 0 hnode ((Resolver.class_workload_iff_pod hsvc 0).mpr hpod)
    · intro ip svc w hsvc hset
      by_contra hnode
      exact h.destination ip 0 (by simpa using hnode)
        ((Resolver.class_workload_iff hsvc 0).mpr ⟨w, hset⟩)
    · intro ip svc w hsvc hset addr haddr hnode
      have hclass := (Resolver.class_workload_iff hsvc 0).mpr ⟨w, hset⟩
      have hset' := (Resolver.resolveDestination_eq_workload_iff hsvc 0 hclass).mp rfl
      by_contra hsome
      obtain ⟨v, hv⟩ := Option.ne_none_iff_exists'.mp hsome
      -- whatever is at an endpoint is the one workload behind the Service
      have hin : v ∈ r.behind svc := ⟨addr, haddr, hv⟩
      rw [hset', Set.mem_singleton_iff] at hin
      rw [hin] at hv
      exact h.endpoint ip svc 0 hsvc hclass addr haddr hnode hv
  · intro h
    refine ⟨fun ip hnode => Resolver.resolveSource_node hnode, ?_, ?_⟩
    · intro ip port hnode hclass
      cases hsvc : r.caches.serviceByClusterIP ip with
      | none => exact (Resolver.class_workload_iff_pod hsvc port).mp hclass (h.pod ip hnode hsvc)
      | some svc =>
        obtain ⟨w, hset⟩ := (Resolver.class_workload_iff hsvc port).mp hclass
        rw [h.clusterIP ip svc w hsvc hset] at hnode
        cases hnode
    · intro ip svc port hsvc hclass addr haddr hnode hat
      obtain ⟨w, hset⟩ := (Resolver.class_workload_iff hsvc port).mp hclass
      rw [h.endpoint ip svc w hsvc hset addr haddr hnode] at hat
      cases hat

/-- A node with `kube-proxy` on its network, and a Service in front of `kube-proxy`. -/
def hostNetworkStores : InformerCaches where
  pods := [{
    «namespace» := "kube-system"
    name := "kube-proxy-x7k2p"
    ownerReferences := [⟨"DaemonSet", "kube-proxy", some true⟩]
    nodeName := "n1"
    podIP := "10.0.0.1"
    podIPs := ["10.0.0.1"] }]
  services := [⟨"kube-system", "kube-proxy", "10.96.0.1", ["10.96.0.1"]⟩]
  endpointSlices := [⟨"kube-system", "kube-proxy", [⟨some true, ["10.0.0.1"]⟩], []⟩]
  nodes := [⟨[(.internalIP, "10.0.0.1")]⟩]
  replicaSets := []

/-- **A node address that names a workload**: a connection to the kubelet's port of the node
    goes to `kube-proxy`, and so does one to the ClusterIP in front of the node address. -/
theorem node_address_names_workload :
    let r : Resolver := ⟨"c", hostNetworkStores.caches dotted fanoutParse⟩
    r.caches.isNodeIP (.v4 10 0 0 1) = true ∧
    (r.resolveDestination (.v4 10 0 0 1) 10250).class = .workload ∧
    (r.resolveDestination (.v4 10 0 0 1) 10250).id = "k8s:c:kube-system:DaemonSet:kube-proxy" ∧
    (r.resolveDestination (.v4 10 96 0 1) 80).class = .workload ∧
    r.caches.endpointsForService ⟨"kube-system", "kube-proxy"⟩ = [.v4 10 0 0 1] := by
  decide +kernel

/-! ### Addresses that are used again -/

/-- `corev1.PodPhase`. -/
inductive PodPhase where
  | pending
  | running
  | succeeded
  | failed
  | unknown
  deriving DecidableEq

/-- A pod with its phase, which the agent does not read. -/
structure CachedPod where
  pod : Pod
  phase : PodPhase
  deriving DecidableEq

namespace CachedPod

def Terminated (p : CachedPod) : Prop := p.phase = .succeeded ∨ p.phase = .failed

instance (p : CachedPod) : Decidable p.Terminated := by
  unfold Terminated
  infer_instance

/-- The key of a pod in its store. -/
def key (p : CachedPod) : String × String := (p.pod.namespace, p.pod.name)

/-- Whether the pod is listed under the address. -/
def Records (string : Addr → String) (ip : Addr) (p : CachedPod) : Prop :=
  string ip ∈ podIPIndex p.pod

end CachedPod

/-- The store of the pod informer: one pod for a namespace and a name. -/
structure PodStore where
  pods : List CachedPod
  keys_nodup : (pods.map CachedPod.key).Nodup

/-- The stores with the pods of the store, listed in some order. -/
def InformerCaches.listing (c : InformerCaches) (order : List CachedPod) : InformerCaches :=
  { c with pods := order.map CachedPod.pod }

/-- Everything the agent derives from the address is about the pod. -/
structure AttributedTo (string : Addr → String) (parseAddr : String → Option Addr)
    (clusterID : String) (c : InformerCaches) (ip : Addr) (p : Pod) : Prop where
  podByIP : c.podByIP string ip = some p.ref
  nodeForPodIP : c.nodeForPodIP string ip = some p.nodeName
  source : (⟨clusterID, c.caches string parseAddr⟩ : Resolver).resolveSource ip =
    (⟨clusterID, c.caches string parseAddr⟩ : Resolver).workloadFor p.ref
  destination : ∀ port,
    ((⟨clusterID, c.caches string parseAddr⟩ : Resolver).resolveDestination ip port).identity =
      ((⟨clusterID, c.caches string parseAddr⟩ : Resolver).workloadFor p.ref).identity
  elsewhere : ∀ nodeName,
    (⟨clusterID, c.caches string parseAddr⟩ : Resolver).originatesElsewhere ip nodeName = true ↔
      nodeName ≠ "" ∧ p.nodeName ≠ nodeName

section reuse
variable {string : Addr → String} {c : InformerCaches} {ip : Addr} {p : Pod}

/-- The first pod listed under an address is whom everything is attributed to. -/
theorem attributedTo_of_head (hplain : c.Plain string ip) (hscheduled : p.nodeName ≠ "")
    (hhead : (byIndex podIPIndex c.pods (string ip)).head? = some p)
    (parseAddr : String → Option Addr) (clusterID : String) :
    AttributedTo string parseAddr clusterID c ip p := by
  have hpod : c.podByIP string ip = some p.ref := by
    unfold InformerCaches.podByIP
    rw [hhead]
    rfl
  have hnode : c.nodeForPodIP string ip = some p.nodeName := by
    unfold InformerCaches.nodeForPodIP
    rw [hhead]
    exact if_neg hscheduled
  refine ⟨hpod, hnode, ?_, ?_, ?_⟩
  · exact Resolver.resolveSource_of_pod hplain.isNodeIP_eq_false hpod
  · intro port
    exact (InformerCaches.identity_of_podByIP hplain hpod parseAddr clusterID port).2
  · intro nodeName
    have hlookup : (⟨clusterID, c.caches string parseAddr⟩ : Resolver).caches.nodeForPodIP ip =
        some p.nodeName := hnode
    unfold Resolver.originatesElsewhere
    rw [hlookup]
    by_cases hname : nodeName = "" <;> simp [hname]

/-- The order of the pods does not change what is a node address or a ClusterIP. -/
theorem plain_listing (hplain : c.Plain string ip) (order : List CachedPod) :
    (c.listing order).Plain string ip :=
  ⟨hplain.node, hplain.service⟩

end reuse

/-- **No stale identity**: when exactly one pod that has not terminated, on a node, holds an
    address that is neither a node's nor a ClusterIP, everything is attributed to it in every
    order of the pods if and only if no terminated pod in the store records the address. -/
theorem attributed_to_live_iff (string : Addr → String) (parseAddr : String → Option Addr)
    (clusterID : String) (c : InformerCaches) (store : PodStore) (ip : Addr) (live : CachedPod)
    (hplain : c.Plain string ip) (hmem : live ∈ store.pods) (hlive : ¬ live.Terminated)
    (hholds : live.Records string ip) (hscheduled : live.pod.nodeName ≠ "")
    (honly : ∀ p ∈ store.pods, ¬ p.Terminated → p.Records string ip → p = live) :
    (∀ order : List CachedPod, order.Perm store.pods →
      AttributedTo string parseAddr clusterID (c.listing order) ip live.pod) ↔
    ∀ p ∈ store.pods, p.Terminated → ¬ p.Records string ip := by
  constructor
  · intro hall p hp hterminated hrecords
    -- an indexer may list the terminated pod first
    have horder : (p :: store.pods.erase p).Perm store.pods := (List.perm_cons_erase hp).symm
    have hfirst : (byIndex podIPIndex (c.listing (p :: store.pods.erase p)).pods
        (string ip)).head? = some p.pod := by
      have hin : decide (string ip ∈ podIPIndex p.pod) = true := decide_eq_true hrecords
      simp only [InformerCaches.listing, List.map_cons, byIndex]
      rw [List.filter_cons, if_pos hin, List.head?_cons]
    have hfound := (hall _ horder).podByIP
    unfold InformerCaches.podByIP at hfound
    rw [hfirst] at hfound
    have href : p.pod.ref = live.pod.ref := Option.some.inj hfound
    have hkey : p.key = live.key :=
      Prod.ext (congrArg PodRef.namespace href) (congrArg PodRef.name href)
    have hsame : p = live := List.inj_on_of_nodup_map store.keys_nodup hp hmem hkey
    rw [hsame] at hterminated
    exact hlive hterminated
  · intro hnone order horder
    have hplain' := plain_listing hplain order
    refine attributedTo_of_head hplain' hscheduled ?_ parseAddr clusterID
    -- nothing but the live pod is listed under the address
    have hall : ∀ p ∈ byIndex podIPIndex (c.listing order).pods (string ip), p = live.pod := by
      intro p hp
      obtain ⟨hin, hip⟩ := mem_byIndex.mp hp
      obtain ⟨q, hq, rfl⟩ := List.mem_map.mp hin
      have hq' := horder.subset hq
      by_cases hterminated : q.Terminated
      · exact absurd hip (hnone q hq' hterminated)
      · rw [honly q hq' hterminated hip]
    have hlisted : live.pod ∈ byIndex podIPIndex (c.listing order).pods (string ip) :=
      mem_byIndex.mpr ⟨List.mem_map_of_mem (horder.symm.subset hmem), hholds⟩
    obtain ⟨first, rest, hlist⟩ := List.exists_cons_of_ne_nil (List.ne_nil_of_mem hlisted)
    rw [hlist] at hall ⊢
    rw [List.head?_cons, hall first List.mem_cons_self]

/-- A finished pod of a Job. -/
def finishedPod (podIP : String) : CachedPod where
  pod := {
    «namespace» := "shop"
    name := "report-5t9wq"
    ownerReferences := [⟨"Job", "report", some true⟩]
    nodeName := "n2"
    podIP := podIP
    podIPs := [podIP] }
  phase := .succeeded

/-- `web` runs on an address that no other pod records. -/
theorem attributed_to_live_alone :
    AttributedTo dotted fanoutParse "c"
      (hostNetworkStores.listing [finishedPod "10.244.0.8", ⟨samplePod "web" "n1" "10.244.0.9", .running⟩])
      (.v4 10 244 0 9) (samplePod "web" "n1" "10.244.0.9") := by
  refine (attributed_to_live_iff dotted fanoutParse "c" hostNetworkStores
    ⟨[finishedPod "10.244.0.8", ⟨samplePod "web" "n1" "10.244.0.9", .running⟩], by decide⟩
    (.v4 10 244 0 9) ⟨samplePod "web" "n1" "10.244.0.9", .running⟩ ⟨by decide, by decide⟩
    (by decide) (by decide) (by unfold CachedPod.Records; decide) (by decide)
    (by unfold CachedPod.Records; decide)).mpr ?_ _ (List.Perm.refl _)
  unfold CachedPod.Records
  decide

/-- **A stale identity**: the finished pod of a Job still records the address that `web` now
    runs on, and connections from `web` are attributed to the Job, on another node. -/
theorem finished_pod_named :
    let c := hostNetworkStores.listing
      [finishedPod "10.244.0.9", ⟨samplePod "web" "n1" "10.244.0.9", .running⟩]
    let r : Resolver := ⟨"c", c.caches dotted fanoutParse⟩
    (r.resolveSource (.v4 10 244 0 9)).id = "k8s:c:shop:Job:report" ∧
    (r.resolveDestination (.v4 10 244 0 9) 80).id = "k8s:c:shop:Job:report" ∧
    c.nodeForPodIP dotted (.v4 10 244 0 9) = some "n2" ∧
    r.originatesElsewhere (.v4 10 244 0 9) "n1" = true := by
  decide +kernel

end TopologyVisualizer.Agent
