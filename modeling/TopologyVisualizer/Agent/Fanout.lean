import TopologyVisualizer.Framework.Decoding
import TopologyVisualizer.Agent.Informers

/-! # Service Fan-out

    What a ClusterIP resolves to, in terms of the set of workloads behind
    its Service, and the agreement of the two ends of a connection on the
    identity of a pod.

    The loop of `workloadBehindService` keeps the first workload it meets
    and compares ids. An id that is not blank names its cluster, namespace,
    kind and name (`mustBuildID_inj`), so the loop decides whether the set
    has exactly one element (`workloadBehindService_eq_some_iff`).
-/

namespace TopologyVisualizer.Agent

/-! ### The grammar of ids -/

/-- A text is cut at its first separator in one way. -/
theorem cut_inj {sep : String} {x : Char} (hsep : sep.toList = [x]) {a b a' b' : String}
    (ha : x ∉ a.toList) (ha' : x ∉ a'.toList) (h : a ++ sep ++ b = a' ++ sep ++ b') :
    a = a' ∧ b = b' := by
  have hlist : a.toList ++ x :: b.toList = a'.toList ++ x :: b'.toList := by
    have := congrArg String.toList h
    simpa [hsep] using this
  have hparts := Decoding.split_first ha ha' hlist
  exact ⟨String.toList_inj.mp hparts.1, String.toList_inj.mp hparts.2⟩

namespace Resolver

variable (r : Resolver)

/-- **Ids are injective**: a node id that is not blank names its segments. -/
theorem mustBuildID_inj {ns ns' kind kind' name name' : String}
    (h : r.mustBuildID ns kind name = r.mustBuildID ns' kind' name')
    (hid : r.mustBuildID ns kind name ≠ "") : ns = ns' ∧ kind = kind' ∧ name = name' := by
  have hok : ∀ {a b c : String}, r.mustBuildID a b c ≠ "" →
      IsSegment r.clusterID ∧ IsSegment a ∧ IsSegment b ∧ IsSegment c ∧
        "k8s:" ++ r.clusterID ++ ":" ++ a ++ ":" ++ b ++ ":" ++ c = r.mustBuildID a b c := by
    intro a b c hne
    unfold mustBuildID at hne ⊢
    split
    · next nodeID hbuilt => exact buildNodeID_eq_ok_iff.mp hbuilt
    · next e hbuilt =>
      rw [hbuilt] at hne
      exact absurd rfl hne
  obtain ⟨-, hns, hkind, -, hbuilt⟩ := hok hid
  obtain ⟨-, hns', hkind', -, hbuilt'⟩ := hok (h ▸ hid)
  rw [h, ← hbuilt'] at hbuilt
  -- drop what the two ids begin with, then cut at the separators
  have htail : ns ++ ":" ++ (kind ++ ":" ++ name) = ns' ++ ":" ++ (kind' ++ ":" ++ name') := by
    have hassoc : ∀ a b c : String, "k8s:" ++ r.clusterID ++ ":" ++ a ++ ":" ++ b ++ ":" ++ c =
        "k8s:" ++ r.clusterID ++ ":" ++ (a ++ ":" ++ (b ++ ":" ++ c)) := by
      intro a b c
      simp only [String.append_assoc]
    rw [hassoc, hassoc] at hbuilt
    exact (String.append_right_inj _).mp hbuilt
  obtain ⟨hn, hrest⟩ := cut_inj rfl hns.2 hns'.2 htail
  obtain ⟨hk, hname⟩ := cut_inj rfl hkind.2 hkind'.2 hrest
  exact ⟨hn, hk, hname⟩

/-- Workloads with one id that is not blank are one workload. -/
theorem workloadFor_eq_of_id {p q : PodRef} (h : (r.workloadFor p).id = (r.workloadFor q).id)
    (hid : (r.workloadFor p).id ≠ "") : r.workloadFor p = r.workloadFor q := by
  obtain ⟨hns, hkind, hname⟩ := r.mustBuildID_inj h hid
  have howner : r.topOwner p = r.topOwner q := Prod.ext hkind hname
  unfold workloadFor
  rw [howner, hns]

/-! ### The loop -/

/-- The workload on an address, if there is a pod and its workload has an id. -/
def workloadAt (addr : Addr) : Option Endpoint :=
  ((r.caches.podByIP addr).map r.workloadFor).filter (fun w => w.id ≠ "")

theorem workloadAt_eq_some_iff {addr : Addr} {w : Endpoint} :
    r.workloadAt addr = some w ↔
      ∃ pod, r.caches.podByIP addr = some pod ∧ r.workloadFor pod = w ∧ w.id ≠ "" := by
  simp only [workloadAt, Option.filter_eq_some_iff, Option.map_eq_some_iff, decide_eq_true_eq]
  constructor
  · intro ⟨⟨pod, hpod, hw⟩, hid⟩
    exact ⟨pod, hpod, hw, hid⟩
  · intro ⟨pod, hpod, hw, hid⟩
    exact ⟨⟨pod, hpod, hw⟩, hid⟩

/-- The loop returns the first workload it meets, unless it meets another id. -/
theorem workloadBehind_eq_some_iff {resolved : Option Endpoint} {addrs : List Addr} {w : Endpoint} :
    r.workloadBehind resolved addrs = some w ↔
      (resolved.toList ++ addrs.filterMap r.workloadAt).head? = some w ∧
      ∀ v ∈ resolved.toList ++ addrs.filterMap r.workloadAt, v.id = w.id := by
  induction addrs generalizing resolved with
  | nil => cases resolved <;> simp [workloadBehind]; grind
  | cons addr addrs ih =>
    have hskip : r.workloadAt addr = none →
        (addr :: addrs).filterMap r.workloadAt = addrs.filterMap r.workloadAt := by
      intro hnone
      rw [List.filterMap_cons_none hnone]
    cases hpod : r.caches.podByIP addr with
    | none =>
      rw [hskip (by simp [workloadAt, hpod])]
      simp only [workloadBehind, hpod]
      exact ih
    | some pod =>
      by_cases hblank : (r.workloadFor pod).id = ""
      · rw [hskip (by simp [workloadAt, hpod, hblank])]
        simp only [workloadBehind, hpod, if_pos hblank]
        exact ih
      · have hat : r.workloadAt addr = some (r.workloadFor pod) :=
          r.workloadAt_eq_some_iff.mpr ⟨pod, hpod, rfl, hblank⟩
        rw [List.filterMap_cons_some hat]
        simp only [workloadBehind, hpod, if_neg hblank]
        cases resolved with
        | none => exact ih
        | some found =>
          by_cases hsame : (r.workloadFor pod).id = found.id
          · simp only [hsame, ne_eq, not_true_eq_false, if_false]
            rw [ih]
            simp
            grind
          · simp only [ne_eq, hsame, not_false_eq_true, if_true]
            simp
            grind

/-- The workloads behind a Service. -/
def behind (svc : ServiceRef) : Set Endpoint :=
  {w | ∃ addr ∈ r.caches.endpointsForService svc, r.workloadAt addr = some w}

/-- **The single workload**: the loop answers exactly when one workload is behind the Service. -/
theorem workloadBehindService_eq_some_iff {svc : ServiceRef} {w : Endpoint} :
    r.workloadBehindService svc = some w ↔ r.behind svc = {w} := by
  have hmem : ∀ v, v ∈ r.behind svc ↔
      v ∈ (r.caches.endpointsForService svc).filterMap r.workloadAt := by
    intro v
    rw [List.mem_filterMap]
    rfl
  have hinj : ∀ v ∈ r.behind svc, ∀ u ∈ r.behind svc, v.id = u.id → v = u := by
    intro v ⟨_, _, hv⟩ u ⟨_, _, hu⟩ hid
    obtain ⟨p, -, rfl, hne⟩ := r.workloadAt_eq_some_iff.mp hv
    obtain ⟨q, -, rfl, -⟩ := r.workloadAt_eq_some_iff.mp hu
    exact r.workloadFor_eq_of_id hid hne
  unfold workloadBehindService
  rw [workloadBehind_eq_some_iff, Option.toList_none, List.nil_append]
  constructor
  · intro ⟨hhead, hids⟩
    have hw : w ∈ r.behind svc := (hmem w).mpr (List.mem_of_head? hhead)
    ext v
    rw [Set.mem_singleton_iff]
    constructor
    · intro hv
      exact hinj v hv w hw (hids v ((hmem v).mp hv))
    · intro hv
      rw [hv]
      exact hw
  · intro hset
    have hall : ∀ v ∈ (r.caches.endpointsForService svc).filterMap r.workloadAt, v = w := by
      intro v hv
      have hin := (hmem v).mpr hv
      rw [hset] at hin
      exact hin
    have hw := (hmem w).mp (by rw [hset]; exact Set.mem_singleton w)
    refine ⟨?_, fun v hv => congrArg Endpoint.id (hall v hv)⟩
    obtain ⟨first, rest, hlist⟩ := List.exists_cons_of_ne_nil (List.ne_nil_of_mem hw)
    rw [hlist] at hall ⊢
    rw [List.head?_cons, hall first List.mem_cons_self]

section service
variable {r : Resolver} {ip : Addr} {svc : ServiceRef}

theorem resolveDestination_of_service (hsvc : r.caches.serviceByClusterIP ip = some svc)
    (port : UInt16) :
    r.resolveDestination ip port = (r.workloadBehindService svc).getD (r.service svc) := by
  unfold resolveDestination
  rw [hsvc]

/-- A ClusterIP resolves to a workload exactly when it is the one behind the Service. -/
theorem resolveDestination_eq_workload_iff (hsvc : r.caches.serviceByClusterIP ip = some svc)
    (port : UInt16) {w : Endpoint} (hclass : w.class = .workload) :
    r.resolveDestination ip port = w ↔ r.behind svc = {w} := by
  rw [resolveDestination_of_service hsvc, ← r.workloadBehindService_eq_some_iff]
  cases hbehind : r.workloadBehindService svc with
  | none =>
    constructor
    · intro h
      -- the fallback is of class service
      rw [← h] at hclass
      cases hclass
    · intro h
      cases h
  | some found => exact Option.some_inj.symm

/-- Otherwise it resolves to the Service. -/
theorem resolveDestination_eq_service (hsvc : r.caches.serviceByClusterIP ip = some svc)
    (port : UInt16) (hnone : ¬ ∃ w, r.behind svc = {w}) :
    r.resolveDestination ip port = r.service svc := by
  rw [resolveDestination_of_service hsvc]
  cases hbehind : r.workloadBehindService svc with
  | none => rfl
  | some w => exact absurd ⟨w, r.workloadBehindService_eq_some_iff.mp hbehind⟩ hnone

end service

section pod
variable {r : Resolver} {ip : Addr} {pod : PodRef}

/-- A source that is a pod. -/
theorem resolveSource_of_pod (hnode : r.caches.isNodeIP ip = false)
    (hpod : r.caches.podByIP ip = some pod) : r.resolveSource ip = r.workloadFor pod := by
  unfold resolveSource
  rw [hnode, hpod]
  rfl

/-- A destination that is a pod: the Services in front of it are recorded, and change nothing
    else. -/
theorem resolveDestination_of_pod (hsvc : r.caches.serviceByClusterIP ip = none)
    (hpod : r.caches.podByIP ip = some pod) (port : UInt16) :
    ∃ candidates, r.resolveDestination ip port =
      { r.workloadFor pod with candidateServices := candidates } := by
  unfold resolveDestination
  rw [hsvc, hpod]
  dsimp only
  split
  · exact ⟨_, rfl⟩
  · exact ⟨[], rfl⟩

end pod

end Resolver

/-! ### The stores -/

/-- A pod as `PodByIP` returns it. -/
def Pod.ref (pod : Pod) : PodRef where
  «namespace» := pod.namespace
  name := pod.name
  owner := controllerOf pod.ownerReferences

/-- A Service as `ServiceByClusterIP` returns it. -/
def Service.ref (svc : Service) : ServiceRef := ⟨svc.namespace, svc.name⟩

/-- A slice of a Service: it is labelled with the Service's name, in its namespace. -/
def EndpointSlice.Of (slice : EndpointSlice) (svc : ServiceRef) : Prop :=
  slice.serviceName ≠ "" ∧
    slice.namespace ++ "/" ++ slice.serviceName = svc.namespace ++ "/" ++ svc.name

/-- In namespaces that Kubernetes allows, the joined text is as good as its parts. -/
theorem EndpointSlice.of_iff {slice : EndpointSlice} {svc : ServiceRef}
    (hslice : '/' ∉ slice.namespace.toList) (hsvc : '/' ∉ svc.namespace.toList) :
    slice.Of svc ↔
      slice.serviceName ≠ "" ∧ slice.namespace = svc.namespace ∧ slice.serviceName = svc.name := by
  unfold EndpointSlice.Of
  constructor
  · intro ⟨hlabel, hkey⟩
    exact ⟨hlabel, cut_inj rfl hslice hsvc hkey⟩
  · intro ⟨hlabel, hns, hname⟩
    exact ⟨hlabel, by rw [hns, hname]⟩

namespace InformerCaches

variable (string : Addr → String) (parseAddr : String → Option Addr) (c : InformerCaches)

/-- No two Services are listed under one ClusterIP. -/
def ServicesApart : Prop :=
  c.services.Pairwise (fun s t => ∀ ip ∈ clusterIPIndex s, ip ∉ clusterIPIndex t)

/-- A ready endpoint address of a Service, in any of its slices. -/
def ReadyAddress (svc : ServiceRef) (raw : String) : Prop :=
  ∃ slice ∈ c.endpointSlices, slice.Of svc ∧
    ∃ endpoint ∈ slice.endpoints, endpoint.ready ≠ some false ∧ raw ∈ endpoint.addresses

/-- The workloads that serve a Service: those of the pods that hold its ready endpoint
    addresses, as far as they have an id. -/
def servedBy (r : Resolver) (svc : ServiceRef) : Set Endpoint :=
  {w | ∃ raw addr pod, c.ReadyAddress svc raw ∧ parseAddr raw = some addr ∧
    pod ∈ c.pods ∧ string addr ∈ podIPIndex pod ∧ r.workloadFor pod.ref = w ∧ w.id ≠ ""}

variable {string parseAddr c}

theorem exists_of_podByIP {ip : Addr} {ref : PodRef} (h : c.podByIP string ip = some ref) :
    ∃ pod ∈ c.pods, string ip ∈ podIPIndex pod ∧ pod.ref = ref := by
  obtain ⟨pod, hhead, hpod⟩ := Option.map_eq_some_iff.mp h
  obtain ⟨hmem, hip⟩ := mem_byIndex.mp (List.mem_of_head? hhead)
  exact ⟨pod, hmem, hip, hpod⟩

/-- A pod is found under its addresses when no other pod shares them. -/
theorem podByIP_of_mem (hapart : c.PodsApart) {pod : Pod} (hpod : pod ∈ c.pods) {ip : Addr}
    (hip : string ip ∈ podIPIndex pod) : c.podByIP string ip = some pod.ref := by
  unfold podByIP
  rw [byIndex_eq_singleton hapart hpod hip]
  rfl

theorem serviceByClusterIP_of_mem (hapart : c.ServicesApart) {svc : Service}
    (hsvc : svc ∈ c.services) {ip : Addr} (hip : string ip ∈ clusterIPIndex svc) :
    c.serviceByClusterIP string ip = some svc.ref := by
  unfold serviceByClusterIP
  rw [byIndex_eq_singleton hapart hsvc hip]
  rfl

theorem mem_endpointsForService {svc : ServiceRef} {addr : Addr} :
    addr ∈ c.endpointsForService parseAddr svc ↔
      ∃ raw, c.ReadyAddress svc raw ∧ parseAddr raw = some addr := by
  unfold endpointsForService
  rw [mem_foldl_appendNew, List.mem_flatMap]
  simp only [List.not_mem_nil, false_or, List.mem_filterMap, endpointAddressIndex,
    List.mem_flatMap, List.mem_filter]
  constructor
  · intro ⟨slice, hslice, raw, ⟨endpoint, ⟨hendpoint, hready⟩, hraw⟩, haddr⟩
    obtain ⟨hmem, hkey⟩ := mem_byIndex.mp hslice
    unfold endpointServiceIndex at hkey
    by_cases hlabel : slice.serviceName = ""
    · rw [if_pos hlabel] at hkey
      cases hkey
    · rw [if_neg hlabel] at hkey
      exact ⟨raw, ⟨slice, hmem, ⟨hlabel, (List.mem_singleton.mp hkey).symm⟩, endpoint, hendpoint,
        by simpa [SliceEndpoint.serving] using hready, hraw⟩, haddr⟩
  · intro ⟨raw, ⟨slice, hmem, ⟨hlabel, hkey⟩, endpoint, hendpoint, hready, hraw⟩, haddr⟩
    refine ⟨slice, mem_byIndex.mpr ⟨hmem, ?_⟩, raw,
      ⟨endpoint, ⟨hendpoint, by simpa [SliceEndpoint.serving] using hready⟩, hraw⟩, haddr⟩
    unfold endpointServiceIndex
    rw [if_neg hlabel, hkey]
    exact List.mem_singleton_self _

/-- What the loop looks at is what serves the Service. -/
theorem behind_eq_servedBy (hapart : c.PodsApart) (clusterID : String) (svc : ServiceRef) :
    (⟨clusterID, c.caches string parseAddr⟩ : Resolver).behind svc =
      c.servedBy string parseAddr ⟨clusterID, c.caches string parseAddr⟩ svc := by
  ext w
  constructor
  · intro ⟨addr, haddr, hw⟩
    obtain ⟨ref, href, hfor, hid⟩ := (Resolver.workloadAt_eq_some_iff _).mp hw
    obtain ⟨raw, hready, hparse⟩ := mem_endpointsForService.mp haddr
    obtain ⟨pod, hpod, hip, hpodref⟩ := exists_of_podByIP href
    exact ⟨raw, addr, pod, hready, hparse, hpod, hip, by rw [hpodref]; exact hfor, hid⟩
  · intro ⟨raw, addr, pod, hready, hparse, hpod, hip, hfor, hid⟩
    refine ⟨addr, mem_endpointsForService.mpr ⟨raw, hready, hparse⟩, ?_⟩
    exact (Resolver.workloadAt_eq_some_iff _).mpr
      ⟨pod.ref, podByIP_of_mem hapart hpod hip, hfor, hid⟩

end InformerCaches

/-! ### The order of slices, endpoints and addresses -/

/-- The same endpoint with its addresses in another order. -/
def SliceEndpoint.Relisted (e e' : SliceEndpoint) : Prop :=
  e'.ready = e.ready ∧ e'.addresses.Perm e.addresses

/-- The same slice with its endpoints, and their addresses, in another order. -/
def EndpointSlice.Relisted (slice slice' : EndpointSlice) : Prop :=
  slice'.namespace = slice.namespace ∧ slice'.serviceName = slice.serviceName ∧
    slice'.ports = slice.ports ∧
    ∃ endpoints, endpoints.Perm slice.endpoints ∧
      List.Forall₂ SliceEndpoint.Relisted endpoints slice'.endpoints

/-- The same stores with slices, endpoints and addresses in another order. -/
def InformerCaches.Relisted (c c' : InformerCaches) : Prop :=
  (∃ slices, slices.Perm c.endpointSlices ∧
    List.Forall₂ EndpointSlice.Relisted slices c'.endpointSlices) ∧
  c' = { c with endpointSlices := c'.endpointSlices }

/-- What is related pointwise to a list has its elements related to elements of it. -/
theorem exists_of_forall₂ {α β : Type} {R : α → β → Prop} {l : List α} {l' : List β}
    (h : List.Forall₂ R l l') : (∀ b ∈ l', ∃ a ∈ l, R a b) ∧ ∀ a ∈ l, ∃ b ∈ l', R a b := by
  induction h with
  | nil => simp
  | cons hab _ ih =>
    obtain ⟨hleft, hright⟩ := ih
    constructor
    · intro b hb
      rcases List.mem_cons.mp hb with rfl | hb
      · exact ⟨_, List.mem_cons_self, hab⟩
      · obtain ⟨a, ha, hr⟩ := hleft b hb
        exact ⟨a, List.mem_cons_of_mem _ ha, hr⟩
    · intro a ha
      rcases List.mem_cons.mp ha with rfl | ha
      · exact ⟨_, List.mem_cons_self, hab⟩
      · obtain ⟨b, hb, hr⟩ := hright a ha
        exact ⟨b, List.mem_cons_of_mem _ hb, hr⟩

namespace InformerCaches

variable {string : Addr → String} {parseAddr : String → Option Addr} {c c' : InformerCaches}

/-- The ready endpoint addresses of a Service do not depend on any order. -/
theorem readyAddress_relisted (h : c.Relisted c') {svc : ServiceRef} {raw : String} :
    c'.ReadyAddress svc raw ↔ c.ReadyAddress svc raw := by
  obtain ⟨⟨slices, hperm, hslices⟩, -⟩ := h
  obtain ⟨hback, hforth⟩ := exists_of_forall₂ hslices
  constructor
  · intro ⟨slice', hslice', hof, endpoint', hendpoint', hready, hraw⟩
    obtain ⟨slice, hslice, hns, hlabel, -, endpoints, hperm', hendpoints⟩ := hback slice' hslice'
    obtain ⟨endpoint, hendpoint, hr, haddrs⟩ := (exists_of_forall₂ hendpoints).1 _ hendpoint'
    refine ⟨slice, hperm.subset hslice, ?_, endpoint, hperm'.subset hendpoint, ?_,
      haddrs.subset hraw⟩
    · rw [EndpointSlice.Of, ← hns, ← hlabel]
      exact hof
    · rw [← hr]
      exact hready
  · intro ⟨slice, hslice, hof, endpoint, hendpoint, hready, hraw⟩
    obtain ⟨slice', hslice', hns, hlabel, -, endpoints, hperm', hendpoints⟩ :=
      hforth slice (hperm.symm.subset hslice)
    obtain ⟨endpoint', hendpoint', hr, haddrs⟩ :=
      (exists_of_forall₂ hendpoints).2 _ (hperm'.symm.subset hendpoint)
    refine ⟨slice', hslice', ?_, endpoint', hendpoint', ?_, haddrs.symm.subset hraw⟩
    · rw [EndpointSlice.Of, hns, hlabel]
      exact hof
    · rw [hr]
      exact hready

/-- So neither does what serves it. -/
theorem servedBy_relisted (h : c.Relisted c') (clusterID : String) (svc : ServiceRef) :
    c'.servedBy string parseAddr ⟨clusterID, c'.caches string parseAddr⟩ svc =
      c.servedBy string parseAddr ⟨clusterID, c.caches string parseAddr⟩ svc := by
  have hready : ∀ raw, c'.ReadyAddress svc raw ↔ c.ReadyAddress svc raw :=
    fun raw => readyAddress_relisted h
  have hsame := h.2
  have hpods : c'.pods = c.pods := by rw [hsame]
  have howner : (c'.caches string parseAddr).resolveOwner =
      (c.caches string parseAddr).resolveOwner := by rw [hsame]; rfl
  have hfor : ∀ pod, (⟨clusterID, c'.caches string parseAddr⟩ : Resolver).workloadFor pod =
      (⟨clusterID, c.caches string parseAddr⟩ : Resolver).workloadFor pod := by
    intro pod
    simp only [Resolver.workloadFor, Resolver.topOwner, howner, Resolver.mustBuildID]
  simp only [servedBy, hready, hpods, hfor]

/-- Nor what a ClusterIP resolves to. -/
theorem resolveDestination_relisted (h : c.Relisted c') (hpods : c.PodsApart)
    (hservices : c.ServicesApart) (clusterID : String) {svc : Service} (hsvc : svc ∈ c.services)
    {ip : Addr} (hip : string ip ∈ clusterIPIndex svc) (port : UInt16) :
    (⟨clusterID, c'.caches string parseAddr⟩ : Resolver).resolveDestination ip port =
      (⟨clusterID, c.caches string parseAddr⟩ : Resolver).resolveDestination ip port := by
  -- the other listing has the same pods and Services
  have hpods' : c'.PodsApart := by
    rw [PodsApart, h.2]
    exact hpods
  have hservices' : c'.ServicesApart := by
    rw [ServicesApart, h.2]
    exact hservices
  have hsvc' : svc ∈ c'.services := by
    rw [h.2]
    exact hsvc
  -- and the same workloads are behind the Service
  have hset : (⟨clusterID, c'.caches string parseAddr⟩ : Resolver).behind svc.ref =
      (⟨clusterID, c.caches string parseAddr⟩ : Resolver).behind svc.ref := by
    rw [behind_eq_servedBy hpods', behind_eq_servedBy hpods]
    exact servedBy_relisted h clusterID svc.ref
  have hsame : (⟨clusterID, c'.caches string parseAddr⟩ : Resolver).workloadBehindService
      svc.ref = (⟨clusterID, c.caches string parseAddr⟩ : Resolver).workloadBehindService
      svc.ref := by
    apply Option.ext
    intro w
    rw [Resolver.workloadBehindService_eq_some_iff, Resolver.workloadBehindService_eq_some_iff,
      hset]
  rw [Resolver.resolveDestination_of_service (serviceByClusterIP_of_mem hservices' hsvc' hip),
    Resolver.resolveDestination_of_service (serviceByClusterIP_of_mem hservices hsvc hip), hsame]
  rfl

end InformerCaches

/-! ### Owners -/

/-- The identity of an endpoint on the wire. -/
def Endpoint.identity (e : Endpoint) : String × String × String × String :=
  (e.id, e.kind, e.namespace, e.name)

/-- The Deployment that controls the ReplicaSet that controls the pod. -/
def InformerCaches.DeployedBy (c : InformerCaches) (pod : Pod) (deployment : String) : Prop :=
  (controllerOf pod.ownerReferences).kind = "ReplicaSet" ∧
    ∃ rs, c.replicaSets.find? (fun rs => rs.namespace ++ "/" ++ rs.name =
        pod.namespace ++ "/" ++ (controllerOf pod.ownerReferences).name) = some rs ∧
      controllerOf rs.ownerReferences = ⟨"Deployment", deployment⟩

/-- A pod's owning workload, by the objects: what controls the pod, the Deployment behind its
    ReplicaSet, or else the pod itself. -/
inductive InformerCaches.OwnedBy (c : InformerCaches) (pod : Pod) : String → String → Prop where
  | controller {kind name : String} : kind ∈ ["StatefulSet", "DaemonSet", "Job"] →
      controllerOf pod.ownerReferences = ⟨kind, name⟩ → OwnedBy c pod kind name
  | deployment {name : String} : c.DeployedBy pod name → OwnedBy c pod "Deployment" name
  | itself : (controllerOf pod.ownerReferences).kind ∉ ["StatefulSet", "DaemonSet", "Job"] →
      (∀ name, ¬ c.DeployedBy pod name) → OwnedBy c pod "Pod" pod.name

section owner
variable {string : Addr → String} {parseAddr : String → Option Addr} {c : InformerCaches}
  {pod : Pod}

theorem InformerCaches.resolveOwner_eq_deployment_iff {name : String}
    (hkind : (controllerOf pod.ownerReferences).kind = "ReplicaSet") :
    c.resolveOwner pod.namespace (controllerOf pod.ownerReferences) = some ⟨"Deployment", name⟩ ↔
      c.DeployedBy pod name := by
  unfold resolveOwner DeployedBy
  rw [if_neg (by simp [hkind])]
  cases c.replicaSets.find? (fun rs => rs.namespace ++ "/" ++ rs.name =
      pod.namespace ++ "/" ++ (controllerOf pod.ownerReferences).name) with
  | none => simp
  | some rs =>
    constructor
    · intro h
      dsimp only at h
      split at h
      · cases h
      · exact ⟨hkind, rs, rfl, Option.some.inj h⟩
    · intro ⟨_, rs', hrs, howner⟩
      cases hrs
      dsimp only
      rw [howner]
      exact if_neg (show ¬ "Deployment" = "" by decide)

/-- `workloadFor` ends at the owning workload. -/
theorem InformerCaches.topOwner_of_ownedBy {clusterID kind name : String}
    (h : c.OwnedBy pod kind name) :
    (⟨clusterID, c.caches string parseAddr⟩ : Resolver).topOwner pod.ref = (kind, name) := by
  cases h with
  | controller hkind howner =>
    have hnot : kind ≠ "ReplicaSet" := by
      intro hrs
      rw [hrs] at hkind
      exact absurd hkind (by decide)
    simp only [Resolver.topOwner, Pod.ref, howner, if_neg hnot, if_pos hkind]
  | deployment hdeployed =>
    have hresolve := (resolveOwner_eq_deployment_iff hdeployed.1).mpr hdeployed
    simp only [Resolver.topOwner, Pod.ref, hdeployed.1, if_true, caches, hresolve]
  | itself hkind hnone =>
    unfold Resolver.topOwner
    by_cases hrs : pod.ref.owner.kind = "ReplicaSet"
    · -- a ReplicaSet that is gone, or that no Deployment controls
      rw [if_pos hrs]
      cases hresolve : (c.caches string parseAddr).resolveOwner pod.ref.namespace pod.ref.owner with
      | none => rfl
      | some next =>
        have hother : next.kind ≠ "Deployment" := by
          intro hdeployment
          have hnext : next = ⟨"Deployment", next.name⟩ := by rw [← hdeployment]
          rw [hnext] at hresolve
          exact hnone _ ((resolveOwner_eq_deployment_iff hrs).mp hresolve)
        exact if_neg hother
    · rw [if_neg hrs]
      exact if_neg hkind

end owner

namespace InformerCaches

/-- An address that is neither a node's nor a ClusterIP. -/
structure Plain (string : Addr → String) (c : InformerCaches) (ip : Addr) : Prop where
  node : ∀ node ∈ c.nodes, string ip ∉ nodeIPIndex node
  service : ∀ svc ∈ c.services, string ip ∉ clusterIPIndex svc

section plain
variable {string : Addr → String} {c : InformerCaches} {ip : Addr}

theorem Plain.isNodeIP_eq_false (h : c.Plain string ip) : c.isNodeIP string ip = false := by
  simp [isNodeIP, byIndex_eq_nil h.node]

theorem Plain.serviceByClusterIP_eq_none (h : c.Plain string ip) :
    c.serviceByClusterIP string ip = none := by
  simp [serviceByClusterIP, byIndex_eq_nil h.service]

/-- Both ends of a connection name a pod alike: by its workload. -/
theorem identity_of_podByIP (h : c.Plain string ip) {ref : PodRef}
    (hpod : c.podByIP string ip = some ref) (parseAddr : String → Option Addr)
    (clusterID : String) (port : UInt16) :
    let r : Resolver := ⟨clusterID, c.caches string parseAddr⟩
    (r.resolveSource ip).identity = (r.workloadFor ref).identity ∧
      (r.resolveDestination ip port).identity = (r.workloadFor ref).identity := by
  intro r
  have hsource : r.resolveSource ip = r.workloadFor ref :=
    Resolver.resolveSource_of_pod h.isNodeIP_eq_false hpod
  obtain ⟨candidates, hdestination⟩ :=
    Resolver.resolveDestination_of_pod (r := r) h.serviceByClusterIP_eq_none hpod port
  constructor
  · rw [hsource]
  · rw [hdestination]
    rfl

end plain

end InformerCaches

/-- **Service fan-out is never guessed**: in every state of the stores where neither pods nor
    Services share addresses, a ClusterIP resolves to a workload if and only if it is the only
    one that serves the Service, and to the Service otherwise, in whatever order slices,
    endpoints and addresses are listed; and the two ends of a connection agree on the identity
    of a pod, which is that of its owning workload. -/
theorem fanout_never_guessed (string : Addr → String) (parseAddr : String → Option Addr)
    (clusterID : String) (c : InformerCaches) (hpods : c.PodsApart)
    (hservices : c.ServicesApart) :
    let r : Resolver := ⟨clusterID, c.caches string parseAddr⟩
    -- a ClusterIP
    (∀ svc ∈ c.services, ∀ ip, string ip ∈ clusterIPIndex svc → ∀ port,
      (∀ w : Endpoint, w.class = .workload →
        (r.resolveDestination ip port = w ↔ c.servedBy string parseAddr r svc.ref = {w})) ∧
      ((¬ ∃ w, c.servedBy string parseAddr r svc.ref = {w}) →
        r.resolveDestination ip port = r.service svc.ref) ∧
      ∀ c', c.Relisted c' →
        (⟨clusterID, c'.caches string parseAddr⟩ : Resolver).resolveDestination ip port =
          r.resolveDestination ip port) ∧
    -- whose slices these are
    (∀ slice ∈ c.endpointSlices, ∀ svc ∈ c.services,
      '/' ∉ slice.namespace.toList → '/' ∉ svc.namespace.toList →
      (slice.Of svc.ref ↔ slice.serviceName ≠ "" ∧ slice.namespace = svc.namespace ∧
        slice.serviceName = svc.name)) ∧
    -- the address of a pod, as a source and as a destination
    (∀ pod ∈ c.pods, ∀ ip, string ip ∈ podIPIndex pod → c.Plain string ip → ∀ port,
      (r.resolveSource ip).identity = (r.resolveDestination ip port).identity) ∧
    -- pods of one workload
    (∀ p ∈ c.pods, ∀ q ∈ c.pods, ∀ kind name, p.namespace = q.namespace →
      c.OwnedBy p kind name → c.OwnedBy q kind name →
      ∀ ip, string ip ∈ podIPIndex p → c.Plain string ip →
      ∀ ip', string ip' ∈ podIPIndex q → c.Plain string ip' →
      (r.resolveSource ip).identity = (r.resolveSource ip').identity) := by
  intro r
  have hbehind : ∀ svc, r.behind svc = c.servedBy string parseAddr r svc :=
    fun svc => InformerCaches.behind_eq_servedBy hpods clusterID svc
  refine ⟨?_, ?_, ?_, ?_⟩
  · intro svc hsvc ip hip port
    have hfound : r.caches.serviceByClusterIP ip = some svc.ref :=
      InformerCaches.serviceByClusterIP_of_mem hservices hsvc hip
    have hworkload : ∀ w : Endpoint, w.class = .workload →
        (r.resolveDestination ip port = w ↔ c.servedBy string parseAddr r svc.ref = {w}) := by
      intro w hclass
      rw [← hbehind]
      exact Resolver.resolveDestination_eq_workload_iff hfound port hclass
    refine ⟨hworkload, ?_, ?_⟩
    · intro hnone
      rw [← hbehind] at hnone
      exact Resolver.resolveDestination_eq_service hfound port hnone
    · intro c' hrelisted
      exact InformerCaches.resolveDestination_relisted hrelisted hpods hservices clusterID hsvc hip
        port
  · intro slice _ svc _ hslice hsvc
    exact EndpointSlice.of_iff hslice hsvc
  · intro pod hpod ip hip hplain port
    obtain ⟨hsource, hdestination⟩ := InformerCaches.identity_of_podByIP hplain
      (InformerCaches.podByIP_of_mem hpods hpod hip) parseAddr clusterID port
    rw [hsource, hdestination]
  · intro p hp q hq kind name hns howner howner' ip hip hplain ip' hip' hplain'
    have hsource := (InformerCaches.identity_of_podByIP hplain
      (InformerCaches.podByIP_of_mem hpods hp hip) parseAddr clusterID 0).1
    have hsource' := (InformerCaches.identity_of_podByIP hplain'
      (InformerCaches.podByIP_of_mem hpods hq hip') parseAddr clusterID 0).1
    have hsame : r.workloadFor p.ref = r.workloadFor q.ref := by
      unfold Resolver.workloadFor
      rw [InformerCaches.topOwner_of_ownedBy howner, InformerCaches.topOwner_of_ownedBy howner']
      simp only [Pod.ref, hns]
    rw [hsource, hsource', hsame]

/-- `web` behind one Service, `web` and `db` behind another. -/
def fanoutStores : InformerCaches where
  pods := [samplePod "web" "n1" "10.0.0.1", samplePod "db" "n2" "10.0.0.2"]
  services := [⟨"shop", "web", "10.96.0.1", ["10.96.0.1"]⟩, ⟨"shop", "all", "10.96.0.2", []⟩]
  endpointSlices := [
    ⟨"shop", "web", [⟨some true, ["10.0.0.1"]⟩], []⟩,
    ⟨"shop", "all", [⟨none, ["10.0.0.1"]⟩], []⟩,
    ⟨"shop", "all", [⟨some true, ["10.0.0.2"]⟩], []⟩]
  nodes := []
  replicaSets := []

/-- The addresses of the pods, read back. -/
def fanoutParse (text : String) : Option Addr :=
  [Addr.v4 10 0 0 1, Addr.v4 10 0 0 2].find? (fun ip => dotted ip = text)

/-- The Service with one workload resolves to it, the other one to itself. -/
theorem fanout_never_guessed_two_services :
    fanoutStores.servedBy dotted fanoutParse ⟨"c", fanoutStores.caches dotted fanoutParse⟩
        ⟨"shop", "web"⟩ =
      {{ id := "k8s:c:shop:StatefulSet:web", kind := "StatefulSet", «namespace» := "shop",
         name := "web", «class» := .workload }} ∧
    ∀ w : Endpoint, w.class = .workload →
      fanoutStores.servedBy dotted fanoutParse ⟨"c", fanoutStores.caches dotted fanoutParse⟩
        ⟨"shop", "all"⟩ ≠ {w} := by
  have hall := (fanout_never_guessed dotted fanoutParse "c" fanoutStores
    (by unfold InformerCaches.PodsApart; decide) (by unfold InformerCaches.ServicesApart; decide)).1
  constructor
  · refine ((hall ⟨"shop", "web", "10.96.0.1", ["10.96.0.1"]⟩ (by decide) (.v4 10 96 0 1)
      (by decide) 80).1 _ rfl).mp ?_
    decide +kernel
  · intro w hclass hset
    have hw := ((hall ⟨"shop", "all", "10.96.0.2", []⟩ (by decide) (.v4 10 96 0 2)
      (by decide) 80).1 w hclass).mpr hset
    have hservice : ((⟨"c", fanoutStores.caches dotted fanoutParse⟩ : Resolver).resolveDestination
        (.v4 10 96 0 2) 80).class = .service := by
      decide +kernel
    rw [hw, hclass] at hservice
    cases hservice

end TopologyVisualizer.Agent
