import TopologyVisualizer.Agent.Contract

/-! # Endpoint Resolution

    `agent/internal/resolver/resolver.go`: from an address and a port to a
    Kubernetes identity, reading through the `Caches` interface.

    `Caches` is a record of the interface's methods, so a value is one state
    of the informers. An `Addr` is a `netip.Addr`: the zero value, four
    bytes, or two 64-bit halves with a zone.
-/

namespace TopologyVisualizer.Agent

/-! ### Addresses -/

/-- `netip.Addr`. -/
inductive Addr where
  | invalid
  | v4 (a b c d : UInt8)
  | v6 (hi lo : UInt64) (zone : String)
  deriving DecidableEq

namespace Addr

/-- `Unmap`: an IPv4-mapped IPv6 address is the IPv4 address it maps. -/
def unmap : Addr → Addr
  | .v6 hi lo zone =>
    if hi = 0 ∧ lo >>> 32 = 0xffff then
      .v4 (lo >>> 24).toUInt8 (lo >>> 16).toUInt8 (lo >>> 8).toUInt8 lo.toUInt8
    else .v6 hi lo zone
  | ip => ip

def isValid (ip : Addr) : Bool := ip ≠ .invalid

def isUnspecified (ip : Addr) : Bool := ip = .v4 0 0 0 0 ∨ ip = .v6 0 0 ""

def isLoopback (ip : Addr) : Bool :=
  match ip.unmap with
  | .v4 a _ _ _ => a = 127
  | .v6 hi lo _ => hi = 0 ∧ lo = 1
  | .invalid => false

def isPrivate (ip : Addr) : Bool :=
  match ip.unmap with
  | .v4 a b _ _ => a = 10 ∨ (a = 172 ∧ b &&& 0xf0 = 16) ∨ (a = 192 ∧ b = 168)
  | .v6 hi _ _ => (hi >>> 56) &&& 0xfe = 0xfc
  | .invalid => false

def isLinkLocalUnicast (ip : Addr) : Bool :=
  match ip.unmap with
  | .v4 a b _ _ => a = 169 ∧ b = 254
  | .v6 hi _ _ => (hi >>> 48) &&& 0xffc0 = 0xfe80
  | .invalid => false

def isLinkLocalMulticast (ip : Addr) : Bool :=
  match ip.unmap with
  | .v4 a b c _ => a = 224 ∧ b = 0 ∧ c = 0
  | .v6 hi _ _ => (hi >>> 48) &&& 0xff0f = 0xff02
  | .invalid => false

def isMulticast (ip : Addr) : Bool :=
  match ip.unmap with
  | .v4 a _ _ _ => a &&& 0xf0 = 0xe0
  | .v6 hi _ _ => hi >>> 56 = 0xff
  | .invalid => false

end Addr

/-- `isRoutable`: whether an address is plausibly outside the cluster. -/
def isRoutable (ip : Addr) : Bool :=
  if !ip.isValid || ip.isUnspecified then false
  else if ip.isLoopback || ip.isPrivate || ip.isLinkLocalUnicast || ip.isLinkLocalMulticast then
    false
  else if ip.isMulticast then false
  else match ip with
    -- carrier-grade NAT, used by some CNIs for pod networking
    | .v4 a b _ _ => !(a = 100 ∧ b ≥ 64 ∧ b ≤ 127)
    | _ => true

/-! ### Endpoints -/

/-- `Class`: what an endpoint resolved to. -/
inductive Class where
  | workload
  | service
  | external
  | host
  | unresolved
  deriving DecidableEq, Repr

/-- One resolved end of an observed connection. -/
structure Endpoint where
  id : String := ""
  kind : String := ""
  «namespace» : String := ""
  name : String := ""
  «class» : Class
  candidateServices : List String := []
  deriving DecidableEq

/-- `IsGraphable`. -/
def Endpoint.isGraphable (e : Endpoint) : Bool :=
  e.class = .workload || e.class = .service || e.class = .external

/-- A Service that selects an endpoint. -/
structure ServiceRef where
  «namespace» : String
  name : String
  deriving DecidableEq

/-- One step in an ownership chain. -/
structure OwnerRef where
  kind : String
  name : String
  deriving DecidableEq

/-- What `PodByIP` returns of a pod. -/
structure PodRef where
  «namespace» : String
  name : String
  owner : OwnerRef
  deriving DecidableEq

/-- `Caches`: the read side of the informer state. -/
structure Caches where
  podByIP : Addr → Option PodRef
  serviceByClusterIP : Addr → Option ServiceRef
  servicesForEndpoint : Addr → UInt16 → List ServiceRef
  endpointsForService : ServiceRef → List Addr
  nodeForPodIP : Addr → Option String
  resolveOwner : String → OwnerRef → Option OwnerRef
  isNodeIP : Addr → Bool

/-- `External()`: the single summarized destination for all non-cluster traffic. -/
def Endpoint.externalEndpoint : Endpoint where
  id := externalNodeID
  kind := "Pod"
  name := "EXTERNAL"
  «class» := .external

/-- `unresolved()`. -/
def Endpoint.unresolvedEndpoint : Endpoint where
  name := "unresolved"
  «class» := .unresolved

/-- `host()`. -/
def Endpoint.hostEndpoint : Endpoint where
  name := "host"
  «class» := .host

/-! ### The resolver -/

/-- `Resolver`. -/
structure Resolver where
  clusterID : String
  caches : Caches

namespace Resolver

/-- `OriginatesElsewhere`: true only for a known pod known to run on another node. -/
def originatesElsewhere (r : Resolver) (ip : Addr) (nodeName : String) : Bool :=
  if nodeName = "" then false
  else match r.caches.nodeForPodIP ip with
    | none => false
    | some node => node ≠ nodeName

/-- `mustBuildID`: blank when the grammar rejects a segment. The message is dropped, so the
    quoting of `BuildNodeID` is irrelevant. -/
def mustBuildID (r : Resolver) (ns kind name : String) : String :=
  match buildNodeID id r.clusterID ns kind name with
  | .ok nodeID => nodeID
  | .error _ => ""

/-- The kind and name `workloadFor` settles on. -/
def topOwner (r : Resolver) (pod : PodRef) : String × String :=
  if pod.owner.kind = "ReplicaSet" then
    match r.caches.resolveOwner pod.namespace pod.owner with
    | some next => if next.kind = "Deployment" then ("Deployment", next.name) else ("Pod", pod.name)
    | none => ("Pod", pod.name)
  else if pod.owner.kind ∈ ["StatefulSet", "DaemonSet", "Job"] then
    (pod.owner.kind, pod.owner.name)
  else ("Pod", pod.name)

/-- `workloadFor`: collapse a pod to its stable top-level owner. -/
def workloadFor (r : Resolver) (pod : PodRef) : Endpoint :=
  let (kind, name) := r.topOwner pod
  { id := r.mustBuildID pod.namespace kind name
    kind := kind
    «namespace» := pod.namespace
    name := name
    «class» := .workload }

/-- `service`. -/
def service (r : Resolver) (svc : ServiceRef) : Endpoint where
  id := r.mustBuildID svc.namespace "Service" svc.name
  kind := "Service"
  «namespace» := svc.namespace
  name := svc.name
  «class» := .service

/-- The loop of `workloadBehindService`; `resolved` is the workload found so far. -/
def workloadBehind (r : Resolver) (resolved : Option Endpoint) : List Addr → Option Endpoint
  | [] => resolved
  | addr :: addrs =>
    match r.caches.podByIP addr with
    | none => r.workloadBehind resolved addrs
    | some pod =>
      let workload := r.workloadFor pod
      if workload.id = "" then r.workloadBehind resolved addrs
      else match resolved with
        | none => r.workloadBehind (some workload) addrs
        | some found => if workload.id ≠ found.id then none else r.workloadBehind resolved addrs

/-- `workloadBehindService`: the single workload serving a Service, if there is one. -/
def workloadBehindService (r : Resolver) (svc : ServiceRef) : Option Endpoint :=
  r.workloadBehind none (r.caches.endpointsForService svc)

/-- `ResolveSource`: node addresses first, then pods. -/
def resolveSource (r : Resolver) (ip : Addr) : Endpoint :=
  if r.caches.isNodeIP ip then .hostEndpoint
  else match r.caches.podByIP ip with
    | some pod => r.workloadFor pod
    | none => .unresolvedEndpoint

/-- `ResolveDestination`: the first match of the ladder wins. -/
def resolveDestination (r : Resolver) (ip : Addr) (port : UInt16) : Endpoint :=
  match r.caches.serviceByClusterIP ip with
  | some svc => (r.workloadBehindService svc).getD (r.service svc)
  | none =>
    match r.caches.podByIP ip with
    | some pod =>
      let endpoint := r.workloadFor pod
      let found := r.caches.servicesForEndpoint ip port
      if found.length > 1 then
        { endpoint with candidateServices := found.map (fun m => m.namespace ++ "/" ++ m.name) }
      else endpoint
    | none =>
      if r.caches.isNodeIP ip then .hostEndpoint
      else if isRoutable ip then .externalEndpoint
      else .unresolvedEndpoint

end Resolver

/-! ### What resolution can return -/

/-- An endpoint whose blank id is the only thing that can be wrong with it: every other
    graphable endpoint is ready for the wire. -/
structure Endpoint.WellNamed (e : Endpoint) : Prop where
  kind_allowed : e.id ≠ "" → e.kind ∈ allowedKinds
  name_nonempty : e.id ≠ "" → e.name ≠ ""

theorem Endpoint.WellNamed.of_blank {e : Endpoint} (h : e.id = "") : e.WellNamed :=
  ⟨fun hne => absurd h hne, fun hne => absurd h hne⟩

namespace Resolver

variable (r : Resolver)

/-- A node id that is not blank has a name segment. -/
theorem name_nonempty_of_mustBuildID {ns kind name : String}
    (h : r.mustBuildID ns kind name ≠ "") : name ≠ "" := by
  unfold mustBuildID at h
  split at h
  · next nodeID hid => exact (buildNodeID_eq_ok_iff.mp hid).2.2.2.1.1
  · exact absurd rfl h

theorem topOwner_kind_allowed (pod : PodRef) : (r.topOwner pod).1 ∈ allowedKinds := by
  unfold topOwner
  split
  · split
    · split <;> simp [allowedKinds]
    · simp [allowedKinds]
  · split
    · next h =>
      simp only [List.mem_cons, List.not_mem_nil, or_false] at h
      rcases h with h | h | h <;> simp [allowedKinds, h]
    · simp [allowedKinds]

theorem workloadFor_wellNamed (pod : PodRef) : (r.workloadFor pod).WellNamed where
  kind_allowed := fun _ => r.topOwner_kind_allowed pod
  name_nonempty := fun h => r.name_nonempty_of_mustBuildID h

theorem service_wellNamed (svc : ServiceRef) : (r.service svc).WellNamed where
  kind_allowed := fun _ => by simp [service, allowedKinds]
  name_nonempty := fun h => r.name_nonempty_of_mustBuildID h

/-- The loop only ever returns what it was given or a workload it built. -/
theorem workloadBehind_wellNamed {resolved : Option Endpoint} {addrs : List Addr} {e : Endpoint}
    (hres : ∀ e ∈ resolved, e.WellNamed) (h : r.workloadBehind resolved addrs = some e) :
    e.WellNamed := by
  induction addrs generalizing resolved with
  | nil => exact hres e h
  | cons addr addrs ih =>
    unfold workloadBehind at h
    split at h
    · exact ih hres h
    · next pod _ =>
      simp only at h
      split at h
      · exact ih hres h
      · split at h
        · refine ih ?_ h
          intro e' he'
          cases he'
          exact r.workloadFor_wellNamed pod
        · split at h
          · cases h
          · exact ih hres h

theorem resolveSource_wellNamed (ip : Addr) : (r.resolveSource ip).WellNamed := by
  unfold resolveSource
  split
  · exact .of_blank rfl
  · split
    · exact r.workloadFor_wellNamed _
    · exact .of_blank rfl

theorem resolveDestination_wellNamed (ip : Addr) (port : UInt16) :
    (r.resolveDestination ip port).WellNamed := by
  unfold resolveDestination
  split
  · next svc _ =>
    cases hb : r.workloadBehindService svc with
    | none => exact r.service_wellNamed svc
    | some e => exact r.workloadBehind_wellNamed (by simp) hb
  · split
    · next pod _ =>
      have hw := r.workloadFor_wellNamed pod
      simp only
      split
      · exact ⟨hw.kind_allowed, hw.name_nonempty⟩
      · exact hw
    · split
      · exact .of_blank rfl
      · split
        · exact ⟨fun _ => by decide, fun _ => by decide⟩
        · exact .of_blank rfl

end Resolver

end TopologyVisualizer.Agent
