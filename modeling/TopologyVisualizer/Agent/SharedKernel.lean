import TopologyVisualizer.Agent.Conservation
import TopologyVisualizer.Agent.Informers

/-! # Agents on One Kernel

    On a cluster whose nodes share a kernel every agent sees every
    connection. `OriginatesElsewhere` drops only what is known to come from
    a pod on another node, so two cases carry the count:

    * the source is a pod: exactly the agent of its node keeps the event;
    * it is not: every agent keeps the event, and `Add` refuses it, because
      `ResolveSource` names a host or nothing.

    What the agents report is added up in integers. Each of them adds
    latencies in 64 bits, so the sums agree only while they fit
    (`latency_wraps_apart`).
-/

namespace TopologyVisualizer.Agent

variable {ν : Type} [AddCommSemigroup ν]

/-- What the next flush would report for a key, by `val`; zero when there is nothing. -/
def Aggregator.total (val : EdgeObservation → ν) (a : Aggregator)
    (k : String ×ₗ String ×ₗ String ×ₗ Int) : WithZero ν :=
  keyedSum ((a.edges.entries.map toObservation).map (fun e => (e.sortKey, val e))) k

/-- The observations an agent adds: those of the events its node filter lets through. -/
def heard (r : Resolver) (nodeName : String) (events : List Event) : List Observation :=
  (events.filter (fun ev => !r.originatesElsewhere ev.srcIP nodeName)).map r.observation

/-- An agent's aggregator files what it heard and `Add` keeps. -/
theorem foldl_handleEvent (r : Resolver) (nodeName clusterID agentID : String)
    (infraPorts : List UInt16) (events : List Event) :
    (events.foldl (handleEvent r nodeName) (.new clusterID agentID infraPorts)).infraPorts =
      infraPorts ∧
    (events.foldl (handleEvent r nodeName) (.new clusterID agentID infraPorts)).edges =
      (kept infraPorts (heard r nodeName events)).foldl observeInto .empty := by
  induction events using List.reverseRecOn with
  | nil => exact ⟨rfl, rfl⟩
  | append_singleton events ev ih =>
    rw [List.foldl_append, List.foldl_cons, List.foldl_nil]
    generalize events.foldl (handleEvent r nodeName) (.new clusterID agentID infraPorts) = a at ih
    obtain ⟨hports, hedges⟩ := ih
    unfold handleEvent
    by_cases helse : r.originatesElsewhere ev.srcIP nodeName = true
    · have hskip : heard r nodeName (events ++ [ev]) = heard r nodeName events := by
        simp [heard, helse]
      rw [if_pos helse, hskip]
      exact ⟨hports, hedges⟩
    · have hheard : heard r nodeName (events ++ [ev]) =
          heard r nodeName events ++ [r.observation ev] := by
        simp [heard, helse]
      rw [if_neg helse, History.add_edges_foldl, hports, hedges, hheard, kept_append,
        List.foldl_append]
      exact ⟨((a.add_config _).2.2).trans hports, rfl⟩

theorem total_foldl_handleEvent {val : EdgeObservation → ν} {single : Observation → ν}
    {r : Resolver} {nodeName : String} (clusterID agentID : String) {infraPorts : List UInt16}
    {events : List Event}
    (hacc : AccumulatesOn val single (kept infraPorts (heard r nodeName events)))
    (k : String ×ₗ String ×ₗ String ×ₗ Int) :
    (events.foldl (handleEvent r nodeName) (.new clusterID agentID infraPorts)).total val k =
      keyedSum ((kept infraPorts (heard r nodeName events)).map
        (fun o => (o.key.sortKey, single o))) k := by
  unfold Aggregator.total
  rw [(foldl_handleEvent r nodeName clusterID agentID infraPorts events).2]
  exact keyedSum_pending hacc k

/-- Without a node name nothing is filtered. -/
theorem heard_unnamed (r : Resolver) (events : List Event) :
    heard r "" events = events.map r.observation := by
  simp [heard, Resolver.originatesElsewhere]

theorem heard_sublist (r : Resolver) (nodeName : String) (events : List Event) :
    (heard r nodeName events).Sublist (events.map r.observation) :=
  (List.filter_sublist ..).map _

/-! ### One event -/

/-- What one event adds to a key, if `Add` keeps it. -/
def contribution (single : Observation → ν) (r : Resolver) (infraPorts : List UInt16)
    (k : String ×ₗ String ×ₗ String ×ₗ Int) (ev : Event) : WithZero ν :=
  keyedSum ((kept infraPorts [r.observation ev]).map (fun o => (o.key.sortKey, single o))) k

variable {single : Observation → ν}

theorem keyedSum_heard_cons (r : Resolver) (nodeName : String) (infraPorts : List UInt16)
    (k : String ×ₗ String ×ₗ String ×ₗ Int) (ev : Event) (events : List Event) :
    keyedSum ((kept infraPorts (heard r nodeName (ev :: events))).map
        (fun o => (o.key.sortKey, single o))) k =
      (if r.originatesElsewhere ev.srcIP nodeName then 0 else contribution single r infraPorts k ev) +
        keyedSum ((kept infraPorts (heard r nodeName events)).map
          (fun o => (o.key.sortKey, single o))) k := by
  by_cases helse : r.originatesElsewhere ev.srcIP nodeName = true
  · have hskip : heard r nodeName (ev :: events) = heard r nodeName events := by
      simp [heard, helse]
    rw [hskip, if_pos helse, zero_add]
  · have hkeep : heard r nodeName (ev :: events) =
        [r.observation ev] ++ heard r nodeName events := by
      simp [heard, helse]
    rw [hkeep, if_neg helse, kept_append, List.map_append, keyedSum_append]
    rfl

/-- A source that is no pod is a host or unresolved, so `Add` refuses the event. -/
theorem contribution_of_no_pod {r : Resolver} {infraPorts : List UInt16}
    {k : String ×ₗ String ×ₗ String ×ₗ Int} {ev : Event} (h : r.caches.podByIP ev.srcIP = none) :
    contribution single r infraPorts k ev = 0 := by
  have hsource : (r.observation ev).source.isGraphable = false := by
    show (r.resolveSource ev.srcIP).isGraphable = false
    unfold Resolver.resolveSource
    rw [h]
    by_cases hnode : r.caches.isNodeIP ev.srcIP = true
    · rw [if_pos hnode]
      rfl
    · rw [if_neg hnode]
      rfl
  have hverdict : verdict infraPorts (r.observation ev) ≠ .kept := by
    unfold verdict
    rw [hsource]
    simp only [Bool.not_false, Bool.true_or, if_true]
    split_ifs <;> simp
  have hkept : kept infraPorts [r.observation ev] = [] := by
    simp [kept, hverdict]
  unfold contribution
  rw [hkept]
  rfl

/-- **One event, all agents**: summed over agents with distinct node names, an event counts as
    it does for one agent without a filter, when the node of its source, if it is a pod, is
    one of theirs. -/
theorem sum_contributions {r : Resolver} {infraPorts : List UInt16}
    {k : String ×ₗ String ×ₗ String ×ₗ Int} {ev : Event} {nodeNames : List String}
    (hdistinct : nodeNames.Nodup) (hnames : "" ∉ nodeNames)
    (hpod : r.caches.nodeForPodIP ev.srcIP = none → r.caches.podByIP ev.srcIP = none)
    (hcovered : ∀ node ∈ r.caches.nodeForPodIP ev.srcIP, node ∈ nodeNames) :
    (nodeNames.map (fun n =>
      if r.originatesElsewhere ev.srcIP n then 0 else contribution single r infraPorts k ev)).sum =
      contribution single r infraPorts k ev := by
  cases hnode : r.caches.nodeForPodIP ev.srcIP with
  | none =>
    rw [contribution_of_no_pod (hpod hnode)]
    simp
  | some node =>
    -- only the agent of that node keeps the event
    have hfilter : ∀ n ∈ nodeNames,
        (if r.originatesElsewhere ev.srcIP n then 0 else contribution single r infraPorts k ev) =
          (if node = n then contribution single r infraPorts k ev else 0) := by
      intro n hn
      have hne : n ≠ "" := fun h => hnames (h ▸ hn)
      unfold Resolver.originatesElsewhere
      rw [if_neg hne, hnode]
      by_cases hsame : node = n
      · simp [hsame]
      · simp [hsame]
    rw [List.map_congr_left hfilter, sum_map_single hdistinct,
      if_pos (hcovered node (by rw [hnode]; rfl))]

/-! ### All events -/

/-- The agents together keep, per key, what one agent without a filter keeps. -/
theorem sum_heard {r : Resolver} {infraPorts : List UInt16} {nodeNames : List String}
    (hdistinct : nodeNames.Nodup) (hnames : "" ∉ nodeNames)
    (hpod : ∀ ip, r.caches.nodeForPodIP ip = none → r.caches.podByIP ip = none)
    (hcovered : ∀ ip, ∀ node ∈ r.caches.nodeForPodIP ip, node ∈ nodeNames)
    (events : List Event) (k : String ×ₗ String ×ₗ String ×ₗ Int) :
    (nodeNames.map (fun n => keyedSum ((kept infraPorts (heard r n events)).map
      (fun o => (o.key.sortKey, single o))) k)).sum =
      keyedSum ((kept infraPorts (heard r "" events)).map (fun o => (o.key.sortKey, single o))) k := by
  induction events with
  | nil => simp [heard, kept]
  | cons ev events ih =>
    simp only [keyedSum_heard_cons, List.sum_map_add]
    rw [ih, sum_contributions hdistinct hnames (hpod ev.srcIP) (hcovered ev.srcIP)]
    rfl

/-- **Counting once**: agents with distinct, non-empty node names observe the same events with
    the same caches, each listing the pods in an order of its own. When no two pods share an
    address and every pod runs on the node of one of the agents, what they count for an edge
    adds up to what a single agent counts that has no node name, and so filters nothing. Their
    latency sums add up to that agent's if what is measured for an edge fits 64 bits. -/
theorem shared_kernel_counts_once (string : Addr → String) (parseAddr : String → Option Addr)
    (clusterID : String) (agentID : String → String) (infraPorts : List UInt16)
    (c : InformerCaches) (nodeNames : List String) (pods : String → List Pod)
    (hdistinct : nodeNames.Nodup) (hnames : "" ∉ nodeNames) (hapart : c.PodsApart)
    (hpods : ∀ n ∈ nodeNames, (pods n).Perm c.pods)
    (hcovered : ∀ pod ∈ c.pods, pod.nodeName ∈ nodeNames)
    (events : List Event) (k : String ×ₗ String ×ₗ String ×ₗ Int) :
    let agent (n : String) : Aggregator := events.foldl
      (handleEvent ⟨clusterID, ({ c with pods := pods n } : InformerCaches).caches string
        parseAddr⟩ n) (.new clusterID (agentID n) infraPorts)
    let single : Resolver := ⟨clusterID, c.caches string parseAddr⟩
    let unfiltered : Aggregator := events.foldl (handleEvent single "")
      (.new clusterID (agentID "") infraPorts)
    (nodeNames.map (fun n => (agent n).total EdgeObservation.counts k)).sum =
        unfiltered.total EdgeObservation.counts k ∧
      (Unwrapped (kept infraPorts (events.map single.observation)) →
        (nodeNames.map (fun n => (agent n).total EdgeObservation.connectLatencySumUS k)).sum =
          unfiltered.total EdgeObservation.connectLatencySumUS k) := by
  intro agent r unfiltered
  have hscheduled : ∀ pod ∈ c.pods, pod.nodeName ≠ "" := by
    intro pod hpod hblank
    exact hnames (hblank ▸ hcovered pod hpod)
  have hnode : ∀ ip, ∀ node ∈ r.caches.nodeForPodIP ip, node ∈ nodeNames := by
    intro ip node hnode
    obtain ⟨pod, hpod, rfl⟩ := InformerCaches.exists_pod_of_node string hnode
    exact hcovered pod hpod
  -- whatever accumulates on all that is heard accumulates for each agent
  have hagree : ∀ {μ : Type} [AddCommSemigroup μ] {val : EdgeObservation → μ}
      {single : Observation → μ},
      AccumulatesOn val single (kept infraPorts (events.map r.observation)) →
      (nodeNames.map (fun n => (agent n).total val k)).sum = unfiltered.total val k := by
    intro μ _ val single hacc
    have hagents : ∀ n ∈ nodeNames, (agent n).total val k =
        keyedSum ((kept infraPorts (heard r n events)).map (fun o => (o.key.sortKey, single o))) k := by
      intro n hn
      have hagent : agent n = events.foldl (handleEvent r n) (.new clusterID (agentID n) infraPorts) := by
        simp only [agent, InformerCaches.caches_perm string parseAddr hapart (hpods n hn), r]
      rw [hagent]
      exact total_foldl_handleEvent _ _ (hacc.mono ((heard_sublist r n events).filter _)) k
    rw [List.map_congr_left hagents, sum_heard hdistinct hnames
      (fun ip h => InformerCaches.podByIP_eq_none string hscheduled h) hnode]
    exact (total_foldl_handleEvent _ _ (by rw [heard_unnamed]; exact hacc) k).symm
  exact ⟨hagree (counts_accumulatesOn _), fun hfits => hagree hfits.accumulatesOn⟩

/-! ### Two nodes on one kernel -/

/-- One replica of `web` on either node. -/
def sampleStores : InformerCaches where
  pods := [samplePod "web" "n1" "10.0.0.1",
    { samplePod "web" "n2" "10.0.0.3" with name := "web-1" }, samplePod "db" "n2" "10.0.0.2"]
  services := []
  endpointSlices := []
  nodes := []
  replicaSets := []

/-- A connection to `db` that took some time. -/
def sampleOpened (srcIP : Addr) (us : Int) : Event where
  timestamp := sampleNow.time
  pid := 1
  srcIP := srcIP
  dstIP := .v4 10 0 0 2
  srcPort := 40000
  dstPort := 5432
  failed := false
  connectLatencyUS := some us

/-- A connection from each of the two replicas. -/
def twoOpened (us : Int) : List Event :=
  [sampleOpened (.v4 10 0 0 1) us, sampleOpened (.v4 10 0 0 3) us]

def sampleResolver : Resolver := ⟨"c", sampleStores.caches dotted (fun _ => none)⟩

def webToDb : String ×ₗ String ×ₗ String ×ₗ Int :=
  Key.sortKey ⟨"k8s:c:shop:StatefulSet:web", "k8s:c:shop:StatefulSet:db", "TCP", 5432⟩

/-- Both agents see both connections, each counts one. -/
theorem shared_kernel_counts_once_two_nodes :
    (["n1", "n2"].map (fun n => ((twoOpened 7).foldl (handleEvent sampleResolver n)
        (.new "c" n [])).total EdgeObservation.counts webToDb)).sum =
      ((⟨2, 0, 2⟩ : Counts) : WithZero Counts) ∧
    (["n1", "n2"].map (fun n => ((twoOpened 7).foldl (handleEvent sampleResolver n)
        (.new "c" n [])).total EdgeObservation.connectLatencySumUS webToDb)).sum =
      ((14 : Int) : WithZero Int) := by
  have honce := shared_kernel_counts_once dotted (fun _ => none) "c" id [] sampleStores ["n1", "n2"]
    (fun _ => sampleStores.pods) (by decide) (by decide)
    (by unfold InformerCaches.PodsApart; decide) (fun _ _ => List.Perm.refl _) (by decide)
    (twoOpened 7) webToDb
  refine ⟨honce.1.trans (by decide +kernel), (honce.2 ?_).trans (by decide +kernel)⟩
  intro k
  refine (totalOf_latency_le ((List.filter_sublist ..).trans (List.filter_sublist ..))).trans_lt ?_
  decide

/-- Two connections of 2⁶² µs: the agents report one each, a single agent a sum that wrapped. -/
theorem latency_wraps_apart :
    (["n1", "n2"].map (fun n => ((twoOpened (2 ^ 62)).foldl (handleEvent sampleResolver n)
        (.new "c" n [])).total EdgeObservation.connectLatencySumUS webToDb)).sum =
      ((2 ^ 63 : Int) : WithZero Int) ∧
    ((twoOpened (2 ^ 62)).foldl (handleEvent sampleResolver "") (.new "c" "" [])).total
        EdgeObservation.connectLatencySumUS webToDb = ((-2 ^ 63 : Int) : WithZero Int) := by
  exact ⟨by decide +kernel, by decide +kernel⟩

end TopologyVisualizer.Agent
