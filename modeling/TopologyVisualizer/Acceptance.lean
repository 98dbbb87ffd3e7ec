import TopologyVisualizer.Agent.Interval
import TopologyVisualizer.Wire

/-! # Flushed Batches at the Backend

    The agent validates a batch before it spends a delivery attempt on it.
    `Validate` mirrors the field rules of the backend's models, and every
    instant the agent can stamp is one the backend can read, so a flushed
    batch that passes is read as it was sent; but `Validate` knows no limit
    on the number of edges, and the route has one.
-/

namespace TopologyVisualizer

open Agent Wire

/-! ### Acceptance -/

/-- The batch passes Pydantic's validation and the route's checks. -/
def BackendAccepts (b : Agent.IngestBatch) : Prop :=
  ∃ body r, marshal b = .ok body ∧ parse body = some r ∧ routeCheck r = none

/-- What `post` returns when its request reaches the backend and the response comes back. -/
def postOutcome (repo : Backend.InMemoryRepository) (b : Agent.IngestBatch) : Outcome :=
  match marshal b with
  | .error _ => .permanent
  | .ok body => classify (ingestRoute repo body).2.status

/-- The route refuses for good. -/
theorem classify_refusal {r : Backend.IngestBatch} {refusal : Response}
    (h : routeCheck r = some refusal) : classify refusal.status = .permanent := by
  unfold routeCheck at h
  split_ifs at h
  · cases h; rfl
  · cases h; rfl

theorem postOutcome_of_accepts {b : Agent.IngestBatch} (h : BackendAccepts b)
    (repo : Backend.InMemoryRepository) : postOutcome repo b ≠ .permanent := by
  obtain ⟨body, r, hbody, hparse, hcheck⟩ := h
  simp only [postOutcome, hbody, ingestRoute, hparse, hcheck]
  cases (repo.ingestBatch r).2 <;> decide

/-! ### The edges of a flushed batch -/

/-- A flushed batch has one edge for each distinct key observed. -/
theorem length_flushed_edges (os : List Observation) :
    (sortOn EdgeObservation.sortKey
      ((os.foldl observeInto .empty).entries.map toObservation)).length =
      ((os.map Observation.key).dedup).length := by
  rw [(sortOn_perm _ _).length_eq, List.length_map]
  have hperm : (os.foldl observeInto .empty).keys.Perm (os.map Observation.key).dedup := by
    refine (List.perm_ext_iff_of_nodup (Dict.nodup _) (List.nodup_dedup _)).mpr ?_
    intro k
    rw [List.mem_dedup]
    constructor
    · intro hk
      obtain ⟨entry, hget⟩ := Dict.mem_keys_iff.mp hk
      have hcollects := foldl_observeInto_collects os k
      rw [hget] at hcollects
      obtain ⟨o, ho, -⟩ := hcollects.endpoints
      exact List.mem_map.mpr ⟨o, (mem_ofKey.mp ho).1, (mem_ofKey.mp ho).2⟩
    · intro hk
      obtain ⟨o, ho, rfl⟩ := List.mem_map.mp hk
      exact Dict.mem_keys_iff.mpr (get?_foldl_observeInto ho)
  rw [← hperm.length_eq, Dict.keys, List.length_map]

theorem writable_of_range {t : GoTime} (h : -2 ^ 63 ≤ t.wall ∧ t.wall < 2 ^ 64) : Writable t := by
  unfold Writable yearOne yearTenThousand
  omega

/-- Every instant in a flushed batch can be written and read. -/
theorem flushed_sendable {ident : Identity} {nodeName : String} {infraPorts : List UInt16}
    {inputs : List Input} {intervalSeconds : Int} {now : WallReading} {ulid : Ulid}
    {batch : Agent.IngestBatch}
    (hflush : ((Pipeline.run ident nodeName infraPorts inputs).flush
      intervalSeconds now ulid).2 = some batch) (hvalid : batch.Valid) : Sendable batch := by
  obtain ⟨-, hedges⟩ :=
    Pipeline.run_spec ident nodeName infraPorts inputs
  have hready := Pipeline.sinceFlush_ready ident nodeName infraPorts inputs
  obtain ⟨-, -, -, -, hobserved, -, hbatch⟩ := Aggregator.flush_snd hflush
  refine ⟨?_, ?_⟩
  · rw [hobserved]
    refine writable_of_range ?_
    have := now.range
    simp only [GoTime.utc_wall]
    omega
  · intro e he
    have horder := (hvalid.edges e he).interval
    rw [hbatch, hedges] at he
    obtain ⟨k, entry, hget, rfl⟩ := mem_flushed_edges.mp he
    have hcollects := foldl_observeInto_collects
      (Pipeline.sinceFlush ident nodeName infraPorts inputs) k
    rw [hget] at hcollects
    have hstamp : ∀ t ∈ (ofKey k (Pipeline.sinceFlush ident nodeName infraPorts inputs)).map
        Observation.timestamp, Writable t := by
      intro t ht
      obtain ⟨o, ho, rfl⟩ := List.mem_map.mp ht
      exact writable_of_range (hready o (mem_ofKey.mp ho).1).timestamp
    refine ⟨hstamp entry.firstSeen (GoTime.mem_of_earliest? hcollects.firstSeen),
      hstamp entry.lastSeen (GoTime.mem_of_latest? hcollects.lastSeen), ?_⟩
    simpa [toObservation] using horder

/-- The route's checks of a batch that was read as it was sent. -/
theorem routeCheck_eq_none_iff {b : Agent.IngestBatch} {r : Backend.IngestBatch}
    (hvalid : b.Valid) (hdenotes : Denotes b r) :
    routeCheck r = none ↔ b.edges.length ≤ maxBatchEdges := by
  have hversion : r.schemaVersion = supportedSchemaVersion :=
    hdenotes.schemaVersion.trans hvalid.schemaVersion
  have hlen : r.edges.length = b.edges.length := hdenotes.edges.length_eq.symm
  unfold routeCheck
  rw [if_neg (not_not.mpr hversion), hlen]
  split <;> simp <;> omega

/-- A valid, sendable batch is accepted exactly when it has at most `max_batch_edges` edges. -/
theorem backendAccepts_iff {b : Agent.IngestBatch} (hvalid : b.Valid) (hsend : Sendable b) :
    BackendAccepts b ↔ b.edges.length ≤ maxBatchEdges := by
  constructor
  · rintro ⟨body, r, hbody, hparse, hcheck⟩
    rw [marshal_of_sendable hsend] at hbody
    cases hbody
    by_cases hlen : b.edges.length ≤ 10000
    · obtain ⟨r', hr', hdenotes⟩ := parse_marshal hvalid hsend hlen
      rw [hparse] at hr'
      cases hr'
      exact (routeCheck_eq_none_iff hvalid hdenotes).mp hcheck
    · rw [parse_eq_none_of_length hvalid hsend (by omega)] at hparse
      cases hparse
  · intro hlen
    have hlen' : b.edges.length ≤ 10000 := le_trans hlen (by decide)
    obtain ⟨r, hr, hdenotes⟩ := parse_marshal hvalid hsend hlen'
    exact ⟨_, r, marshal_of_sendable hsend, hr, (routeCheck_eq_none_iff hvalid hdenotes).mpr hlen⟩

/-- The backend accepts a flushed batch that passed `Validate`, for every repository, exactly
    when at most `max_batch_edges` distinct edges were observed since the last flush. -/
theorem flushed_accepted_iff (quote : String → String) (ident : Identity) (nodeName : String)
    (infraPorts : List UInt16) (inputs : List Input) (intervalSeconds : Int) (now : WallReading)
    (ulid : Ulid) (batch : Agent.IngestBatch)
    (hflush : ((Pipeline.run ident nodeName infraPorts inputs).flush
      intervalSeconds now ulid).2 = some batch)
    (hvalid : batch.validate quote = .ok ()) :
    (BackendAccepts batch ∧ ∀ repo, postOutcome repo batch ≠ .permanent) ↔
      ((Pipeline.sinceFlush ident nodeName infraPorts inputs).map Observation.key).dedup.length ≤
        maxBatchEdges := by
  have hvalid' := IngestBatch.validate_eq_ok_iff.mp hvalid
  have hsend := flushed_sendable hflush hvalid'
  obtain ⟨-, hedges⟩ :=
    Pipeline.run_spec ident nodeName infraPorts inputs
  obtain ⟨-, -, -, -, -, -, hbatch⟩ := Aggregator.flush_snd hflush
  have hlen := length_flushed_edges (Pipeline.sinceFlush ident nodeName infraPorts inputs)
  rw [← hedges, ← hbatch] at hlen
  rw [← hlen, ← backendAccepts_iff hvalid' hsend]
  exact ⟨fun h => h.1, fun h => ⟨h, postOutcome_of_accepts h⟩⟩

/-- One refused connection is reported and accepted. -/
theorem flushed_accepted_refused_5432 :
    ∃ batch, ((Pipeline.run sampleIdentity "n1" [] [refusedConnection 5432]).flush
        10 sampleNow sampleUlid).2 = some batch ∧
      BackendAccepts batch ∧ ∀ repo, postOutcome repo batch ≠ .permanent := by
  refine ⟨_, rfl, ?_⟩
  exact (flushed_accepted_iff id sampleIdentity "n1" [] [refusedConnection 5432] 10 sampleNow
    sampleUlid _ rfl (by decide +kernel)).mpr (by decide +kernel)

/-! ### A port scan -/

/-- What `Add` keeps of a refused connection. -/
def refusedObservation (port : UInt16) : Observation where
  source := { id := "k8s:c:shop:StatefulSet:web", kind := "StatefulSet", «namespace» := "shop"
              name := "web", «class» := .workload }
  target := { id := "k8s:c:shop:StatefulSet:db", kind := "StatefulSet", «namespace» := "shop"
              name := "db", «class» := .workload }
  protocol := "TCP"
  destinationPort := port
  timestamp := sampleNow.time
  failed := true
  connectLatencyUS := none

theorem kept_refusedConnection (port : UInt16) :
    Pipeline.keptObservation sampleIdentity "n1" [] (refusedConnection port) =
      some (refusedObservation port) := by
  have htime : wallTime ⟨sampleNow, 5000⟩ 5000 = sampleNow.time := by decide
  have hsource : (⟨"c", sampleCaches⟩ : Resolver).resolveSource (.v4 10 0 0 1) =
      (refusedObservation port).source := by rfl
  have htarget : (⟨"c", sampleCaches⟩ : Resolver).resolveDestination (.v4 10 0 0 2) port =
      (refusedObservation port).target := by rfl
  have hobs : (⟨"c", sampleCaches⟩ : Resolver).observation
      { timestamp := sampleNow.time, pid := 1, srcIP := .v4 10 0 0 1, dstIP := .v4 10 0 0 2
        srcPort := 40000, dstPort := port, failed := true, connectLatencyUS := none } =
      refusedObservation port := by
    simp only [Resolver.observation, hsource, htarget]
    rfl
  have hdecode : decode ⟨sampleNow, 5000⟩
      { timestampNs := 5000, pid := 1, saddr := (10, 0, 0, 1), daddr := (10, 0, 0, 2),
        sport := 40000, dport := port, family := 2, protocol := 6, version := 2, outcome := 1,
        durationKnown := 0, durationUs := 0 } = .ok
      { timestamp := sampleNow.time, pid := 1, srcIP := .v4 10 0 0 1, dstIP := .v4 10 0 0 2
        srcPort := 40000, dstPort := port, failed := true, connectLatencyUS := none } := by
    rw [← htime]
    rfl
  simp only [Pipeline.keptObservation, refusedConnection, hdecode, sampleIdentity, hobs]
  rfl

theorem sinceFlush_refusedConnections (ports : List UInt16) :
    Pipeline.sinceFlush sampleIdentity "n1" [] (ports.map refusedConnection) =
      ports.map refusedObservation := by
  induction ports using List.reverseRecOn with
  | nil => rfl
  | append_singleton ports port ih =>
    have hlast : Pipeline.sinceFlush sampleIdentity "n1" []
        (ports.map refusedConnection ++ [refusedConnection port]) =
        Pipeline.sinceFlush sampleIdentity "n1" [] (ports.map refusedConnection) ++
          (Pipeline.keptObservation sampleIdentity "n1" [] (refusedConnection port)).toList := by
      simp only [Pipeline.sinceFlush, List.foldl_append]
      rfl
    rw [List.map_append, List.map_singleton, hlast, ih, kept_refusedConnection, List.map_append]
    rfl

theorem refusedObservation_key_injective :
    Function.Injective (fun port => (refusedObservation port).key) :=
  fun _ _ h => congrArg Key.destinationPort h

/-- A list of equal times starts and ends at that time. -/
theorem earliest?_latest?_of_const {ts : List GoTime} {t first last : GoTime}
    (hts : ∀ u ∈ ts, u = t) (hfirst : GoTime.earliest? ts = some first)
    (hlast : GoTime.latest? ts = some last) : first = t ∧ last = t :=
  ⟨hts _ (GoTime.mem_of_earliest? hfirst), hts _ (GoTime.mem_of_latest? hlast)⟩

theorem refused_acceptable {ports : List UInt16} {port : UInt16} (hport : port ≠ 0) :
    EdgeAcceptable (ports.map refusedObservation) (refusedObservation port).key := by
  have hmem : ∀ o ∈ ofKey (refusedObservation port).key (ports.map refusedObservation),
      ∃ p, o = refusedObservation p := by
    intro o ho
    obtain ⟨p, -, rfl⟩ := List.mem_map.mp (mem_ofKey.mp ho).1
    exact ⟨p, rfl⟩
  refine ⟨hport, ?_, ?_⟩
  · have hzero : totalOf Observation.latencyUS
        (ofKey (refusedObservation port).key (ports.map refusedObservation)) = 0 := by
      apply List.sum_eq_zero
      intro x hx
      obtain ⟨o, ho, rfl⟩ := List.mem_map.mp hx
      obtain ⟨p, rfl⟩ := hmem o ho
      rfl
    rw [hzero]
    decide
  · intro first hfirst last hlast
    obtain ⟨rfl, rfl⟩ := earliest?_latest?_of_const (t := sampleNow.time) (by
      intro u hu
      obtain ⟨o, ho, rfl⟩ := List.mem_map.mp hu
      obtain ⟨p, rfl⟩ := hmem o ho
      rfl) hfirst hlast
    exact le_refl _

/-- Ports 1 to 5001. -/
def scannedPorts : List UInt16 := (List.range 5001).map (fun i => UInt16.ofNat (i + 1))

theorem scannedPorts_nodup : scannedPorts.Nodup := by
  refine List.Nodup.map_on ?_ List.nodup_range
  intro i hi j hj h
  have h' := congrArg UInt16.toNat h
  rw [List.mem_range] at hi hj
  rw [UInt16.toNat_ofNat_of_lt' (by unfold UInt16.size; omega), UInt16.toNat_ofNat_of_lt' (by unfold UInt16.size; omega)] at h'
  omega

theorem ne_zero_of_mem_scannedPorts {port : UInt16} (h : port ∈ scannedPorts) : port ≠ 0 := by
  obtain ⟨i, hi, rfl⟩ := List.mem_map.mp h
  rw [List.mem_range] at hi
  intro h0
  have h0' := congrArg UInt16.toNat h0
  rw [UInt16.toNat_ofNat_of_lt' (by unfold UInt16.size; omega)] at h0'
  exact absurd h0' (by simp)

/-- **A port scan costs an interval**: one pod probing ports 1 to 5001 of another within an
    interval makes a batch that passes `Validate` and that the backend refuses for good. -/
theorem flushed_rejected_on_port_scan :
    ∃ batch, ((Pipeline.run sampleIdentity "n1" [] (scannedPorts.map refusedConnection)).flush
        10 sampleNow sampleUlid).2 = some batch ∧
      batch.validate id = .ok () ∧ ¬BackendAccepts batch ∧
      ∀ repo, postOutcome repo batch = .permanent := by
  have hkept := sinceFlush_refusedConnections scannedPorts
  have hspec := (Pipeline.run_spec sampleIdentity "n1" [] (scannedPorts.map refusedConnection)).2
  have hkeys : ((scannedPorts.map refusedObservation).map Observation.key).dedup.length = 5001 := by
    have hnodup : ((scannedPorts.map refusedObservation).map Observation.key).Nodup := by
      rw [List.map_map]
      exact scannedPorts_nodup.map refusedObservation_key_injective
    rw [List.dedup_eq_self.mpr hnodup, List.length_map, List.length_map, scannedPorts,
      List.length_map, List.length_range]
  have hlen := length_flushed_edges (scannedPorts.map refusedObservation)
  rw [hkeys, ← hkept, ← hspec] at hlen
  -- the map is not empty, so there is a batch
  have hsize : ¬(Pipeline.run sampleIdentity "n1" []
      (scannedPorts.map refusedConnection)).edges.size = 0 := by
    rw [(sortOn_perm _ _).length_eq, List.length_map] at hlen
    unfold Dict.size
    omega
  obtain ⟨batch, hflush⟩ : ∃ batch, ((Pipeline.run sampleIdentity "n1" []
      (scannedPorts.map refusedConnection)).flush 10 sampleNow sampleUlid).2 = some batch := by
    simp only [Aggregator.flush, if_neg hsize]
    exact ⟨_, rfl⟩
  have hvalid : batch.Valid := by
    refine (flushed_valid_iff (by decide) hflush).mpr ?_
    rw [hkept]
    intro o ho
    obtain ⟨port, hport, rfl⟩ := List.mem_map.mp ho
    exact refused_acceptable (ne_zero_of_mem_scannedPorts hport)
  have hsend := flushed_sendable hflush hvalid
  rw [← (Aggregator.flush_snd hflush).2.2.2.2.2.2] at hlen
  have hnot : ¬BackendAccepts batch := by
    rw [backendAccepts_iff hvalid hsend, hlen]
    decide
  refine ⟨batch, hflush, IngestBatch.validate_eq_ok_iff.mpr hvalid, hnot, ?_⟩
  intro repo
  obtain ⟨r, hr, hdenotes⟩ := parse_marshal hvalid hsend (by omega)
  have hcheck : routeCheck r ≠ none := by
    rw [Ne, routeCheck_eq_none_iff hvalid hdenotes, hlen]
    decide
  obtain ⟨refusal, hrefusal⟩ := Option.ne_none_iff_exists'.mp hcheck
  simp only [postOutcome, marshal_of_sendable hsend, ingestRoute, hr, hrefusal]
  exact classify_refusal hrefusal

end TopologyVisualizer
