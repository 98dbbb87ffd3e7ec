import TopologyVisualizer.Agent.Stopping

/-! # Does the Agent Lose Anything?

    From `Add` to the delivery counters. Each accepted observation is in
    exactly one flushed batch or still in the aggregator, and each flushed
    batch failed `Validate`, is on its way to `Enqueue` or was enqueued
    (`conserved_of_reachable`). What happens to an enqueued batch is said in
    `Agent/DeliveryDrain.lean`.

    So when `run` returned nothing is lost in silence as long as no `Add`
    comes after the last `Flush` and no `Enqueue` after the delivery loop
    returned (`nothing_lost_of_timely`). The three goroutines see the end of
    the context independently, and nothing in `run` orders them that way.
-/

namespace TopologyVisualizer.Agent.Process

open LTS

variable {quote : String → String} {cfg : Config} {s s' : State} {l : Label}

/-! ### Observations and batches -/

/-- The batch reports the observations, collapsed by key. -/
def Carries (b : IngestBatch) (os : List Observation) : Prop :=
  b.edges = sortOn EdgeObservation.sortKey ((os.foldl observeInto .empty).entries.map toObservation)

/-- The batch the flush loop holds. -/
def Flusher.carried : Flusher → List IngestBatch
  | .validating b _ => [b]
  | .enqueuing b _ => [b]
  | _ => []

@[simp] theorem carried_afterEmit (final : Bool) : (afterEmit final).carried = [] := by
  cases final <;> rfl

/-- Nothing vanishes between `Add` and `Enqueue`. -/
structure Conserved (cfg : Config) (s : State) : Prop where
  ports : s.aggregator.infraPorts = cfg.infraPorts
  /-- The aggregator holds the observations since the last flush. -/
  edges : s.aggregator.edges = s.history.interval.foldl observeInto .empty
  accepted : s.history.accepted = s.history.flushes.flatMap Prod.snd ++ s.history.interval
  carries : ∀ f ∈ s.history.flushes, Carries f.1 f.2
  /-- Batches reach `Enqueue` in the order of their flushes. -/
  ordered : (s.delivery.history.enqueued ++ s.flusher.carried).Sublist
    (s.history.flushes.map Prod.fst)
  fate : ∀ f ∈ s.history.flushes, f.1 ∈ s.history.invalid ∨ f.1 ∈ s.flusher.carried ∨
    f.1 ∈ s.delivery.history.enqueued

/-- An aggregator without edges holds no observations. -/
theorem interval_nil_of_size {os : List Observation}
    (h : (os.foldl observeInto .empty).size = 0) : os = [] := by
  by_contra hne
  obtain ⟨o, ho⟩ := List.exists_mem_of_ne_nil os hne
  obtain ⟨entry, hget⟩ := get?_foldl_observeInto ho
  have hmem := Dict.get?_eq_some_iff.mp hget
  rw [Dict.size, List.length_eq_zero_iff] at h
  rw [h] at hmem
  cases hmem

/-- The steps that touch neither observations nor batches. -/
theorem Conserved.of_same (h : Conserved cfg s) (hagg : s'.aggregator = s.aggregator)
    (hhist : s'.history = s.history) (hcarried : s'.flusher.carried = s.flusher.carried)
    (henq : s'.delivery.history.enqueued = s.delivery.history.enqueued) : Conserved cfg s' where
  ports := by rw [hagg]; exact h.ports
  edges := by rw [hagg, hhist]; exact h.edges
  accepted := by rw [hhist]; exact h.accepted
  carries := by rw [hhist]; exact h.carries
  ordered := by rw [henq, hcarried, hhist]; exact h.ordered
  fate := by rw [henq, hcarried, hhist]; exact h.fate

/-- What the callback does to the aggregator is filing what it keeps. -/
theorem handleEvent_edges (cfg : Config) (caches : Caches) (a : Aggregator) (ev : Event)
    (hports : a.infraPorts = cfg.infraPorts) :
    (handleEvent ⟨cfg.clusterID, caches⟩ cfg.nodeName a ev).infraPorts = cfg.infraPorts ∧
    (handleEvent ⟨cfg.clusterID, caches⟩ cfg.nodeName a ev).edges =
      (keeps cfg caches ev).foldl observeInto a.edges := by
  unfold handleEvent keeps observed
  by_cases helse :
      Resolver.originatesElsewhere ⟨cfg.clusterID, caches⟩ ev.srcIP cfg.nodeName = true
  · simp only [if_pos helse]
    exact ⟨hports, rfl⟩
  · simp only [if_neg helse, Option.toList_some]
    refine ⟨(a.add_config _).2.2.trans hports, ?_⟩
    rw [Aggregator.add_edges, hports]
    by_cases hkept :
        verdict cfg.infraPorts (Resolver.observation ⟨cfg.clusterID, caches⟩ ev) = .kept
    · simp [hkept]
    · simp [hkept]

theorem Conserved.handle (h : Conserved cfg s) (caches : Caches) (ev : Event) :
    Conserved cfg { s with
      main := .reading
      aggregator := handleEvent ⟨cfg.clusterID, caches⟩ cfg.nodeName s.aggregator ev
      history := { s.history with
        accepted := s.history.accepted ++ keeps cfg caches ev
        interval := s.history.interval ++ keeps cfg caches ev } } where
  ports := (handleEvent_edges cfg caches s.aggregator ev h.ports).1
  edges := by
    show Aggregator.edges _ = _
    rw [(handleEvent_edges cfg caches s.aggregator ev h.ports).2, h.edges, List.foldl_append]
  accepted := by
    show s.history.accepted ++ _ = _
    rw [h.accepted, List.append_assoc]
  carries := h.carries
  ordered := h.ordered
  fate := h.fate

/-- `Flush` moves the interval into a batch, or finds it empty. -/
theorem Conserved.flush (h : Conserved cfg s) {final : Bool}
    (hflusher : s.flusher = .flushing final) (now : WallReading) (ulid : Ulid) :
    Conserved cfg (s.flushed cfg now ulid final) := by
  obtain ⟨hempty, -, -, hports⟩ := s.aggregator.flush_fst cfg.intervalSeconds now ulid
  have hnone : s.flusher.carried = [] := by rw [hflusher]; rfl
  have hordered := h.ordered
  have hfate := h.fate
  rw [hnone] at hordered hfate
  unfold State.flushed
  split
  · next aggregator heq =>
    -- nothing was observed: the map is empty, so the interval is
    have hsize : s.aggregator.edges.size = 0 := by
      by_contra hsize
      simp [Aggregator.flush, hsize] at heq
    have hinterval : s.history.interval = [] := interval_nil_of_size (by rw [← h.edges]; exact hsize)
    rw [heq] at hempty hports
    refine ⟨hports.trans h.ports, hempty, ?_, h.carries, ?_, ?_⟩
    · show s.history.accepted = s.history.flushes.flatMap Prod.snd ++ []
      rw [h.accepted, hinterval]
    · simpa using hordered
    · simpa using hfate
  · next aggregator batch heq =>
    have hedges := (Aggregator.flush_snd (by rw [heq] :
      (s.aggregator.flush cfg.intervalSeconds now ulid).2 = some batch)).2.2.2.2.2.2
    rw [heq] at hempty hports
    refine ⟨hports.trans h.ports, hempty, ?_, ?_, ?_, ?_⟩
    · simp [h.accepted]
    · intro f hf
      rcases List.mem_append.mp hf with hf | hf
      · exact h.carries f hf
      · rw [List.mem_singleton.mp hf]
        show batch.edges = _
        rw [hedges, h.edges]
    · simp only [List.map_append, List.map_singleton, Flusher.carried]
      rw [List.append_nil] at hordered
      exact hordered.append (List.Sublist.refl _)
    · intro f hf
      rcases List.mem_append.mp hf with hf | hf
      · rcases hfate f hf with hinvalid | hcarried | henq
        · exact .inl hinvalid
        · cases hcarried
        · exact .inr (.inr henq)
      · rw [List.mem_singleton.mp hf]
        exact .inr (.inl (List.mem_singleton_self batch))

/-- A batch that fails `Validate` is dropped, with a log line. -/
theorem Conserved.validate (h : Conserved cfg s) {batch : IngestBatch} {final : Bool}
    (hflusher : s.flusher = .validating batch final) :
    Conserved cfg { s with
      flusher := afterEmit final
      history := { s.history with invalid := s.history.invalid ++ [batch] } } := by
  have hordered := h.ordered
  have hfate := h.fate
  rw [hflusher] at hordered hfate
  refine ⟨h.ports, h.edges, h.accepted, h.carries, ?_, ?_⟩
  · rw [carried_afterEmit, List.append_nil]
    exact (List.sublist_append_left _ _).trans hordered
  · intro f hf
    rcases hfate f hf with hinvalid | hcarried | henq
    · exact .inl (List.mem_append_left _ hinvalid)
    · exact .inl (List.mem_append_right _ hcarried)
    · exact .inr (.inr henq)

/-- `Enqueue` takes the batch over. -/
theorem Conserved.enqueue (h : Conserved cfg s) {batch : IngestBatch} {final : Bool}
    (hflusher : s.flusher = .enqueuing batch final) {d : Delivery.State}
    (hd : d.history.enqueued = s.delivery.history.enqueued ++ [batch]) :
    Conserved cfg { s with flusher := .inEnqueue final, delivery := d } := by
  have hordered := h.ordered
  have hfate := h.fate
  rw [hflusher] at hordered hfate
  refine ⟨h.ports, h.edges, h.accepted, h.carries, ?_, ?_⟩
  · show (d.history.enqueued ++ []).Sublist _
    rw [hd, List.append_nil]
    exact hordered
  · intro f hf
    show _ ∨ _ ∨ f.1 ∈ d.history.enqueued
    rw [hd]
    rcases hfate f hf with hinvalid | hcarried | henq
    · exact .inl hinvalid
    · exact .inr (.inr (List.mem_append_right _ hcarried))
    · exact .inr (.inr (List.mem_append_left _ henq))

/-- **Conservation**, in every run. -/
theorem conserved_of_reachable (h : Reachable (system quote cfg) s) : Conserved cfg s := by
  refine System.invariant (Conserved cfg) ?_ ?_ s h
  · intro s hs
    rw [hs]
    exact ⟨rfl, rfl, rfl, by simp, by simp [Flusher.carried], by simp⟩
  · intro s l s' hinv hstep
    simp only [system] at hstep
    cases l with
    | signal => subst hstep; exact hinv.of_same rfl rfl rfl rfl
    | stop => obtain ⟨-, rfl⟩ := hstep; exact hinv.of_same rfl rfl rfl rfl
    | closeReader => obtain ⟨-, rfl⟩ := hstep; exact hinv.of_same rfl rfl rfl rfl
    | read record => obtain ⟨-, -, rfl⟩ := hstep; exact hinv.of_same rfl rfl rfl rfl
    | readClosed => obtain ⟨-, -, rfl⟩ := hstep; exact hinv.of_same rfl rfl rfl rfl
    | readError message => obtain ⟨-, rfl⟩ := hstep; exact hinv.of_same rfl rfl rfl rfl
    | decode clock => obtain ⟨_, -, rfl⟩ := hstep; exact hinv.of_same rfl rfl rfl rfl
    | handle caches => obtain ⟨ev, -, rfl⟩ := hstep; exact hinv.handle caches ev
    | joinFlush => obtain ⟨_, -, -, rfl⟩ := hstep; exact hinv.of_same rfl rfl rfl rfl
    | joinDelivery => obtain ⟨_, -, -, rfl⟩ := hstep; exact hinv.of_same rfl rfl rfl rfl
    | tick => obtain ⟨hf, rfl⟩ := hstep; exact hinv.of_same rfl rfl (by rw [hf]; rfl) rfl
    | done => obtain ⟨hf, -, rfl⟩ := hstep; exact hinv.of_same rfl rfl (by rw [hf]; rfl) rfl
    | flush now ulid => obtain ⟨final, hf, rfl⟩ := hstep; exact hinv.flush hf now ulid
    | validate =>
      obtain ⟨batch, final, hf, rfl⟩ := hstep
      split
      · exact hinv.of_same rfl rfl (by rw [hf]; rfl) rfl
      · exact hinv.validate hf
    | enqueue =>
      obtain ⟨batch, final, d, hf, hd, rfl⟩ := hstep
      refine hinv.enqueue hf ?_
      rcases hd with hd | hd
      · obtain ⟨-, -, rfl⟩ := hd; rfl
      · obtain ⟨-, -, _, _, -, rfl⟩ := hd; rfl
    | enqueueReturn =>
      obtain ⟨final, hf, -, rfl⟩ := hstep
      exact hinv.of_same rfl rfl (by rw [hf]; exact carried_afterEmit final) rfl
    | delivery k =>
      obtain ⟨d, hk, hd, rfl⟩ := hstep
      exact hinv.of_same rfl rfl rfl (Delivery.enqueued_of_own hk hd)

/-! ### At the joins -/

/-- What the main goroutine knows of the delivery client after the joins. -/
structure Joined (s : State) : Prop where
  /-- The flush loop is the only caller of `Enqueue`. -/
  producer : s.delivery.producer = .idle ∨ ∃ final, s.flusher = .inEnqueue final
  delivered : ∀ err, s.main = .returned err → s.delivery.sender = .returned

theorem joined_of_reachable (h : Reachable (system quote cfg) s) : Joined s := by
  refine System.invariant Joined ?_ ?_ s h
  · intro s hs
    rw [hs]
    exact ⟨.inl rfl, by simp⟩
  · intro s l s' hinv hstep
    obtain ⟨hproducer, hdelivered⟩ := hinv
    have hnot : ∀ {f : Flusher}, s.flusher = f → (∀ final, f ≠ .inEnqueue final) →
        s.delivery.producer = .idle := by
      intro f hf hne
      rcases hproducer with hidle | ⟨final, hin⟩
      · exact hidle
      · exact absurd (hf.symm.trans hin) (hne final)
    simp only [system] at hstep
    cases l with
    | signal => subst hstep; exact ⟨hproducer, hdelivered⟩
    | stop => obtain ⟨-, rfl⟩ := hstep; exact ⟨hproducer, hdelivered⟩
    | closeReader => obtain ⟨-, rfl⟩ := hstep; exact ⟨hproducer, hdelivered⟩
    | read record => obtain ⟨-, -, rfl⟩ := hstep; exact ⟨hproducer, by simp⟩
    | readClosed => obtain ⟨-, -, rfl⟩ := hstep; exact ⟨hproducer, by simp⟩
    | readError message => obtain ⟨-, rfl⟩ := hstep; exact ⟨hproducer, by simp⟩
    | decode clock =>
      obtain ⟨record, -, rfl⟩ := hstep
      refine ⟨hproducer, ?_⟩
      cases decodeRecord clock record <;> simp
    | handle caches => obtain ⟨_, -, rfl⟩ := hstep; exact ⟨hproducer, by simp⟩
    | joinFlush => obtain ⟨_, -, -, rfl⟩ := hstep; exact ⟨hproducer, by simp⟩
    | joinDelivery => obtain ⟨_, -, hret, rfl⟩ := hstep; exact ⟨hproducer, fun _ _ => hret⟩
    | tick =>
      obtain ⟨hf, rfl⟩ := hstep
      exact ⟨.inl (hnot hf (by simp)), hdelivered⟩
    | done =>
      obtain ⟨hf, -, rfl⟩ := hstep
      exact ⟨.inl (hnot hf (by simp)), hdelivered⟩
    | flush now ulid =>
      obtain ⟨final, hf, rfl⟩ := hstep
      have hidle := hnot hf (by simp)
      unfold State.flushed
      split
      · exact ⟨.inl hidle, hdelivered⟩
      · exact ⟨.inl hidle, hdelivered⟩
    | validate =>
      obtain ⟨batch, final, hf, rfl⟩ := hstep
      have hidle := hnot hf (by simp)
      split
      · exact ⟨.inl hidle, hdelivered⟩
      · exact ⟨.inl hidle, hdelivered⟩
    | enqueue =>
      obtain ⟨batch, final, d, hf, hd, rfl⟩ := hstep
      refine ⟨.inr ⟨final, rfl⟩, ?_⟩
      intro err herr
      rcases hd with hd | hd
      · exact Delivery.returned_of_step hd (hdelivered err herr)
      · exact Delivery.returned_of_step hd (hdelivered err herr)
    | enqueueReturn =>
      obtain ⟨final, hf, hidle, rfl⟩ := hstep
      exact ⟨.inl hidle, hdelivered⟩
    | delivery k =>
      obtain ⟨d, hk, hd, rfl⟩ := hstep
      refine ⟨?_, fun err herr => Delivery.returned_of_step hd (hdelivered err herr)⟩
      exact hproducer.imp_left (Delivery.idle_of_own hk hd)

/-! ### When nothing is lost -/

/-- The flush loop has taken its last interval. -/
def Flusher.tookLast : Flusher → Bool
  | .validating _ final => final
  | .enqueuing _ final => final
  | .inEnqueue final => final
  | .returned => true
  | _ => false

/-- No observation is kept after the last `Flush`, nothing enters the queue after the delivery
    loop returned, and `Flush` draws an id of its own for every batch. -/
def Timely (cfg : Config) (s : State) : Label → Prop
  | .handle caches => ∀ ev, s.main = .handling ev → keeps cfg caches ev ≠ [] →
      s.flusher.tookLast = false
  | .flush _ ulid => ulid.string ∉ s.history.flushes.map (fun f => f.1.batchID)
  | .enqueue => s.delivery.sender ≠ .returned
  | .delivery .append => s.delivery.sender ≠ .returned
  | _ => True

/-- The batch was settled, or counted in `Dropped` or `Rejected`, or failed `Validate`, or was
    queued when `drain` gave up. -/
def State.Accounted (s : State) (b : IngestBatch) : Prop :=
  b ∈ s.delivery.history.sent ∨ b ∈ s.delivery.history.evicted ∨
    b ∈ s.delivery.history.rejected ∨ b ∈ s.history.invalid ∨ b ∈ s.delivery.history.leftover

/-- Every accepted observation is in a flushed batch, and every flushed batch is accounted
    for. -/
structure NothingLost (s : State) : Prop where
  aggregator : s.aggregator.edges = .empty
  accepted : s.history.accepted = s.history.flushes.flatMap Prod.snd
  flushed : ∀ f ∈ s.history.flushes, Carries f.1 f.2 ∧ s.Accounted f.1
  /-- The counters count what the lists say. -/
  counted : s.delivery.counters.sent = s.delivery.history.sent.length ∧
    s.delivery.counters.dropped = s.delivery.history.evicted.length ∧
    s.delivery.counters.rejected = s.delivery.history.rejected.length

@[simp] theorem tookLast_afterEmit (final : Bool) : (afterEmit final).tookLast = final := by
  cases final <;> rfl

/-- What a timely run keeps. -/
structure InTime (s : State) : Prop where
  interval : s.flusher.tookLast = true → s.history.interval = []
  ids : (s.history.flushes.map (fun f => f.1.batchID)).Nodup

theorem flush_inTime (hinv : InTime s) {now : WallReading} {ulid : Ulid} {final : Bool}
    (hfresh : ulid.string ∉ s.history.flushes.map (fun f => f.1.batchID)) :
    InTime (s.flushed cfg now ulid final) := by
  unfold State.flushed
  split
  · exact ⟨fun _ => rfl, hinv.ids⟩
  · next aggregator batch heq =>
    have hid := (Aggregator.flush_snd (by rw [heq] :
      (s.aggregator.flush cfg.intervalSeconds now ulid).2 = some batch)).2.2.2.1
    refine ⟨fun _ => rfl, ?_⟩
    show ((s.history.flushes ++ [(batch, s.history.interval)]).map _).Nodup
    rw [List.map_append, List.map_singleton, hid]
    exact List.nodup_append.mpr ⟨hinv.ids, List.nodup_singleton _, fun a ha b hb hab =>
      hfresh (by rw [← List.mem_singleton.mp hb, ← hab]; exact ha)⟩

theorem inTime_of_reachable (h : Reachable ((system quote cfg).restrict (Timely cfg)) s) :
    InTime s := by
  refine System.invariant InTime ?_ ?_ s h
  · intro s hs
    rw [hs]
    exact ⟨fun _ => rfl, List.nodup_nil⟩
  · intro s l s' hinv hok
    obtain ⟨htimely, hstep⟩ := hok
    simp only [system] at hstep
    cases l with
    | signal => subst hstep; exact ⟨hinv.interval, hinv.ids⟩
    | stop => obtain ⟨-, rfl⟩ := hstep; exact ⟨hinv.interval, hinv.ids⟩
    | closeReader => obtain ⟨-, rfl⟩ := hstep; exact ⟨hinv.interval, hinv.ids⟩
    | read record => obtain ⟨-, -, rfl⟩ := hstep; exact ⟨hinv.interval, hinv.ids⟩
    | readClosed => obtain ⟨-, -, rfl⟩ := hstep; exact ⟨hinv.interval, hinv.ids⟩
    | readError message => obtain ⟨-, rfl⟩ := hstep; exact ⟨hinv.interval, hinv.ids⟩
    | decode clock => obtain ⟨_, -, rfl⟩ := hstep; exact ⟨hinv.interval, hinv.ids⟩
    | handle caches =>
      obtain ⟨ev, hmain, rfl⟩ := hstep
      refine ⟨?_, hinv.ids⟩
      intro hlast
      show s.history.interval ++ keeps cfg caches ev = []
      by_cases hkeeps : keeps cfg caches ev = []
      · rw [hkeeps, List.append_nil]
        exact hinv.interval hlast
      · have hnot := htimely ev hmain hkeeps
        exact absurd (hlast.symm.trans hnot) (by decide)
    | joinFlush => obtain ⟨_, -, -, rfl⟩ := hstep; exact ⟨hinv.interval, hinv.ids⟩
    | joinDelivery => obtain ⟨_, -, -, rfl⟩ := hstep; exact ⟨hinv.interval, hinv.ids⟩
    | tick => obtain ⟨-, rfl⟩ := hstep; exact ⟨by simp [Flusher.tookLast], hinv.ids⟩
    | done => obtain ⟨-, -, rfl⟩ := hstep; exact ⟨by simp [Flusher.tookLast], hinv.ids⟩
    | flush now ulid => obtain ⟨final, -, rfl⟩ := hstep; exact flush_inTime hinv htimely
    | validate =>
      obtain ⟨batch, final, hf, rfl⟩ := hstep
      have hinterval := hinv.interval
      rw [hf] at hinterval
      split
      · exact ⟨hinterval, hinv.ids⟩
      · exact ⟨fun h => hinterval ((tookLast_afterEmit final).symm.trans h), hinv.ids⟩
    | enqueue =>
      obtain ⟨batch, final, d, hf, -, rfl⟩ := hstep
      have hinterval := hinv.interval
      rw [hf] at hinterval
      exact ⟨hinterval, hinv.ids⟩
    | enqueueReturn =>
      obtain ⟨final, hf, -, rfl⟩ := hstep
      have hinterval := hinv.interval
      rw [hf] at hinterval
      exact ⟨fun h => hinterval ((tookLast_afterEmit final).symm.trans h), hinv.ids⟩
    | delivery k => obtain ⟨_, -, -, rfl⟩ := hstep; exact ⟨hinv.interval, hinv.ids⟩

/-- In a timely run nothing enters the queue late. -/
theorem punctual_of_reachable (h : Reachable ((system quote cfg).restrict (Timely cfg)) s) :
    Reachable ((Delivery.system cfg.maxPendingBatches drainTimeout).restrict Delivery.Punctual)
      s.delivery := by
  refine Reachable.project State.delivery ?_ ?_ h
  · intro s hs
    rw [hs]
    rfl
  · intro s l s' hok
    obtain ⟨htimely, hstep⟩ := hok
    rcases delivery_step hstep with ⟨k, hk, henqueue, happend⟩ | hsame
    · refine .inl ⟨k, ?_, hk⟩
      intro hin
      rcases hin with hin | hin
      · rw [henqueue hin] at htimely
        exact htimely
      · rw [happend hin] at htimely
        exact htimely
    · exact .inr hsame

/-- **Nothing is lost in a timely run**: when `run` returned, every accepted observation is in a
    flushed batch that was settled, dropped, rejected, invalid, or left behind by `drain`. -/
theorem nothing_lost_of_timely (quote : String → String) (cfg : Config) (s : State)
    (hreach : Reachable ((system quote cfg).restrict (Timely cfg)) s) (err : Option String)
    (hreturned : s.main = .returned err) : NothingLost s := by
  have hrun := hreach.of_restrict
  have hdelivery := reachable_delivery hrun
  have hconserved := conserved_of_reachable hrun
  have hintime := inTime_of_reachable hreach
  have hbooked := Delivery.booked_of_reachable hdelivery
  have hflusher : s.flusher = .returned := (aware_of_reachable hrun).joined err (.inr hreturned)
  have hsender : s.delivery.sender = .returned := (joined_of_reachable hrun).delivered err hreturned
  have hidle : s.delivery.producer = .idle := by
    rcases (joined_of_reachable hrun).producer with hidle | ⟨final, hin⟩
    · exact hidle
    · rw [hflusher] at hin
      cases hin
  have hinterval : s.history.interval = [] := hintime.interval (by rw [hflusher]; rfl)
  have hcarried : s.flusher.carried = [] := by rw [hflusher]; rfl
  have hdropped := BoundedQueue.dropped_eq (Delivery.reachable_queue hdelivery)
  have hids : (s.delivery.history.enqueued.map IngestBatch.batchID).Nodup := by
    have hsub := hconserved.ordered
    rw [hcarried, List.append_nil] at hsub
    have hall := hintime.ids
    rw [← Function.comp_def IngestBatch.batchID Prod.fst, ← List.map_map] at hall
    exact hall.sublist (hsub.map _)
  refine ⟨?_, ?_, ?_, hbooked.sent, ?_, hbooked.rejected⟩
  · rw [hconserved.edges, hinterval]
    rfl
  · rw [hconserved.accepted, hinterval, List.append_nil]
  · intro f hf
    refine ⟨hconserved.carries f hf, ?_⟩
    rcases hconserved.fate f hf with hinvalid | hin | henqueued
    · exact .inr (.inr (.inr (.inl hinvalid)))
    · rw [hcarried] at hin
      cases hin
    · rcases Delivery.accounted_of_reachable hdelivery hids f.1 henqueued with
        (hpending | hcarry | hevicted) | hsent | hrejected
      · -- still queued: `drain` gave up on it
        have hleft := Delivery.leftover_of_returned (by decide) (punctual_of_reachable hreach)
          hsender f.1 hpending
        exact .inr (.inr (.inr (.inr hleft)))
      · have hnone : s.delivery.queue.handover.carried = [] := by
          simp [Delivery.State.queue, hidle, Delivery.Producer.handover,
            BoundedQueue.Handover.carried]
        rw [hnone] at hcarry
        cases hcarry
      · exact .inr (.inl hevicted)
      · exact .inl hsent
      · exact .inr (.inr (.inl hrejected))
  · simpa [Delivery.State.queue, hidle, Delivery.Producer.handover,
      BoundedQueue.Handover.uncounted] using hdropped

/-! ### Three shutdowns -/

/-- The record of a connection from 10.0.0.1 to port 5432 of 10.0.0.2 that was refused. -/
def refusedRecord : List UInt8 :=
  [0x88, 0x13, 0, 0, 0, 0, 0, 0, 1, 0, 0, 0, 10, 0, 0, 1, 10, 0, 0, 2, 0x40, 0x9C, 0x38, 0x15,
    2, 6, 2, 1, 0, 0, 0, 0, 0, 0, 0, 0, 0, 0, 0, 0]

def refusedEvent : Event where
  timestamp := ⟨1000000000000000000, some 1000⟩
  pid := 1
  srcIP := .v4 10 0 0 1
  dstIP := .v4 10 0 0 2
  srcPort := 40000
  dstPort := 5432
  failed := true
  connectLatencyUS := none

def refusedSeen : Observation :=
  Resolver.observation ⟨"c", sampleCaches⟩ refusedEvent

/-- The batch of an interval with this one observation. -/
def refusedBatch : IngestBatch where
  schemaVersion := Agent.schemaVersion
  clusterID := "c"
  agentID := "topology-agent/n1"
  batchID := sampleUlid.string
  observedAt := sampleNow.time.utc
  intervalSeconds := 10
  edges := [toObservation
    (refusedSeen.key, (Entry.new refusedSeen).observe refusedSeen)]

/-- The aggregator with this one observation. -/
def refusedAggregator : Aggregator :=
  (Aggregator.new "c" "topology-agent/n1" []).add refusedSeen

theorem decode_refusedRecord : decodeRecord ⟨sampleNow, 5000⟩ refusedRecord = .ok refusedEvent := by
  decide +kernel

theorem keeps_refusedEvent : keeps sampleConfig sampleCaches refusedEvent = [refusedSeen] := by
  decide +kernel

theorem flush_refusedAggregator :
    (refusedAggregator.flush 10 sampleNow sampleUlid).2 = some refusedBatch := by
  decide +kernel

theorem validate_refusedBatch : refusedBatch.validate id = .ok () := by
  decide +kernel

/-- The connection was observed and added. -/
def collected : State where
  aggregator := refusedAggregator
  history := { accepted := [refusedSeen], interval := [refusedSeen] }

theorem handle_refusedEvent (s : State) (hmain : s.main = .handling refusedEvent)
    (hagg : s.aggregator = .new "c" "topology-agent/n1" []) :
    (system id sampleConfig).step s (.handle sampleCaches)
      { s with
        main := .reading
        aggregator := refusedAggregator
        history := { s.history with
          accepted := s.history.accepted ++ [refusedSeen]
          interval := s.history.interval ++ [refusedSeen] } } := by
  refine ⟨refusedEvent, hmain, ?_⟩
  rw [keeps_refusedEvent, hagg]
  rfl

theorem reachable_collected :
    Reachable ((system id sampleConfig).restrict (Timely sampleConfig)) collected := by
  have h₀ : Reachable ((system id sampleConfig).restrict (Timely sampleConfig)) sampleInit :=
    .init rfl
  have h₁ := h₀.step (l := Label.read refusedRecord) ⟨trivial, rfl, rfl, rfl⟩
  have h₂ : Reachable ((system id sampleConfig).restrict (Timely sampleConfig))
      { sampleInit with main := .handling refusedEvent } :=
    h₁.step (l := Label.decode ⟨sampleNow, 5000⟩)
      ⟨trivial, refusedRecord, rfl, by rw [decode_refusedRecord]⟩
  exact h₂.step (l := Label.handle sampleCaches) ⟨fun _ _ _ => rfl, handle_refusedEvent _ rfl rfl⟩

theorem flush_refused (s : State) (hagg : s.aggregator = refusedAggregator) (final : Bool)
    (hflusher : s.flusher = .flushing final) {ulid : Ulid} {batch : IngestBatch}
    (hbatch : (refusedAggregator.flush 10 sampleNow ulid).2 = some batch) :
    (system id sampleConfig).step s (.flush sampleNow ulid)
      { s with
        aggregator := (refusedAggregator.flush 10 sampleNow ulid).1
        flusher := .validating batch final
        history := { s.history with
          interval := []
          flushes := s.history.flushes ++ [(batch, s.history.interval)] } } := by
  refine ⟨final, hflusher, ?_⟩
  have hflush : s.aggregator.flush sampleConfig.intervalSeconds sampleNow ulid =
      ((refusedAggregator.flush 10 sampleNow ulid).1, some batch) := by
    rw [hagg, ← hbatch]
    rfl
  rw [State.flushed, hflush]

theorem validate_refused (s : State) (final : Bool) {batch : IngestBatch}
    (hflusher : s.flusher = .validating batch final) (hvalid : batch.validate id = .ok ()) :
    (system id sampleConfig).step s .validate { s with flusher := .enqueuing batch final } := by
  refine ⟨batch, final, hflusher, ?_⟩
  rw [hvalid]

/-- A shutdown without a race: the batch is delivered before the signal. -/
theorem nothing_lost_delivered : ∃ s,
    Reachable ((system id sampleConfig).restrict (Timely sampleConfig)) s ∧
    s.main = .returned none ∧ s.history.accepted = [refusedSeen] ∧
    s.delivery.history.sent = [refusedBatch] ∧ NothingLost s := by
  have hfresh : otherUlid.string ∉ [refusedBatch.batchID] := by decide +kernel
  have h₁ := reachable_collected.step (l := Label.tick) ⟨trivial, rfl, rfl⟩
  have h₂ := h₁.step (l := Label.flush sampleNow sampleUlid)
    ⟨List.not_mem_nil, flush_refused _ rfl false rfl flush_refusedAggregator⟩
  have h₃ := h₂.step (l := Label.validate) ⟨trivial, validate_refused _ false rfl validate_refusedBatch⟩
  have h₄ := h₃.step (l := Label.enqueue)
    ⟨(nofun : Delivery.Sender.peeking ≠ .returned), refusedBatch, false, _, rfl, .inl ⟨rfl, by decide, rfl⟩, rfl⟩
  have h₅ := h₄.step (l := Label.delivery .raiseHigh) ⟨trivial, _, rfl, ⟨1, rfl, rfl⟩, rfl⟩
  have h₆ := h₅.step (l := Label.delivery .wake) ⟨trivial, _, rfl, ⟨rfl, rfl⟩, rfl⟩
  have h₇ := h₆.step (l := Label.enqueueReturn) ⟨trivial, false, rfl, rfl, rfl⟩
  have h₈ := h₇.step (l := Label.delivery .peek) ⟨trivial, _, rfl, ⟨rfl, rfl⟩, rfl⟩
  have h₉ := h₈.step (l := Label.delivery (.postReturn .accepted))
    ⟨trivial, _, rfl, ⟨refusedBatch, rfl, rfl⟩, rfl⟩
  have h₁₀ := h₉.step (l := Label.delivery .count)
    ⟨trivial, _, rfl, ⟨refusedBatch, .accepted, rfl, rfl⟩, rfl⟩
  have h₁₁ := h₁₀.step (l := Label.delivery .pop) ⟨trivial, _, rfl, ⟨refusedBatch, rfl, rfl⟩, rfl⟩
  have h₁₂ := h₁₁.step (l := Label.signal) ⟨trivial, rfl⟩
  have h₁₃ := h₁₂.step (l := Label.done) ⟨trivial, rfl, rfl, rfl⟩
  have h₁₄ := h₁₃.step (l := Label.flush sampleNow otherUlid) ⟨hfresh, true, rfl, rfl⟩
  have h₁₅ := h₁₄.step (l := Label.closeReader) ⟨trivial, rfl, rfl⟩
  have h₁₆ := h₁₅.step (l := Label.readClosed) ⟨trivial, rfl, rfl, rfl⟩
  have h₁₇ := h₁₆.step (l := Label.delivery .peek) ⟨trivial, _, rfl, ⟨rfl, rfl⟩, rfl⟩
  have h₁₈ := h₁₇.step (l := Label.delivery .ctxDone) ⟨trivial, _, rfl, ⟨rfl, rfl, rfl⟩, rfl⟩
  have h₁₉ := h₁₈.step (l := Label.delivery .drainPeek) ⟨trivial, _, rfl, ⟨rfl, rfl⟩, rfl⟩
  have h₂₀ := h₁₉.step (l := Label.joinFlush) ⟨trivial, none, rfl, rfl, rfl⟩
  have h₂₁ := h₂₀.step (l := Label.joinDelivery) ⟨trivial, none, rfl, rfl, rfl⟩
  exact ⟨_, h₂₁, rfl, rfl, rfl, nothing_lost_of_timely id sampleConfig _ h₂₁ none rfl⟩

/-- The delivery loop sees the signal first, finds the queue empty and returns; then the flush
    loop enqueues its last batch. -/
theorem reachable_lateBatch : ∃ s, Reachable (system id sampleConfig) s ∧
    s.main = .returned none ∧ s.history.flushes = [(refusedBatch, [refusedSeen])] ∧
    s.history.invalid = [] ∧ s.delivery.pending = [refusedBatch] ∧
    s.delivery.history.sent = [] ∧ s.delivery.history.evicted = [] ∧
    s.delivery.history.rejected = [] ∧ s.delivery.history.leftover = [] := by
  have h₁ := reachable_collected.of_restrict.step (l := Label.signal) rfl
  have h₂ := h₁.step (l := Label.delivery .peek) ⟨_, rfl, ⟨rfl, rfl⟩, rfl⟩
  have h₃ := h₂.step (l := Label.delivery .ctxDone) ⟨_, rfl, ⟨rfl, rfl, rfl⟩, rfl⟩
  have h₄ := h₃.step (l := Label.delivery .drainPeek) ⟨_, rfl, ⟨rfl, rfl⟩, rfl⟩
  have h₅ := h₄.step (l := Label.closeReader) ⟨rfl, rfl⟩
  have h₆ := h₅.step (l := Label.readClosed) ⟨rfl, rfl, rfl⟩
  have h₇ := h₆.step (l := Label.done) ⟨rfl, rfl, rfl⟩
  have h₈ := h₇.step (flush_refused _ rfl true rfl flush_refusedAggregator)
  have h₉ := h₈.step (validate_refused _ true rfl validate_refusedBatch)
  have h₁₀ := h₉.step (l := Label.enqueue)
    ⟨refusedBatch, true, _, rfl, .inl ⟨rfl, by decide, rfl⟩, rfl⟩
  have h₁₁ := h₁₀.step (l := Label.delivery .raiseHigh) ⟨_, rfl, ⟨1, rfl, rfl⟩, rfl⟩
  have h₁₂ := h₁₁.step (l := Label.delivery .wake) ⟨_, rfl, ⟨rfl, rfl⟩, rfl⟩
  have h₁₃ := h₁₂.step (l := Label.enqueueReturn) ⟨true, rfl, rfl, rfl⟩
  have h₁₄ := h₁₃.step (l := Label.joinFlush) ⟨none, rfl, rfl, rfl⟩
  have h₁₅ := h₁₄.step (l := Label.joinDelivery) ⟨none, rfl, rfl, rfl⟩
  exact ⟨_, h₁₅, rfl, rfl, rfl, rfl, rfl, rfl, rfl, rfl⟩

/-- The flush loop sees the signal first and takes its last, empty, interval; then the callback
    adds the connection it was about to handle. -/
theorem reachable_lateAdd : ∃ s, Reachable (system id sampleConfig) s ∧
    s.main = .returned none ∧ s.history.accepted = [refusedSeen] ∧
    s.history.flushes = [] := by
  have h₀ : Reachable (system id sampleConfig) sampleInit := .init rfl
  have h₁ := h₀.step (l := Label.read refusedRecord) ⟨rfl, rfl, rfl⟩
  have h₂ : Reachable (system id sampleConfig)
      { sampleInit with main := .handling refusedEvent } :=
    h₁.step (l := Label.decode ⟨sampleNow, 5000⟩)
      ⟨refusedRecord, rfl, by rw [decode_refusedRecord]⟩
  have h₃ := h₂.step (l := Label.signal) rfl
  have h₄ := h₃.step (l := Label.done) ⟨rfl, rfl, rfl⟩
  have h₅ := h₄.step (l := Label.flush sampleNow sampleUlid) ⟨true, rfl, rfl⟩
  have h₆ := h₅.step (l := Label.handle sampleCaches) ⟨refusedEvent, rfl, rfl⟩
  have h₇ := h₆.step (l := Label.closeReader) ⟨rfl, rfl⟩
  have h₈ := h₇.step (l := Label.readClosed) ⟨rfl, rfl, rfl⟩
  have h₉ := h₈.step (l := Label.delivery .peek) ⟨_, rfl, ⟨rfl, rfl⟩, rfl⟩
  have h₁₀ := h₉.step (l := Label.delivery .ctxDone) ⟨_, rfl, ⟨rfl, rfl, rfl⟩, rfl⟩
  have h₁₁ := h₁₀.step (l := Label.delivery .drainPeek) ⟨_, rfl, ⟨rfl, rfl⟩, rfl⟩
  have h₁₂ := h₁₁.step (l := Label.joinFlush) ⟨none, rfl, rfl, rfl⟩
  have h₁₃ := h₁₂.step (l := Label.joinDelivery) ⟨none, rfl, rfl, rfl⟩
  exact ⟨_, h₁₃, rfl, keeps_refusedEvent, rfl⟩

/-- Both races lose an accepted observation in silence. -/
theorem shutdown_loses :
    (∃ s, Reachable (system id sampleConfig) s ∧ s.main = .returned none ∧
      s.delivery.pending = [refusedBatch] ∧ s.delivery.history.leftover = [] ∧
      ¬ NothingLost s) ∧
    (∃ s, Reachable (system id sampleConfig) s ∧ s.main = .returned none ∧
      s.history.accepted = [refusedSeen] ∧ s.history.flushes = [] ∧ ¬ NothingLost s) := by
  constructor
  · obtain ⟨s, hreach, hmain, hflushes, hinvalid, hpending, hsent, hevicted, hrejected, hleft⟩ :=
      reachable_lateBatch
    refine ⟨s, hreach, hmain, hpending, hleft, ?_⟩
    intro hnothing
    have haccounted := (hnothing.flushed (refusedBatch, [refusedSeen])
      (by rw [hflushes]; exact List.mem_singleton_self _)).2
    unfold State.Accounted at haccounted
    rw [hsent, hevicted, hrejected, hinvalid, hleft] at haccounted
    simp at haccounted
  · obtain ⟨s, hreach, hmain, haccepted, hflushes⟩ := reachable_lateAdd
    refine ⟨s, hreach, hmain, haccepted, hflushes, ?_⟩
    intro hnothing
    have hnone := hnothing.accepted
    rw [haccepted, hflushes] at hnone
    cases hnone

end TopologyVisualizer.Agent.Process
