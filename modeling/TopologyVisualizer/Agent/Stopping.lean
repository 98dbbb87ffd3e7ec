import TopologyVisualizer.Agent.Process

/-! # Does the Agent Stop?

    Once the context ended, each loop of `run` returns and the joins can
    proceed. But `coll.Run` may also return on its own, on a read or a decode
    error, and then nobody ends the context: the flush and the delivery loop
    wait for it, `run` waits for them, and `defer stop()` waits for `run`
    (`stuck_of_error`). With the errors after the context ended only, the
    process is never stuck (`never_stuck_iff_orderly`).
-/

namespace TopologyVisualizer.Agent.Process

open LTS

variable {quote : String → String} {cfg : Config} {s s' : State} {l : Label}

/-! ### The delivery client inside the process -/

/-- Every step of the process is a step of the delivery client or leaves it alone. -/
theorem delivery_step (hstep : (system quote cfg).step s l s') :
    (∃ k, (Delivery.system cfg.maxPendingBatches drainTimeout).step s.delivery k s'.delivery ∧
      ((∃ b, k = .enqueue b) → l = .enqueue) ∧ (k = .append → l = .delivery .append)) ∨
    s'.delivery = s.delivery := by
  simp only [system] at hstep
  cases l with
  | signal => subst hstep; exact .inl ⟨.cancel, rfl, by simp, by simp⟩
  | stop => obtain ⟨-, rfl⟩ := hstep; exact .inl ⟨.cancel, rfl, by simp, by simp⟩
  | closeReader => obtain ⟨-, rfl⟩ := hstep; exact .inr rfl
  | read record => obtain ⟨-, -, rfl⟩ := hstep; exact .inr rfl
  | readClosed => obtain ⟨-, -, rfl⟩ := hstep; exact .inr rfl
  | readError message => obtain ⟨-, rfl⟩ := hstep; exact .inr rfl
  | decode clock => obtain ⟨_, -, rfl⟩ := hstep; exact .inr rfl
  | handle caches => obtain ⟨_, -, rfl⟩ := hstep; exact .inr rfl
  | joinFlush => obtain ⟨_, -, -, rfl⟩ := hstep; exact .inr rfl
  | joinDelivery => obtain ⟨_, -, -, rfl⟩ := hstep; exact .inr rfl
  | tick => obtain ⟨-, rfl⟩ := hstep; exact .inr rfl
  | done => obtain ⟨-, -, rfl⟩ := hstep; exact .inr rfl
  | flush now ulid =>
    obtain ⟨final, -, rfl⟩ := hstep
    right
    unfold State.flushed
    split <;> rfl
  | validate =>
    obtain ⟨batch, final, -, rfl⟩ := hstep
    right
    split <;> rfl
  | enqueue =>
    obtain ⟨batch, final, d, -, hd, rfl⟩ := hstep
    left
    rcases hd with hd | hd
    · exact ⟨.enqueue batch, hd, by simp, by simp⟩
    · exact ⟨.evict batch, hd, by simp, by simp⟩
  | enqueueReturn => obtain ⟨_, -, -, rfl⟩ := hstep; exact .inr rfl
  | delivery k =>
    obtain ⟨d, hk, hd, rfl⟩ := hstep
    refine .inl ⟨k, hd, ?_, ?_⟩
    · rintro ⟨b, rfl⟩
      cases hk
    · rintro rfl
      rfl

theorem reachable_delivery (h : Reachable (system quote cfg) s) :
    Reachable (Delivery.system cfg.maxPendingBatches drainTimeout) s.delivery := by
  refine Reachable.project State.delivery ?_ ?_ h
  · intro s hs
    rw [hs]
    rfl
  · intro s l s' hstep
    exact (delivery_step hstep).imp_left (fun ⟨k, hk, _⟩ => ⟨k, hk⟩)

/-! ### Who waits for the context -/

/-- The points of the flush loop after it saw the end of the context. -/
def Flusher.isFinal : Flusher → Bool
  | .selecting => false
  | .flushing final => final
  | .validating _ final => final
  | .enqueuing _ final => final
  | .inEnqueue final => final
  | .returned => true

@[simp] theorem isFinal_afterEmit (final : Bool) : (afterEmit final).isFinal = final := by
  cases final <;> rfl

/-- What each goroutine can tell about the context from where it is. -/
structure Aware (s : State) : Prop where
  reader : s.readerClosed = true → s.cancelled = true
  flusher : s.flusher.isFinal = true → s.cancelled = true
  joined : ∀ err, s.main = .joiningDelivery err ∨ s.main = .returned err →
    s.flusher = .returned

/-- The context, once ended, stays so. -/
theorem cancelled_mono (hstep : (system quote cfg).step s l s') (h : s.cancelled = true) :
    s'.cancelled = true := by
  rcases delivery_step hstep with ⟨k, hk, -⟩ | hsame
  · exact Delivery.cancelled_of_step hk h
  · show s'.delivery.cancelled = true
    rw [hsame]
    exact h

theorem aware_of_reachable (h : Reachable (system quote cfg) s) : Aware s := by
  refine System.invariant Aware ?_ ?_ s h
  · intro s hs
    rw [hs]
    exact ⟨by simp, by simp [Flusher.isFinal], by simp⟩
  · intro s l s' hinv hstep
    have hmono := cancelled_mono hstep
    obtain ⟨hreader, hflusher, hjoined⟩ := hinv
    simp only [system] at hstep
    cases l with
    | signal => subst hstep; exact ⟨fun _ => rfl, fun _ => rfl, hjoined⟩
    | stop => obtain ⟨-, rfl⟩ := hstep; exact ⟨fun _ => rfl, fun _ => rfl, hjoined⟩
    | closeReader => obtain ⟨hc, rfl⟩ := hstep; exact ⟨fun _ => hc, hflusher, hjoined⟩
    | read record => obtain ⟨-, -, rfl⟩ := hstep; exact ⟨hreader, hflusher, by simp⟩
    | readClosed => obtain ⟨-, -, rfl⟩ := hstep; exact ⟨hreader, hflusher, by simp⟩
    | readError message => obtain ⟨-, rfl⟩ := hstep; exact ⟨hreader, hflusher, by simp⟩
    | decode clock =>
      obtain ⟨record, -, rfl⟩ := hstep
      refine ⟨hreader, hflusher, ?_⟩
      cases decodeRecord clock record <;> simp
    | handle caches => obtain ⟨_, -, rfl⟩ := hstep; exact ⟨hreader, hflusher, by simp⟩
    | joinFlush =>
      obtain ⟨err, -, hret, rfl⟩ := hstep
      exact ⟨hreader, hflusher, fun _ _ => hret⟩
    | joinDelivery =>
      obtain ⟨err, hmain, -, rfl⟩ := hstep
      exact ⟨hreader, hflusher, fun _ _ => hjoined err (.inl hmain)⟩
    | tick =>
      obtain ⟨hsel, rfl⟩ := hstep
      refine ⟨hreader, by simp [Flusher.isFinal], ?_⟩
      intro err herr
      rw [hjoined err herr] at hsel
      cases hsel
    | done =>
      obtain ⟨hsel, hc, rfl⟩ := hstep
      refine ⟨hreader, fun _ => hc, ?_⟩
      intro err herr
      rw [hjoined err herr] at hsel
      cases hsel
    | flush now ulid =>
      obtain ⟨final, hfl, rfl⟩ := hstep
      rw [hfl] at hflusher hjoined
      unfold State.flushed
      split
      · refine ⟨hreader, ?_, fun err herr => by cases hjoined err herr⟩
        intro hfinal
        exact hflusher ((isFinal_afterEmit final).symm.trans hfinal)
      · exact ⟨hreader, hflusher, fun err herr => by cases hjoined err herr⟩
    | validate =>
      obtain ⟨batch, final, hfl, rfl⟩ := hstep
      rw [hfl] at hflusher hjoined
      split
      · exact ⟨hreader, hflusher, fun err herr => by cases hjoined err herr⟩
      · refine ⟨hreader, ?_, fun err herr => by cases hjoined err herr⟩
        intro hfinal
        exact hflusher ((isFinal_afterEmit final).symm.trans hfinal)
    | enqueue =>
      obtain ⟨batch, final, d, hfl, hd, rfl⟩ := hstep
      rw [hfl] at hflusher hjoined
      exact ⟨fun h => hmono (hreader h), fun h => hmono (hflusher h),
        fun err herr => by cases hjoined err herr⟩
    | enqueueReturn =>
      obtain ⟨final, hfl, -, rfl⟩ := hstep
      rw [hfl] at hflusher hjoined
      refine ⟨hreader, ?_, fun err herr => by cases hjoined err herr⟩
      intro hfinal
      exact hflusher ((isFinal_afterEmit final).symm.trans hfinal)
    | delivery k =>
      obtain ⟨d, -, -, rfl⟩ := hstep
      exact ⟨fun h => hmono (hreader h), fun h => hmono (hflusher h), hjoined⟩

/-! ### Does it stop? -/

/-- `coll.Run` has returned. -/
def State.CollectorReturned (s : State) : Prop :=
  ∃ err, s.main = .joiningFlush err ∨ s.main = .joiningDelivery err ∨ s.main = .returned err

/-- The process left to itself: every step but a signal. -/
def ownSystem (quote : String → String) (cfg : Config) : System State Label :=
  (system quote cfg).restrict (fun _ l => l ≠ .signal)

/-- The collector is gone, and both loops wait for a context that no step of the process can
    end. -/
structure Stuck (quote : String → String) (cfg : Config) (s : State) : Prop where
  collector : s.CollectorReturned
  flusher : s.flusher ≠ .returned
  delivery : s.delivery.sender ≠ .returned
  context : ∀ t, Star (ownSystem quote cfg) s t → t.cancelled = false

/-- A read fails, or a record does not decode, only after the context ended. -/
def Orderly (s : State) : Label → Prop
  | .readError _ => s.cancelled = true
  | .decode clock => s.cancelled = true ∨
      ∀ record, s.main = .decoding record → ∃ ev, decodeRecord clock record = .ok ev
  | _ => True

/-- Waiting for the flush loop with the context alive, which the process cannot leave. -/
def Waiting (s : State) : Prop :=
  (∃ err, s.main = .joiningFlush err) ∧ s.cancelled = false ∧ s.flusher.isFinal = false

theorem waiting_step (h : Waiting s) (hstep : (ownSystem quote cfg).step s l s') : Waiting s' := by
  obtain ⟨⟨err, hmain⟩, halive, hfl⟩ := h
  obtain ⟨hown, hstep⟩ := hstep
  simp only [system] at hstep
  cases l with
  | signal => exact absurd rfl hown
  | stop => obtain ⟨⟨err', hret⟩, -⟩ := hstep; rw [hmain] at hret; cases hret
  | closeReader => obtain ⟨hc, -⟩ := hstep; rw [halive] at hc; cases hc
  | read record => obtain ⟨hr, -⟩ := hstep; rw [hmain] at hr; cases hr
  | readClosed => obtain ⟨hr, -⟩ := hstep; rw [hmain] at hr; cases hr
  | readError message => obtain ⟨hr, -⟩ := hstep; rw [hmain] at hr; cases hr
  | decode clock => obtain ⟨_, hr, -⟩ := hstep; rw [hmain] at hr; cases hr
  | handle caches => obtain ⟨_, hr, -⟩ := hstep; rw [hmain] at hr; cases hr
  | joinFlush => obtain ⟨_, -, hret, -⟩ := hstep; rw [hret] at hfl; cases hfl
  | joinDelivery => obtain ⟨_, hr, -⟩ := hstep; rw [hmain] at hr; cases hr
  | tick => obtain ⟨-, rfl⟩ := hstep; exact ⟨⟨err, hmain⟩, halive, rfl⟩
  | done => obtain ⟨-, hc, -⟩ := hstep; rw [halive] at hc; cases hc
  | flush now ulid =>
    obtain ⟨final, hf, rfl⟩ := hstep
    rw [hf] at hfl
    unfold State.flushed
    split
    · exact ⟨⟨err, hmain⟩, halive, (isFinal_afterEmit final).trans hfl⟩
    · exact ⟨⟨err, hmain⟩, halive, hfl⟩
  | validate =>
    obtain ⟨batch, final, hf, rfl⟩ := hstep
    rw [hf] at hfl
    split
    · exact ⟨⟨err, hmain⟩, halive, hfl⟩
    · exact ⟨⟨err, hmain⟩, halive, (isFinal_afterEmit final).trans hfl⟩
  | enqueue =>
    obtain ⟨batch, final, d, hf, hd, rfl⟩ := hstep
    rw [hf] at hfl
    refine ⟨⟨err, hmain⟩, ?_, hfl⟩
    rcases hd with hd | hd
    · obtain ⟨-, -, rfl⟩ := hd; exact halive
    · obtain ⟨-, -, _, _, -, rfl⟩ := hd; exact halive
  | enqueueReturn =>
    obtain ⟨final, hf, -, rfl⟩ := hstep
    rw [hf] at hfl
    exact ⟨⟨err, hmain⟩, halive, (isFinal_afterEmit final).trans hfl⟩
  | delivery k =>
    obtain ⟨d, hk, hd, rfl⟩ := hstep
    refine ⟨⟨err, hmain⟩, ?_, hfl⟩
    exact (Delivery.cancelled_of_own hk hd).trans halive

theorem stuck_of_waiting (hreach : Reachable (system quote cfg) s) (h : Waiting s) :
    Stuck quote cfg s where
  collector := h.1.imp (fun _ => .inl)
  flusher := by
    intro hret
    have hfinal := h.2.2
    rw [hret] at hfinal
    cases hfinal
  delivery := by
    intro hret
    have hc := Delivery.cancelled_of_draining (reachable_delivery hreach) (by rw [hret]; rfl)
    exact absurd (hc.symm.trans h.2.1) (by decide)
  context := by
    intro t ht
    obtain ⟨ls, hrun⟩ := ht
    exact (hrun.preserves Waiting (fun _ _ _ => waiting_step) h).2.1

/-- An error of the collector with the context alive leaves the process stuck. -/
theorem stuck_of_error (hreach : Reachable (system quote cfg) s)
    (hstep : (system quote cfg).step s l s') (hl : ¬ Orderly s l) : Stuck quote cfg s' := by
  have hreach' := hreach.step hstep
  have haware := aware_of_reachable hreach
  have hfinal : s.cancelled = false → s.flusher.isFinal = false := by
    intro halive
    by_contra hf
    have hc := haware.flusher (by simpa using hf)
    exact absurd (hc.symm.trans halive) (by decide)
  refine stuck_of_waiting hreach' ?_
  cases l with
  | readError message =>
    have halive : s.cancelled = false := by simpa [Orderly] using hl
    obtain ⟨-, rfl⟩ := hstep
    exact ⟨⟨_, rfl⟩, halive, hfinal halive⟩
  | decode clock =>
    simp only [Orderly, not_or, not_forall] at hl
    obtain ⟨hc, record, hmain, hbad⟩ := hl
    have halive : s.cancelled = false := by simpa using hc
    obtain ⟨record', hmain', rfl⟩ := hstep
    have hsame : record' = record := by
      rw [hmain] at hmain'
      cases hmain'
      rfl
    refine ⟨?_, halive, hfinal halive⟩
    rw [hsame]
    cases hdec : decodeRecord clock record with
    | ok ev => exact absurd ⟨ev, hdec⟩ hbad
    | error message => exact ⟨_, rfl⟩
  | _ => exact absurd trivial hl

/-- When the collector returned in an orderly run, the context had ended. -/
theorem cancelled_of_collectorReturned
    (h : Reachable ((system quote cfg).restrict Orderly) s) (hret : s.CollectorReturned) :
    s.cancelled = true := by
  refine System.invariant_of_reachable
    (fun s => s.CollectorReturned → s.cancelled = true) ?_ ?_ s h hret
  · intro s hs hret
    obtain ⟨err, hmain⟩ := hret
    rw [hs] at hmain
    simp at hmain
  · intro s l s' hreach hinv hok hret
    obtain ⟨horderly, hstep⟩ := hok
    have haware := aware_of_reachable hreach.of_restrict
    have hmono := cancelled_mono hstep
    -- the steps that do not move the main goroutine, or move it between the joins
    have hold : s.CollectorReturned → s'.cancelled = true := fun h => hmono (hinv h)
    simp only [system] at hstep
    cases l with
    | signal => subst hstep; rfl
    | stop => obtain ⟨-, rfl⟩ := hstep; rfl
    | closeReader => obtain ⟨-, rfl⟩ := hstep; exact hold hret
    | read record =>
      obtain ⟨-, -, rfl⟩ := hstep
      simp [State.CollectorReturned] at hret
    | readClosed => obtain ⟨-, hclosed, rfl⟩ := hstep; exact haware.reader hclosed
    | readError message => obtain ⟨-, rfl⟩ := hstep; exact horderly
    | decode clock =>
      obtain ⟨record, hmain, rfl⟩ := hstep
      rcases horderly with hc | hgood
      · exact hc
      · obtain ⟨ev, hev⟩ := hgood record hmain
        simp [State.CollectorReturned, hev] at hret
    | handle caches =>
      obtain ⟨_, -, rfl⟩ := hstep
      simp [State.CollectorReturned] at hret
    | joinFlush => obtain ⟨err, hmain, -, rfl⟩ := hstep; exact hold ⟨err, .inl hmain⟩
    | joinDelivery =>
      obtain ⟨err, hmain, -, rfl⟩ := hstep
      exact hold ⟨err, .inr (.inl hmain)⟩
    | tick => obtain ⟨-, rfl⟩ := hstep; exact hold hret
    | done => obtain ⟨-, -, rfl⟩ := hstep; exact hold hret
    | flush now ulid =>
      obtain ⟨final, -, rfl⟩ := hstep
      refine hold ?_
      unfold State.flushed at hret
      split at hret <;> exact hret
    | validate =>
      obtain ⟨batch, final, -, rfl⟩ := hstep
      refine hold ?_
      split at hret <;> exact hret
    | enqueue => obtain ⟨_, _, _, -, -, rfl⟩ := hstep; exact hold hret
    | enqueueReturn => obtain ⟨_, -, -, rfl⟩ := hstep; exact hold hret
    | delivery k => obtain ⟨_, -, -, rfl⟩ := hstep; exact hold hret

/-- **When the agent stops**: in a run whose collector fails only after the context ended, no
    state is stuck; and a step that breaks this condition leads to a stuck state. -/
theorem never_stuck_iff_orderly (quote : String → String) (cfg : Config) :
    (∀ s, Reachable ((system quote cfg).restrict Orderly) s → ¬ Stuck quote cfg s) ∧
    (∀ s l s', Reachable (system quote cfg) s → (system quote cfg).step s l s' →
      ¬ Orderly s l → Stuck quote cfg s') := by
  refine ⟨?_, fun s l s' => stuck_of_error⟩
  intro s hreach hstuck
  have hended := cancelled_of_collectorReturned hreach hstuck.collector
  have halive := hstuck.context s ⟨[], .nil s⟩
  exact absurd (hended.symm.trans halive) (by decide)

/-! ### A signal, and an error -/

/-- The configuration of the examples. -/
def sampleConfig : Config where
  clusterID := "c"
  nodeName := "n1"
  infraPorts := []
  intervalSeconds := 10
  maxPendingBatches := 4

def sampleInit : State := { aggregator := .new "c" "topology-agent/n1" [] }

/-- A signal closes the reader, and the collector returns. -/
theorem never_stuck_on_signal : ∃ s, Reachable ((system id sampleConfig).restrict Orderly) s ∧
    s.main = .joiningFlush none ∧ ¬ Stuck id sampleConfig s := by
  have h₀ : Reachable ((system id sampleConfig).restrict Orderly) sampleInit := .init rfl
  have h₁ := h₀.step (l := Label.signal) ⟨trivial, rfl⟩
  have h₂ := h₁.step (l := Label.closeReader) ⟨trivial, rfl, rfl⟩
  have h₃ := h₂.step (l := Label.readClosed) ⟨trivial, rfl, rfl, rfl⟩
  exact ⟨_, h₃, rfl, (never_stuck_iff_orderly id sampleConfig).1 _ h₃⟩

/-- The first read fails: the collector returns the error, and the process hangs. -/
theorem stuck_on_read_error : ∃ s, Reachable (system id sampleConfig) s ∧
    s.main = .joiningFlush (some "read ring buffer: epoll wait: bad file descriptor") ∧
    Stuck id sampleConfig s := by
  have h₀ : Reachable (system id sampleConfig) sampleInit := .init rfl
  have hstep : (system id sampleConfig).step sampleInit
      (.readError "epoll wait: bad file descriptor")
      { sampleInit with
        main := .joiningFlush (some "read ring buffer: epoll wait: bad file descriptor") } :=
    ⟨rfl, rfl⟩
  refine ⟨_, h₀.step hstep, rfl, stuck_of_error h₀ hstep ?_⟩
  simp [Orderly, State.cancelled, sampleInit]

end TopologyVisualizer.Agent.Process
