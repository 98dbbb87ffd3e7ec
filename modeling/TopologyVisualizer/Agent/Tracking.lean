import TopologyVisualizer.Agent.Kernel
import TopologyVisualizer.Framework.LTS

/-! # Tracking Connection Attempts

    The kernel program over whole sequences of tracepoint events, on any
    number of sockets. The kernel reuses socket addresses, the LRU map may
    lose any entry at any time, and updates and reservations may fail.

    `starts` holds no stale entry (`starts_current`): an entry exists only
    while its socket is a tracked one in SYN_SENT, and its value is the time
    of a transition that put the socket there in the attempt under way. The
    program deletes the entry on every way out of SYN_SENT, and the family
    and protocol it filters on cannot have changed in between.
-/

open LTS

namespace TopologyVisualizer.Agent.Tracking

/-! ### The system -/

structure State where
  maps : Maps
  /-- The last transition of each socket address. -/
  last : UInt64 → Option Context
  /-- The records submitted, in order. -/
  ring : List StructEvent

inductive Label where
  /-- The tracepoint fires and the program runs. -/
  | transition (ctx : Context) (env : Helpers)
  /-- The LRU map drops an entry. -/
  | evict (socket : UInt64)

/-- What the kernel guarantees about consecutive transitions of one socket address: they chain,
    the first starts from CLOSE, and family and protocol change only in CLOSE. -/
def Chains (last : Option Context) (ctx : Context) : Prop :=
  match last with
  | none => ctx.oldstate = tcpClose
  | some prev => ctx.oldstate = prev.newstate ∧
      (prev.newstate ≠ tcpClose → ctx.family = prev.family ∧ ctx.protocol = prev.protocol)

def kernel : System State Label where
  init := fun s => s.maps.starts = .empty ∧ (∀ i, s.maps.stats i = 0) ∧ (∀ k, s.last k = none) ∧
    s.ring = []
  step := fun s lbl s' =>
    match lbl with
    | .transition ctx env =>
        Chains (s.last ctx.skaddr) ctx ∧
        s' =
          { maps := (traceInetSockSetState s.maps ctx env).1
            last := fun k => if k = ctx.skaddr then some ctx else s.last k
            ring := s.ring ++ (traceInetSockSetState s.maps ctx env).2.toList }
    | .evict socket =>
        s' = { s with maps := { s.maps with starts := s.maps.starts.erase socket } }

/-! ### Attempts -/

/-- The label leaves `socket` alone, or puts it into SYN_SENT once more. -/
def Label.Continues (socket : UInt64) : Label → Prop
  | .transition ctx _ => ctx.skaddr = socket → ctx.newstate = tcpSynSent
  | .evict _ => True

/-- At the end of the trace, `socket` is in the attempt that entered SYN_SENT at time `t`. -/
def AttemptStart (trace : List Label) (socket t : UInt64) : Prop :=
  ∃ before ctx env after, trace = before ++ .transition ctx env :: after ∧
    ctx.skaddr = socket ∧ ctx.newstate = tcpSynSent ∧ env.now = t ∧
    ∀ l ∈ after, l.Continues socket

theorem AttemptStart.enter {trace : List Label} {ctx : Context} {env : Helpers}
    (hsyn : ctx.newstate = tcpSynSent) :
    AttemptStart (trace ++ [.transition ctx env]) ctx.skaddr env.now :=
  ⟨trace, ctx, env, [], rfl, rfl, hsyn, rfl, by simp⟩

theorem AttemptStart.snoc {trace : List Label} {socket t : UInt64} {l : Label}
    (h : AttemptStart trace socket t) (hl : l.Continues socket) :
    AttemptStart (trace ++ [l]) socket t := by
  obtain ⟨before, ctx, env, after, rfl, hsocket, hsyn, hnow, hafter⟩ := h
  refine ⟨before, ctx, env, after ++ [l], by simp, hsocket, hsyn, hnow, ?_⟩
  intro l' hl'
  rcases List.mem_append.mp hl' with hl' | hl'
  · exact hafter l' hl'
  · rw [List.mem_singleton.mp hl']
    exact hl

/-! ### No stale entries -/

/-- Every tracked start belongs to the attempt its socket is in. -/
def Current (s : State) (trace : List Label) : Prop :=
  ∀ socket t, s.maps.starts.get? socket = some t →
    (∃ prev, s.last socket = some prev ∧ prev.Tracked ∧ prev.newstate = tcpSynSent) ∧
    AttemptStart trace socket t

theorem current_transition {s : State} {trace : List Label} {ctx : Context} {env : Helpers}
    (hcurrent : Current s trace) (hchains : Chains (s.last ctx.skaddr) ctx) :
    Current
      { maps := (traceInetSockSetState s.maps ctx env).1
        last := fun k => if k = ctx.skaddr then some ctx else s.last k
        ring := s.ring ++ (traceInetSockSetState s.maps ctx env).2.toList }
      (trace ++ [.transition ctx env]) := by
  intro socket t hget
  rcases start_after hget with ⟨rfl, htracked, hsyn, rfl⟩ | ⟨hbefore, hstays⟩
  · exact ⟨⟨ctx, if_pos rfl, htracked, hsyn⟩, .enter hsyn⟩
  · obtain ⟨⟨prev, hlast, htracked, hsyn⟩, hstart⟩ := hcurrent socket t hbefore
    by_cases hsocket : socket = ctx.skaddr
    · -- the socket was in SYN_SENT, so the program saw this transition, and the entry survived
      -- only because the socket stayed there
      subst hsocket
      rw [hlast] at hchains
      obtain ⟨hold, hsame⟩ := hchains
      have hopen : prev.newstate ≠ tcpClose := by
        rw [hsyn]
        decide
      obtain ⟨hfamily, hprotocol⟩ := hsame hopen
      have htracked' : ctx.Tracked :=
        ⟨hfamily.trans htracked.1, hprotocol.trans htracked.2⟩
      have hsyn' : ctx.newstate = tcpSynSent := hstays rfl htracked' (hold.trans hsyn)
      exact ⟨⟨ctx, if_pos rfl, htracked', hsyn'⟩, hstart.snoc fun _ => hsyn'⟩
    · refine ⟨⟨prev, (if_neg hsocket).trans hlast, htracked, hsyn⟩, hstart.snoc ?_⟩
      intro heq
      exact absurd heq.symm hsocket

theorem current_evict {s : State} {trace : List Label} {evicted : UInt64}
    (hcurrent : Current s trace) :
    Current { s with maps := { s.maps with starts := s.maps.starts.erase evicted } }
      (trace ++ [.evict evicted]) := by
  intro socket t hget
  obtain ⟨hlast, hstart⟩ := hcurrent socket t (Dict.get?_erase_eq_some.mp hget).2
  exact ⟨hlast, hstart.snoc trivial⟩

/-- **No stale entries**, in any run. -/
theorem starts_current {s₀ s : State} {trace : List Label} (h₀ : kernel.init s₀)
    (hrun : Run kernel s₀ trace s) : Current s trace := by
  refine System.trace_invariant Current ?_ ?_ h₀ hrun
  · intro s ⟨hempty, _⟩ socket t hget
    rw [hempty, Dict.get?_empty] at hget
    cases hget
  · intro s trace l s' hcurrent hstep
    cases l with
    | transition ctx env =>
      obtain ⟨hchains, rfl⟩ := hstep
      exact current_transition hcurrent hchains
    | evict socket =>
      subst hstep
      exact current_evict hcurrent

/-! ### Outcomes -/

/-- The time a record carries is that of the attempt it decides. -/
theorem submitted_timed {s : State} {trace : List Label} {ctx : Context} {env : Helpers}
    (hcurrent : Current s trace) {e : StructEvent}
    (he : (traceInetSockSetState s.maps ctx env).2 = some e) (hknown : e.durationKnown = 1) :
    e.outcome = 0 ∧ ctx.newstate = tcpEstablished ∧
    ∃ t, AttemptStart trace ctx.skaddr t ∧ t ≤ env.now ∧
      e.durationUs.toNat = (env.now.toNat - t.toNat) / 1000 := by
  obtain ⟨-, rfl⟩ := submitted_of_trace he
  have hvalue : (measured ctx env.now (s.maps.starts.get? ctx.skaddr)).2 = 1 := hknown
  cases hstart : s.maps.starts.get? ctx.skaddr with
  | none => rw [hstart] at hvalue; cases hvalue
  | some t =>
    rw [hstart] at hvalue
    by_cases htimed : ctx.newstate = tcpEstablished ∧ env.now ≥ t
    · obtain ⟨hestablished, hle⟩ := htimed
      have hopen : ctx.newstate ≠ tcpClose := by
        rw [hestablished]
        decide
      have hus : measured ctx env.now (some t) = ((env.now - t) / 1000, 1) :=
        if_pos ⟨hestablished, hle⟩
      refine ⟨if_neg hopen, hestablished, t, (hcurrent ctx.skaddr t hstart).2, hle, ?_⟩
      show (measured ctx env.now (some t)).1.toNat = _
      rw [hus]
      show ((env.now - t) / 1000).toNat = _
      rw [UInt64.toNat_div, UInt64.toNat_sub_of_le _ _ hle]
      rfl
    · rw [measured, if_neg htimed] at hvalue
      cases hvalue

/-- **Outcome tracking**: at any transition of any run, an active open that is decided is
    counted once, as submitted or as dropped, and no other transition is; and a record with a
    known duration is a success, timed from the SYN_SENT entry of the attempt it decides. -/
theorem outcome_tracking_sound {s₀ s s' : State} {trace : List Label} {ctx : Context}
    {env : Helpers} (h₀ : kernel.init s₀) (hrun : Run kernel s₀ trace s)
    (hstep : kernel.step s (.transition ctx env) s') :
    (if ctx.IsOutcome then
      (s'.maps.stats .eventsSubmitted = s.maps.stats .eventsSubmitted + 1 ∧
        s'.maps.stats .ringbufDropped = s.maps.stats .ringbufDropped) ∨
      (s'.maps.stats .eventsSubmitted = s.maps.stats .eventsSubmitted ∧
        s'.maps.stats .ringbufDropped = s.maps.stats .ringbufDropped + 1)
    else
      s'.maps.stats .eventsSubmitted = s.maps.stats .eventsSubmitted ∧
      s'.maps.stats .ringbufDropped = s.maps.stats .ringbufDropped) ∧
    ∀ e, s'.ring = s.ring ++ [e] → e.durationKnown = 1 →
      e.outcome = 0 ∧ ctx.newstate = tcpEstablished ∧
      ∃ t, AttemptStart trace ctx.skaddr t ∧ t ≤ env.now ∧
        e.durationUs.toNat = (env.now.toNat - t.toNat) / 1000 := by
  obtain ⟨-, rfl⟩ := hstep
  refine ⟨outcome_counted s.maps ctx env, ?_⟩
  intro e hring hknown
  have he : (traceInetSockSetState s.maps ctx env).2 = some e := by
    have := List.append_cancel_left hring
    cases hsubmitted : (traceInetSockSetState s.maps ctx env).2 with
    | none => rw [hsubmitted] at this; cases this
    | some e' => rw [hsubmitted] at this; cases this; rfl
  exact submitted_timed (starts_current h₀ hrun) he hknown

/-! ### A tracked connection -/

def sampleStart : State := ⟨⟨.empty, fun _ => 0⟩, fun _ => none, []⟩

/-- The socket of the sample enters SYN_SENT. -/
def sampleEnter : Context := { sampleContext tcpSynSent with oldstate := tcpClose }

/-- The state after the sample socket entered SYN_SENT at 1 µs. -/
def sampleEntered : State where
  maps := (traceInetSockSetState sampleStart.maps sampleEnter ⟨1000, 1, false, false⟩).1
  last := fun k => if k = 0xffff then some sampleEnter else none
  ring := []

/-- The state after it was established at 8 µs. -/
def sampleEstablished : State where
  maps := (traceInetSockSetState sampleEntered.maps (sampleContext tcpEstablished)
    ⟨8000, 1, false, false⟩).1
  last := fun k => if k = 0xffff then some (sampleContext tcpEstablished) else sampleEntered.last k
  ring := [submitted (sampleContext tcpEstablished) ⟨8000, 1, false, false⟩ (some 1000)]

/-- The connection took 7 µs, from its own SYN_SENT entry. -/
theorem outcome_tracking_sound_established :
    ∃ t : UInt64, AttemptStart [.transition sampleEnter ⟨1000, 1, false, false⟩] 0xffff t ∧
      (7 : Nat) = (8000 - t.toNat) / 1000 := by
  have henter : kernel.step sampleStart (.transition sampleEnter ⟨1000, 1, false, false⟩)
      sampleEntered :=
    ⟨rfl, rfl⟩
  have hrun := (Run.nil sampleStart).snoc henter
  have hstep : kernel.step sampleEntered
      (.transition (sampleContext tcpEstablished) ⟨8000, 1, false, false⟩) sampleEstablished :=
    ⟨⟨rfl, fun _ => ⟨rfl, rfl⟩⟩, rfl⟩
  obtain ⟨-, -, t, hstart, -, hus⟩ :=
    (outcome_tracking_sound ⟨rfl, fun _ => rfl, fun _ => rfl, rfl⟩ hrun hstep).2
      (submitted (sampleContext tcpEstablished) ⟨8000, 1, false, false⟩ (some 1000)) rfl rfl
  exact ⟨t, hstart, hus⟩

end TopologyVisualizer.Agent.Tracking
