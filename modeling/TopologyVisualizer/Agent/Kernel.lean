import TopologyVisualizer.Agent.Collector
import TopologyVisualizer.Framework.Dict

/-! # The Kernel Program

    `agent/bpf/tcp_connect.bpf.c`: the program attached to the tracepoint
    `inet_sock_set_state`, and the record it hands to the collector.

    The helpers a program calls are outside of it. What they answer, the
    clock, the current task and whether an update or a reservation fails,
    is an argument (`Helpers`). The counters of the `stats` array only ever
    grow by one and are unbounded here.
-/

namespace TopologyVisualizer.Agent

/-! ### Constants -/

/-- `AF_INET`. -/
def afInet : UInt16 := 2

/-- `IPPROTO_TCP`. -/
def ipprotoTcp : UInt16 := 6

/-- `TCP_ESTABLISHED`. -/
def tcpEstablished : Int := 1

/-- `TCP_SYN_SENT`. -/
def tcpSynSent : Int := 2

/-- `TCP_CLOSE`. -/
def tcpClose : Int := 7

/-- `enum stat_index`. -/
inductive StatIndex where
  | eventsSubmitted
  | ringbufDropped
  | filteredFamily
  | filteredProtocol
  | filteredTransition
  | trackingMissed
  | trackingFailed
  deriving DecidableEq, Repr

/-! ### The program -/

/-- `struct trace_event_raw_inet_sock_set_state`, as far as the program reads it. -/
structure Context where
  skaddr : UInt64
  oldstate : Int
  newstate : Int
  sport : UInt16
  dport : UInt16
  family : UInt16
  protocol : UInt16
  saddr : UInt8 × UInt8 × UInt8 × UInt8
  daddr : UInt8 × UInt8 × UInt8 × UInt8
  deriving DecidableEq

/-- `struct event`. -/
structure StructEvent where
  timestampNs : UInt64
  pid : UInt32
  saddr : UInt8 × UInt8 × UInt8 × UInt8
  daddr : UInt8 × UInt8 × UInt8 × UInt8
  sport : UInt16
  dport : UInt16
  family : UInt8
  protocol : UInt8
  version : UInt8
  outcome : UInt8
  durationKnown : UInt8
  pad : UInt8 × UInt8 × UInt8
  durationUs : UInt64
  deriving DecidableEq

/-- What the helpers answer during one run of the program. -/
structure Helpers where
  /-- `bpf_ktime_get_ns` -/
  now : UInt64
  /-- `bpf_get_current_pid_tgid` -/
  pidTgid : UInt64
  /-- `bpf_map_update_elem` on `starts` fails -/
  updateFails : Bool
  /-- `bpf_ringbuf_reserve` returns null -/
  reserveFails : Bool
  deriving DecidableEq

/-- The maps `starts` and `stats`. -/
structure Maps where
  starts : Dict UInt64 UInt64
  stats : StatIndex → Nat

/-- `stat_inc`. -/
def Maps.statInc (m : Maps) (index : StatIndex) : Maps :=
  { m with stats := fun i => if i = index then m.stats i + 1 else m.stats i }

/-- `duration_us` and `duration_known` for the start that was found. -/
def measured (ctx : Context) (now : UInt64) : Option UInt64 → UInt64 × UInt8
  | some start =>
    if ctx.newstate = tcpEstablished ∧ now ≥ start then ((now - start) / 1000, 1) else (0, 0)
  | none => (0, 0)

/-- The record the program fills in. -/
def submitted (ctx : Context) (env : Helpers) (start : Option UInt64) : StructEvent where
  timestampNs := env.now
  outcome := if ctx.newstate = tcpClose then 1 else 0
  durationKnown := (measured ctx env.now start).2
  durationUs := (measured ctx env.now start).1
  pid := (env.pidTgid >>> 32).toUInt32
  saddr := ctx.saddr
  daddr := ctx.daddr
  sport := ctx.sport
  dport := ctx.dport
  family := afInet.toUInt8
  protocol := ipprotoTcp.toUInt8
  version := 2
  pad := (0, 0, 0)

/-- `trace_inet_sock_set_state`: the maps afterwards and the record submitted, if any. -/
def traceInetSockSetState (m : Maps) (ctx : Context) (env : Helpers) :
    Maps × Option StructEvent :=
  if ctx.family ≠ afInet then (m.statInc .filteredFamily, none)
  else if ctx.protocol ≠ ipprotoTcp then (m.statInc .filteredProtocol, none)
  else if ctx.newstate = tcpSynSent then
    if env.updateFails then (m.statInc .trackingFailed, none)
    else ({ m with starts := m.starts.set ctx.skaddr env.now }, none)
  else if ctx.oldstate ≠ tcpSynSent ∨
      (ctx.newstate ≠ tcpEstablished ∧ ctx.newstate ≠ tcpClose) then
    -- no supported outcome, but an attempt that ends here is no longer tracked
    let m := if ctx.oldstate = tcpSynSent ∨ ctx.newstate = tcpClose then
      { m with starts := m.starts.erase ctx.skaddr } else m
    (m.statInc .filteredTransition, none)
  else
    let start := m.starts.get? ctx.skaddr
    let m := if start.isNone then m.statInc .trackingMissed else m
    let m := { m with starts := m.starts.erase ctx.skaddr }
    if env.reserveFails then (m.statInc .ringbufDropped, none)
    else (m.statInc .eventsSubmitted, some (submitted ctx env start))

/-- The transitions the program looks at. -/
def Context.Tracked (ctx : Context) : Prop := ctx.family = afInet ∧ ctx.protocol = ipprotoTcp

/-- The transitions that decide an active open. -/
def Context.IsOutcome (ctx : Context) : Prop :=
  ctx.Tracked ∧ ctx.oldstate = tcpSynSent ∧
    (ctx.newstate = tcpEstablished ∨ ctx.newstate = tcpClose)

instance (ctx : Context) : Decidable ctx.Tracked := inferInstanceAs (Decidable (_ ∧ _))

instance (ctx : Context) : Decidable ctx.IsOutcome := inferInstanceAs (Decidable (_ ∧ _))

/-! ### What one run of the program does -/

@[simp] theorem Maps.statInc_starts (m : Maps) (index : StatIndex) :
    (m.statInc index).starts = m.starts := rfl

/-- A record is submitted only for an outcome, with the start that was tracked. -/
theorem submitted_of_trace {m : Maps} {ctx : Context} {env : Helpers} {e : StructEvent}
    (h : (traceInetSockSetState m ctx env).2 = some e) :
    ctx.IsOutcome ∧ e = submitted ctx env (m.starts.get? ctx.skaddr) := by
  unfold traceInetSockSetState at h
  split at h
  · cases h
  · next hfamily =>
    split at h
    · cases h
    · next hprotocol =>
      split at h
      · split at h <;> cases h
      · split at h
        · cases h
        · next hstate =>
          have htracked : ctx.Tracked := ⟨not_not.mp hfamily, not_not.mp hprotocol⟩
          rw [not_or, not_not, not_and_or, not_not, not_not] at hstate
          simp only at h
          split at h
          · cases h
          · cases h
            exact ⟨⟨htracked, hstate.1, hstate.2⟩, rfl⟩

/-- **Counting**: an outcome is counted as submitted or as dropped, and nothing else is. -/
theorem outcome_counted (m : Maps) (ctx : Context) (env : Helpers) :
    if ctx.IsOutcome then
      ((traceInetSockSetState m ctx env).1.stats .eventsSubmitted = m.stats .eventsSubmitted + 1 ∧
        (traceInetSockSetState m ctx env).1.stats .ringbufDropped = m.stats .ringbufDropped) ∨
      ((traceInetSockSetState m ctx env).1.stats .eventsSubmitted = m.stats .eventsSubmitted ∧
        (traceInetSockSetState m ctx env).1.stats .ringbufDropped = m.stats .ringbufDropped + 1)
    else
      (traceInetSockSetState m ctx env).1.stats .eventsSubmitted = m.stats .eventsSubmitted ∧
      (traceInetSockSetState m ctx env).1.stats .ringbufDropped = m.stats .ringbufDropped := by
  unfold traceInetSockSetState
  by_cases hfamily : ctx.family = afInet
  · rw [if_neg (not_not.mpr hfamily)]
    by_cases hprotocol : ctx.protocol = ipprotoTcp
    · rw [if_neg (not_not.mpr hprotocol)]
      by_cases hsyn : ctx.newstate = tcpSynSent
      · -- entering SYN_SENT only touches `starts`
        have hnot : ¬ ctx.IsOutcome := by
          intro h
          rcases h.2.2 with h | h <;> rw [hsyn] at h <;> cases h
        rw [if_neg hnot, if_pos hsyn]
        split
        · exact ⟨rfl, rfl⟩
        · exact ⟨rfl, rfl⟩
      · rw [if_neg hsyn]
        by_cases hout : ctx.IsOutcome
        · have hstate : ¬ (ctx.oldstate ≠ tcpSynSent ∨
              (ctx.newstate ≠ tcpEstablished ∧ ctx.newstate ≠ tcpClose)) := by
            rw [not_or, not_not, not_and_or, not_not, not_not]
            exact hout.2
          rw [if_pos hout, if_neg hstate]
          simp only
          split
          · right
            split <;> exact ⟨rfl, rfl⟩
          · left
            split <;> exact ⟨rfl, rfl⟩
        · have hstate : ctx.oldstate ≠ tcpSynSent ∨
              (ctx.newstate ≠ tcpEstablished ∧ ctx.newstate ≠ tcpClose) := by
            by_contra hcon
            rw [not_or, not_not, not_and_or, not_not, not_not] at hcon
            exact hout ⟨⟨hfamily, hprotocol⟩, hcon⟩
          rw [if_neg hout, if_pos hstate]
          simp only
          split <;> exact ⟨rfl, rfl⟩
    · rw [if_neg (fun h => hprotocol h.1.2), if_pos hprotocol]
      exact ⟨rfl, rfl⟩
  · rw [if_neg (fun h => hfamily h.1.1), if_pos hfamily]
    exact ⟨rfl, rfl⟩

/-- **Tracking**: an entry found after a run was made by it, or it was there before and the
    run was not a tracked socket leaving SYN_SENT. -/
theorem start_after {m : Maps} {ctx : Context} {env : Helpers} {socket t : UInt64}
    (h : (traceInetSockSetState m ctx env).1.starts.get? socket = some t) :
    (socket = ctx.skaddr ∧ ctx.Tracked ∧ ctx.newstate = tcpSynSent ∧ t = env.now) ∨
    (m.starts.get? socket = some t ∧
      (socket = ctx.skaddr → ctx.Tracked → ctx.oldstate = tcpSynSent →
        ctx.newstate = tcpSynSent)) := by
  unfold traceInetSockSetState at h
  split at h
  · next hfamily => exact .inr ⟨h, fun _ htracked => absurd htracked.1 hfamily⟩
  · next hfamily =>
    split at h
    · next hprotocol => exact .inr ⟨h, fun _ htracked => absurd htracked.2 hprotocol⟩
    · next hprotocol =>
      have htracked : ctx.Tracked := ⟨not_not.mp hfamily, not_not.mp hprotocol⟩
      split at h
      · next hsyn =>
        split at h
        · exact .inr ⟨h, fun _ _ _ => hsyn⟩
        · simp only [Dict.get?_set] at h
          by_cases hsocket : socket = ctx.skaddr
          · rw [if_pos hsocket] at h
            exact .inl ⟨hsocket, htracked, hsyn, (Option.some.inj h).symm⟩
          · rw [if_neg hsocket] at h
            exact .inr ⟨h, fun heq => absurd heq hsocket⟩
      · right
        split at h
        · simp only [Maps.statInc_starts] at h
          split at h
          · -- erased: the entry is that of another socket
            rw [Dict.get?_erase] at h
            by_cases hsocket : socket = ctx.skaddr
            · rw [if_pos hsocket] at h
              cases h
            · rw [if_neg hsocket] at h
              exact ⟨h, fun heq => absurd heq hsocket⟩
          · next hleft => exact ⟨h, fun _ _ hold => absurd (.inl hold) hleft⟩
        · have herased : (m.starts.erase ctx.skaddr).get? socket = some t := by
            simp only at h
            split at h <;> split at h <;> exact h
          rw [Dict.get?_erase] at herased
          by_cases hsocket : socket = ctx.skaddr
          · rw [if_pos hsocket] at herased
            cases herased
          · rw [if_neg hsocket] at herased
            exact ⟨herased, fun heq => absurd heq hsocket⟩

/-! ### The record in memory -/

/-- A number in little-endian order. -/
def leBytes : Nat → Nat → List UInt8
  | 0, _ => []
  | width + 1, n => UInt8.ofNat (n % 256) :: leBytes width (n / 256)

@[simp] theorem length_leBytes (width n : Nat) : (leBytes width n).length = width := by
  induction width generalizing n with
  | zero => rfl
  | succ width ih => simp [leBytes, ih]

/-- The bytes of an address, in the order they are. -/
def addrBytes (a : UInt8 × UInt8 × UInt8 × UInt8) : List UInt8 := [a.1, a.2.1, a.2.2.1, a.2.2.2]

theorem length_addrBytes (a : UInt8 × UInt8 × UInt8 × UInt8) : (addrBytes a).length = 4 := rfl

/-- `struct event` as it lies in the ring buffer: no implicit padding, host byte order. -/
def StructEvent.bytes (e : StructEvent) : List UInt8 :=
  leBytes 8 e.timestampNs.toNat ++ (leBytes 4 e.pid.toNat ++ (addrBytes e.saddr ++
    (addrBytes e.daddr ++ (leBytes 2 e.sport.toNat ++ (leBytes 2 e.dport.toNat ++
      ([e.family, e.protocol, e.version, e.outcome, e.durationKnown,
        e.pad.1, e.pad.2.1, e.pad.2.2] ++ leBytes 8 e.durationUs.toNat))))))

theorem littleEndian_leBytes (width n : Nat) (rest : List UInt8) :
    littleEndian (leBytes width n ++ rest) 0 width = n % 256 ^ width := by
  have htake : ((leBytes width n ++ rest).drop 0).take width = leBytes width n := by
    simp
  unfold littleEndian
  rw [htake]
  clear htake
  induction width generalizing n with
  | zero => simp [leBytes, Nat.mod_one]
  | succ width ih =>
    have hbyte : (UInt8.ofNat (n % 256)).toNat = n % 256 := by
      rw [UInt8.toNat_ofNat']
      omega
    rw [leBytes, List.foldr_cons, ih, hbyte, Nat.pow_succ', Nat.mod_mul]

/-- Reading past a field. -/
theorem littleEndian_skip {skipped rest : List UInt8} {len off width : Nat}
    (h : skipped.length = len) :
    littleEndian (skipped ++ rest) (len + off) width = littleEndian rest off width := by
  subst h
  unfold littleEndian
  rw [List.drop_append, List.drop_eq_nil_of_le (by omega), List.nil_append,
    Nat.add_sub_cancel_left]

theorem byteAt_skip {skipped rest : List UInt8} {len off : Nat} (h : skipped.length = len) :
    byteAt (skipped ++ rest) (len + off) = byteAt rest off := by
  subst h
  unfold byteAt
  rw [List.getD_eq_getElem?_getD, List.getD_eq_getElem?_getD,
    List.getElem?_append_right (by omega), Nat.add_sub_cancel_left]

theorem addressAt_skip {skipped rest : List UInt8} {len off : Nat} (h : skipped.length = len) :
    addressAt (skipped ++ rest) (len + off) = addressAt rest off := by
  unfold addressAt
  rw [Nat.add_assoc, Nat.add_assoc, Nat.add_assoc, byteAt_skip h, byteAt_skip h, byteAt_skip h,
    byteAt_skip h]

section layout
variable (e : StructEvent)

theorem timestampNs_bytes : littleEndian e.bytes offTimestampNs 8 = e.timestampNs.toNat := by
  unfold StructEvent.bytes offTimestampNs
  rw [littleEndian_leBytes]
  exact Nat.mod_eq_of_lt e.timestampNs.toNat_lt

theorem pid_bytes : littleEndian e.bytes offPid 4 = e.pid.toNat := by
  show littleEndian (leBytes 8 _ ++ _) (8 + 0) 4 = _
  rw [littleEndian_skip (length_leBytes ..), littleEndian_leBytes]
  exact Nat.mod_eq_of_lt e.pid.toNat_lt

theorem saddr_bytes : addressAt e.bytes offSaddr = e.saddr := by
  show addressAt (leBytes 8 _ ++ (leBytes 4 _ ++ _)) (8 + (4 + 0)) = _
  rw [addressAt_skip (length_leBytes ..), addressAt_skip (length_leBytes ..)]
  rfl

theorem daddr_bytes : addressAt e.bytes offDaddr = e.daddr := by
  show addressAt (leBytes 8 _ ++ (leBytes 4 _ ++ (addrBytes _ ++ _))) (8 + (4 + (4 + 0))) = _
  rw [addressAt_skip (length_leBytes ..), addressAt_skip (length_leBytes ..),
    addressAt_skip (length_addrBytes _)]
  rfl

theorem sport_bytes : littleEndian e.bytes offSport 2 = e.sport.toNat := by
  show littleEndian (leBytes 8 _ ++ (leBytes 4 _ ++ (addrBytes _ ++ (addrBytes _ ++ _))))
    (8 + (4 + (4 + (4 + 0)))) 2 = _
  rw [littleEndian_skip (length_leBytes ..), littleEndian_skip (length_leBytes ..),
    littleEndian_skip (length_addrBytes _), littleEndian_skip (length_addrBytes _),
    littleEndian_leBytes]
  exact Nat.mod_eq_of_lt e.sport.toNat_lt

theorem dport_bytes : littleEndian e.bytes offDport 2 = e.dport.toNat := by
  show littleEndian (leBytes 8 _ ++ (leBytes 4 _ ++ (addrBytes _ ++ (addrBytes _ ++
    (leBytes 2 _ ++ _))))) (8 + (4 + (4 + (4 + (2 + 0))))) 2 = _
  rw [littleEndian_skip (length_leBytes ..), littleEndian_skip (length_leBytes ..),
    littleEndian_skip (length_addrBytes _), littleEndian_skip (length_addrBytes _),
    littleEndian_skip (length_leBytes ..),
    littleEndian_leBytes]
  exact Nat.mod_eq_of_lt e.dport.toNat_lt

/-- From the flags on the record is read byte by byte. -/
theorem flags_bytes (off : Nat) :
    byteAt e.bytes (offFamily + off) =
      byteAt ([e.family, e.protocol, e.version, e.outcome, e.durationKnown,
        e.pad.1, e.pad.2.1, e.pad.2.2] ++ leBytes 8 e.durationUs.toNat) off := by
  have hoff : offFamily + off = 8 + (4 + (4 + (4 + (2 + (2 + off))))) := by
    unfold offFamily
    omega
  rw [hoff]
  unfold StructEvent.bytes
  rw [byteAt_skip (length_leBytes ..), byteAt_skip (length_leBytes ..),
    byteAt_skip (length_addrBytes _), byteAt_skip (length_addrBytes _),
    byteAt_skip (length_leBytes ..), byteAt_skip (length_leBytes ..)]

theorem durationUs_bytes : littleEndian e.bytes offDurationUs 8 = e.durationUs.toNat := by
  show littleEndian (leBytes 8 _ ++ (leBytes 4 _ ++ (addrBytes _ ++ (addrBytes _ ++
    (leBytes 2 _ ++ (leBytes 2 _ ++ (_ ++ leBytes 8 _))))))) (8 + (4 + (4 + (4 + (2 + (2 + (8 + 0)))))))
    8 = _
  rw [littleEndian_skip (length_leBytes ..), littleEndian_skip (length_leBytes ..),
    littleEndian_skip (length_addrBytes _), littleEndian_skip (length_addrBytes _),
    littleEndian_skip (length_leBytes ..),
    littleEndian_skip (length_leBytes ..), littleEndian_skip (show _ = 8 from rfl),
    ← List.append_nil (leBytes 8 e.durationUs.toNat), littleEndian_leBytes]
  exact Nat.mod_eq_of_lt e.durationUs.toNat_lt

theorem length_bytes : e.bytes.length = eventSize := by
  simp [StructEvent.bytes, addrBytes, eventSize]

/-- **Layout**: the offsets of the reader are those of the writer. -/
theorem unmarshalEvent_bytes :
    unmarshalEvent e.bytes =
      { timestampNs := e.timestampNs, pid := e.pid, saddr := e.saddr, daddr := e.daddr,
        sport := e.sport, dport := e.dport, family := e.family, protocol := e.protocol,
        version := e.version, outcome := e.outcome, durationKnown := e.durationKnown,
        durationUs := e.durationUs } := by
  unfold unmarshalEvent
  rw [timestampNs_bytes, pid_bytes, saddr_bytes, daddr_bytes, sport_bytes, dport_bytes,
    durationUs_bytes, UInt64.ofNat_toNat, UInt64.ofNat_toNat, UInt32.ofNat_toNat,
    UInt16.ofNat_toNat, UInt16.ofNat_toNat]
  rw [show byteAt e.bytes offFamily = e.family from flags_bytes e 0,
    show byteAt e.bytes offProtocol = e.protocol from flags_bytes e 1,
    show byteAt e.bytes offVersion = e.version from flags_bytes e 2,
    show byteAt e.bytes offOutcome = e.outcome from flags_bytes e 3,
    show byteAt e.bytes offDurationKnown = e.durationKnown from flags_bytes e 4]

end layout

/-! ### The reader accepts what the writer writes -/

/-- The flags and the time of a submitted record are consistent in the way `decode` checks. -/
structure StructEvent.Consistent (e : StructEvent) : Prop where
  version : e.version = eventSchemaVersion
  outcome : e.outcome = 0 ∨ e.outcome = 1
  known : e.durationKnown = 0 ∨ e.durationKnown = 1
  range : e.durationUs.toNat ≤ 2 ^ 63 - 1
  failed_untimed : e.outcome = 1 → e.durationKnown = 0
  untimed_zero : e.durationKnown = 0 → e.durationUs = 0

theorem submitted_consistent (ctx : Context) (env : Helpers) (start : Option UInt64) :
    (submitted ctx env start).Consistent := by
  -- either the start was measured, and then the socket is established, or both fields are 0
  have hmeasured : measured ctx env.now start = (0, 0) ∨
      ∃ t, start = some t ∧ ctx.newstate = tcpEstablished ∧
        measured ctx env.now start = ((env.now - t) / 1000, 1) := by
    cases start with
    | none => exact .inl rfl
    | some t =>
      by_cases h : ctx.newstate = tcpEstablished ∧ env.now ≥ t
      · exact .inr ⟨t, rfl, h.1, if_pos h⟩
      · exact .inl (if_neg h)
  rcases hmeasured with hzero | ⟨t, -, hestablished, hvalue⟩
  · have hknown : (submitted ctx env start).durationKnown = 0 := congrArg Prod.snd hzero
    have hus : (submitted ctx env start).durationUs = 0 := congrArg Prod.fst hzero
    refine ⟨rfl, ?_, .inl hknown, ?_, fun _ => hknown, fun _ => hus⟩
    · show (if ctx.newstate = tcpClose then (1 : UInt8) else 0) = 0 ∨ _
      split
      · exact .inr (if_pos ‹_›)
      · exact .inl rfl
    · rw [hus]
      decide
  · have hopen : ctx.newstate ≠ tcpClose := by
      rw [hestablished]
      decide
    have hout : (submitted ctx env start).outcome = 0 := if_neg hopen
    have hknown : (submitted ctx env start).durationKnown = 1 := congrArg Prod.snd hvalue
    have hus : (submitted ctx env start).durationUs = (env.now - t) / 1000 :=
      congrArg Prod.fst hvalue
    refine ⟨rfl, .inl hout, .inr hknown, ?_, ?_, ?_⟩
    · have hlt := (env.now - t).toNat_lt
      rw [hus, UInt64.toNat_div]
      show (env.now - t).toNat / 1000 ≤ 2 ^ 63 - 1
      omega
    · intro h
      rw [hout] at h
      cases h
    · intro h
      rw [hknown] at h
      cases h

/-- A consistent record decodes, field by field. -/
theorem decodeRecord_bytes (clock : Clock) {e : StructEvent} (h : e.Consistent) :
    decodeRecord clock e.bytes = .ok
      { failed := e.outcome = 1
        connectLatencyUS := if e.durationKnown = 1 then some e.durationUs.toNat else none
        timestamp := wallTime clock e.timestampNs
        pid := e.pid
        srcIP := addrFrom4 e.saddr
        dstIP := addrFrom4 e.daddr
        srcPort := e.sport
        dstPort := e.dport } := by
  unfold decodeRecord
  rw [if_neg (by rw [length_bytes]; omega), unmarshalEvent_bytes]
  unfold decode
  rw [if_neg (not_not.mpr h.version), if_neg]
  have hflag : ∀ flag : UInt8, flag = 0 ∨ flag = 1 → ¬ flag > 1 := by
    intro flag hflag
    rcases hflag with rfl | rfl <;> decide
  rintro (hout | hknown | hrange | ⟨hfailed, htimed⟩ | ⟨huntimed, hnonzero⟩)
  · exact hflag e.outcome h.outcome hout
  · exact hflag e.durationKnown h.known hknown
  · exact absurd hrange (not_lt.mpr h.range)
  · exact htimed (h.failed_untimed hfailed)
  · exact hnonzero (h.untimed_zero huntimed)

/-- **Round trip**: whatever the maps hold and the helpers answer, a record the program
    submits decodes without an error, to its own addresses and ports, to a failure exactly when
    `outcome` is 1, and to a latency exactly when `duration_known` is 1. -/
theorem submitted_record_decodes (m : Maps) (ctx : Context) (env : Helpers) (e : StructEvent)
    (h : (traceInetSockSetState m ctx env).2 = some e) (clock : Clock) :
    e.bytes.length = 40 ∧
    ∃ ev, decodeRecord clock e.bytes = .ok ev ∧
      ev.srcIP = addrFrom4 e.saddr ∧ ev.dstIP = addrFrom4 e.daddr ∧
      ev.srcPort = e.sport ∧ ev.dstPort = e.dport ∧
      (ev.failed = true ↔ e.outcome = 1) ∧
      (e.durationKnown = 1 → ev.connectLatencyUS = some (e.durationUs.toNat : Int)) ∧
      (e.durationKnown ≠ 1 → ev.connectLatencyUS = none) := by
  obtain ⟨-, rfl⟩ := submitted_of_trace h
  refine ⟨length_bytes _, _, decodeRecord_bytes clock (submitted_consistent ctx env _),
    rfl, rfl, rfl, rfl, ?_, ?_, ?_⟩
  · exact decide_eq_true_iff
  · intro hknown
    exact if_pos hknown
  · intro hknown
    exact if_neg hknown

/-- A socket that leaves SYN_SENT for `newstate`. -/
def sampleContext (newstate : Int) : Context where
  skaddr := 0xffff
  oldstate := tcpSynSent
  newstate := newstate
  sport := 40000
  dport := 5432
  family := afInet
  protocol := ipprotoTcp
  saddr := (10, 0, 0, 1)
  daddr := (10, 0, 0, 2)

/-- An attempt that was tracked from 1 µs on and succeeded at 8 µs. -/
theorem submitted_record_decodes_established :
    ∃ ev, decodeRecord ⟨⟨⟨1000000000000000000, some 1000⟩, by decide⟩, 9000⟩
        (submitted (sampleContext tcpEstablished) ⟨8000, 1, false, false⟩ (some 1000)).bytes =
          .ok ev ∧
      ev.connectLatencyUS = some 7 := by
  obtain ⟨-, ev, hok, -, -, -, -, -, htimed, -⟩ := submitted_record_decodes
    ⟨Dict.empty.set 0xffff 1000, fun _ => 0⟩ (sampleContext tcpEstablished)
    ⟨8000, 1, false, false⟩
    (submitted (sampleContext tcpEstablished) ⟨8000, 1, false, false⟩ (some 1000)) rfl
    ⟨⟨⟨1000000000000000000, some 1000⟩, by decide⟩, 9000⟩
  exact ⟨ev, hok, htimed rfl⟩

end TopologyVisualizer.Agent
