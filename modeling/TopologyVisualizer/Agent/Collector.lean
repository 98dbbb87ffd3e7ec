import TopologyVisualizer.Agent.Resolver

/-! # The Collector's Decoder

    `agent/internal/collector/collector.go` and `layout.go`: from a
    ring-buffer record to an `Event`. The loop around it is part of
    `Agent/Process.lean`.
-/

namespace TopologyVisualizer.Agent

/-- `EventSchemaVersion`. -/
def eventSchemaVersion : UInt8 := 2

/-- `rawEvent`: the decoding view of `struct event`. -/
structure RawEvent where
  timestampNs : UInt64
  pid : UInt32
  saddr : UInt8 × UInt8 × UInt8 × UInt8
  daddr : UInt8 × UInt8 × UInt8 × UInt8
  sport : UInt16
  dport : UInt16
  family : UInt8
  protocol : UInt8
  version : UInt8
  outcome : UInt8
  durationKnown : UInt8
  durationUs : UInt64
  deriving DecidableEq

/-- One observed active open. -/
structure Event where
  timestamp : GoTime
  pid : UInt32
  srcIP : Addr
  dstIP : Addr
  srcPort : UInt16
  dstPort : UInt16
  failed : Bool
  connectLatencyUS : Option Int
  deriving DecidableEq

/-- What `time.Now` returns: a Linux wall clock counts nanoseconds since 1970 in 63 bits. -/
structure WallReading where
  time : GoTime
  range : 0 ≤ time.wall ∧ time.wall < 2 ^ 63

/-- One reading of the wall clock and `CLOCK_MONOTONIC`. -/
structure Clock where
  wall : WallReading
  mono : Int

/-- `wallTime`: now, minus how long ago on the monotonic clock the event happened. The
    conversion to a `Duration` and the subtraction are 64-bit. -/
def wallTime (clock : Clock) (ktimeNs : UInt64) : GoTime :=
  clock.wall.time.add (wrapInt64 (ktimeNs.toNat - clock.mono))

/-- `netip.AddrFrom4`. -/
def addrFrom4 (bytes : UInt8 × UInt8 × UInt8 × UInt8) : Addr :=
  .v4 bytes.1 bytes.2.1 bytes.2.2.1 bytes.2.2.2

/-- `decode`, after the record's bytes were read into fields. -/
def decode (clock : Clock) (e : RawEvent) : Except String Event :=
  if e.version ≠ eventSchemaVersion then
    .error ("event schema version " ++ toString e.version.toNat ++ ", this binary expects " ++
      toString eventSchemaVersion.toNat ++ "; rebuild with \x60make generate\x60")
  else if e.outcome > 1 ∨ e.durationKnown > 1 ∨ e.durationUs.toNat > 2 ^ 63 - 1 ∨
      (e.outcome = 1 ∧ e.durationKnown ≠ 0) ∨ (e.durationKnown = 0 ∧ e.durationUs ≠ 0) then
    .error "invalid connection outcome or timing flags"
  else .ok
    { failed := e.outcome = 1
      connectLatencyUS := if e.durationKnown = 1 then some e.durationUs.toNat else none
      timestamp := wallTime clock e.timestampNs
      pid := e.pid
      srcIP := addrFrom4 e.saddr
      dstIP := addrFrom4 e.daddr
      srcPort := e.sport
      dstPort := e.dport }

/-! ### Records -/

/-- `eventSize`: the wire size of `struct event`. -/
def eventSize : Nat := 40

def offTimestampNs : Nat := 0
def offPid : Nat := 8
def offSaddr : Nat := 12
def offDaddr : Nat := 16
def offSport : Nat := 20
def offDport : Nat := 22
def offFamily : Nat := 24
def offProtocol : Nat := 25
def offVersion : Nat := 26
def offOutcome : Nat := 27
def offDurationKnown : Nat := 28
def offDurationUs : Nat := 32

/-- The byte at an offset; the length check of `decode` comes first. -/
def byteAt (b : List UInt8) (off : Nat) : UInt8 := b.getD off 0

/-- The little-endian number in `width` bytes from `off`. -/
def littleEndian (b : List UInt8) (off width : Nat) : Nat :=
  ((b.drop off).take width).foldr (fun byte n => byte.toNat + 256 * n) 0

/-- The four bytes of an address, as they are. -/
def addressAt (b : List UInt8) (off : Nat) : UInt8 × UInt8 × UInt8 × UInt8 :=
  (byteAt b off, byteAt b (off + 1), byteAt b (off + 2), byteAt b (off + 3))

/-- `unmarshalEvent`. -/
def unmarshalEvent (b : List UInt8) : RawEvent where
  timestampNs := .ofNat (littleEndian b offTimestampNs 8)
  pid := .ofNat (littleEndian b offPid 4)
  saddr := addressAt b offSaddr
  daddr := addressAt b offDaddr
  sport := .ofNat (littleEndian b offSport 2)
  dport := .ofNat (littleEndian b offDport 2)
  family := byteAt b offFamily
  protocol := byteAt b offProtocol
  version := byteAt b offVersion
  outcome := byteAt b offOutcome
  durationKnown := byteAt b offDurationKnown
  durationUs := .ofNat (littleEndian b offDurationUs 8)

/-- `decode`. -/
def decodeRecord (clock : Clock) (raw : List UInt8) : Except String Event :=
  if raw.length < eventSize then
    .error ("record is " ++ toString raw.length ++ " bytes, expected " ++ toString eventSize)
  else decode clock (unmarshalEvent raw)

/-! ### What a decoded event looks like -/

/-- The facts about an event that hold however its record was filled in. -/
structure Event.Decoded (ev : Event) : Prop where
  latency_range : ∀ us ∈ ev.connectLatencyUS, 0 ≤ us ∧ us < 2 ^ 63
  timestamp_range : -2 ^ 63 ≤ ev.timestamp.wall ∧ ev.timestamp.wall < 2 ^ 64

theorem wallTime_range (clock : Clock) (ktimeNs : UInt64) :
    -2 ^ 63 ≤ (wallTime clock ktimeNs).wall ∧ (wallTime clock ktimeNs).wall < 2 ^ 64 := by
  have hlow := wrapInt64_lower (ktimeNs.toNat - clock.mono)
  have hhigh := wrapInt64_upper (ktimeNs.toNat - clock.mono)
  have hwall := clock.wall.range
  simp only [wallTime, GoTime.add_wall]
  omega

theorem decode_decoded {clock : Clock} {raw : RawEvent} {ev : Event}
    (h : decode clock raw = .ok ev) : ev.Decoded := by
  unfold decode at h
  split at h
  · cases h
  · split at h
    · cases h
    · next hflags =>
      cases h
      refine ⟨?_, wallTime_range clock raw.timestampNs⟩
      intro us hus
      simp only [Option.mem_def, Option.ite_none_right_eq_some, Option.some.injEq] at hus
      omega

end TopologyVisualizer.Agent
