import TopologyVisualizer.Framework.PercentEncoding
import TopologyVisualizer.Framework.Instants
import TopologyVisualizer.Framework.GoTime
import TopologyVisualizer.Framework.Dict
import TopologyVisualizer.Framework.KeyedSum
import TopologyVisualizer.Framework.Text

/-! # What the CLI Asks For

    The `query` package, which turns what a user types into windows, periods
    and kinds, and the URLs that `api.Client` makes of them. The commands and
    the MCP tools share both.

    * A window is nothing, a preset, or a range whose ends are in order
      (`window_cases`).
    * The periods of a comparison are in order, do not overlap and are of the
      same length (`diffPeriods_spec`).
-/

namespace TopologyVisualizer.Cli.Queries

open PercentEncoding Text

/-! ### Texts of the user -/

/-- The functions of Go's standard library that are used on what the user types. Durations are in
    nanoseconds. -/
structure GoLib where
  trimSpace : String → String
  equalFold : String → String → Bool
  parseDuration : String → Option Int
  /-- `time.Parse` with `RFC3339Nano`, in UTC. -/
  parseTime : String → Option Int
  durationString : Int → String
  quote : String → String

/-- `api.Presets`. -/
def presets : List String := ["1m", "5m", "15m", "1h", "6h", "24h"]

/-- The zero `time.Time`. -/
def zeroTime : GoTime := ⟨GoTime.zeroWall, none⟩

/-- `api.Window`. -/
structure Window where
  preset : String := ""
  «from» : GoTime := zeroTime
  «to» : GoTime := zeroTime
  deriving DecidableEq

/-- `api.Period`. -/
structure Period where
  «from» : GoTime
  «to» : GoTime
  deriving DecidableEq

def formatTime (t : GoTime) : String := nanoText t.wall

section query
variable (go : GoLib)

def parseAgo (s : String) : Except String Int :=
  match go.parseDuration (go.trimSpace s) with
  | none => .error "want a duration such as 15m, 1h or 2h30m"
  | some d => if d ≤ 0 then .error "duration must be positive" else .ok d

def since (d : String) (now : GoTime) : Except String Window :=
  let d := go.trimSpace d
  if d = "" then .ok {}
  else if d ∈ presets then .ok { preset := d }
  else
    match parseAgo go d with
    | .error err => .error ("--since " ++ go.quote d ++ ": " ++ err)
    | .ok dur => .ok { «from» := now.utc.add (-dur), «to» := now.utc }

def instant (s : String) (now : GoTime) : Except String GoTime :=
  let s := go.trimSpace s
  if s = "" then .error "empty time: want now, a duration ago such as 2h, or RFC 3339"
  else if go.equalFold s "now" then .ok now.utc
  else
    match go.parseTime s with
    | some t => .ok ⟨t, none⟩
    | none =>
      match parseAgo go s with
      | .error _ =>
        .error (go.quote s ++ " is not now, a duration ago such as 2h, or an RFC 3339 time")
      | .ok dur => .ok (now.utc.add (-dur))

/-- An instant that a flag gives. -/
def flagInstant (flag s : String) (now : GoTime) : Except String GoTime :=
  match instant go s now with
  | .error err => .error (flag ++ ": " ++ err)
  | .ok t => .ok t

def notBefore (a b : GoTime) : String :=
  "--from (" ++ formatTime a ++ ") must be before --to (" ++ formatTime b ++ ")"

def range («from» «to» : String) (now : GoTime) : Except String Window := do
  if «from» = "" ∨ «to» = "" then .error "--from and --to must be given together"
  else
    let a ← flagInstant go "--from" «from» now
    let b ← flagInstant go "--to" «to» now
    if !a.before b then .error (notBefore a b)
    else return { «from» := a, «to» := b }

def window (ago «from» «to» : String) (now : GoTime) : Except String Window :=
  if ago ≠ "" ∧ («from» ≠ "" ∨ «to» ≠ "") then
    .error "--since cannot be combined with --from/--to"
  else if «from» ≠ "" ∨ «to» ≠ "" then range go «from» «to» now
  else since go ago now

/-- `time.Time.Sub`, which stops at the ends of the range of durations. -/
def sub (t u : GoTime) : Int := max (-2 ^ 63) (min (2 ^ 63 - 1) (t.wall - u.wall))

/-- The two periods between `a` and `b` of this length. -/
def periods (a b : GoTime) (l : Int) : Except String (Period × Period) :=
  let baseline : Period := ⟨a, a.add l⟩
  let current : Period := ⟨b.add (-l), b⟩
  if baseline.to.after current.from then
    .error ("periods overlap: baseline " ++ formatTime baseline.from ++ " to " ++
      formatTime baseline.to ++ " and current " ++ formatTime current.from ++ " to " ++
      formatTime current.to ++ "; use a --length of at most " ++
      go.durationString ((sub b a).tdiv 2))
  else .ok (baseline, current)

def diffPeriods («from» «to» length : String) (now : GoTime) : Except String (Period × Period) := do
  if «from» = "" ∨ «to» = "" then .error "diff needs both --from and --to"
  else
    let a ← flagInstant go "--from" «from» now
    let b ← flagInstant go "--to" «to» now
    if !a.before b then .error (notBefore a b)
    else if length = "" then periods go a b ((sub b a).tdiv 2)
    else
      match parseAgo go length with
      | .error err => .error ("--length " ++ go.quote length ++ ": " ++ err)
      | .ok l => periods go a b l

/-- `Kinds`. -/
def kinds : List String :=
  ["Service", "Deployment", "StatefulSet", "DaemonSet", "Job", "Pod", "External"]

def canonicalKind (k : String) : Except String String :=
  match kinds.find? (fun known => go.equalFold k known) with
  | some known => .ok known
  | none => .error ("unknown kind " ++ go.quote k ++ ": want one of " ++ ", ".intercalate kinds)

end query

/-! ### URLs -/

/-- A byte that no component escapes. -/
def isUnreserved (b : UInt8) : Bool :=
  (97 ≤ b && b ≤ 122) || (65 ≤ b && b ≤ 90) || (48 ≤ b && b ≤ 57) ||
    -- `-`, `_`, `.` and `~`
    b == 45 || b == 95 || b == 46 || b == 126

/-- `QueryEscape`. -/
def queryAlphabet : FormAlphabet where
  keeps := isUnreserved
  ascii := forall_byte (by decide +kernel)
  percent := by decide
  plus := by decide
  ampersand := by decide
  equals := by decide

/-- `url.Values`. -/
abbrev Values := Dict String (List String)

/-- The pairs in the order of their names, as they are encoded. -/
def Values.pairs (v : Values) : List (String × String) :=
  (sortOn Text.utf8 v.keys).flatMap fun k => ((v.get? k).getD []).map fun value => (k, value)

def Values.encode (v : Values) : String := formText queryAlphabet v.pairs

def Window.encode (w : Window) (v : Values) : Values :=
  if w.preset ≠ "" then v.set "window" [w.preset]
  else if !w.from.isZero || !w.to.isZero then
    (v.set "from" [formatTime w.from]).set "to" [formatTime w.to]
  else v

/-- `api.GraphQuery`. -/
structure GraphQuery where
  window : Window := {}
  namespaces : List String := []
  kind : String := ""
  query : String := ""
  excludeExternal : Bool := false
  includeUnresolved : Bool := false

def GraphQuery.values (q : GraphQuery) : Values :=
  let v := q.window.encode .empty
  let v := q.namespaces.foldl (fun v ns => v.pushAt "namespace" ns) v
  let v := if q.kind ≠ "" then v.set "kind" [q.kind] else v
  let v := if q.query ≠ "" then v.set "query" [q.query] else v
  let v := if q.excludeExternal then v.set "include_external" ["false"] else v
  if q.includeUnresolved then v.set "include_unresolved" ["true"] else v

/-- `api.DiffQuery`. -/
structure DiffQuery where
  baseline : Period
  current : Period
  namespaces : List String := []

def DiffQuery.values (q : DiffQuery) : Values :=
  let v : Values := .empty
  let v := v.set "baseline_from" [formatTime q.baseline.from]
  let v := v.set "baseline_to" [formatTime q.baseline.to]
  let v := v.set "current_from" [formatTime q.current.from]
  let v := v.set "current_to" [formatTime q.current.to]
  q.namespaces.foldl (fun v ns => v.pushAt "namespace" ns) v

/-! ### Windows and periods in order -/

section order
variable {go : GoLib} {now : GoTime}

theorem bind_eq_ok {α β : Type} {x : Except String α} {f : α → Except String β} {b : β}
    (h : (x >>= f) = .ok b) : ∃ a, x = .ok a ∧ f a = .ok b := by
  cases x with
  | error e => cases h
  | ok a => exact ⟨a, rfl, h⟩

theorem parseAgo_pos {s : String} {d : Int} (h : parseAgo go s = .ok d) : 0 < d := by
  unfold parseAgo at h
  split at h
  · cases h
  · split at h
    · cases h
    · cases h
      omega

/-- Instants have no monotonic reading, so they are compared by the wall clock. -/
theorem instant_mono {s : String} {t : GoTime} (h : instant go s now = .ok t) : t.mono = none := by
  simp only [instant] at h
  repeat' split at h
  all_goals cases h <;> rfl

theorem flagInstant_mono {flag s : String} {t : GoTime} (h : flagInstant go flag s now = .ok t) :
    t.mono = none := by
  unfold flagInstant at h
  split at h
  · cases h
  · rename_i ht
    cases h
    exact instant_mono ht

theorem before_iff {a b : GoTime} (ha : a.mono = none) : a.before b = true ↔ a.wall < b.wall := by
  unfold GoTime.before
  rw [ha]
  simp

theorem canonicalKind_mem {k kind : String} (h : canonicalKind go k = .ok kind) : kind ∈ kinds := by
  unfold canonicalKind at h
  split at h
  · rename_i hfound
    cases h
    exact List.mem_of_find?_eq_some hfound
  · cases h

/-- What `Since` makes of a flag. -/
theorem since_cases {d : String} {w : Window} (h : since go d now = .ok w) :
    (w = {} ∧ go.trimSpace d = "") ∨ (∃ p ∈ presets, w = { preset := p }) ∨
      ∃ a b : GoTime, w = { «from» := a, «to» := b } ∧ a.wall < b.wall := by
  unfold since at h
  simp only at h
  split at h
  · cases h
    exact .inl ⟨rfl, ‹_›⟩
  · split at h
    · cases h
      exact .inr (.inl ⟨_, ‹_›, rfl⟩)
    · split at h
      · cases h
      · rename_i dur hdur
        cases h
        refine .inr (.inr ⟨_, _, rfl, ?_⟩)
        have hpos := parseAgo_pos hdur
        show now.utc.wall + -dur < now.utc.wall
        omega

/-- **A window** of the CLI is nothing, a preset, or a range in order. -/
theorem window_cases {ago start stop : String} {w : Window}
    (h : window go ago start stop now = .ok w) :
    (w = {} ∧ go.trimSpace ago = "" ∧ start = "" ∧ stop = "") ∨
      (∃ p ∈ presets, w = { preset := p }) ∨
      ∃ a b : GoTime, w = { «from» := a, «to» := b } ∧ a.wall < b.wall := by
  unfold window at h
  split at h
  · cases h
  · split at h
    · unfold range at h
      split at h
      · cases h
      · obtain ⟨a, ha, h⟩ := bind_eq_ok h
        obtain ⟨b, -, h⟩ := bind_eq_ok h
        split at h
        · cases h
        · rename_i hbefore
          cases h
          refine .inr (.inr ⟨a, b, rfl, ?_⟩)
          rw [Bool.not_eq_true, Bool.not_eq_false'] at hbefore
          exact (before_iff (flagInstant_mono ha)).mp hbefore
    · rename_i hnone
      have hstart : start = "" := by
        by_contra hne
        exact hnone (.inl hne)
      have hstop : stop = "" := by
        by_contra hne
        exact hnone (.inr hne)
      rcases since_cases h with ⟨hw, htrim⟩ | hpreset | hrange
      · exact .inl ⟨hw, htrim, hstart, hstop⟩
      · exact .inr (.inl hpreset)
      · exact .inr (.inr hrange)

/-- Periods of one length, in order, and without an instant in common. -/
def Apart (p : Period × Period) : Prop :=
  ∃ l : Int, 0 ≤ l ∧ p.1.to.wall = p.1.from.wall + l ∧ p.2.to.wall = p.2.from.wall + l ∧
    p.1.to.wall ≤ p.2.from.wall

theorem periods_apart {a b : GoTime} {l : Int} {p : Period × Period} (hb : b.mono = none)
    (hl : 0 ≤ l) (h : periods go a b l = .ok p) : Apart p := by
  unfold periods at h
  simp only at h
  split at h
  · cases h
  · rename_i hafter
    cases h
    refine ⟨l, hl, rfl, ?_, ?_⟩
    · show b.wall = b.wall + -l + l
      omega
    · have hmono : (b.add (-l)).mono = none := by simp [GoTime.add, hb]
      rw [GoTime.after, before_iff hmono] at hafter
      exact not_lt.mp hafter

/-- **The periods** of a comparison are apart. -/
theorem diffPeriods_spec {start stop length : String} {p : Period × Period}
    (h : diffPeriods go start stop length now = .ok p) : Apart p := by
  unfold diffPeriods at h
  split at h
  · cases h
  · obtain ⟨a, ha, h⟩ := bind_eq_ok h
    obtain ⟨b, hb, h⟩ := bind_eq_ok h
    split at h
    · cases h
    · rename_i hbefore
      rw [Bool.not_eq_true, Bool.not_eq_false', before_iff (flagInstant_mono ha)] at hbefore
      split at h
      · have hsub : 0 ≤ sub b a := by
          unfold sub
          omega
        exact periods_apart (flagInstant_mono hb) (Int.tdiv_nonneg hsub (by decide)) h
      · split at h
        · cases h
        · rename_i l hl
          exact periods_apart (flagInstant_mono hb) (parseAgo_pos hl).le h

end order

/-! ### Values by name -/

/-- The values for a name. -/
def Values.at (v : Values) (name : String) : List String := (v.get? name).getD []

@[simp]
theorem Values.at_empty (name : String) : Values.at .empty name = [] := rfl

@[simp]
theorem Values.at_ite (p : Prop) [Decidable p] (v w : Values) (name : String) :
    Values.at (if p then v else w) name = if p then v.at name else w.at name :=
  apply_ite (Values.at · name) p v w

@[simp]
theorem Values.at_set (v : Values) (k : String) (values : List String) (name : String) :
    Values.at (v.set k values) name = if name = k then values else v.at name := by
  unfold Values.at
  rw [Dict.get?_set]
  split <;> rfl

@[simp]
theorem Values.at_add (v : Values) (k : String) (more : List String) (name : String) :
    Values.at (more.foldl (fun v value => v.pushAt k value) v) name =
      if name = k then v.at name ++ more else v.at name := by
  induction more generalizing v with
  | nil => simp
  | cons value more ih =>
    rw [List.foldl_cons, ih, Dict.pushAt, Values.at_set]
    by_cases hname : name = k
    · simp [hname, Values.at]
    · simp [hname]

theorem named_flatMap {ks : List String} (hks : ks.Nodup) (f : String → List String)
    (name : String) :
    named (ks.flatMap fun k => (f k).map fun value => (k, value)) name =
      if name ∈ ks then f name else [] := by
  induction ks with
  | nil => rfl
  | cons k ks ih =>
    obtain ⟨hk, hks⟩ := List.nodup_cons.mp hks
    rw [List.flatMap_cons, named_append, named_pairs, ih hks]
    by_cases hname : name = k
    · subst hname
      simp [hk]
    · simp [hname]

/-- The pairs that are encoded hold, for each name, its values in order. -/
theorem Values.named_pairs (v : Values) (name : String) : named v.pairs name = v.at name := by
  have hperm := sortOn_perm Text.utf8 v.keys
  rw [Values.pairs, named_flatMap (hperm.nodup_iff.mpr v.nodup)]
  split
  · rfl
  · rename_i hnone
    rw [hperm.mem_iff] at hnone
    rw [Values.at, Dict.get?_eq_none_iff.mpr hnone]
    rfl

end TopologyVisualizer.Cli.Queries
