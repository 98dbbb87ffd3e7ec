import TopologyVisualizer.Framework.PercentEncoding
import TopologyVisualizer.Framework.Instants
import TopologyVisualizer.Backend.Windows
import TopologyVisualizer.Backend.Graph

/-! # Requests to the Read Routes

    From the query string of a request to the arguments of a handler: what
    Starlette decodes, what FastAPI validates, and what `window.resolve`
    makes of it. A request that does not get there is answered with 422.

    The libraries are parameters (`Libraries`), with the laws of them that
    are relied on (`Libraries.Lawful`). A handler reads a query string only
    through the values it has for each name (`valuesOf`).
-/

namespace TopologyVisualizer.Backend.Routes

open PercentEncoding Text

/-! ### Libraries -/

/-- A `datetime`. One without an offset is not an instant; it is known by its `isoformat`. -/
inductive Moment where
  | aware (t : Datetime)
  | naive (isoformat : String)
  deriving DecidableEq

/-- What Starlette, FastAPI and pydantic do with a request. -/
structure Libraries where
  /-- The pairs of a query string. -/
  queryParams : String → List (String × String)
  /-- The value that counts for a parameter that takes one. -/
  value : List String → Option String
  readBool : String → Option Bool
  readDatetime : String → Option Moment

/-- What is relied on: pairs are read as they were written, whichever characters their writer
    escapes; one value is the one that counts; and flags and instants, of the years 1 to 9999 and
    in UTC, are read as they are written, down to the microsecond. -/
structure Libraries.Lawful (lib : Libraries) : Prop where
  queryParams : ∀ (a : FormAlphabet) (ps : List (String × String)),
    lib.queryParams (formText a ps) = ps
  value_nil : lib.value [] = none
  value_singleton : ∀ text, lib.value [text] = some text
  readBool : ∀ b : Bool, lib.readBool (if b then "true" else "false") = some b
  nanoText : ∀ t : Int, Writable (t / 1000) →
    lib.readDatetime (nanoText t) = some (.aware (t / 1000))
  milliText : ∀ t : Int, Writable (1000 * t) →
    lib.readDatetime (milliText t) = some (.aware (1000 * t))

variable (lib : Libraries)

/-- The values of a query string for each name. -/
def valuesOf (queryString : String) : String → List String := named (lib.queryParams queryString)

/-! ### Parameters -/

/-- `WINDOW_PRESETS`, in microseconds. -/
def windowPresets : List (String × Int) :=
  [("1m", 60000000), ("5m", 300000000), ("15m", 900000000), ("1h", 3600000000),
    ("6h", 21600000000), ("24h", 86400000000)]

def readPreset (text : String) : Option String :=
  if text ∈ windowPresets.map Prod.fst then some text else none

/-- A parameter with a default: a value that cannot be read is refused. -/
def parameter {α : Type} (read : String → Option α) (default : α) (values : List String) :
    Option α :=
  match lib.value values with
  | none => some default
  | some text => read text

/-- A parameter without one. -/
def required {α : Type} (read : String → Option α) (values : List String) : Option α :=
  (lib.value values).bind read

structure WindowParams where
  window : Option String
  start : Option Moment
  «end» : Option Moment
  deriving DecidableEq

def windowParams (values : String → List String) : Option WindowParams := do
  let window ← parameter lib (fun text => (readPreset text).map some) none (values "window")
  let start ← parameter lib (fun text => (lib.readDatetime text).map some) none (values "from")
  let «end» ← parameter lib (fun text => (lib.readDatetime text).map some) none (values "to")
  return ⟨window, start, «end»⟩

/-- The filters of a request; `EffectiveFilters` as `get_graph` builds them. -/
def filterParams (values : String → List String) : Option EffectiveFilters := do
  let kind ← parameter lib (fun text => (NodeKind.ofName? text).map some) none (values "kind")
  let query ← parameter lib (fun text => some (some text)) none (values "query")
  let includeExternal ← parameter lib lib.readBool true (values "include_external")
  let includeUnresolved ← parameter lib lib.readBool false (values "include_unresolved")
  return ⟨sortOn id (values "namespace"), kind, query, includeExternal, includeUnresolved⟩

structure GraphParams where
  window : WindowParams
  filters : EffectiveFilters
  deriving DecidableEq

/-- The parameters of `get_graph` and `get_anomalies`. -/
def graphParams (values : String → List String) : Option GraphParams := do
  let window ← windowParams lib values
  let filters ← filterParams lib values
  return ⟨window, filters⟩

structure DiffParams where
  baselineFrom : Moment
  baselineTo : Moment
  currentFrom : Moment
  currentTo : Moment
  filters : EffectiveFilters
  includeUnchanged : Bool

/-- The parameters of `get_diff`. -/
def diffParams (values : String → List String) : Option DiffParams := do
  let baselineFrom ← required lib lib.readDatetime (values "baseline_from")
  let baselineTo ← required lib lib.readDatetime (values "baseline_to")
  let currentFrom ← required lib lib.readDatetime (values "current_from")
  let currentTo ← required lib lib.readDatetime (values "current_to")
  let filters ← filterParams lib values
  let includeUnchanged ← parameter lib lib.readBool false (values "include_unchanged")
  return ⟨baselineFrom, baselineTo, currentFrom, currentTo, filters, includeUnchanged⟩

/-! ### Resolving windows -/

/-- `isoformat` of an instant in UTC. -/
def isoformat (t : Datetime) : String :=
  let micros := (t % 1000000).toNat
  (Civil.ofUnix (t / 1000000)).text ++ (if micros = 0 then "" else "." ++ pad 6 micros) ++ "+00:00"

/-- `str` of a `timedelta`, in microseconds. -/
def timedeltaText (d : Int) : String :=
  let days := d / 86400000000
  let seconds := (d % 86400000000 / 1000000).toNat
  let micros := (d % 1000000).toNat
  (if days = 0 then "" else toString days ++ (if |days| = 1 then " day, " else " days, ")) ++
    toString (seconds / 3600) ++ ":" ++ pad 2 (seconds / 60 % 60) ++ ":" ++ pad 2 (seconds % 60) ++
    if micros = 0 then "" else "." ++ pad 6 micros

/-- `_as_utc`. -/
def asUtc : Moment → Except String Datetime
  | .aware t => .ok t
  | .naive isoformat =>
    .error (isoformat ++ " is timezone-naive; all timestamps must be RFC 3339 with an offset")

/-- `_validated`. -/
def validated (start «end» : Datetime) (maxSpan : Int) : Except String ResolvedWindow :=
  if start ≥ «end» then
    .error ("'from' (" ++ isoformat start ++ ") must be strictly before 'to' (" ++
      isoformat «end» ++ ")")
  else if «end» - start > maxSpan then
    .error ("requested span " ++ timedeltaText («end» - start) ++
      " exceeds the configured maximum " ++ timedeltaText maxSpan ++
      "; narrow the range or raise MAX_QUERY_SPAN_HOURS")
  else .ok ⟨start, «end»⟩

/-- `resolve`. -/
def resolve (now : Datetime) (p : WindowParams) (maxSpan : Int) : Except String ResolvedWindow :=
  match p.window, p.start, p.end with
  | some preset, none, none =>
    match windowPresets.lookup preset with
    | none =>
      .error ("unknown window preset '" ++ preset ++ "'; expected one of " ++
        ", ".intercalate ["15m", "1h", "1m", "24h", "5m", "6h"])
    | some span => validated (now - span) now maxSpan
  | some _, _, _ =>
    .error ("supply either 'window' or the 'from'/'to' pair, not both — " ++
      "they would otherwise disagree silently")
  | none, some start, some «end» => do
    let start ← asUtc start
    let «end» ← asUtc «end»
    validated start «end» maxSpan
  | none, _, _ => .error "an explicit range needs both 'from' and 'to'"

/-- Why a request is answered with 422: by FastAPI's validation, or with a detail. -/
inductive Unprocessable where
  | validation
  | window (detail : String)
  deriving DecidableEq

/-- `get_graph`, up to the window and the filters of its queries. -/
def graphRequest (now : Datetime) (maxSpan : Int) (values : String → List String) :
    Except Unprocessable (ResolvedWindow × EffectiveFilters) :=
  match graphParams lib values with
  | none => .error .validation
  | some p =>
    match resolve now p.window maxSpan with
    | .error detail => .error (.window detail)
    | .ok window => .ok (window, p.filters)

/-- The windows of `get_diff`. -/
def diffWindows (now : Datetime) (maxSpan : Int) (p : DiffParams) :
    Except String (ResolvedWindow × ResolvedWindow) := do
  let baseline ← resolve now ⟨none, some p.baselineFrom, some p.baselineTo⟩ maxSpan
  let current ← resolve now ⟨none, some p.currentFrom, some p.currentTo⟩ maxSpan
  validateDiffPeriods baseline current
  return (baseline, current)

/-- `get_diff`, up to the windows and the filters of its queries. -/
def diffRequest (now : Datetime) (maxSpan : Int) (values : String → List String) :
    Except Unprocessable ((ResolvedWindow × ResolvedWindow) × EffectiveFilters × Bool) :=
  match diffParams lib values with
  | none => .error .validation
  | some p =>
    match diffWindows now maxSpan p with
    | .error detail => .error (.window detail)
    | .ok windows => .ok (windows, p.filters, p.includeUnchanged)

/-! ### Lemmas -/

variable {lib}

/-- Which windows pass. -/
theorem validated_eq_ok_iff {start stop : Datetime} {maxSpan : Int} {w : ResolvedWindow} :
    validated start stop maxSpan = .ok w ↔
      start < stop ∧ stop - start ≤ maxSpan ∧ w = ⟨start, stop⟩ := by
  constructor
  · intro h
    unfold validated at h
    split at h
    · cases h
    · rename_i hlt
      split at h
      · cases h
      · rename_i hspan
        cases h
        exact ⟨not_le.mp hlt, not_lt.mp hspan, rfl⟩
  · rintro ⟨hlt, hspan, rfl⟩
    rw [validated, if_neg (not_le.mpr hlt), if_neg (not_lt.mpr hspan)]

theorem resolve_range (now : Datetime) (start stop : Datetime) (maxSpan : Int) :
    resolve now ⟨none, some (.aware start), some (.aware stop)⟩ maxSpan =
      validated start stop maxSpan := rfl

end TopologyVisualizer.Backend.Routes
