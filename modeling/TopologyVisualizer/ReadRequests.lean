import Mathlib.Algebra.Order.Group.Abs
import TopologyVisualizer.Backend.Routes
import TopologyVisualizer.Cli.Queries
import TopologyVisualizer.Frontend.Requests

/-! # Reading through the API

    What the two clients ask for and what the backend understands. Both go
    through the text of a URL: escaped by Go or by the browser, decoded by
    the libraries of the backend (`Libraries.Lawful`) and validated there.
    Instants are of the years 1 to 9999, which is what a Python `datetime`
    can hold.

    * Parameters arrive as they were sent, from either client
      (`graph_request_arrives`).
    * Which reads of the CLI pass validation (`cli_read_accepted_iff`): not
      those without a window, and not those for the kind `External`, which
      the CLI lets through. Periods that the CLI compares are never refused
      as overlapping (`cli_diff_accepted_iff`).

    `reference` is an implementation of the libraries that keeps the laws.
-/

namespace TopologyVisualizer.ReadRequests

open PercentEncoding
open Text hiding utf8
open Backend (Datetime NodeKind EffectiveFilters ResolvedWindow validateDiffPeriods)
open Backend.Routes
open Cli.Queries
open Frontend

/-! ### Libraries -/

def reference : Libraries where
  queryParams := parseFormText
  value := List.getLast?
  readBool text := if text = "true" then some true else if text = "false" then some false else none
  readDatetime text := (readInstant? text).map .aware

theorem reference_lawful : reference.Lawful where
  queryParams := parseFormText_formText
  value_nil := rfl
  value_singleton _ := rfl
  readBool b := by cases b <;> decide
  nanoText t h := by simp only [reference, readInstant?_nanoText h, Option.map_some]
  milliText t h := by simp only [reference, readInstant?_milliText h, Option.map_some]

section parameters
variable {lib : Libraries} (hlib : lib.Lawful)
include hlib

theorem parameter_nil {α : Type} (read : String → Option α) (default : α) :
    parameter lib read default [] = some default := by
  rw [parameter, hlib.value_nil]

theorem parameter_singleton {α : Type} (read : String → Option α) (default : α) (text : String) :
    parameter lib read default [text] = read text := by
  rw [parameter, hlib.value_singleton]

theorem required_singleton {α : Type} (read : String → Option α) (text : String) :
    required lib read [text] = read text := by
  rw [required, hlib.value_singleton, Option.bind_some]

/-- A flag that is sent when it is given. -/
theorem parameter_flag (flag : Option Bool) (default : Bool) :
    parameter lib lib.readBool default (flag.elim [] (fun b => [if b then "true" else "false"])) =
      some (flag.getD default) := by
  cases flag with
  | none => exact parameter_nil hlib ..
  | some b => exact (parameter_singleton hlib ..).trans (hlib.readBool b)

end parameters

/-! ### Parameters of the CLI -/

/-- The range or the preset of a window, as the backend reads it. -/
def cliWindow (w : Window) : WindowParams :=
  if w.preset ≠ "" then ⟨some w.preset, none, none⟩
  else if !w.from.isZero || !w.to.isZero then
    ⟨none, some (.aware (w.from.wall / 1000)), some (.aware (w.to.wall / 1000))⟩
  else ⟨none, none, none⟩

/-- Instants of the years 1 to 9999. -/
structure Dated (start stop : GoTime) : Prop where
  start : Writable (start.wall / 1000)
  stop : Writable (stop.wall / 1000)

/-- A window that the CLI can make, and that can be read: one of its presets, or instants of the
    years 1 to 9999, or nothing. -/
structure Sendable (w : Window) : Prop where
  preset : w.preset = "" ∨ w.preset ∈ presets
  dated : w.preset = "" → (!w.from.isZero || !w.to.isZero) = true → Dated w.from w.to

/-- Filters as they were asked for, in the terms of the handler. -/
def askedFilters (namespaces : List String) (kind query : String)
    (includeExternal includeUnresolved : Bool) : Option EffectiveFilters :=
  let filters (kind : Option NodeKind) : EffectiveFilters :=
    ⟨sortOn id namespaces, kind, if query = "" then none else some query, includeExternal,
      includeUnresolved⟩
  if kind = "" then some (filters none)
  else (NodeKind.ofName? kind).map (fun k => filters (some k))

/-- What is asked for. -/
def asked (window : WindowParams) (namespaces : List String) (kind query : String)
    (includeExternal includeUnresolved : Bool) : Option GraphParams :=
  (askedFilters namespaces kind query includeExternal includeUnresolved).map fun filters =>
    ⟨window, filters⟩

section asked
variable {lib : Libraries} {values : String → List String} {w : WindowParams}
  {namespaces : List String} {kind query : String} {external unresolved : Bool}

theorem filterParams_asked (hlib : lib.Lawful) (hns : values "namespace" = namespaces)
    (hkind : values "kind" = if kind ≠ "" then [kind] else [])
    (hquery : values "query" = if query ≠ "" then [query] else [])
    (hexternal : parameter lib lib.readBool true (values "include_external") = some external)
    (hunresolved : parameter lib lib.readBool false (values "include_unresolved") =
      some unresolved) :
    filterParams lib values = askedFilters namespaces kind query external unresolved := by
  unfold filterParams askedFilters
  rw [hns, hkind, hquery, hexternal, hunresolved]
  by_cases hk : kind = ""
  · by_cases hq : query = "" <;>
      simp [hk, hq, parameter_nil hlib, parameter_singleton hlib]
  · cases hname : NodeKind.ofName? kind with
    | none => simp [hk, parameter_singleton hlib, hname]
    | some k =>
      by_cases hq : query = "" <;>
        simp [hk, hq, parameter_nil hlib, parameter_singleton hlib, hname]

theorem graphParams_asked (hwindow : windowParams lib values = some w)
    (hfilters : filterParams lib values = askedFilters namespaces kind query external unresolved) :
    graphParams lib values = asked w namespaces kind query external unresolved := by
  unfold graphParams asked
  rw [hwindow, hfilters]
  cases askedFilters namespaces kind query external unresolved <;> rfl

/-- The answer to a question. -/
theorem graphRequest_asked (now maxSpan : Int)
    (hvalues : graphParams lib values = asked w namespaces kind query external unresolved) :
    (kind ≠ "" ∧ NodeKind.ofName? kind = none ∧
      graphRequest lib now maxSpan values = .error .validation) ∨
    ((kind = "" ∨ ∃ k, NodeKind.ofName? kind = some k) ∧
      ∃ filters, graphRequest lib now maxSpan values =
        match resolve now w maxSpan with
        | .error detail => .error (.window detail)
        | .ok window => .ok (window, filters)) := by
  unfold graphRequest
  rw [hvalues]
  unfold asked askedFilters
  by_cases hk : kind = ""
  · rw [if_pos hk]
    exact .inr ⟨.inl hk, _, rfl⟩
  · rw [if_neg hk]
    cases hname : NodeKind.ofName? kind with
    | none => exact .inl ⟨hk, rfl, rfl⟩
    | some k => exact .inr ⟨.inr ⟨k, rfl⟩, _, rfl⟩

end asked

section clients
variable {lib : Libraries} (hlib : lib.Lawful)
include hlib

theorem valuesOf_cli (v : Values) : valuesOf lib v.encode = v.at := by
  funext name
  rw [valuesOf, Values.encode, hlib.queryParams]
  exact v.named_pairs name

theorem windowParams_cli (q : GraphQuery) (hw : Sendable q.window) :
    windowParams lib q.values.at = some (cliWindow q.window) := by
  unfold windowParams cliWindow
  by_cases hpreset : q.window.preset = ""
  · by_cases hrange : (!q.window.from.isZero || !q.window.to.isZero) = true
    · obtain ⟨hstart, hstop⟩ := hw.dated hpreset hrange
      simp [GraphQuery.values, Window.encode, hpreset, hrange, parameter_nil hlib,
        parameter_singleton hlib, formatTime, hlib.nanoText _ hstart, hlib.nanoText _ hstop]
    · simp [GraphQuery.values, Window.encode, hpreset, hrange, parameter_nil hlib]
  · have hread : readPreset q.window.preset = some q.window.preset :=
      if_pos (hw.preset.resolve_left hpreset)
    simp [GraphQuery.values, Window.encode, hpreset, parameter_nil hlib, parameter_singleton hlib,
      hread]

/-- A query of the CLI arrives as it is. -/
theorem graphParams_cli (q : GraphQuery) (hw : Sendable q.window) :
    graphParams lib (valuesOf lib q.values.encode) =
      asked (cliWindow q.window) q.namespaces q.kind q.query (!q.excludeExternal)
        q.includeUnresolved := by
  rw [valuesOf_cli hlib]
  have hwindow : ∀ name, name ≠ "window" → name ≠ "from" → name ≠ "to" →
      Values.at (q.window.encode .empty) name = [] := by
    intro name h h' h''
    simp [Window.encode, h, h', h'']
  refine graphParams_asked (windowParams_cli hlib q hw) (filterParams_asked hlib ?_ ?_ ?_ ?_ ?_)
  · simp [GraphQuery.values, hwindow]
  · simp [GraphQuery.values, hwindow]
  · simp [GraphQuery.values, hwindow]
  · cases hflag : q.excludeExternal with
    | false => simp [GraphQuery.values, hwindow, hflag, parameter_nil hlib]
    | true => simpa [GraphQuery.values, hflag] using parameter_flag hlib (some false) true
  · cases hflag : q.includeUnresolved with
    | false => simp [GraphQuery.values, hwindow, hflag, parameter_nil hlib]
    | true => simpa [GraphQuery.values, hflag] using parameter_flag hlib (some true) false

/-! ### Parameters of the UI -/

theorem valuesOf_ui (params : Requests.SearchParams) :
    valuesOf lib params.toString = named params := by
  rw [valuesOf, Requests.SearchParams.toString, hlib.queryParams]

end clients

/-- The same window, of the CLI and of a query of the UI: none, a preset, or a range in
    milliseconds, of the years 1 to 9999. -/
inductive SameWindow : Window → Requests.GraphQuery → Prop where
  | none {u : Requests.GraphQuery} (hwindow : u.window = none) (hfrom : u.from = none)
      (hto : u.to = none) : SameWindow {} u
  | preset {u : Requests.GraphQuery} {p : String} (hp : p ∈ presets) (hwindow : u.window = some p)
      (hfrom : u.from = none) (hto : u.to = none) : SameWindow { preset := p } u
  | range {u : Requests.GraphQuery} {a b : GoTime} {t t' : Int} {start stop : String}
      (ha : a.wall = 1000000 * t) (hb : b.wall = 1000000 * t') (hlt : t < t')
      (hstart : Requests.Wrote t start) (hstop : Requests.Wrote t' stop)
      (hyear : Writable (1000 * t)) (hyear' : Writable (1000 * t')) (hwindow : u.window = none)
      (hfrom : u.from = some start) (hto : u.to = some stop) :
      SameWindow { «from» := a, «to» := b } u

/-- The same question, asked of the CLI and of the UI. -/
structure Same (q : GraphQuery) (u : Requests.GraphQuery) : Prop where
  window : SameWindow q.window u
  namespaces : u.namespace.getD [] = q.namespaces
  kind : u.kind.getD "" = q.kind
  query : u.query.getD "" = q.query
  external : u.includeExternal.getD true = !q.excludeExternal
  unresolved : u.includeUnresolved.getD false = q.includeUnresolved

/-- A range of the CLI is sent: not both of its ends are the zero time. -/
theorem cliWindow_range {a b : GoTime} (h : a.wall < b.wall) :
    cliWindow { «from» := a, «to» := b } =
      ⟨none, some (.aware (a.wall / 1000)), some (.aware (b.wall / 1000))⟩ := by
  have hsent : (!a.isZero || !b.isZero) = true := by
    rw [Bool.or_eq_true, Bool.not_eq_true', Bool.not_eq_true', GoTime.isZero, GoTime.isZero,
      decide_eq_false_iff_not, decide_eq_false_iff_not]
    omega
  unfold cliWindow
  rw [if_neg (by simp)]
  exact if_pos hsent

theorem preset_ne_empty {p : String} (hp : p ∈ presets) : p ≠ "" := by
  rintro rfl
  exact absurd hp (by decide)

theorem SameWindow.sendable {w : Window} {u : Requests.GraphQuery} (h : SameWindow w u) :
    Sendable w := by
  cases h with
  | none => exact ⟨.inl rfl, fun _ hsent => absurd hsent (by decide)⟩
  | preset hp => exact ⟨.inr hp, fun hne => absurd hne (preset_ne_empty hp)⟩
  | @range _ a b t t' _ _ ha hb _ _ _ hyear hyear' =>
    have hmicros : a.wall / 1000 = 1000 * t ∧ b.wall / 1000 = 1000 * t' := by omega
    refine ⟨.inl rfl, fun _ _ => ⟨?_, ?_⟩⟩
    · show Writable (a.wall / 1000)
      rw [hmicros.1]
      exact hyear
    · show Writable (b.wall / 1000)
      rw [hmicros.2]
      exact hyear'

theorem milliText_ne_empty (t : Int) : milliText t ≠ "" := by
  intro h
  have hchars := congrArg String.toList h
  simp [milliText] at hchars

theorem windowParams_ui {lib : Libraries} (hlib : lib.Lawful) {w : Window}
    {u : Requests.GraphQuery} (h : SameWindow w u) :
    windowParams lib (named u.params) = some (cliWindow w) := by
  unfold windowParams
  cases h with
  | none hwindow hfrom hto =>
    simp [Requests.GraphQuery.params, hwindow, hfrom, hto, parameter_nil hlib]
    rfl
  | @preset _ p hp hwindow hfrom hto =>
    have hread : readPreset p = some p := if_pos hp
    simp [Requests.GraphQuery.params, hwindow, hfrom, hto, parameter_nil hlib,
      parameter_singleton hlib, hread, preset_ne_empty hp, cliWindow]
  | @range _ a b t t' start stop ha hb hlt hstart hstop hyear hyear' hwindow hfrom hto =>
    obtain rfl := hstart.eq_milliText hyear
    obtain rfl := hstop.eq_milliText hyear'
    have hmicros : a.wall / 1000 = 1000 * t ∧ b.wall / 1000 = 1000 * t' := by omega
    rw [cliWindow_range (by omega), hmicros.1, hmicros.2]
    simp [Requests.GraphQuery.params, hwindow, hfrom, hto, parameter_nil hlib,
      parameter_singleton hlib, milliText_ne_empty, hlib.milliText _ hyear, hlib.milliText _ hyear']

/-- A query of the UI arrives as the question it stands for. -/
theorem graphParams_ui {lib : Libraries} (hlib : lib.Lawful) {q : GraphQuery}
    {u : Requests.GraphQuery} (h : Same q u) :
    graphParams lib (valuesOf lib u.params.toString) =
      asked (cliWindow q.window) q.namespaces q.kind q.query (!q.excludeExternal)
        q.includeUnresolved := by
  rw [valuesOf_ui hlib, ← h.namespaces, ← h.kind, ← h.query, ← h.external, ← h.unresolved]
  refine graphParams_asked (windowParams_ui hlib h.window) (filterParams_asked hlib ?_ ?_ ?_ ?_ ?_)
  · simp [Requests.GraphQuery.params]
  · simp [Requests.GraphQuery.params]
  · simp [Requests.GraphQuery.params]
  · simpa [Requests.GraphQuery.params] using parameter_flag hlib u.includeExternal true
  · simpa [Requests.GraphQuery.params] using parameter_flag hlib u.includeUnresolved false

/-- **Requests arrive**: a question of the CLI, in whatever characters, is read by the backend with
    the parameters it was asked with, instants cut to microseconds; and what the UI sends for the
    same question, in its own escaping and its own texts of instants, is read as the same
    request. -/
theorem graph_request_arrives (lib : Libraries) (hlib : lib.Lawful) :
    (∀ q : GraphQuery, Sendable q.window →
      graphParams lib (valuesOf lib q.values.encode) =
        asked (cliWindow q.window) q.namespaces q.kind q.query (!q.excludeExternal)
          q.includeUnresolved) ∧
    ∀ (q : GraphQuery) (u : Requests.GraphQuery), Same q u →
      graphParams lib (valuesOf lib u.params.toString) =
        graphParams lib (valuesOf lib q.values.encode) := by
  constructor
  · intro q hw
    exact graphParams_cli hlib q hw
  · intro q u hsame
    rw [graphParams_ui hlib hsame, graphParams_cli hlib q hsame.window.sendable]

/-- A question about an hour in August, with characters that mean something in URLs. -/
def awkwardQuery : GraphQuery where
  window := { «from» := ⟨1786352400000000000, none⟩, «to» := ⟨1786356000000000000, none⟩ }
  namespaces := ["b&kind=Pod", "a,b"]
  kind := "Job"
  query := "50%+ ="
  excludeExternal := true

theorem graph_request_arrives_awkward :
    graphParams reference (valuesOf reference awkwardQuery.values.encode) =
      some ⟨⟨none, some (.aware 1786352400000000), some (.aware 1786356000000000)⟩,
        ⟨["a,b", "b&kind=Pod"], some .job, some "50%+ =", false, false⟩⟩ ∧
    graphParams reference (valuesOf reference (Requests.GraphQuery.params
        { «from» := some "2026-08-10T09:00:00.000Z"
          «to» := some "2026-08-10T10:00:00.000Z"
          «namespace» := some ["b&kind=Pod", "a,b"]
          kind := some "Job"
          query := some "50%+ ="
          includeExternal := some false }).toString) =
      graphParams reference (valuesOf reference awkwardQuery.values.encode) := by
  obtain ⟨hcli, hui⟩ := graph_request_arrives reference reference_lawful
  constructor
  · rw [hcli awkwardQuery ⟨.inl rfl, fun _ _ => ⟨by decide, by decide⟩⟩]
    decide
  · refine hui awkwardQuery _ ⟨?_, rfl, rfl, rfl, rfl, rfl⟩
    exact @SameWindow.range _ _ _ 1786352400000 1786356000000 _ _ rfl rfl (by decide)
      (by unfold Requests.Wrote; decide) (by unfold Requests.Wrote; decide) (by decide)
      (by decide) rfl rfl rfl

/-! ### Windows that are answered -/

section answered
variable {lib : Libraries} (now maxSpan : Int)

theorem resolve_isOk_preset {preset : String} (h : preset ∈ presets) :
    (∃ w, resolve now ⟨some preset, none, none⟩ maxSpan = .ok w) ↔
      ∃ span, windowPresets.lookup preset = some span ∧ span ≤ maxSpan := by
  obtain ⟨span, hspan, hpos⟩ : ∃ span, windowPresets.lookup preset = some span ∧ 0 < span := by
    revert preset
    decide
  simp only [resolve, hspan, validated_eq_ok_iff, Option.some.injEq, exists_eq_left']
  have hlength : now - (now - span) = span := sub_sub_cancel now span
  rw [hlength]
  constructor
  · rintro ⟨w, -, hle, -⟩
    exact hle
  · intro hle
    exact ⟨_, sub_lt_self now hpos, hle, rfl⟩

theorem resolve_isOk_range {t u : Int} :
    (∃ w, resolve now ⟨none, some (.aware t), some (.aware u)⟩ maxSpan = .ok w) ↔
      t < u ∧ u - t ≤ maxSpan := by
  simp only [resolve_range, validated_eq_ok_iff]
  exact ⟨fun ⟨_, hlt, hle, _⟩ => ⟨hlt, hle⟩, fun ⟨hlt, hle⟩ => ⟨_, hlt, hle, rfl⟩⟩

/-- The answer to a comparison of two ranges: each has to be valid, and they may not overlap. -/
theorem diffRequest_eq_ok_iff {values : String → List String} {bf bt cf ct : Int}
    {filters : EffectiveFilters} {unchanged : Bool}
    (hvalues : diffParams lib values =
      some ⟨.aware bf, .aware bt, .aware cf, .aware ct, filters, unchanged⟩)
    (r : (ResolvedWindow × ResolvedWindow) × EffectiveFilters × Bool) :
    diffRequest lib now maxSpan values = .ok r ↔
      (bf < bt ∧ bt - bf ≤ maxSpan) ∧ (cf < ct ∧ ct - cf ≤ maxSpan) ∧ ¬ (bf < ct ∧ cf < bt) ∧
        r = ((⟨bf, bt⟩, ⟨cf, ct⟩), filters, unchanged) := by
  unfold diffRequest
  rw [hvalues]
  simp only [diffWindows, resolve_range]
  rw [← resolve_isOk_range now maxSpan, ← resolve_isOk_range now maxSpan, resolve_range,
    resolve_range]
  cases hb : validated bf bt maxSpan with
  | error detail => simp [bind, Except.bind]
  | ok b =>
    cases hc : validated cf ct maxSpan with
    | error detail => simp [bind, Except.bind]
    | ok c =>
      obtain ⟨-, -, rfl⟩ := validated_eq_ok_iff.mp hb
      obtain ⟨-, -, rfl⟩ := validated_eq_ok_iff.mp hc
      by_cases hoverlap : bf < ct ∧ cf < bt
      · simp [bind, Except.bind, validateDiffPeriods, hoverlap]
      · simp [bind, Except.bind, validateDiffPeriods, hoverlap, pure, Except.pure, eq_comm]

end answered

/-! ### Reads of the CLI -/

/-- A range that is answered within a span: it is not empty in microseconds. -/
def Fits (maxSpan : Int) (start stop : GoTime) : Prop :=
  start.wall / 1000 < stop.wall / 1000 ∧ stop.wall / 1000 - start.wall / 1000 ≤ maxSpan

/-- A window that is answered within a span. -/
def Answerable (maxSpan : Int) (w : Window) : Prop :=
  (∃ span, windowPresets.lookup w.preset = some span ∧ span ≤ maxSpan) ∨
    (w.preset = "" ∧ Fits maxSpan w.from w.to)

section cli
variable {go : GoLib} {clock : GoTime} {since start stop : String}
  {w : Window} (now maxSpan : Int)

theorem sendable_of_window (h : window go since start stop clock = .ok w)
    (hdated : Dated w.from w.to) : Sendable w := by
  refine ⟨?_, fun _ _ => hdated⟩
  rcases window_cases h with ⟨rfl, -⟩ | ⟨p, hp, rfl⟩ | ⟨a, b, rfl, -⟩
  · exact .inl rfl
  · exact .inr hp
  · exact .inl rfl

theorem resolve_cliWindow (h : window go since start stop clock = .ok w) :
    (∃ r, resolve now (cliWindow w) maxSpan = .ok r) ↔ Answerable maxSpan w := by
  rcases window_cases h with ⟨rfl, -⟩ | ⟨p, hp, rfl⟩ | ⟨a, b, rfl, hlt⟩
  · -- no window at all
    constructor
    · rintro ⟨r, hr⟩
      cases hr
    · rintro (⟨span, hspan, -⟩ | ⟨-, hlt, -⟩)
      · cases hspan
      · exact absurd hlt (lt_irrefl _)
  · have hne := preset_ne_empty hp
    have hwindow : cliWindow { preset := p } = ⟨some p, none, none⟩ := if_pos hne
    rw [hwindow, resolve_isOk_preset now maxSpan hp]
    exact ⟨.inl, fun h => h.resolve_right (fun h => hne h.1)⟩
  · rw [cliWindow_range hlt, resolve_isOk_range]
    refine ⟨fun h => .inr ⟨rfl, h⟩, fun h => (h.resolve_left ?_).2⟩
    rintro ⟨span, hspan, -⟩
    cases hspan

/-- Of the kinds of the CLI the backend knows all but one. -/
theorem ofName?_eq_none_iff {kind : String} (h : kind ∈ kinds) :
    NodeKind.ofName? kind = none ↔ kind = "External" := by
  revert kind
  decide

/-- **Which reads of the CLI pass**: for every window that the flags of a command or the arguments
    of a tool give, with instants of the years 1 to 9999, the parameters and the window pass the
    validation of the backend exactly if the window is a preset or a range within the configured
    span and the kind is not `External`, which the CLI lets through. A read without a window is
    refused: the backend has no default. -/
theorem cli_read_accepted_iff (lib : Libraries) (hlib : lib.Lawful) (go : GoLib) (clock : GoTime)
    (since start stop : String) (q : GraphQuery)
    (hwindow : window go since start stop clock = .ok q.window)
    (hdated : Dated q.window.from q.window.to)
    (hkind : q.kind = "" ∨ ∃ k, canonicalKind go k = .ok q.kind) (now maxSpan : Int) :
    ((∃ r, graphRequest lib now maxSpan (valuesOf lib q.values.encode) = .ok r) ↔
      q.kind ≠ "External" ∧ Answerable maxSpan q.window) ∧
    (q.kind = "External" →
      graphRequest lib now maxSpan (valuesOf lib q.values.encode) = .error .validation) ∧
    (q.kind ≠ "External" → q.window = {} →
      graphRequest lib now maxSpan (valuesOf lib q.values.encode) =
        .error (.window "an explicit range needs both 'from' and 'to'")) := by
  have hparams : graphParams lib (valuesOf lib q.values.encode) = _ :=
    graphParams_cli hlib q (sendable_of_window hwindow hdated)
  rcases graphRequest_asked now maxSpan hparams with
    ⟨hne, hname, hrefused⟩ | ⟨hknown, filters, hanswer⟩
  · obtain ⟨k, hk⟩ := hkind.resolve_left hne
    have hexternal := (ofName?_eq_none_iff (canonicalKind_mem hk)).mp hname
    rw [hrefused]
    refine ⟨⟨?_, fun h => absurd hexternal h.1⟩, fun _ => rfl, fun h => absurd hexternal h⟩
    rintro ⟨r, hr⟩
    cases hr
  · have hne : q.kind ≠ "External" := by
      rintro heq
      rw [heq] at hknown
      rcases hknown with h | ⟨k, hk⟩
      · exact absurd h (by decide)
      · cases hk
    rw [hanswer, ← resolve_cliWindow now maxSpan hwindow]
    refine ⟨?_, fun h => absurd h hne, fun _ hempty => ?_⟩
    · cases resolve now (cliWindow q.window) maxSpan with
      | error detail => simp
      | ok r => simp [hne]
    · rw [hempty]
      rfl

/-- Go, for RFC 3339 in UTC, and for durations of two hours and of none. -/
def sampleGo : GoLib where
  trimSpace := id
  equalFold a b := a == b
  parseDuration s := if s = "2h" then some 7200000000000 else none
  parseTime s := (readInstant? s).map (1000 * ·)
  durationString _ := ""
  quote := id

/-- A read of an hour. -/
def rangeRead : GraphQuery where
  window := { «from» := ⟨1786352400000000000, none⟩, «to» := ⟨1786356000000000000, none⟩ }
  kind := "Pod"

/-- The range passes; without it the read is refused. -/
theorem cli_read_accepted_iff_range :
    (∃ r, graphRequest reference 0 86400000000
      (valuesOf reference rangeRead.values.encode) = .ok r) ∧
    graphRequest reference 0 86400000000
        (valuesOf reference ({ rangeRead with window := {} } : GraphQuery).values.encode) =
      .error (.window "an explicit range needs both 'from' and 'to'") := by
  constructor
  · exact (cli_read_accepted_iff reference reference_lawful sampleGo ⟨0, none⟩ ""
      "2026-08-10T09:00:00Z" "2026-08-10T10:00:00Z" rangeRead (by decide +kernel)
      ⟨by decide, by decide⟩ (.inr ⟨"Pod", rfl⟩) 0 86400000000).1.mpr
      ⟨by decide, .inr ⟨rfl, by decide, by decide⟩⟩
  · exact (cli_read_accepted_iff reference reference_lawful sampleGo ⟨0, none⟩ "" "" ""
      { rangeRead with window := {} } rfl ⟨by decide, by decide⟩ (.inr ⟨"Pod", rfl⟩) 0
      86400000000).2.2 (by decide) rfl

/-! ### Comparisons of the CLI -/

theorem diffParams_cli {lib : Libraries} (hlib : lib.Lawful) (q : DiffQuery)
    (hb : Dated q.baseline.from q.baseline.to) (hc : Dated q.current.from q.current.to) :
    diffParams lib (valuesOf lib q.values.encode) =
      some ⟨.aware (q.baseline.from.wall / 1000), .aware (q.baseline.to.wall / 1000),
        .aware (q.current.from.wall / 1000), .aware (q.current.to.wall / 1000),
        ⟨sortOn id q.namespaces, none, none, true, false⟩, false⟩ := by
  rw [valuesOf_cli hlib]
  have hfilters : filterParams lib q.values.at = askedFilters q.namespaces "" "" true false := by
    refine filterParams_asked hlib ?_ ?_ ?_ ?_ ?_ <;>
      simp [DiffQuery.values, parameter_nil hlib]
  unfold diffParams
  rw [hfilters]
  simp [askedFilters, DiffQuery.values, required_singleton hlib, parameter_nil hlib, formatTime,
    hlib.nanoText _ hb.start, hlib.nanoText _ hb.stop, hlib.nanoText _ hc.start,
    hlib.nanoText _ hc.stop]

/-- **Which comparisons of the CLI pass**, of instants of the years 1 to 9999: those whose periods
    are not empty in microseconds and are within the configured span. However the flags were given,
    the backend never finds the two to overlap, and their lengths are the same up to one
    microsecond. -/
theorem cli_diff_accepted_iff (lib : Libraries) (hlib : lib.Lawful) (go : GoLib) (clock : GoTime)
    (start stop length : String) (q : DiffQuery)
    (hperiods : diffPeriods go start stop length clock = .ok (q.baseline, q.current))
    (hb : Dated q.baseline.from q.baseline.to) (hc : Dated q.current.from q.current.to)
    (now maxSpan : Int) :
    ((∃ r, diffRequest lib now maxSpan (valuesOf lib q.values.encode) = .ok r) ↔
      Fits maxSpan q.baseline.from q.baseline.to ∧ Fits maxSpan q.current.from q.current.to) ∧
    ∀ r, diffRequest lib now maxSpan (valuesOf lib q.values.encode) = .ok r →
      r.1.1.end ≤ r.1.2.start ∧
        |(r.1.1.end - r.1.1.start) - (r.1.2.end - r.1.2.start)| ≤ 1 := by
  obtain ⟨l, -, hbl, hcl, hle⟩ := diffPeriods_spec hperiods
  have hanswer := diffRequest_eq_ok_iff now maxSpan (diffParams_cli hlib q hb hc)
  -- cutting to microseconds keeps the order of instants
  have hapart : q.baseline.to.wall / 1000 ≤ q.current.from.wall / 1000 :=
    Int.ediv_le_ediv (by decide) hle
  constructor
  · constructor
    · rintro ⟨r, hr⟩
      obtain ⟨hbfits, hcfits, -⟩ := (hanswer r).mp hr
      exact ⟨hbfits, hcfits⟩
    · rintro ⟨hbfits, hcfits⟩
      exact ⟨_, (hanswer _).mpr ⟨hbfits, hcfits, fun h => absurd h.2 (not_lt.mpr hapart), rfl⟩⟩
  · intro r hr
    obtain ⟨-, -, -, rfl⟩ := (hanswer r).mp hr
    refine ⟨hapart, ?_⟩
    show |q.baseline.to.wall / 1000 - q.baseline.from.wall / 1000 -
      (q.current.to.wall / 1000 - q.current.from.wall / 1000)| ≤ 1
    have hbl' : q.baseline.to.wall = q.baseline.from.wall + l := hbl
    have hcl' : q.current.to.wall = q.current.from.wall + l := hcl
    rw [abs_le]
    omega

/-- Two hours, compared by halves. -/
def halves : DiffQuery where
  baseline := ⟨⟨1786348800000000000, none⟩, ⟨1786352400000000000, none⟩⟩
  current := ⟨⟨1786352400000000000, none⟩, ⟨1786356000000000000, none⟩⟩

/-- From two hours ago to an instant. -/
theorem cli_diff_accepted_iff_halves :
    ∃ r, diffRequest reference 0 86400000000 (valuesOf reference halves.values.encode) = .ok r :=
  (cli_diff_accepted_iff reference reference_lawful sampleGo ⟨1786356000000000000, some 0⟩ "2h"
    "2026-08-10T10:00:00Z" "" halves (by decide +kernel) ⟨by decide, by decide⟩
    ⟨by decide, by decide⟩ 0 86400000000).1.mpr ⟨⟨by decide, by decide⟩, ⟨by decide, by decide⟩⟩

end cli

end TopologyVisualizer.ReadRequests
