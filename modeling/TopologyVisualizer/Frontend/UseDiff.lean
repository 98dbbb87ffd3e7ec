import TopologyVisualizer.Framework.LTS
import TopologyVisualizer.Backend.Compare
import TopologyVisualizer.Frontend.UseGraph

/-! # The Comparison

    `frontend/src/features/graph/useDiff.ts`. A load asks for the diff and
    for the graphs of both periods at once. Its `Promise.all` is over with
    the third answer or with the first failure, and what comes after the
    `await` runs then, in one go.

    A query is rendered first, and its effect runs some time later; React
    does not render again before. The fetches of a controller that aborted
    fail, so a load is only finished if nothing was loaded since. But
    nothing is loaded for no query, and `load` returns before it aborts
    anything: a load that is in flight when the query goes away is finished
    all the same, and its comparison is shown. This is the only way for a
    comparison to be shown that is not asked for (`comparison_current_iff`).
-/

namespace TopologyVisualizer.Frontend.UseDiff

open Backend LTS
open UseGraph (Thrown)

/-! ### Queries -/

/-- `ComparePeriods`. -/
structure ComparePeriods where
  baselineFrom : String
  baselineTo : String
  currentFrom : String
  currentTo : String
  deriving DecidableEq

/-- `DiffQuery`. -/
structure DiffQuery extends ComparePeriods where
  «namespace» : Option (List String) := none
  kind : Option String := none
  query : Option String := none
  includeExternal : Option Bool := none
  includeUnchanged : Option Bool := none
  deriving DecidableEq

/-- What a query of one period sets of a `GraphQuery`. -/
structure GraphQuery where
  «from» : String
  «to» : String
  «namespace» : Option (List String)
  kind : Option String
  query : Option String
  includeExternal : Option Bool

/-- `periodQuery`. -/
def periodQuery (query : DiffQuery) («from» «to» : String) : GraphQuery where
  «from» := «from»
  «to» := «to»
  «namespace» := query.namespace
  kind := query.kind
  query := query.query
  includeExternal := query.includeExternal

/-- `periodsProblem`; `getTime` is that of a `Date`, `none` where it is NaN. -/
def periodsProblem (getTime : String → Option Int) (periods : ComparePeriods) : Option String :=
  match getTime periods.baselineFrom, getTime periods.baselineTo, getTime periods.currentFrom,
    getTime periods.currentTo with
  | some bFrom, some bTo, some cFrom, some cTo =>
    if bFrom < cTo ∧ cFrom < bTo then
      some "The two periods overlap. The shared interval would be counted on both sides, which makes a changed edge meaningless — move them apart or shorten the period."
    else none
  | _, _, _, _ => some "Both moments need a date and a time."

/-- `Mode`. -/
inductive Mode where
  | live
  | history
  | compare
  deriving DecidableEq

/-- What `App` makes its query of. -/
structure Controls where
  mode : Mode
  periods : ComparePeriods
  selectedNamespaces : List String
  search : String
  includeExternal : Bool
  includeUnchanged : Bool

/-- `diffQuery` of `App`. -/
def diffQuery (getTime : String → Option Int) (controls : Controls) : Option DiffQuery :=
  if controls.mode = .compare ∧ periodsProblem getTime controls.periods = none then
    some {
      toComparePeriods := controls.periods
      «namespace» :=
        if controls.selectedNamespaces = [] then none else some controls.selectedNamespaces
      query := if controls.search = "" then none else some controls.search
      includeExternal := some controls.includeExternal
      includeUnchanged := some controls.includeUnchanged }
  else none

/-! ### State -/

/-- The answers of the three fetches. -/
inductive Answer where
  | diff (response : DiffResponse)
  | baseline (graph : GraphResponse)
  | current (graph : GraphResponse)

/-- A load that is not over: its query, whether its controller has aborted, and the answers. -/
structure Load where
  query : DiffQuery
  aborted : Bool := false
  diff : Option DiffResponse := none
  baseline : Option GraphResponse := none
  current : Option GraphResponse := none

/-- The fetch of this answer has not been answered. -/
def Load.awaits (load : Load) : Answer → Bool
  | .diff _ => load.diff.isNone
  | .baseline _ => load.baseline.isNone
  | .current _ => load.current.isNone

def Load.receive (load : Load) : Answer → Load
  | .diff response => { load with diff := some response }
  | .baseline graph => { load with baseline := some graph }
  | .current graph => { load with current := some graph }

/-- What `Promise.all` is fulfilled with. -/
def Load.all (load : Load) : Option (DiffResponse × GraphResponse × GraphResponse) :=
  match load.diff, load.baseline, load.current with
  | some diff, some baseline, some current => some (diff, baseline, current)
  | _, _, _ => none

/-- The state and the ref of the hook, with the loads that are not over. -/
structure State where
  /-- The query of the last render. -/
  query : Option DiffQuery
  /-- The effect has not run for it. -/
  pending : Bool := true
  mounted : Bool := true
  diff : Option DiffResponse := none
  nodes : Dict String GraphNode := .empty
  loading : Bool := false
  error : Option String := none
  /-- The load whose controller is `inFlight.current`. -/
  inFlight : Option Nat := none
  started : Nat := 0
  loads : Dict Nat Load := .empty

/-- After the first render. -/
def mount (query : Option DiffQuery) : State := { query := query }

/-! ### Transitions -/

/-- `inFlight.current?.abort()`. -/
def State.abort (s : State) : State :=
  match s.inFlight with
  | none => s
  | some n =>
    match s.loads.get? n with
    | none => s
    | some load => { s with loads := s.loads.set n { load with aborted := true } }

/-- `load`, up to the `await`. -/
def State.load (s : State) : State :=
  match s.query with
  -- before anything is aborted
  | none => { s with diff := none, nodes := .empty }
  | some query =>
    let s := s.abort
    { s with
      inFlight := some (s.started + 1)
      started := s.started + 1
      loading := true
      loads := s.loads.set (s.started + 1) { query := query } }

/-- A render; the effect runs again if the query is another one. -/
def State.render (s : State) (query : Option DiffQuery) : State :=
  { s with query := query, pending := decide (query ≠ s.query) }

/-- `load`, after the `await`, with the answers. -/
def State.succeed (s : State) (n : Nat) (load : Load) (diff : DiffResponse)
    (baseline current : GraphResponse) : State :=
  { s with
    loads := s.loads.erase n
    diff := some diff
    nodes := knownNodes baseline current
    error := none
    loading := if load.aborted then s.loading else false }

/-- The text that is shown of an error. -/
def thrownText : Thrown → String
  | .apiError _ detail _ => detail
  | .error message => message
  | .other => "the comparison could not be loaded"

/-- `load`, after the `await`, if a fetch failed. -/
def State.fail (s : State) (n : Nat) (load : Load) (thrown : Thrown) : State :=
  let s := { s with loads := s.loads.erase n }
  -- neither `catch` nor `finally` does anything then
  if load.aborted then s
  else { s with error := some (thrownText thrown), loading := false }

/-- A fetch is answered. -/
def State.receive (s : State) (n : Nat) (load : Load) (answer : Answer) : State :=
  match (load.receive answer).all with
  | none => { s with loads := s.loads.set n (load.receive answer) }
  | some (diff, baseline, current) => s.succeed n load diff baseline current

/-- What the backend may answer to a query, at whatever time. -/
structure Server where
  diff : DiffQuery → DiffResponse → Prop
  graph : GraphQuery → GraphResponse → Prop

/-- An answer to one of the fetches of a load. -/
def Server.Answers (server : Server) (query : DiffQuery) : Answer → Prop
  | .diff response => server.diff query response
  | .baseline graph =>
      server.graph (periodQuery query query.baselineFrom query.baselineTo) graph
  | .current graph => server.graph (periodQuery query query.currentFrom query.currentTo) graph

/-- Labels. -/
inductive Label where
  | render (query : Option DiffQuery)
  | effect
  | refresh
  /-- A fetch of a load is answered. -/
  | answer (n : Nat) (answer : Answer)
  /-- A fetch of a load fails, perhaps because its controller aborted. -/
  | fail (n : Nat) (thrown : Thrown)
  | unmount

/-- The hook as a labelled transition system. -/
def system (server : Server) : System State Label where
  init := fun s => ∃ query, s = mount query
  step := fun s l s' =>
    match l with
    | .render query => s.mounted = true ∧ s.pending = false ∧ s' = s.render query
    | .effect => s.mounted = true ∧ s.pending = true ∧ s' = { s with pending := false }.load
    | .refresh => s.mounted = true ∧ s' = s.load
    | .answer n answer =>
        ∃ load, s.loads.get? n = some load ∧ load.aborted = false ∧
          load.awaits answer = true ∧ server.Answers load.query answer ∧
          s' = s.receive n load answer
    | .fail n thrown => ∃ load, s.loads.get? n = some load ∧ s' = s.fail n load thrown
    | .unmount => s.mounted = true ∧ s' = { s.abort with mounted := false }

/-! ### Comparisons -/

/-- This step sets the comparison of a query. -/
def Applies (s : State) (l : Label) (query : DiffQuery) : Prop :=
  ∃ n answer load, l = .answer n answer ∧ s.loads.get? n = some load ∧
    (load.receive answer).all.isSome = true ∧ load.query = query

/-- The state shows what the backend answered to a query. -/
def Shows (server : Server) (s : State) (query : DiffQuery) : Prop :=
  ∃ diff baseline current, server.diff query diff ∧
    server.graph (periodQuery query query.baselineFrom query.baselineTo) baseline ∧
    server.graph (periodQuery query query.currentFrom query.currentTo) current ∧
    s.diff = some diff ∧ s.nodes = knownNodes baseline current

/-- Nothing is shown for no query. -/
def Blank (s : State) : Prop :=
  s.pending = false → s.query = none → s.diff = none ∧ s.nodes = .empty

/-- The step leaves nothing on screen if there is no query, and only the answers to the present
    query are set, once the effect has run for it. -/
def Current (server : Server) (s : State) (l : Label) (s' : State) : Prop :=
  Blank s' ∧ ∀ query, Applies s l query → s.pending = false →
    s.query = some query ∧ Shows server s' query

/-- A comparison is set while there is no query. -/
def Late (s : State) (l : Label) : Prop :=
  s.pending = false ∧ s.query = none ∧ ∃ query, Applies s l query

/-! ### Loads -/

/-- The answers a load has are answers to its query. -/
structure Load.Answered (server : Server) (load : Load) : Prop where
  diff : ∀ response, load.diff = some response → server.Answers load.query (.diff response)
  baseline : ∀ graph, load.baseline = some graph → server.Answers load.query (.baseline graph)
  current : ∀ graph, load.current = some graph → server.Answers load.query (.current graph)

section loads
variable {server : Server} {s s' : State} {load : Load}

theorem Load.answered_init (query : DiffQuery) : Load.Answered server { query := query } where
  diff := fun _ h => by cases h
  baseline := fun _ h => by cases h
  current := fun _ h => by cases h

theorem Load.Answered.receive (h : load.Answered server) {answer : Answer}
    (hanswer : server.Answers load.query answer) : (load.receive answer).Answered server := by
  cases answer with
  | diff response => exact ⟨fun r hr => Option.some.inj hr ▸ hanswer, h.baseline, h.current⟩
  | baseline graph => exact ⟨h.diff, fun g hg => Option.some.inj hg ▸ hanswer, h.current⟩
  | current graph => exact ⟨h.diff, h.baseline, fun g hg => Option.some.inj hg ▸ hanswer⟩

theorem Load.receive_query (load : Load) (answer : Answer) :
    (load.receive answer).query = load.query := by
  cases answer <;> rfl

theorem Load.receive_aborted (load : Load) (answer : Answer) :
    (load.receive answer).aborted = load.aborted := by
  cases answer <;> rfl

theorem Load.all_eq_some {diff : DiffResponse} {baseline current : GraphResponse}
    (h : load.all = some (diff, baseline, current)) :
    load.diff = some diff ∧ load.baseline = some baseline ∧ load.current = some current := by
  unfold Load.all at h
  split at h
  · next hd hb hc =>
    cases h
    exact ⟨hd, hb, hc⟩
  · cases h

/-- A load that has not aborted is the last one that was started. -/
structure Tracked (server : Server) (s : State) : Prop where
  answered : ∀ n load, s.loads.get? n = some load → load.Answered server
  newest : ∀ n load, s.loads.get? n = some load → load.aborted = false → s.inFlight = some n

/-- The invariant: once the effect has run, such a load is one of the present query, unless there
    is none. -/
structure Consistent (server : Server) (s : State) : Prop extends Tracked server s where
  asked : s.pending = false → ∀ n load, s.loads.get? n = some load → load.aborted = false →
    ∀ query, s.query = some query → load.query = query

theorem consistent_mount (query : Option DiffQuery) : Consistent server (mount query) where
  answered := fun _ _ h => by cases h
  newest := fun _ _ h => by cases h
  asked := fun h => by cases h

/-- Aborting sets a flag of the load in flight and changes nothing else. -/
theorem State.abort_frame (s : State) : ∃ loads : Dict Nat Load,
    s.abort = { s with loads := loads } ∧
    ∀ n after, loads.get? n = some after → ∃ before, s.loads.get? n = some before ∧
      (after = { before with aborted := true } ∨ after = before ∧ s.inFlight ≠ some n) := by
  unfold State.abort
  split
  · next hflight =>
    refine ⟨s.loads, rfl, ?_⟩
    intro n after hafter
    exact ⟨after, hafter, .inr ⟨rfl, hflight ▸ Option.some_ne_none n ∘ Eq.symm⟩⟩
  · next m hflight =>
    -- the load in flight is `m`, if it is not over
    split
    · next hover =>
      refine ⟨s.loads, rfl, ?_⟩
      intro n after hafter
      refine ⟨after, hafter, .inr ⟨rfl, ?_⟩⟩
      intro hn
      rw [← Option.some.inj (hflight.symm.trans hn), hover] at hafter
      cases hafter
    · next last hlast =>
      refine ⟨_, rfl, ?_⟩
      intro n after hafter
      rcases Dict.get?_set_eq_some.mp hafter with ⟨rfl, rfl⟩ | ⟨hn, hsame⟩
      · exact ⟨last, hlast, .inl rfl⟩
      · refine ⟨after, hsame, .inr ⟨rfl, ?_⟩⟩
        intro hflight'
        exact hn (Option.some.inj (hflight.symm.trans hflight')).symm

/-- After aborting, no load is left to land. -/
theorem Tracked.abort (h : Tracked server s) : ∃ loads : Dict Nat Load,
    s.abort = { s with loads := loads } ∧
    ∀ n load, loads.get? n = some load → load.Answered server ∧ load.aborted = true := by
  obtain ⟨loads, habort, hloads⟩ := s.abort_frame
  refine ⟨loads, habort, ?_⟩
  intro n after hafter
  obtain ⟨before, hbefore, hsame⟩ := hloads n after hafter
  have hanswered := h.answered n before hbefore
  rcases hsame with rfl | ⟨rfl, hflight⟩
  · exact ⟨⟨hanswered.diff, hanswered.baseline, hanswered.current⟩, rfl⟩
  · refine ⟨hanswered, ?_⟩
    by_contra hnot
    exact hflight (h.newest n after hbefore (Bool.eq_false_of_not_eq_true hnot))

/-- Once something is loaded, nothing else can land; nothing is loaded for no query. -/
theorem Tracked.loaded (h : Tracked server s) : Consistent server s.load := by
  unfold State.load
  split
  · next hquery =>
    -- there is no query that a load in flight could fail to answer
    refine ⟨⟨h.answered, h.newest⟩, ?_⟩
    intro _ _ _ _ _ query hq
    cases hquery.symm.trans hq
  · next query hquery =>
    obtain ⟨loads, habort, hloads⟩ := h.abort
    rw [habort]
    dsimp only
    -- a load is the new one, or it has aborted
    have hnew : ∀ n load, (loads.set (s.started + 1) { query := query }).get? n = some load →
        (n = s.started + 1 ∧ load = { query := query }) ∨
          load.Answered server ∧ load.aborted = true := by
      intro n load hload
      rcases Dict.get?_set_eq_some.mp hload with hnew | ⟨-, hold⟩
      · exact .inl hnew
      · exact .inr (hloads n load hold)
    refine ⟨⟨?_, ?_⟩, ?_⟩
    · intro n load hload
      rcases hnew n load hload with ⟨-, rfl⟩ | hold
      · exact Load.answered_init query
      · exact hold.1
    · intro n load hload hlive
      rcases hnew n load hload with ⟨hn, -⟩ | hold
      · rw [hn]
      · cases hold.2.symm.trans hlive
    · intro _ n load hload hlive query' hquery'
      rcases hnew n load hload with ⟨-, rfl⟩ | hold
      · exact Option.some.inj (hquery.symm.trans hquery')
      · cases hold.2.symm.trans hlive

theorem load_blank (s : State) : Blank s.load := by
  unfold Blank State.load
  split
  · exact fun _ _ => ⟨rfl, rfl⟩
  · next query hquery =>
    obtain ⟨loads, habort, -⟩ := s.abort_frame
    rw [habort]
    intro _ hnone
    cases hquery.symm.trans hnone

theorem Consistent.render (h : Consistent server s) (query : Option DiffQuery)
    (hidle : s.pending = false) : Consistent server (s.render query) := by
  refine ⟨⟨h.answered, h.newest⟩, ?_⟩
  intro hsame n load hload hlive query' hquery'
  have hquery : query = s.query := not_not.mp (of_decide_eq_false hsame)
  exact h.asked hidle n load hload hlive query' (hquery ▸ hquery')

/-- A load goes on with one more answer, or without a change. -/
theorem Consistent.set (h : Consistent server s) {n : Nat} {load after : Load}
    (hload : s.loads.get? n = some load) (hafter : after.Answered server)
    (hquery : after.query = load.query) (haborted : after.aborted = load.aborted) :
    Consistent server { s with loads := s.loads.set n after } := by
  have hthis : ∀ m l, (s.loads.set n after).get? m = some l →
      ∃ before, s.loads.get? m = some before ∧ l.Answered server ∧ l.query = before.query ∧
        l.aborted = before.aborted := by
    refine Dict.forall_set ?_ ⟨load, hload, hafter, hquery, haborted⟩
    intro m l hl
    exact ⟨l, hl, h.answered m l hl, rfl, rfl⟩
  refine ⟨⟨?_, ?_⟩, ?_⟩
  · intro m l hl
    obtain ⟨-, -, hanswered, -⟩ := hthis m l hl
    exact hanswered
  · intro m l hl hlive
    obtain ⟨before, hbefore, -, -, heq⟩ := hthis m l hl
    exact h.newest m before hbefore (heq ▸ hlive)
  · intro hidle m l hl hlive query hq
    obtain ⟨before, hbefore, -, heq', heq⟩ := hthis m l hl
    rw [heq']
    exact h.asked hidle m before hbefore (heq ▸ hlive) query hq

/-- Fewer loads are in flight. -/
theorem Consistent.of_loads (h : Consistent server s) (hquery : s'.query = s.query)
    (hpending : s'.pending = s.pending) (hflight : s'.inFlight = s.inFlight)
    (hloads : ∀ n load, s'.loads.get? n = some load → load.aborted = false →
      s.loads.get? n = some load)
    (hanswered : ∀ n load, s'.loads.get? n = some load → load.Answered server) :
    Consistent server s' := by
  refine ⟨⟨hanswered, ?_⟩, ?_⟩
  · intro n load hload hlive
    rw [hflight]
    exact h.newest n load (hloads n load hload hlive) hlive
  · intro hidle n load hload hlive query hq
    rw [hpending] at hidle
    rw [hquery] at hq
    exact h.asked hidle n load (hloads n load hload hlive) hlive query hq

/-- A load is over. -/
theorem Consistent.erase (h : Consistent server s) (n : Nat) :
    Consistent server { s with loads := s.loads.erase n } :=
  h.of_loads rfl rfl rfl (fun _ _ hload _ => (Dict.get?_erase_eq_some.mp hload).2)
    (fun m l hl => h.answered m l (Dict.get?_erase_eq_some.mp hl).2)

theorem Consistent.succeed (h : Consistent server s) (n : Nat) (load : Load) (diff : DiffResponse)
    (baseline current : GraphResponse) :
    Consistent server (s.succeed n load diff baseline current) :=
  (h.erase n).of_loads rfl rfl rfl (fun _ _ hload _ => hload) (h.erase n).answered

theorem Consistent.fail (h : Consistent server s) (n : Nat) (load : Load) (thrown : Thrown) :
    Consistent server (s.fail n load thrown) := by
  unfold State.fail
  cases load.aborted with
  | true => exact h.erase n
  | false =>
    exact (h.erase n).of_loads rfl rfl rfl (fun _ _ hload _ => hload) (h.erase n).answered

theorem Consistent.unmount (h : Consistent server s) :
    Consistent server { s.abort with mounted := false } := by
  obtain ⟨loads, habort, hloads⟩ := h.toTracked.abort
  rw [habort]
  refine h.of_loads rfl rfl rfl ?_ (fun n load hload => (hloads n load hload).1)
  intro n load hload hlive
  cases (hloads n load hload).2.symm.trans hlive

end loads

/-! ### Steps -/

section steps
variable {server : Server} {s s' : State} {l : Label}

/-- **An answer** sets a comparison or nothing that is shown. -/
theorem receive_cases (h : Consistent server s) {n : Nat} {load : Load} {answer : Answer}
    (hload : s.loads.get? n = some load) (hanswer : server.Answers load.query answer) :
    Consistent server (s.receive n load answer) ∧
    ((load.receive answer).all = none ∧ (s.receive n load answer).diff = s.diff ∧
        (s.receive n load answer).nodes = s.nodes ∨
      (load.receive answer).all.isSome = true ∧
        Shows server (s.receive n load answer) load.query) ∧
    (s.receive n load answer).query = s.query ∧ (s.receive n load answer).pending = s.pending := by
  have hanswered := (h.answered n load hload).receive hanswer
  unfold State.receive
  cases hall : (load.receive answer).all with
  | none =>
    refine ⟨?_, .inl ⟨rfl, rfl, rfl⟩, rfl, rfl⟩
    exact h.set hload hanswered (load.receive_query answer) (load.receive_aborted answer)
  | some all =>
    obtain ⟨diff, baseline, current⟩ := all
    obtain ⟨hd, hb, hc⟩ := Load.all_eq_some hall
    have hquery := load.receive_query answer
    refine ⟨h.succeed n load diff baseline current, .inr ⟨rfl, ?_⟩, rfl, rfl⟩
    refine ⟨diff, baseline, current, ?_, ?_, ?_, rfl, rfl⟩
    · exact hquery ▸ hanswered.diff diff hd
    · exact hquery ▸ hanswered.baseline baseline hb
    · exact hquery ▸ hanswered.current current hc

/-- Every step keeps the invariant. -/
theorem Consistent.step (h : Consistent server s) (hstep : (system server).step s l s') :
    Consistent server s' := by
  cases l with
  | render query =>
    obtain ⟨-, hidle, rfl⟩ := hstep
    exact h.render query hidle
  | effect =>
    obtain ⟨-, -, rfl⟩ := hstep
    exact Tracked.loaded ⟨h.answered, h.newest⟩
  | refresh =>
    obtain ⟨-, rfl⟩ := hstep
    exact h.toTracked.loaded
  | answer n answer =>
    obtain ⟨load, hload, -, -, hanswer, rfl⟩ := hstep
    exact (receive_cases h hload hanswer).1
  | fail n thrown =>
    obtain ⟨load, -, rfl⟩ := hstep
    exact h.fail n load thrown
  | unmount =>
    obtain ⟨-, rfl⟩ := hstep
    exact h.unmount

theorem Blank.of_frame (h : Blank s) (hquery : s'.query = s.query)
    (hpending : s'.pending = s.pending) (hdiff : s'.diff = s.diff) (hnodes : s'.nodes = s.nodes) :
    Blank s' := by
  unfold Blank
  rw [hquery, hpending, hdiff, hnodes]
  exact h

/-- **A step that is not late** puts nothing on screen for no query. -/
theorem Blank.step (h : Blank s) (hs : Consistent server s) (hlate : ¬ Late s l)
    (hstep : (system server).step s l s') : Blank s' := by
  cases l with
  | render query =>
    obtain ⟨-, hidle, rfl⟩ := hstep
    intro hsame hnone
    -- a render that leaves the effect alone has the query of the one before
    have hquery : query = s.query := not_not.mp (of_decide_eq_false hsame)
    exact h hidle (hquery ▸ hnone)
  | effect =>
    obtain ⟨-, -, rfl⟩ := hstep
    exact load_blank _
  | refresh =>
    obtain ⟨-, rfl⟩ := hstep
    exact load_blank s
  | answer n answer =>
    obtain ⟨load, hload, -, -, hanswer, rfl⟩ := hstep
    obtain ⟨-, hshown, hquery, hpending⟩ := receive_cases hs hload hanswer
    rcases hshown with ⟨-, hdiff, hnodes⟩ | ⟨hall, -⟩
    · exact h.of_frame hquery hpending hdiff hnodes
    · -- the load is finished, and this is not late
      intro hidle hnone
      rw [hpending] at hidle
      rw [hquery] at hnone
      exact absurd ⟨hidle, hnone, load.query, n, answer, load, rfl, hload, hall, rfl⟩ hlate
  | fail n thrown =>
    obtain ⟨load, -, rfl⟩ := hstep
    unfold State.fail
    cases load.aborted with
    | true => exact h.of_frame rfl rfl rfl rfl
    | false => exact h.of_frame rfl rfl rfl rfl
  | unmount =>
    obtain ⟨-, rfl⟩ := hstep
    obtain ⟨loads, habort, -⟩ := s.abort_frame
    rw [habort]
    exact h.of_frame rfl rfl rfl rfl

/-- **What a step sets** answers the query of its load, which is the present one if there is
    one. -/
theorem applies_step (h : Consistent server s) (hstep : (system server).step s l s')
    {query : DiffQuery} (happlies : Applies s l query) :
    Shows server s' query ∧
      (s.pending = false → ∀ present, s.query = some present → query = present) := by
  obtain ⟨n, answer, load, rfl, hload, hall, rfl⟩ := happlies
  obtain ⟨load', hload', hlive, -, hanswer, rfl⟩ := hstep
  obtain rfl := Option.some.inj (hload.symm.trans hload')
  constructor
  · rcases (receive_cases h hload hanswer).2.1 with ⟨hnone, -⟩ | hshows
    · rw [hnone] at hall
      cases hall
    · exact hshows.2
  · intro hidle present hpresent
    exact h.asked hidle n load hload hlive present hpresent

end steps

/-! ### Runs -/

/-- **No comparison** is shown that was not asked for, in a run from a first render, exactly if no
    load is finished while there is no query. A load of an earlier query is not finished in any
    case, once another one has been loaded. -/
theorem comparison_current_iff (server : Server) (query₀ : Option DiffQuery) (ls : List Label) :
    (EachStep (system server) (mount query₀) ls (Current server) ↔
      EachStep (system server) (mount query₀) ls (fun s l _ => ¬ Late s l)) ∧
    EachStep (system server) (mount query₀) ls (fun s l s' => ∀ query, Applies s l query →
      Shows server s' query ∧
        (s.pending = false → ∀ present, s.query = some present → query = present)) := by
  have hblank₀ : Blank (mount query₀) := fun hidle => by cases hidle
  refine ⟨⟨?_, ?_⟩, ?_⟩
  · intro h
    refine h.imp ?_
    intro s l s' _ hcurrent hlate
    obtain ⟨hidle, hnone, query, happlies⟩ := hlate
    cases hnone.symm.trans (hcurrent.2 query happlies hidle).1
  · refine EachStep.invariant (fun s => Consistent server s ∧ Blank s)
      ⟨consistent_mount query₀, hblank₀⟩ ?_
    intro s l s' hinv hstep hlate
    obtain ⟨hs, hblank⟩ := hinv
    have hblank' := hblank.step hs hlate hstep
    refine ⟨⟨hs.step hstep, hblank'⟩, hblank', ?_⟩
    intro query happlies hidle
    obtain ⟨hshows, hasked⟩ := applies_step hs hstep happlies
    refine ⟨?_, hshows⟩
    cases hquery : s.query with
    | none => exact absurd ⟨hidle, hquery, query, happlies⟩ hlate
    | some present => rw [hasked hidle present hquery]
  · have hany : EachStep (system server) (mount query₀) ls (fun _ _ _ => True) :=
      fun _ _ _ _ _ _ _ _ => trivial
    refine EachStep.invariant (Consistent server) (consistent_mount query₀) ?_ hany
    intro s l s' hs hstep _
    exact ⟨hs.step hstep, fun query happlies => applies_step hs hstep happlies⟩

/-- The times of some moments. -/
def moments : String → Option Int := fun text =>
  [("2026-08-21T10:00:00.000Z", 1787306400000), ("2026-08-21T10:05:00.000Z", 1787306700000),
    ("2026-08-21T10:10:00.000Z", 1787307000000)].lookup text

/-- Two periods are compared. -/
def comparing : Controls where
  mode := .compare
  periods :=
    { baselineFrom := "2026-08-21T10:00:00.000Z"
      baselineTo := "2026-08-21T10:05:00.000Z"
      currentFrom := "2026-08-21T10:05:00.000Z"
      currentTo := "2026-08-21T10:10:00.000Z" }
  selectedNamespaces := []
  search := ""
  includeExternal := true
  includeUnchanged := false

/-- A diff of nothing. -/
def emptyDiff : DiffResponse :=
  ⟨0, ⟨0, 0⟩, ⟨0, 0⟩, 0, {}, false, [], ⟨0, 0, 0, 0, false⟩⟩

/-- A server that may answer anything. -/
def anything : Server := ⟨fun _ _ => True, fun _ _ => True⟩

/-- Another query while a comparison is loaded. -/
def leaving (query : Option DiffQuery) : List Label :=
  [.effect, .render query, .effect,
    .answer 1 (.diff emptyDiff), .answer 1 (.baseline (UseGraph.emptyGraph 0))]

/-- Compare mode is left, and the comparison is shown all the same. -/
theorem comparison_after_leaving :
    (∃ s, Run (system anything) (mount (diffQuery moments comparing))
        (leaving (diffQuery moments { comparing with mode := .live }) ++
          [.answer 1 (.current (UseGraph.emptyGraph 0))]) s ∧
      s.pending = false ∧ s.query = none ∧ s.diff = some emptyDiff) ∧
    ¬ EachStep (system anything) (mount (diffQuery moments comparing))
      (leaving (diffQuery moments { comparing with mode := .live }) ++
        [.answer 1 (.current (UseGraph.emptyGraph 0))]) (Current anything) := by
  have hcompare : ∃ q, diffQuery moments comparing = some q := by
    unfold diffQuery
    rw [if_pos (by decide)]
    exact ⟨_, rfl⟩
  have hleft : diffQuery moments { comparing with mode := .live } = none := by
    unfold diffQuery
    rw [if_neg (by decide)]
  obtain ⟨q, hq⟩ := hcompare
  rw [hq, hleft]
  have hrun : Run (system anything) (mount (some q)) (leaving none) _ :=
    .cons ⟨rfl, rfl, rfl⟩ (.cons ⟨rfl, rfl, rfl⟩ (.cons ⟨rfl, rfl, rfl⟩ (.cons
      ⟨_, rfl, rfl, rfl, trivial, rfl⟩ (.cons ⟨_, rfl, rfl, rfl, trivial, rfl⟩ (.nil _)))))
  constructor
  · exact ⟨_, hrun.snoc ⟨_, rfl, rfl, rfl, trivial, rfl⟩, rfl, rfl, rfl⟩
  · intro h
    have hcurrent := h _ (.answer 1 (.current (UseGraph.emptyGraph 0))) [] _ _ rfl hrun
      ⟨_, rfl, rfl, rfl, trivial, rfl⟩
    cases (hcurrent.1 rfl rfl).1

end TopologyVisualizer.Frontend.UseDiff
