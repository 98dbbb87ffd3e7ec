import TopologyVisualizer.Framework.LTS
import TopologyVisualizer.Backend.Graph

/-! # The Live View

    `frontend/src/features/graph/useGraph.ts`. A call of `load` is cut at
    its `await`: what comes before is the start of a request, what comes
    after runs in one go when the request settles, with a response or by
    throwing. Polls, refreshes and changes of the query start requests at
    any time, and requests settle in any order.

    A request is known by its sequence number. The invariant `Ordered` says
    that the numbers of the responses that were shown increase, and that the
    last of them is on screen; a response is shown exactly when its request
    is the newest one, so nothing that was shown is ever older than what it
    replaces.
-/

namespace TopologyVisualizer.Frontend.UseGraph

open Backend LTS

/-! ### State -/

/-- What a request can throw. -/
inductive Thrown where
  /-- An `ApiError`. -/
  | apiError (status : Nat) (detail : String) (requestId : Option String)
  /-- Any other `Error`. -/
  | error (message : String)
  | other

/-- The text that is shown of it. -/
def Thrown.text : Thrown → String
  | .apiError _ detail requestId =>
    detail ++ match requestId with
      | some id => if id = "" then "" else " (request " ++ id ++ ")"
      | none => ""
  | .error message => message
  | .other => "the graph could not be loaded"

/-- A request that has not settled: its query, and whether its controller has aborted. -/
structure Request where
  query : String
  aborted : Bool := false

/-- The state and the refs of the hook, with the requests that have not settled and the responses
    that were set, in order. -/
structure State where
  graph : Option GraphResponse := none
  initialLoading : Bool := true
  refreshing : Bool := false
  error : Option String := none
  lastUpdated : Option Int := none
  /-- The request whose controller is `inFlight.current`. -/
  inFlight : Option Nat := none
  latestSequence : Nat := 0
  hasLoaded : Bool := false
  requests : Dict Nat Request := .empty
  applied : List (Nat × GraphResponse) := []

/-! ### Transitions -/

/-- `inFlight.current?.abort()`: nothing happens to a request that has settled. -/
def State.abort (s : State) : State :=
  match s.inFlight with
  | none => s
  | some n =>
    match s.requests.get? n with
    | none => s
    | some request => { s with requests := s.requests.set n { request with aborted := true } }

/-- `load`, up to the `await`. -/
def State.start (s : State) (query : String) : State :=
  let s := s.abort
  let sequence := s.latestSequence + 1
  { s with
    inFlight := some sequence
    latestSequence := sequence
    refreshing := true
    requests := s.requests.set sequence { query := query } }

/-- How a request settles; `now` is `new Date()`. -/
inductive Outcome where
  | response (graph : GraphResponse) (now : Int)
  | thrown (error : Thrown)

/-- The `try` and `catch` blocks after the `await`. -/
def State.continued (s : State) (sequence : Nat) (request : Request) : Outcome → State
  | .response graph now =>
    if sequence ≠ s.latestSequence then s
    else { s with
      graph := some graph
      error := none
      lastUpdated := some now
      hasLoaded := true
      applied := s.applied ++ [(sequence, graph)] }
  | .thrown error =>
    if request.aborted || sequence ≠ s.latestSequence then s
    else { s with error := some error.text }

/-- The `finally` block. -/
def State.finished (s : State) (sequence : Nat) : State :=
  if sequence = s.latestSequence then { s with refreshing := false, initialLoading := false }
  else s

/-- `load`, after the `await`. -/
def State.settle (s : State) (sequence : Nat) (request : Request) (outcome : Outcome) : State :=
  let s := { s with requests := s.requests.erase sequence }
  (s.continued sequence request outcome).finished sequence

/-- Labels. -/
inductive Label where
  /-- A poll, a refresh or a change of the query starts a request. -/
  | start (query : String)
  /-- A request settles. -/
  | settle (sequence : Nat) (outcome : Outcome)
  /-- The component goes away. -/
  | unmount

/-- The hook as a labelled transition system. -/
def system : System State Label where
  init := fun s => s = {}
  step := fun s l s' =>
    match l with
    | .start query => s' = s.start query
    | .settle sequence outcome =>
        ∃ request, s.requests.get? sequence = some request ∧
          s' = s.settle sequence request outcome
    | .unmount => s' = s.abort

/-! ### What a step does -/

/-- Aborting changes a flag of a request and nothing else. -/
theorem State.abort_frame (s : State) : ∃ requests : Dict Nat Request,
    (∀ n, requests.contains n = s.requests.contains n) ∧
      s.abort = { s with requests := requests } := by
  unfold State.abort
  split
  · exact ⟨s.requests, fun _ => rfl, rfl⟩
  · next n hn =>
    split
    · exact ⟨s.requests, fun _ => rfl, rfl⟩
    · next request hrequest =>
      refine ⟨_, ?_, rfl⟩
      intro m
      unfold Dict.contains
      rw [Dict.get?_set]
      split
      · next hm =>
        rw [hm, hrequest]
        rfl
      · rfl

/-- **A response** is set exactly when its request is the newest. -/
theorem settle_response (s : State) (n : Nat) (request : Request) (g : GraphResponse) (now : Int) :
    (n = s.latestSequence →
      (s.settle n request (.response g now)).graph = some g ∧
      (s.settle n request (.response g now)).error = none ∧
      (s.settle n request (.response g now)).applied = s.applied ++ [(n, g)]) ∧
    (n ≠ s.latestSequence →
      (s.settle n request (.response g now)).graph = s.graph ∧
      (s.settle n request (.response g now)).applied = s.applied) := by
  unfold State.settle State.continued State.finished
  constructor
  · intro hn
    simp [hn]
  · intro hn
    simp [hn]

/-- **A failure** leaves the graph alone, aborted or not. -/
theorem settle_thrown (s : State) (n : Nat) (request : Request) (e : Thrown) :
    (s.settle n request (.thrown e)).graph = s.graph ∧
      (s.settle n request (.thrown e)).applied = s.applied := by
  unfold State.settle State.continued State.finished
  by_cases hn : n = s.latestSequence
  · cases request.aborted
    · simp [hn]
    · simp [hn]
  · simp [hn]

/-- Whatever the outcome, the newest request clears the flag, and no other one touches it. -/
theorem settle_frame (s : State) (n : Nat) (request : Request) (outcome : Outcome) :
    (s.settle n request outcome).latestSequence = s.latestSequence ∧
      (s.settle n request outcome).requests = s.requests.erase n ∧
      (s.settle n request outcome).refreshing =
        (if n = s.latestSequence then false else s.refreshing) := by
  unfold State.settle State.continued State.finished
  by_cases hn : n = s.latestSequence
  · cases outcome with
    | response g now => simp [hn]
    | thrown e =>
      cases request.aborted
      · simp [hn]
      · simp [hn]
  · cases outcome with
    | response g now => simp [hn]
    | thrown e => simp [hn]

/-! ### Runs -/

def Label.isStart : Label → Bool
  | .start _ => true
  | _ => false

/-- The number of requests that were started: that of the newest one. -/
def starts (ls : List Label) : Nat := ls.countP Label.isStart

/-- The request with this number was started and has not settled. -/
def Unsettled (ls : List Label) (n : Nat) : Prop :=
  1 ≤ n ∧ n ≤ starts ls ∧ ∀ outcome, .settle n outcome ∉ ls

/-- The invariant, after the steps `ls`. -/
structure Ordered (s : State) (ls : List Label) : Prop where
  newest : s.latestSequence = starts ls
  known : ∀ n outcome, .settle n outcome ∈ ls → n ≤ starts ls
  pending : ∀ n, s.requests.contains n = true ↔ Unsettled ls n
  refreshing : s.refreshing = true ↔ Unsettled ls (starts ls)
  settled : ∀ e ∈ s.applied, e.1 ≤ starts ls ∧ ¬ Unsettled ls e.1
  increasing : s.applied.Pairwise (fun e e' => e.1 < e'.1)
  shown : s.graph = s.applied.getLast?.map Prod.snd

theorem starts_snoc (ls : List Label) (l : Label) :
    starts (ls ++ [l]) = starts ls + if l.isStart then 1 else 0 := by
  unfold starts
  rw [List.countP_append, List.countP_singleton]

/-- Nothing settles when a request starts: it is unsettled, and the others are as before. -/
theorem unsettled_start {ls : List Label} {query : String} {n : Nat} :
    Unsettled (ls ++ [.start query]) n ↔ n = starts ls + 1 ∧ (∀ outcome, .settle n outcome ∉ ls) ∨
      Unsettled ls n := by
  unfold Unsettled
  rw [starts_snoc]
  simp only [Label.isStart, if_true, List.mem_append, List.mem_singleton, reduceCtorEq, or_false]
  constructor
  · intro h
    obtain ⟨hpos, hle, hnone⟩ := h
    by_cases hn : n = starts ls + 1
    · exact .inl ⟨hn, hnone⟩
    · exact .inr ⟨hpos, by omega, hnone⟩
  · intro h
    rcases h with ⟨hn, hnone⟩ | ⟨hpos, hle, hnone⟩
    · exact ⟨by omega, by omega, hnone⟩
    · exact ⟨hpos, by omega, hnone⟩

theorem unsettled_settle {ls : List Label} {m n : Nat} {outcome : Outcome} :
    Unsettled (ls ++ [.settle m outcome]) n ↔ n ≠ m ∧ Unsettled ls n := by
  unfold Unsettled
  rw [starts_snoc]
  simp only [Label.isStart, Bool.false_eq_true, if_false, Nat.add_zero, List.mem_append,
    List.mem_singleton, Label.settle.injEq, not_or]
  constructor
  · intro h
    exact ⟨fun hn => (h.2.2 outcome).2 ⟨hn, rfl⟩, h.1, h.2.1, fun o => (h.2.2 o).1⟩
  · intro h
    exact ⟨h.2.1, h.2.2.1, fun o => ⟨h.2.2.2 o, fun heq => h.1 heq.1⟩⟩

theorem unsettled_unmount {ls : List Label} {n : Nat} :
    Unsettled (ls ++ [.unmount]) n ↔ Unsettled ls n := by
  unfold Unsettled
  rw [starts_snoc]
  simp [Label.isStart]

section steps
variable {s : State} {ls : List Label}

theorem ordered_init : Ordered {} [] where
  newest := rfl
  known := fun _ _ h => absurd h List.not_mem_nil
  pending := fun n => iff_of_false Bool.false_ne_true (fun h => by
    have hle : n ≤ 0 := h.2.1
    exact absurd h.1 (by omega))
  refreshing := iff_of_false Bool.false_ne_true (fun h => absurd h.1 (by decide))
  settled := fun _ h => absurd h List.not_mem_nil
  increasing := .nil
  shown := rfl

theorem Ordered.start (h : Ordered s ls) (query : String) :
    Ordered (s.start query) (ls ++ [.start query]) := by
  obtain ⟨requests, hrequests, habort⟩ := s.abort_frame
  have hstarts : starts (ls ++ [.start query]) = starts ls + 1 := starts_snoc ls _
  have hfresh : ∀ outcome, .settle (starts ls + 1) outcome ∉ ls := by
    intro outcome hmem
    have hle := h.known _ outcome hmem
    omega
  unfold State.start
  rw [habort]
  constructor
  · show s.latestSequence + 1 = _
    rw [hstarts, h.newest]
  · intro n outcome hmem
    rw [hstarts]
    rcases List.mem_append.mp hmem with hmem | hmem
    · exact Nat.le_succ_of_le (h.known n outcome hmem)
    · cases List.mem_singleton.mp hmem
  · intro n
    show (requests.set (s.latestSequence + 1) _).contains n = true ↔ _
    rw [Dict.contains, Dict.get?_set, h.newest, unsettled_start]
    by_cases hn : n = starts ls + 1
    · rw [if_pos hn, hn]
      exact iff_of_true rfl (.inl ⟨rfl, hfresh⟩)
    · rw [if_neg hn, ← h.pending n, ← hrequests n]
      exact ⟨.inr, fun hor => hor.resolve_left (fun hleft => hn hleft.1)⟩
  · rw [hstarts]
    exact iff_of_true rfl (unsettled_start.mpr (.inl ⟨rfl, hfresh⟩))
  · intro e he
    obtain ⟨hle, hsettled⟩ := h.settled e he
    refine ⟨by omega, ?_⟩
    intro hunsettled
    rcases unsettled_start.mp hunsettled with ⟨hn, -⟩ | hunsettled
    · omega
    · exact hsettled hunsettled
  · exact h.increasing
  · exact h.shown

/-- What every outcome has in common. -/
theorem Ordered.settle (h : Ordered s ls) {n : Nat} {request : Request}
    (hrequest : s.requests.get? n = some request) (outcome : Outcome) :
    Ordered (s.settle n request outcome) (ls ++ [.settle n outcome]) := by
  have hpending : Unsettled ls n := by
    rw [← h.pending n, Dict.contains, hrequest]
    rfl
  obtain ⟨hlatest, hrequests, hrefreshing⟩ := settle_frame s n request outcome
  have hstarts : starts (ls ++ [.settle n outcome]) = starts ls := starts_snoc ls _
  -- either the response of the newest request was set, or nothing was
  have happlied : (n = starts ls ∧ ∃ g, (s.settle n request outcome).graph = some g ∧
      (s.settle n request outcome).applied = s.applied ++ [(n, g)]) ∨
      ((s.settle n request outcome).graph = s.graph ∧
        (s.settle n request outcome).applied = s.applied) := by
    rw [← h.newest]
    cases outcome with
    | response g now =>
      obtain ⟨hset, hstale⟩ := settle_response s n request g now
      by_cases hn : n = s.latestSequence
      · exact .inl ⟨hn, g, (hset hn).1, (hset hn).2.2⟩
      · exact .inr (hstale hn)
    | thrown e => exact .inr (settle_thrown s n request e)
  constructor
  · rw [hlatest, hstarts, h.newest]
  · intro m o hmem
    rw [hstarts]
    rcases List.mem_append.mp hmem with hmem | hmem
    · exact h.known m o hmem
    · cases List.mem_singleton.mp hmem
      exact hpending.2.1
  · intro m
    rw [hrequests, Dict.contains, Dict.get?_erase, unsettled_settle]
    by_cases hm : m = n
    · simp [hm]
    · rw [if_neg hm, ← h.pending m]
      exact (and_iff_right hm).symm
  · rw [hrefreshing, hstarts, unsettled_settle, h.newest]
    by_cases hn : n = starts ls
    · simp [hn]
    · rw [if_neg hn, h.refreshing]
      exact (and_iff_right (fun heq => hn heq.symm)).symm
  · intro e he
    rw [hstarts, unsettled_settle]
    rcases happlied with ⟨-, g, -, heq⟩ | ⟨-, heq⟩
    · rw [heq] at he
      rcases List.mem_append.mp he with he | he
      · exact ⟨(h.settled e he).1, fun hu => (h.settled e he).2 hu.2⟩
      · rw [List.mem_singleton.mp he]
        exact ⟨hpending.2.1, fun hu => hu.1 rfl⟩
    · rw [heq] at he
      exact ⟨(h.settled e he).1, fun hu => (h.settled e he).2 hu.2⟩
  · rcases happlied with ⟨hn, g, -, heq⟩ | ⟨-, heq⟩
    · rw [heq, List.pairwise_append]
      refine ⟨h.increasing, List.pairwise_singleton _ _, ?_⟩
      intro e he e' he'
      rw [List.mem_singleton.mp he']
      -- the newest has not settled before, so it is not one of them
      obtain ⟨hle, hsettled⟩ := h.settled e he
      rcases Nat.lt_or_eq_of_le hle with hlt | heq'
      · exact hn ▸ hlt
      · exact absurd (heq' ▸ hn ▸ hpending) hsettled
    · rw [heq]
      exact h.increasing
  · rcases happlied with ⟨-, g, hgraph, heq⟩ | ⟨hgraph, heq⟩
    · rw [hgraph, heq, List.getLast?_append]
      rfl
    · rw [hgraph, heq]
      exact h.shown

theorem Ordered.unmount (h : Ordered s ls) : Ordered s.abort (ls ++ [.unmount]) := by
  obtain ⟨requests, hrequests, habort⟩ := s.abort_frame
  have hstarts : starts (ls ++ [.unmount]) = starts ls := starts_snoc ls _
  rw [habort]
  constructor
  · rw [hstarts]
    exact h.newest
  · intro n outcome hmem
    rw [hstarts]
    rcases List.mem_append.mp hmem with hmem | hmem
    · exact h.known n outcome hmem
    · cases List.mem_singleton.mp hmem
  · intro n
    rw [unsettled_unmount, ← h.pending n, ← hrequests n]
  · rw [hstarts, unsettled_unmount]
    exact h.refreshing
  · intro e he
    rw [hstarts, unsettled_unmount]
    exact h.settled e he
  · exact h.increasing
  · exact h.shown

end steps

/-- The invariant holds after every run. -/
theorem ordered_run {ls : List Label} {s : State} (hrun : Run system {} ls s) : Ordered s ls := by
  refine System.trace_invariant Ordered ?_ ?_ rfl hrun
  · intro s hs
    rw [hs]
    exact ordered_init
  · intro s ls l s' h hstep
    cases l with
    | start query =>
      obtain rfl := hstep
      exact h.start query
    | settle n outcome =>
      obtain ⟨request, hrequest, rfl⟩ := hstep
      exact h.settle hrequest outcome
    | unmount =>
      obtain rfl := hstep
      exact h.unmount

/-- **The live view** never goes backwards: after every run, what is shown is the response with
    the highest number of those that were set, and the view is refreshing exactly while the newest
    request has not settled; in every step from there, a response is set exactly when no later
    request was started, with the error cleared, and nothing else changes the graph. -/
theorem live_view_forward {ls : List Label} {s : State} (hrun : Run system {} ls s) :
    (s.graph = none ∧ s.applied = [] ∨ ∃ n g, (n, g) ∈ s.applied ∧ s.graph = some g ∧
      ∀ e ∈ s.applied, e ≠ (n, g) → e.1 < n) ∧
    (s.refreshing = true ↔ Unsettled ls (starts ls)) ∧
    ∀ l s', system.step s l s' →
      (∀ n g now, l = .settle n (.response g now) →
        (n = starts ls → s'.applied = s.applied ++ [(n, g)] ∧ s'.graph = some g ∧
          s'.error = none) ∧
        (n ≠ starts ls → s'.applied = s.applied ∧ s'.graph = s.graph)) ∧
      ((∀ n g now, l ≠ .settle n (.response g now)) →
        s'.applied = s.applied ∧ s'.graph = s.graph) := by
  have h := ordered_run hrun
  refine ⟨?_, h.refreshing, ?_⟩
  · cases hlast : s.applied.getLast? with
    | none =>
      refine .inl ⟨?_, List.getLast?_eq_none_iff.mp hlast⟩
      rw [h.shown, hlast]
      rfl
    | some e =>
      obtain ⟨before, heq⟩ := List.getLast?_eq_some_iff.mp hlast
      refine .inr ⟨e.1, e.2, List.mem_of_getLast? hlast, ?_, ?_⟩
      · rw [h.shown, hlast]
        rfl
      · intro a ha hne
        have hincreasing := h.increasing
        rw [heq] at ha hincreasing
        rcases List.mem_append.mp ha with ha | ha
        · exact (List.pairwise_append.mp hincreasing).2.2 a ha e List.mem_cons_self
        · exact absurd (List.mem_singleton.mp ha) hne
  · intro l s' hstep
    cases l with
    | start query =>
      obtain rfl := hstep
      obtain ⟨requests, -, habort⟩ := s.abort_frame
      refine ⟨(fun _ _ _ heq => by cases heq), fun _ => ?_⟩
      unfold State.start
      rw [habort]
      exact ⟨rfl, rfl⟩
    | settle n outcome =>
      obtain ⟨request, -, rfl⟩ := hstep
      cases outcome with
      | response g now =>
        obtain ⟨hset, hstale⟩ := settle_response s n request g now
        rw [h.newest] at hset hstale
        refine ⟨?_, fun hnot => absurd rfl (hnot n g now)⟩
        intro m g' now' heq
        cases heq
        exact ⟨fun hn => ⟨(hset hn).2.2, (hset hn).1, (hset hn).2.1⟩,
          fun hn => ⟨(hstale hn).2, (hstale hn).1⟩⟩
      | thrown e =>
        refine ⟨(fun _ _ _ heq => by cases heq), fun _ => ?_⟩
        exact ⟨(settle_thrown s n request e).2, (settle_thrown s n request e).1⟩
    | unmount =>
      obtain rfl := hstep
      obtain ⟨requests, -, habort⟩ := s.abort_frame
      refine ⟨(fun _ _ _ heq => by cases heq), fun _ => ?_⟩
      rw [habort]
      exact ⟨rfl, rfl⟩

/-- An empty graph of some time. -/
def emptyGraph (generatedAt : Datetime) : GraphResponse :=
  ⟨generatedAt, ⟨0, 0⟩, {}, [], [], ⟨0, 0, 0, false, none⟩⟩

/-- A slow request that a faster one overtakes. -/
def overtaken : List Label :=
  [.start "", .start "", .settle 2 (.response (emptyGraph 2) 7),
    .settle 1 (.response (emptyGraph 1) 9)]

/-- The slow response comes last and is not shown. -/
theorem live_view_overtaken :
    ∃ s, Run system {} overtaken s ∧ s.graph = some (emptyGraph 2) ∧ s.refreshing = false ∧
      (s.refreshing = true ↔ Unsettled overtaken (starts overtaken)) := by
  have hslow : Run system {} overtaken _ :=
    .cons rfl (.cons rfl (.cons ⟨{ query := "" }, rfl, rfl⟩
      (.cons ⟨{ query := "", aborted := true }, rfl, rfl⟩ (.nil _))))
  exact ⟨_, hslow, rfl, rfl, (live_view_forward hslow).2.1⟩

end TopologyVisualizer.Frontend.UseGraph
