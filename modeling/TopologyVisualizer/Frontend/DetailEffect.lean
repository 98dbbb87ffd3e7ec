import TopologyVisualizer.Framework.LTS
import TopologyVisualizer.Framework.Dict
import TopologyVisualizer.Backend.NodeDetail

/-! # The Detail of the Selected Node

    The effect of `frontend/src/App.tsx` that fetches a node's detail, and
    what `DetailsPanel.tsx` is rendered with.

    The effect belongs to a selection and a range. It runs some time after
    they are rendered, and React does not render again before. Before it
    runs again, its controller aborts. The fetch then fails, so only the
    newest request can bring a detail. But every handler runs, whatever has
    happened since: a request that was aborted takes the detail away and the
    loading flag with it, and until a new one settles the old detail stays.

    `panel_faithful_iff` says which steps of a run these are: every other
    one leaves a panel that shows the detail of its own node and range.
-/

namespace TopologyVisualizer.Frontend.DetailEffect

open Backend LTS

/-! ### State -/

/-- What a detail is asked for: a node and a range. -/
structure Subject where
  nodeId : String
  rangeKey : String
  deriving DecidableEq

/-- A request that has not settled, and whether its controller has aborted. -/
structure Request where
  subject : Subject
  aborted : Bool := false

/-- The state of `App` that the effect reads and sets, with the requests that have not settled. A
    detail is held together with what it was asked for. -/
structure State where
  /-- The nodes of `graph`. -/
  nodes : Option (List GraphNode) := none
  selectedId : Option String := none
  rangeKey : String
  /-- The selection and the range that the effect has run for. -/
  ran : Option (Option String × String) := none
  detail : Option (Subject × NodeDetail) := none
  detailLoading : Bool := false
  /-- The request whose controller the cleanup of the effect aborts. -/
  controller : Option Nat := none
  /-- The number of the newest request. -/
  started : Nat := 0
  requests : Dict Nat Request := .empty

/-- The effect has run for what was rendered last. -/
def State.Ran (s : State) : Prop := s.ran = some (s.selectedId, s.rangeKey)

instance (s : State) : Decidable s.Ran := inferInstanceAs (Decidable (_ = _))

/-- `selectedNode`. -/
def State.selectedNode (s : State) : Option GraphNode :=
  s.nodes.bind (fun nodes => nodes.find? (fun n => some n.id = s.selectedId))

/-- What `DetailsPanel` shows. -/
structure Panel where
  node : GraphNode
  detail : Option (Subject × NodeDetail)
  loading : Bool

/-- `DetailsPanel`: nothing, unless there is a node. -/
def State.panel (s : State) : Option Panel :=
  s.selectedNode.map (fun node => ⟨node, s.detail, s.detailLoading⟩)

/-! ### Transitions -/

def State.render (s : State) (nodes : Option (List GraphNode)) (selectedId : Option String)
    (rangeKey : String) : State :=
  { s with nodes := nodes, selectedId := selectedId, rangeKey := rangeKey }

/-- `controller.abort()`, of the effect that ran last. -/
def State.cleanup (s : State) : State :=
  match s.controller with
  | none => s
  | some n =>
    match s.requests.get? n with
    | none => s
    | some request => { s with requests := s.requests.set n { request with aborted := true } }

/-- The effect, after the cleanup of the one before. -/
def State.effect (s : State) : State :=
  let s := { s.cleanup with ran := some (s.selectedId, s.rangeKey), controller := none }
  -- an id that is empty counts as none
  match s.selectedId.filter (fun id => id ≠ "") with
  | none => { s with detail := none }
  | some nodeId =>
    { s with
      detailLoading := true
      controller := some (s.started + 1)
      started := s.started + 1
      requests := s.requests.set (s.started + 1) { subject := ⟨nodeId, s.rangeKey⟩ } }

/-- `.then(setDetail)` and `.finally(...)`. -/
def State.answer (s : State) (n : Nat) (request : Request) (detail : NodeDetail) : State :=
  { s with
    requests := s.requests.erase n
    detail := some (request.subject, detail)
    detailLoading := false }

/-- `.catch(...)` and `.finally(...)`. -/
def State.fail (s : State) (n : Nat) : State :=
  { s with requests := s.requests.erase n, detail := none, detailLoading := false }

/-- Labels. -/
inductive Label where
  /-- A poll, a selection or a change of the range. -/
  | render (nodes : Option (List GraphNode)) (selectedId : Option String) (rangeKey : String)
  | effect
  | answer (n : Nat) (detail : NodeDetail)
  /-- A request fails, perhaps because its controller aborted. -/
  | fail (n : Nat)

/-- The details as a labelled transition system. -/
def system : System State Label where
  init := fun s => ∃ rangeKey, s = { rangeKey := rangeKey }
  step := fun s l s' =>
    match l with
    | .render nodes selectedId rangeKey => s.Ran ∧ s' = s.render nodes selectedId rangeKey
    | .effect => ¬ s.Ran ∧ s' = s.effect
    | .answer n detail =>
        ∃ request, s.requests.get? n = some request ∧ request.aborted = false ∧
          s' = s.answer n request detail
    | .fail n => (∃ request, s.requests.get? n = some request) ∧ s' = s.fail n

/-! ### Faithful panels -/

/-- The newest request has not settled. -/
def State.Waiting (s : State) : Prop := (s.requests.get? s.started).isSome = true

/-- A panel shows the detail of its node and of the range, or none, and the flag is set while the
    newest request has not settled. -/
structure Faithful (s : State) : Prop where
  detail : ∀ panel, s.panel = some panel → ∀ held, panel.detail = some held →
    held.1 = ⟨panel.node.id, s.rangeKey⟩
  loading : s.detailLoading = true ↔ s.Waiting

/-- The steps that are in order: nothing is rendered with the detail of another node or range, no
    detail lands between the render of a node and its effect, and no request fails before one that
    is newer. -/
def InOrder (s : State) : Label → Prop
  | .render nodes selectedId rangeKey =>
      ∀ node, (s.render nodes selectedId rangeKey).selectedNode = some node →
        ∀ held, s.detail = some held → held.1 = ⟨node.id, rangeKey⟩
  | .effect => True
  | .answer _ _ => s.Ran ∨ s.selectedNode = none
  | .fail n => n = s.started ∨ ¬ s.Waiting

/-- The invariant: a request that has not aborted is the newest, and the one of the effect that ran
    last. -/
structure Consistent (s : State) : Prop where
  newest : ∀ n, s.controller = some n → n = s.started
  live : ∀ n request, s.requests.get? n = some request → request.aborted = false →
    s.controller = some n ∧ s.ran = some (some request.subject.nodeId, request.subject.rangeKey)

section steps
variable {s : State}

theorem consistent_init (rangeKey : String) : Consistent { rangeKey := rangeKey } where
  newest := fun _ h => by cases h
  live := fun _ _ h => by cases h

theorem faithful_init (rangeKey : String) : Faithful { rangeKey := rangeKey } where
  detail := fun _ h => by cases h
  loading := iff_of_false Bool.false_ne_true Bool.false_ne_true

theorem detail_iff : (∀ panel, s.panel = some panel → ∀ held, panel.detail = some held →
      held.1 = ⟨panel.node.id, s.rangeKey⟩) ↔
    ∀ node, s.selectedNode = some node → ∀ held, s.detail = some held →
      held.1 = ⟨node.id, s.rangeKey⟩ := by
  unfold State.panel
  constructor
  · intro h node hnode
    exact h ⟨node, s.detail, s.detailLoading⟩ (by rw [hnode]; rfl)
  · intro h panel hpanel
    obtain ⟨node, hnode, rfl⟩ := Option.map_eq_some_iff.mp hpanel
    exact h node hnode

theorem selectedNode_id {node : GraphNode} (h : s.selectedNode = some node) :
    s.selectedId = some node.id := by
  obtain ⟨nodes, -, hfind⟩ := Option.bind_eq_some_iff.mp h
  have hid := List.find?_some hfind
  exact (of_decide_eq_true hid).symm

/-- Cleaning up sets a flag and changes nothing else; no request is left to bring a detail. -/
theorem Consistent.cleanup (h : Consistent s) : ∃ requests : Dict Nat Request,
    s.cleanup = { s with requests := requests } ∧
    (∀ n, (requests.get? n).isSome = (s.requests.get? n).isSome) ∧
    ∀ n request, requests.get? n = some request → request.aborted = true := by
  -- a request other than that of the controller has aborted before
  have hother : ∀ n request, s.requests.get? n = some request → s.controller ≠ some n →
      request.aborted = true := by
    intro n request hrequest hne
    by_contra hnot
    exact hne (h.live n request hrequest (Bool.eq_false_of_not_eq_true hnot)).1
  unfold State.cleanup
  split
  · next hnone =>
    refine ⟨s.requests, rfl, fun _ => rfl, ?_⟩
    intro n request hrequest
    refine hother n request hrequest ?_
    rw [hnone]
    exact (Option.some_ne_none n).symm
  · next m hm =>
    split
    · next hover =>
      refine ⟨s.requests, rfl, fun _ => rfl, ?_⟩
      intro n request hrequest
      refine hother n request hrequest ?_
      intro hn
      rw [← Option.some.inj (hm.symm.trans hn), hover] at hrequest
      cases hrequest
    · next last hlast =>
      refine ⟨_, rfl, ?_, ?_⟩
      · intro n
        rw [Dict.get?_set]
        split
        · next hn =>
          rw [hn, hlast]
          rfl
        · rfl
      · intro n request hrequest
        rcases Dict.get?_set_eq_some.mp hrequest with ⟨-, rfl⟩ | ⟨hn, hsame⟩
        · rfl
        · refine hother n request hsame ?_
          intro hcontroller
          exact hn (Option.some.inj (hm.symm.trans hcontroller)).symm

/-- **The effect**: the detail goes if nothing is selected; otherwise a request is made and the
    flag is set. -/
theorem Consistent.effect (h : Consistent s) : Consistent s.effect ∧
    (s.effect.detail = none ∨ s.effect.detail = s.detail) ∧
    s.effect.selectedNode = s.selectedNode ∧ s.effect.rangeKey = s.rangeKey ∧
    ((s.effect.detailLoading = s.detailLoading ∧ (s.effect.Waiting ↔ s.Waiting)) ∨
      (s.effect.detailLoading = true ∧ s.effect.Waiting)) := by
  obtain ⟨requests, hcleanup, hsame, haborted⟩ := h.cleanup
  unfold State.effect
  rw [hcleanup]
  dsimp only
  split
  · -- nothing is selected; a request in flight stays the newest, though it has aborted
    refine ⟨⟨fun _ hn => (by cases hn), ?_⟩, .inl rfl, rfl, rfl, .inl ⟨rfl, ?_⟩⟩
    · intro n request hrequest hlive
      cases (haborted n request hrequest).symm.trans hlive
    · unfold State.Waiting
      rw [hsame]
  · next nodeId hnodeId =>
    obtain ⟨hselected, -⟩ := Option.filter_eq_some_iff.mp hnodeId
    refine ⟨⟨?_, ?_⟩, .inr rfl, rfl, rfl, .inr ⟨rfl, ?_⟩⟩
    · intro n hn
      exact (Option.some.inj hn).symm
    · refine Dict.forall_set ?_ (fun _ => ⟨rfl, by rw [hselected]⟩)
      intro n request hrequest hlive
      cases (haborted n request hrequest).symm.trans hlive
    · unfold State.Waiting
      rw [Dict.get?_set_self]
      rfl

/-- Requests that settle are gone. -/
theorem Consistent.of_erase (h : Consistent s) {s' : State} {n : Nat}
    (hrequests : s'.requests = s.requests.erase n) (hcontroller : s'.controller = s.controller)
    (hstarted : s'.started = s.started) (hran : s'.ran = s.ran) : Consistent s' := by
  constructor
  · rw [hcontroller, hstarted]
    exact h.newest
  · intro m request hrequest
    rw [hrequests] at hrequest
    rw [hcontroller, hran]
    exact h.live m request (Dict.get?_erase_eq_some.mp hrequest).2

theorem Consistent.step {s' : State} {l : Label} (h : Consistent s) (hstep : system.step s l s') :
    Consistent s' := by
  cases l with
  | render nodes selectedId rangeKey =>
    obtain ⟨-, rfl⟩ := hstep
    exact ⟨h.newest, h.live⟩
  | effect =>
    obtain ⟨-, rfl⟩ := hstep
    exact h.effect.1
  | answer n detail =>
    obtain ⟨request, -, -, rfl⟩ := hstep
    exact h.of_erase rfl rfl rfl rfl
  | fail n =>
    obtain ⟨-, rfl⟩ := hstep
    exact h.of_erase rfl rfl rfl rfl

/-! ### What a step shows -/

theorem waiting_erase {s' : State} {n : Nat} (hrequests : s'.requests = s.requests.erase n)
    (hstarted : s'.started = s.started) : s'.Waiting ↔ n ≠ s.started ∧ s.Waiting := by
  unfold State.Waiting
  rw [hrequests, hstarted, Dict.get?_erase]
  by_cases hn : s.started = n
  · rw [if_pos hn]
    exact iff_of_false Bool.false_ne_true (fun h => h.1 hn.symm)
  · rw [if_neg hn]
    exact ⟨fun h => ⟨fun heq => hn heq.symm, h⟩, fun h => h.2⟩

/-- A detail lands. -/
theorem faithful_answer_iff (h : Consistent s) {n : Nat} {request : Request} {detail : NodeDetail}
    (hrequest : s.requests.get? n = some request) (hlive : request.aborted = false) :
    Faithful (s.answer n request detail) ↔ s.Ran ∨ s.selectedNode = none := by
  obtain ⟨hcontroller, hran⟩ := h.live n request hrequest hlive
  have hdetail : (∀ node, s.selectedNode = some node →
      request.subject = ⟨node.id, s.rangeKey⟩) ↔ s.Ran ∨ s.selectedNode = none := by
    unfold State.Ran
    rw [hran]
    -- the request is of what the effect ran for, and the node is the one that is rendered
    constructor
    · intro hall
      cases hnode : s.selectedNode with
      | none => exact .inr rfl
      | some node =>
        left
        rw [hall node hnode, selectedNode_id hnode]
    · intro hor node hnode
      rcases hor with heq | hnone
      · have hpair := Option.some.inj heq
        rw [selectedNode_id hnode, Prod.mk.injEq, Option.some.injEq] at hpair
        rw [← hpair.1, ← hpair.2]
      · cases hnone.symm.trans hnode
  rw [← hdetail]
  constructor
  · intro hfaithful node hnode
    exact detail_iff.mp hfaithful.detail node hnode _ rfl
  · intro hall
    refine ⟨detail_iff.mpr ?_, ?_⟩
    · intro node hnode held hheld
      cases hheld
      exact hall node hnode
    · -- it is the newest that has settled
      have hwaiting := @waiting_erase s (s.answer n request detail) n rfl rfl
      rw [hwaiting]
      exact iff_of_false Bool.false_ne_true (fun hw => hw.1 (h.newest n hcontroller))

/-- A request fails. -/
theorem faithful_fail_iff {n : Nat} : Faithful (s.fail n) ↔ n = s.started ∨ ¬ s.Waiting := by
  have hwaiting := @waiting_erase s (s.fail n) n rfl rfl
  constructor
  · intro hfaithful
    by_contra hnot
    obtain ⟨hne, hwait⟩ := not_or.mp hnot
    cases hfaithful.loading.mpr (hwaiting.mpr ⟨hne, not_not.mp hwait⟩)
  · intro hor
    refine ⟨detail_iff.mpr (fun _ _ _ hheld => by cases hheld), ?_⟩
    rw [hwaiting]
    refine iff_of_false Bool.false_ne_true ?_
    intro hw
    rcases hor with hn | hsettled
    · exact hw.1 hn
    · exact hsettled hw.2

/-- **A step** leaves a faithful panel if it is in order. -/
theorem Faithful.step {s' : State} {l : Label} (h : Faithful s) (hs : Consistent s)
    (hstep : system.step s l s') (horder : InOrder s l) : Faithful s' := by
  cases l with
  | render nodes selectedId rangeKey =>
    obtain ⟨-, rfl⟩ := hstep
    exact ⟨detail_iff.mpr horder, h.loading⟩
  | effect =>
    obtain ⟨-, rfl⟩ := hstep
    obtain ⟨-, hdetail, hnode, hrange, hloading⟩ := hs.effect
    refine ⟨detail_iff.mpr ?_, ?_⟩
    · rw [hnode, hrange]
      rcases hdetail with hnone | hsame
      · rw [hnone]
        exact fun _ _ _ hheld => by cases hheld
      · rw [hsame]
        exact detail_iff.mp h.detail
    · rcases hloading with ⟨hsame, hwaiting⟩ | ⟨htrue, hwaiting⟩
      · rw [hsame, hwaiting]
        exact h.loading
      · exact iff_of_true htrue hwaiting
  | answer n detail =>
    obtain ⟨request, hrequest, hlive, rfl⟩ := hstep
    exact (faithful_answer_iff hs hrequest hlive).mpr horder
  | fail n =>
    obtain ⟨-, rfl⟩ := hstep
    exact faithful_fail_iff.mpr horder

/-- No other step does. -/
theorem inOrder_of_faithful {s' : State} {l : Label} (hs : Consistent s)
    (hstep : system.step s l s') (h : Faithful s') : InOrder s l := by
  cases l with
  | render nodes selectedId rangeKey =>
    obtain ⟨-, rfl⟩ := hstep
    exact detail_iff.mp h.detail
  | effect => trivial
  | answer n detail =>
    obtain ⟨request, hrequest, hlive, rfl⟩ := hstep
    exact (faithful_answer_iff hs hrequest hlive).mp h
  | fail n =>
    obtain ⟨-, rfl⟩ := hstep
    exact faithful_fail_iff.mp h

end steps

/-! ### Runs -/

/-- **The panel** describes its own node and range, and the flag the newest request, all through a
    run exactly if all steps are in order. -/
theorem panel_faithful_iff (rangeKey : String) (ls : List Label) :
    EachStep system { rangeKey := rangeKey } ls (fun _ _ s' => Faithful s') ↔
      EachStep system { rangeKey := rangeKey } ls (fun s l _ => InOrder s l) := by
  constructor
  · refine EachStep.invariant Consistent (consistent_init rangeKey) ?_
    intro s l s' hs hstep hfaithful
    exact ⟨hs.step hstep, inOrder_of_faithful hs hstep hfaithful⟩
  · refine EachStep.invariant (fun s => Consistent s ∧ Faithful s)
      ⟨consistent_init rangeKey, faithful_init rangeKey⟩ ?_
    intro s l s' hinv hstep horder
    have hfaithful := hinv.2.step hinv.1 hstep horder
    exact ⟨⟨hinv.1.step hstep, hfaithful⟩, hfaithful⟩

/-- A workload of some name. -/
def workload (name : String) : GraphNode :=
  ⟨name, .kind .deployment, some "demo", name, name, 0, 0, false⟩

/-- The detail of a workload without traffic. -/
def quiet (name : String) : NodeDetail := ⟨workload name, ⟨0, 0⟩, [], []⟩

def shop : Option (List GraphNode) := some [workload "web", workload "db"]

/-- One node is selected after another: the second one is shown with the detail of the first, or,
    if that is still asked for, nothing seems to be loading any more while the second one is. -/
theorem panel_other_node :
    (∃ s, Run system { rangeKey := "live" } [.effect, .render shop (some "web") "live", .effect,
        .answer 1 (quiet "web"), .render shop (some "db") "live", .effect] s ∧
      s.panel = some ⟨workload "db", some (⟨"web", "live"⟩, quiet "web"), true⟩ ∧ ¬ Faithful s) ∧
    (∃ s, Run system { rangeKey := "live" } [.effect, .render shop (some "web") "live", .effect,
        .render shop (some "db") "live", .effect, .fail 1] s ∧
      s.panel = some ⟨workload "db", none, false⟩ ∧ s.Waiting ∧ ¬ Faithful s) := by
  constructor
  · refine ⟨_, .cons ⟨by decide, rfl⟩ (.cons ⟨rfl, rfl⟩ (.cons ⟨by decide, rfl⟩ (.cons
      ⟨_, rfl, rfl, rfl⟩ (.cons ⟨rfl, rfl⟩ (.cons ⟨by decide, rfl⟩ (.nil _)))))), rfl, ?_⟩
    intro h
    have hsubject := h.detail _ rfl _ rfl
    revert hsubject
    decide
  · refine ⟨_, .cons ⟨by decide, rfl⟩ (.cons ⟨rfl, rfl⟩ (.cons ⟨by decide, rfl⟩ (.cons
      ⟨rfl, rfl⟩ (.cons ⟨by decide, rfl⟩ (.cons ⟨⟨_, rfl⟩, rfl⟩ (.nil _)))))), rfl, rfl, ?_⟩
    intro h
    cases h.loading.mpr rfl

end TopologyVisualizer.Frontend.DetailEffect
