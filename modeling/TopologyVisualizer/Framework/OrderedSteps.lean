import TopologyVisualizer.Framework.LTS
import Mathlib.Data.List.Nodup
import Mathlib.Data.List.Infix
import Mathlib.Logic.Function.Basic

/-! # One-Time Steps in Order

    Workers that share a record of steps, as programs that migrate one
    database do. A worker reads the record once, leaves out what it found
    there, and commits the other steps of its plan one by one. A commit and
    its entry in the record are atomic, and an entry that is already there
    makes the commit fail. A worker may fail at any point.

    * No step is committed twice (`Kept.nodup`), and a worker that finished
      finds all of its plan in the record (`Kept.finished`).
    * If the plans are initial parts of one sequence, so is the record
      (`record_initial`).
-/

namespace OrderedSteps

open LTS

universe u v

variable {Worker : Type u} {Version : Type v}

/-! ### State -/

/-- How far a worker is. -/
inductive Progress (Version : Type v) where
  | idle
  | working (todo : List Version)
  | finished
  | failed

structure State (Worker : Type u) (Version : Type v) where
  record : List Version := []
  progress : Worker → Progress Version := fun _ => .idle

inductive Label (Worker : Type u) where
  | read (w : Worker)
  | commit (w : Worker)
  | finish (w : Worker)
  | fail (w : Worker)

/-! ### What a worker can rely on -/

variable {plan : Worker → List Version} {s : State Worker Version}

/-- What a worker may rely on, of its plan. -/
def Covered (record plan : List Version) : Progress Version → Prop
  | .working todo => ∀ v ∈ plan, v ∈ record ∨ v ∈ todo
  | .finished => ∀ v ∈ plan, v ∈ record
  | _ => True

/-- A longer record covers what a shorter one does. -/
theorem Covered.mono {record record' plan : List Version} {x : Progress Version}
    (h : Covered record plan x) (hsub : ∀ v ∈ record, v ∈ record') : Covered record' plan x := by
  cases x with
  | working todo => exact fun v hv => (h v hv).imp_left (hsub v)
  | finished => exact fun v hv => hsub v (h v hv)
  | idle => trivial
  | failed => trivial

/-- Each step once, and none left out. -/
structure Kept (plan : Worker → List Version) (s : State Worker Version) : Prop where
  nodup : s.record.Nodup
  covered : ∀ w, Covered s.record (plan w) (s.progress w)

theorem Kept.finished (h : Kept plan s) {w : Worker} (hw : s.progress w = .finished) :
    ∀ v ∈ plan w, v ∈ s.record := by
  have hcovered := h.covered w
  rw [hw] at hcovered
  exact hcovered

/-- What a worker still has to do is the end of its plan, from a point the record reached. -/
def Aligned (length : Nat) (plan : List Version) : Progress Version → Prop
  | .working todo => ∃ k ≤ length, todo = plan.drop k
  | _ => True

theorem Aligned.mono {length length' : Nat} {plan : List Version} {x : Progress Version}
    (h : Aligned length plan x) (hle : length ≤ length') : Aligned length' plan x := by
  cases x with
  | working todo =>
    obtain ⟨k, hk, htodo⟩ := h
    exact ⟨k, hk.trans hle, htodo⟩
  | idle => trivial
  | finished => trivial
  | failed => trivial

structure Chained (plan : Worker → List Version) (common : List Version)
    (s : State Worker Version) : Prop where
  record : s.record <+: common
  aligned : ∀ w, Aligned s.record.length (plan w) (s.progress w)

/-- A step that is due and not recorded is the next one of the sequence. -/
theorem Chained.commit {common : List Version} (h : Chained plan common s)
    (hplan : ∀ w, plan w <+: common) {w : Worker} {v : Version} {todo : List Version}
    (hw : s.progress w = .working (v :: todo)) (hfresh : v ∉ s.record) :
    s.record ++ [v] <+: common ∧ todo = (plan w).drop (s.record.length + 1) := by
  have haligned := h.aligned w
  rw [hw] at haligned
  obtain ⟨k, hk, htodo⟩ := haligned
  obtain ⟨rest, hrest⟩ := h.record
  -- the step is the `k`-th of the sequence
  have hat : common[k]? = some v := by
    have hin : (plan w)[k]? = some v := by
      rw [← List.head?_drop, ← htodo]
      rfl
    obtain ⟨more, hmore⟩ := hplan w
    rw [← hmore, List.getElem?_append_left (List.getElem?_eq_some_iff.mp hin).1]
    exact hin
  have hlength : s.record.length = k := by
    refine le_antisymm ?_ hk
    by_contra hlt
    rw [← hrest, List.getElem?_append_left (Nat.lt_of_not_le hlt)] at hat
    exact hfresh (List.mem_of_getElem? hat)
  constructor
  · rw [← hrest, ← hlength, List.getElem?_append_right (le_refl _), Nat.sub_self] at hat
    obtain ⟨tail, htail⟩ := List.head?_eq_some_iff.mp ((List.head?_eq_getElem? (l := rest)).trans hat)
    exact ⟨tail, by rw [← hrest, htail, List.append_assoc]; rfl⟩
  · rw [hlength, ← List.tail_drop, ← htodo]
    rfl

/-- Of two initial parts of a sequence, one without the other is the rest of it. -/
theorem filter_not_mem_eq_drop [DecidableEq Version] {a b common : List Version} (ha : a <+: common)
    (hb : b <+: common) (hnodup : common.Nodup) :
    b.filter (fun v => v ∉ a) = b.drop a.length := by
  rcases List.prefix_or_prefix_of_prefix ha hb with hab | hba
  · obtain ⟨rest, rfl⟩ := hab
    have hdisjoint := List.nodup_append.mp (hnodup.sublist hb.sublist)
    rw [List.drop_left, List.filter_append, List.filter_eq_nil_iff.mpr (by simp),
      List.nil_append]
    refine List.filter_eq_self.mpr ?_
    intro v hv
    exact decide_eq_true (fun hva => hdisjoint.2.2 v hva v hv rfl)
  · rw [List.drop_eq_nil_of_le hba.length_le]
    refine List.filter_eq_nil_iff.mpr ?_
    intro v hv
    simpa using hba.subset hv

/-! ### The system -/

variable [DecidableEq Worker]

/-- What holds of every worker holds after one of them went on. -/
theorem update_progress {p : Worker → Progress Version → Prop} {w : Worker} {x : Progress Version}
    (hx : p w x) (h : ∀ w, p w (s.progress w)) (w' : Worker) :
    p w' (Function.update s.progress w x w') :=
  (Function.forall_update_iff s.progress p).mpr ⟨hx, fun w _ => h w⟩ w'

variable [DecidableEq Version]

/-- The workers with their plans. -/
def system (plan : Worker → List Version) : System (State Worker Version) (Label Worker) where
  init := fun s => s = {}
  step := fun s lbl s' =>
    match lbl with
    | .read w =>
        s.progress w = .idle ∧
        s' = { s with
          progress := Function.update s.progress w
            (.working ((plan w).filter (fun v => v ∉ s.record))) }
    | .commit w =>
        ∃ v todo, s.progress w = .working (v :: todo) ∧ v ∉ s.record ∧
          s' = { s with
            record := s.record ++ [v]
            progress := Function.update s.progress w (.working todo) }
    | .finish w =>
        s.progress w = .working [] ∧
        s' = { s with progress := Function.update s.progress w .finished }
    | .fail w => s' = { s with progress := Function.update s.progress w .failed }

/-! ### Once each -/

omit [DecidableEq Version] in
theorem Kept.update (h : Kept plan s) {w : Worker} {x : Progress Version}
    (hx : Covered s.record (plan w) x) :
    Kept plan { s with progress := Function.update s.progress w x } :=
  ⟨h.nodup, update_progress (p := fun w => Covered s.record (plan w)) hx h.covered⟩

theorem kept_of_reachable (h : Reachable (system plan) s) : Kept plan s := by
  refine System.invariant (Kept plan) ?_ ?_ s h
  · intro s hs
    rw [hs]
    exact ⟨List.nodup_nil, fun _ => trivial⟩
  · intro s l s' hinv hstep
    simp only [system] at hstep
    cases l with
    | read w =>
      obtain ⟨-, rfl⟩ := hstep
      refine hinv.update (fun v hv => ?_)
      by_cases hdone : v ∈ s.record
      · exact .inl hdone
      · exact .inr (List.mem_filter.mpr ⟨hv, decide_eq_true hdone⟩)
    | commit w =>
      obtain ⟨v, todo, hw, hfresh, rfl⟩ := hstep
      have hcovered := hinv.covered w
      rw [hw] at hcovered
      refine ⟨?_, update_progress (p := fun w => Covered (s.record ++ [v]) (plan w)) ?_
        (fun w => (hinv.covered w).mono (fun v hv => List.mem_append_left _ hv))⟩
      · exact List.nodup_append.mpr ⟨hinv.nodup, List.nodup_singleton v, by
          intro a ha b hb hab
          rw [List.mem_singleton.mp hb] at hab
          exact hfresh (hab ▸ ha)⟩
      · intro v' hv'
        rcases hcovered v' hv' with hdone | htodo
        · exact .inl (List.mem_append_left _ hdone)
        · rcases List.mem_cons.mp htodo with rfl | htodo
          · exact .inl (List.mem_append_right _ (List.mem_singleton_self _))
          · exact .inr htodo
    | finish w =>
      obtain ⟨hw, rfl⟩ := hstep
      have hcovered := hinv.covered w
      rw [hw] at hcovered
      exact hinv.update (fun v hv => (hcovered v hv).resolve_right List.not_mem_nil)
    | fail w =>
      subst hstep
      exact hinv.update trivial

/-! ### In order -/

omit [DecidableEq Version] in
theorem Chained.update {common : List Version} (h : Chained plan common s) {w : Worker}
    {x : Progress Version} (hx : Aligned s.record.length (plan w) x) :
    Chained plan common { s with progress := Function.update s.progress w x } :=
  ⟨h.record, update_progress (p := fun w => Aligned s.record.length (plan w)) hx h.aligned⟩

/-- **In order**: the record is an initial part of the sequence the plans are taken from. -/
theorem record_initial {common : List Version} (hnodup : common.Nodup)
    (hplan : ∀ w, plan w <+: common) (h : Reachable (system plan) s) : s.record <+: common := by
  suffices hchained : Chained plan common s from hchained.record
  refine System.invariant (Chained plan common) ?_ ?_ s h
  · intro s hs
    rw [hs]
    exact ⟨List.nil_prefix, fun _ => trivial⟩
  · intro s l s' hinv hstep
    simp only [system] at hstep
    cases l with
    | read w =>
      obtain ⟨-, rfl⟩ := hstep
      exact hinv.update ⟨_, le_refl _, filter_not_mem_eq_drop hinv.record (hplan w) hnodup⟩
    | commit w =>
      obtain ⟨v, todo, hw, hfresh, rfl⟩ := hstep
      obtain ⟨hinitial, htodo⟩ := hinv.commit hplan hw hfresh
      have hlength : (s.record ++ [v]).length = s.record.length + 1 := by simp
      refine ⟨hinitial, update_progress (p := fun w => Aligned _ (plan w)) ?_
        (fun w => (hinv.aligned w).mono (by rw [hlength]; exact Nat.le_succ _))⟩
      exact ⟨_, le_of_eq hlength.symm, htodo⟩
    | finish w =>
      obtain ⟨-, rfl⟩ := hstep
      exact hinv.update trivial
    | fail w =>
      subst hstep
      exact hinv.update trivial

end OrderedSteps
