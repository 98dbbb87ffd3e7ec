import Mathlib.Data.List.Basic
import Mathlib.Data.List.Induction

/-! # Labelled Transition Systems

    Finite runs of a labelled transition system, and the proof rules used
    by every system of this development:

    * **Invariance**: what holds initially and is kept by every step holds
      of every reachable state, also when it speaks about the trace.
    * **Histories**: what holds of every element of a list, given the ones
      before it, is shown one element at a time.
    * **Restriction**: the runs whose steps all meet a condition are the
      runs of a smaller system; a run that leaves it for good shows it in
      the state it ends in.
    * **Steps**: what holds of every step of a run is shown one step at a
      time, from what holds of the steps before.
    * **Projection**: a system whose steps are, through a state map, steps
      of another system (or leave its state alone) inherits the invariants
      of that system.
-/

namespace LTS

universe u v w x

/-- A labelled transition system. -/
structure System (State : Type u) (Label : Type v) where
  /-- The initial states. -/
  init : State → Prop
  /-- `step s l s'`: the system may go from `s` to `s'` by `l`. -/
  step : State → Label → State → Prop

variable {State : Type u} {Label : Type v}

/-- `Run sys s ls t`: the labels `ls`, in order, lead from `s` to `t`. -/
inductive Run (sys : System State Label) : State → List Label → State → Prop where
  | nil (s : State) : Run sys s [] s
  | snoc {s t t' : State} {ls : List Label} {l : Label} :
      Run sys s ls t → sys.step t l t' → Run sys s (ls ++ [l]) t'

/-- A state that some run from an initial state ends in. -/
def Reachable (sys : System State Label) (s : State) : Prop :=
  ∃ s₀ ls, sys.init s₀ ∧ Run sys s₀ ls s

/-- `t` can be reached from `s` by steps of the system. -/
def Star (sys : System State Label) (s t : State) : Prop :=
  ∃ ls, Run sys s ls t

/-! ### Building runs -/

theorem Reachable.init {sys : System State Label} {s : State} (h : sys.init s) :
    Reachable sys s :=
  ⟨s, [], h, .nil s⟩

theorem Reachable.step {sys : System State Label} {s s' : State} {l : Label}
    (h : Reachable sys s) (hstep : sys.step s l s') : Reachable sys s' := by
  obtain ⟨s₀, ls, hinit, hrun⟩ := h
  exact ⟨s₀, ls ++ [l], hinit, hrun.snoc hstep⟩

/-- A run may be extended at its front. -/
theorem Run.cons {sys : System State Label} {s t u : State} {l : Label} {ls : List Label}
    (hstep : sys.step s l t) (hrun : Run sys t ls u) : Run sys s (l :: ls) u := by
  induction hrun with
  | nil => exact (Run.nil s).snoc hstep
  | snoc _ hlast ih => exact ih.snoc hlast

/-! ### Invariance -/

/-- What every step keeps, every run keeps. -/
theorem Run.preserves {sys : System State Label} (inv : State → Prop)
    (hstep : ∀ s l s', inv s → sys.step s l s' → inv s')
    {s t : State} {ls : List Label} (hrun : Run sys s ls t) (hs : inv s) : inv t := by
  induction hrun with
  | nil => exact hs
  | snoc _ hlast ih => exact hstep _ _ _ ih hlast

/-- The invariance rule: an inductive property holds of every reachable state. -/
theorem System.invariant {sys : System State Label} (inv : State → Prop)
    (hinit : ∀ s, sys.init s → inv s)
    (hstep : ∀ s l s', inv s → sys.step s l s' → inv s') :
    ∀ s, Reachable sys s → inv s := by
  intro s ⟨s₀, ls, h₀, hrun⟩
  exact hrun.preserves inv hstep (hinit s₀ h₀)

/-- The invariance rule relative to what is already known of reachable states. -/
theorem System.invariant_of_reachable {sys : System State Label} (inv : State → Prop)
    (hinit : ∀ s, sys.init s → inv s)
    (hstep : ∀ s l s', Reachable sys s → inv s → sys.step s l s' → inv s') :
    ∀ s, Reachable sys s → inv s := by
  intro s ⟨s₀, ls, h₀, hrun⟩
  induction hrun with
  | nil => exact hinit _ h₀
  | snoc hpre hlast ih => exact hstep _ _ _ ⟨s₀, _, h₀, hpre⟩ ih hlast

/-- The invariance rule for properties of a state and the trace that led to it. -/
theorem System.trace_invariant {sys : System State Label} (inv : State → List Label → Prop)
    (hinit : ∀ s, sys.init s → inv s [])
    (hstep : ∀ s ls l s', inv s ls → sys.step s l s' → inv s' (ls ++ [l]))
    {s₀ s : State} {ls : List Label} (h₀ : sys.init s₀) (hrun : Run sys s₀ ls s) :
    inv s ls := by
  induction hrun with
  | nil => exact hinit _ h₀
  | snoc _ hlast ih => exact hstep _ _ _ _ ih hlast

/-! ### Histories -/

/-- `p` holds of every element of a history, given what came before it. -/
def AtEach {α : Type u} (p : List α → α → Prop) (history : List α) : Prop :=
  ∀ before a after, history = before ++ a :: after → p before a

theorem atEach_nil {α : Type u} (p : List α → α → Prop) : AtEach p [] := by
  intro before a after h
  exact absurd h (List.append_ne_nil_of_right_ne_nil _ (List.cons_ne_nil _ _)).symm

theorem atEach_snoc {α : Type u} {p : List α → α → Prop} {history : List α} {a : α} :
    AtEach p (history ++ [a]) ↔ AtEach p history ∧ p history a := by
  constructor
  · intro h
    refine ⟨?_, h history a [] rfl⟩
    intro before b after heq
    exact h before b (after ++ [a]) (by rw [heq, List.append_assoc, List.cons_append])
  · intro h before b after heq
    induction after using List.reverseRecOn with
    | nil =>
      obtain ⟨rfl, hb⟩ := List.append_inj' heq rfl
      cases hb
      exact h.2
    | append_singleton after c _ =>
      rw [← List.cons_append, ← List.append_assoc] at heq
      exact h.1 before b after (List.append_inj' heq rfl).1

theorem AtEach.imp {α : Type u} {p q : List α → α → Prop} {history : List α}
    (h : AtEach p history)
    (himp : ∀ before a after, history = before ++ a :: after → p before a → q before a) :
    AtEach q history :=
  fun before a after heq => himp before a after heq (h before a after heq)

theorem AtEach.of_prefix {α : Type u} {p : List α → α → Prop} {earlier history : List α}
    (h : AtEach p history) (hstart : earlier <+: history) : AtEach p earlier := by
  intro before a after heq
  obtain ⟨rest, rfl⟩ := hstart
  exact h before a (after ++ rest) (by rw [heq, List.append_assoc, List.cons_append])

/-- A relation between the elements of a history and the later ones. -/
theorem atEach_iff_pairwise {α : Type u} {R : α → α → Prop} {history : List α} :
    AtEach (fun before a => ∀ b ∈ before, R b a) history ↔ history.Pairwise R := by
  induction history using List.reverseRecOn with
  | nil => exact ⟨fun _ => .nil, fun _ => atEach_nil _⟩
  | append_singleton history a ih =>
    rw [atEach_snoc, ih, List.pairwise_append]
    simp

/-! ### Restriction -/

/-- The system whose steps are the steps of `sys` that meet `ok`. -/
def System.restrict (sys : System State Label) (ok : State → Label → Prop) :
    System State Label where
  init := sys.init
  step := fun s l s' => ok s l ∧ sys.step s l s'

/-- A run whose steps all meet a condition is a run. -/
theorem Run.of_restrict {sys : System State Label} {ok : State → Label → Prop}
    {s t : State} {ls : List Label} (hrun : Run (sys.restrict ok) s ls t) :
    Run sys s ls t := by
  induction hrun with
  | nil => exact .nil s
  | snoc _ hlast ih => exact ih.snoc hlast.2

theorem Reachable.of_restrict {sys : System State Label} {ok : State → Label → Prop}
    {s : State} (h : Reachable (sys.restrict ok) s) : Reachable sys s := by
  obtain ⟨s₀, ls, h₀, hrun⟩ := h
  exact ⟨s₀, ls, h₀, hrun.of_restrict⟩

/-- A run meets a condition at every step and ends in a good state, or it breaks the condition
    at some step and stays bad from there on. -/
theorem Run.restrict_or {sys : System State Label} (ok : State → Label → Prop)
    (good bad : State → Prop)
    (hkeep : ∀ s l s', good s → ok s l → sys.step s l s' → good s')
    (hbreak : ∀ s l s', good s → ¬ ok s l → sys.step s l s' → bad s')
    (hstay : ∀ s l s', bad s → sys.step s l s' → bad s')
    {s t : State} {ls : List Label} (hrun : Run sys s ls t) (hs : good s) :
    (good t ∧ Run (sys.restrict ok) s ls t) ∨ bad t := by
  induction hrun with
  | nil => exact .inl ⟨hs, .nil _⟩
  | @snoc t t' ls l _ hlast ih =>
    rcases ih with ⟨hgood, hrun⟩ | hbad
    · by_cases hok : ok t l
      · exact .inl ⟨hkeep _ _ _ hgood hok hlast, hrun.snoc ⟨hok, hlast⟩⟩
      · exact .inr (hbreak _ _ _ hgood hok hlast)
    · exact .inr (hstay _ _ _ hbad hlast)

/-! ### Steps of a run -/

/-- `p` holds of every step that is taken when the labels `ls` are run. -/
def EachStep (sys : System State Label) (s₀ : State) (ls : List Label)
    (p : State → Label → State → Prop) : Prop :=
  ∀ before l after t t', ls = before ++ l :: after → Run sys s₀ before t → sys.step t l t' →
    p t l t'

theorem EachStep.imp {sys : System State Label} {s₀ : State} {ls : List Label}
    {p q : State → Label → State → Prop} (h : EachStep sys s₀ ls p)
    (himp : ∀ s l s', sys.step s l s' → p s l s' → q s l s') : EachStep sys s₀ ls q := by
  intro before l after t t' heq hrun hstep
  exact himp t l t' hstep (h before l after t t' heq hrun hstep)

/-- The invariance rule for runs all of whose steps meet a condition. -/
theorem EachStep.invariant {sys : System State Label} {s₀ : State} {ls : List Label}
    {ok p : State → Label → State → Prop} (inv : State → Prop) (h₀ : inv s₀)
    (hkeep : ∀ s l s', inv s → sys.step s l s' → ok s l s' → inv s' ∧ p s l s')
    (h : EachStep sys s₀ ls ok) : EachStep sys s₀ ls p := by
  have hinv : ∀ before after t, ls = before ++ after → Run sys s₀ before t → inv t := by
    intro before after t heq hrun
    induction hrun generalizing after with
    | nil => exact h₀
    | @snoc t t' before l hpre hlast ih =>
      rw [List.append_assoc] at heq
      exact (hkeep _ _ _ (ih _ heq) hlast (h _ _ _ _ _ heq hpre hlast)).1
  intro before l after t t' heq hrun hstep
  exact (hkeep t l t' (hinv before _ t heq hrun) hstep (h before l after t t' heq hrun hstep)).2

/-! ### Projection -/

/-- If every step of `sys` from a reachable state maps to a step of `abs` or
    leaves the mapped state alone, reachable states map to reachable states. -/
theorem Reachable.simulate {AState : Type w} {ALabel : Type x}
    {sys : System State Label} {abs : System AState ALabel} (f : State → AState)
    (hinit : ∀ s, sys.init s → abs.init (f s))
    (hstep : ∀ s l s', Reachable sys s → sys.step s l s' →
      (∃ l', abs.step (f s) l' (f s')) ∨ f s' = f s)
    {s : State} (h : Reachable sys s) : Reachable abs (f s) := by
  obtain ⟨s₀, ls, h₀, hrun⟩ := h
  induction hrun with
  | nil => exact .init (hinit _ h₀)
  | snoc hpre hlast ih =>
    rcases hstep _ _ _ ⟨s₀, _, h₀, hpre⟩ hlast with ⟨l', hl'⟩ | hsame
    · exact ih.step hl'
    · rw [hsame]; exact ih

/-- The same, of a map that works at every state. -/
theorem Reachable.project {AState : Type w} {ALabel : Type x}
    {sys : System State Label} {abs : System AState ALabel} (f : State → AState)
    (hinit : ∀ s, sys.init s → abs.init (f s))
    (hstep : ∀ s l s', sys.step s l s' → (∃ l', abs.step (f s) l' (f s')) ∨ f s' = f s)
    {s : State} (h : Reachable sys s) : Reachable abs (f s) :=
  h.simulate f hinit (fun s l s' _ => hstep s l s')

end LTS
