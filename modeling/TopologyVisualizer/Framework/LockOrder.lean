import Mathlib.Logic.Relation
import Mathlib.Order.Basic

/-! # Lock Ordering

    Processes that take locks one at a time and keep them. `held` gives the
    locks of each process, `next` the lock it asks for, and two locks
    conflict when they cannot be held by different processes at once.

    * **Granting**: a lock is granted when no other process holds one that
      conflicts with it; this keeps the table free of conflicts.
    * **Ordering**: a request is admissible when it ranks above everything
      its process holds, or when a lock that the process holds covers it.
    * **Deadlock freedom**: with admissible requests only, the wait-for
      relation has no cycle.
-/

namespace LockOrder

universe u v w

variable {Proc : Type u} {Lock : Type v} {Rank : Type w}

/-! ### Tables -/

/-- No two processes hold conflicting locks. -/
def Granted (conflicts : Lock → Lock → Prop) (held : Proc → List Lock) : Prop :=
  ∀ i j, i ≠ j → ∀ l ∈ held i, ∀ l' ∈ held j, ¬ conflicts l l'

/-- `i` asks for a lock that conflicts with one that `j` holds. -/
def Waits (conflicts : Lock → Lock → Prop) (held : Proc → List Lock) (next : Proc → Option Lock)
    (i j : Proc) : Prop :=
  i ≠ j ∧ ∃ l, next i = some l ∧ ∃ l' ∈ held j, conflicts l l'

section granting
variable {conflicts : Lock → Lock → Prop} {held held' : Proc → List Lock}

/-- Who holds less conflicts less. -/
theorem Granted.mono (h : Granted conflicts held) (hsub : ∀ i, held' i ⊆ held i) :
    Granted conflicts held' :=
  fun i j hij l hl l' hl' => h i j hij l (hsub i hl) l' (hsub j hl')

/-- **Granting**: a process takes a lock that nobody else's locks conflict with. -/
theorem Granted.acquire (h : Granted conflicts held) (hsymm : ∀ l l', conflicts l l' → conflicts l' l)
    {i : Proc} {l : Lock} (hfree : ∀ j, j ≠ i → ∀ l' ∈ held j, ¬ conflicts l l')
    (hi : held' i = held i ++ [l]) (hothers : ∀ j, j ≠ i → held' j = held j) :
    Granted conflicts held' := by
  intro j k hjk m hm m' hm'
  by_cases hj : j = i
  · -- the process that took the lock, against another
    have hk : k ≠ i := fun hk => hjk (hj.trans hk.symm)
    rw [hothers k hk] at hm'
    rw [hj, hi, List.mem_append, List.mem_singleton] at hm
    rcases hm with hm | rfl
    · exact h i k (Ne.symm hk) m hm m' hm'
    · exact hfree k hk m' hm'
  · rw [hothers j hj] at hm
    by_cases hk : k = i
    · rw [hk, hi, List.mem_append, List.mem_singleton] at hm'
      rcases hm' with hm' | rfl
      · exact h j i hj m hm m' hm'
      · exact fun hconf => hfree j hj m hm (hsymm _ _ hconf)
    · rw [hothers k hk] at hm'
      exact h j k hjk m hm m' hm'

end granting

/-! ### Requests -/

section ordering
variable [Preorder Rank] (conflicts : Lock → Lock → Prop) (rank : Lock → Rank)

/-- The request ranks above all that is held, or something held covers it: whatever conflicts
    with the request conflicts with that lock already. -/
def Admissible (held : List Lock) (l : Lock) : Prop :=
  (∀ l' ∈ held, rank l' < rank l) ∨ ∃ h ∈ held, ∀ l', conflicts l l' → conflicts h l'

/-- Each of the requests is admissible when its turn comes. -/
def InOrder : List Lock → List Lock → Prop
  | _, [] => True
  | held, l :: ls => Admissible conflicts rank held l ∧ InOrder (held ++ [l]) ls

variable {conflicts rank}

theorem inOrder_append {held ls ms : List Lock} :
    InOrder conflicts rank held (ls ++ ms) ↔
      InOrder conflicts rank held ls ∧ InOrder conflicts rank (held ++ ls) ms := by
  induction ls generalizing held with
  | nil => simp [InOrder]
  | cons l ls ih => simp [InOrder, ih, and_assoc]

/-- The request that comes after a first part is admissible there. -/
theorem InOrder.admissible {held rest : List Lock} {l : Lock}
    (h : InOrder conflicts rank [] (held ++ l :: rest)) : Admissible conflicts rank held l := by
  rw [inOrder_append, List.nil_append] at h
  exact h.2.1

/-- Requests in strictly increasing rank, all above what is held. -/
theorem inOrder_of_increasing {held ls : List Lock}
    (habove : ∀ l' ∈ held, ∀ l ∈ ls, rank l' < rank l)
    (hincr : ls.Pairwise (fun l l' => rank l < rank l')) : InOrder conflicts rank held ls := by
  induction ls generalizing held with
  | nil => trivial
  | cons l ls ih =>
    rw [List.pairwise_cons] at hincr
    refine ⟨.inl fun l' hl' => habove l' hl' l List.mem_cons_self, ih ?_ hincr.2⟩
    intro l' hl' m hm
    rw [List.mem_append, List.mem_singleton] at hl'
    rcases hl' with hl' | rfl
    · exact habove l' hl' m (List.mem_cons_of_mem l hm)
    · exact hincr.1 m hm

/-! ### Deadlock freedom -/

variable {held : Proc → List Lock} {next : Proc → Option Lock}

/-- A process that waits asks for something above all it holds: what is covered is never
    waited for. -/
theorem Waits.above (hgranted : Granted conflicts held)
    (hadm : ∀ i l, next i = some l → Admissible conflicts rank (held i) l) {i j : Proc}
    (h : Waits conflicts held next i j) {l : Lock} (hl : next i = some l) :
    ∀ l' ∈ held i, rank l' < rank l := by
  obtain ⟨hij, m, hm, m', hm', hconf⟩ := h
  rw [hl] at hm
  cases hm
  rcases hadm i l hl with habove | ⟨c, hc, hcovers⟩
  · exact habove
  · exact absurd (hcovers m' hconf) (hgranted i j hij c hc m' hm')

/-- Along a chain of waits, what the first one asks for ranks no higher than something the
    last one holds. -/
theorem rank_le_of_transGen (hrank : ∀ l l', conflicts l l' → rank l = rank l')
    (hgranted : Granted conflicts held)
    (hadm : ∀ i l, next i = some l → Admissible conflicts rank (held i) l) {i j : Proc}
    (h : Relation.TransGen (Waits conflicts held next) i j) :
    ∃ l, next i = some l ∧ ∃ l' ∈ held j, rank l ≤ rank l' := by
  induction h with
  | single hwait =>
    obtain ⟨-, l, hl, l', hl', hconf⟩ := hwait
    exact ⟨l, hl, l', hl', le_of_eq (hrank l l' hconf)⟩
  | tail _ hwait ih =>
    obtain ⟨l, hl, l', hl', hle⟩ := ih
    have hwait' := hwait
    obtain ⟨-, m, hm, m', hm', hconf⟩ := hwait
    have hlt : rank l' < rank m := hwait'.above hgranted hadm hm l' hl'
    exact ⟨l, hl, m', hm', (hle.trans_lt hlt).le.trans (le_of_eq (hrank m m' hconf))⟩

/-- **Deadlock freedom**: when every request is admissible, no process waits for itself through
    others. -/
theorem acyclic (hrank : ∀ l l', conflicts l l' → rank l = rank l')
    (hgranted : Granted conflicts held)
    (hadm : ∀ i l, next i = some l → Admissible conflicts rank (held i) l) (i : Proc) :
    ¬ Relation.TransGen (Waits conflicts held next) i i := by
  intro hcycle
  obtain ⟨j, hfirst, -⟩ := Relation.TransGen.head'_iff.mp hcycle
  obtain ⟨l, hl, l', hl', hle⟩ := rank_le_of_transGen hrank hgranted hadm hcycle
  have hlt : rank l' < rank l := hfirst.above hgranted hadm hl l' hl'
  exact absurd hle (not_le_of_gt hlt)

end ordering

end LockOrder
