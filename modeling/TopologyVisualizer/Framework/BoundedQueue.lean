import TopologyVisualizer.Framework.LTS

/-! # Bounded Queues that Evict the Oldest

    A FIFO queue of at most `cap` items with one producer. When an item
    arrives at a full queue the oldest is evicted, and the lock is given up
    between the eviction and the append: in between, the eviction is counted
    and a consumer may remove items. Removal is by key, not by position.

    * `length_le_cap`: the bound holds at every point;
    * `sublist_arrived`: the queue is always in order of arrival;
    * `dropped_eq`: each eviction is counted once;
    * `leaves`: what a step can remove.
-/

namespace BoundedQueue

open LTS

universe u v

variable {α : Type u} {κ : Type v}

/-! ### State -/

/-- Where the producer is between its eviction and its append. -/
inductive Handover (α : Type u) where
  | none
  /-- The oldest item was evicted; the eviction is not counted yet. -/
  | evicted (a : α)
  /-- The eviction is counted; the new item is not appended yet. -/
  | counted (a : α)

/-- A queue, with the history of its arrivals and evictions. -/
structure Queue (α : Type u) where
  items : List α
  handover : Handover α
  arrived : List α
  evicted : List α
  dropped : Nat

/-- The item the producer carries. -/
def Handover.carried : Handover α → List α
  | .none => []
  | .evicted a => [a]
  | .counted a => [a]

/-- Evictions not counted yet. -/
def Handover.uncounted : Handover α → Nat
  | .evicted _ => 1
  | _ => 0

/-- Operations. -/
inductive Op (α : Type u) (κ : Type v) where
  /-- An item arrives and there is room. -/
  | arrive (a : α)
  /-- An item arrives and the queue is full. -/
  | evict (a : α)
  | countDrop
  | append
  /-- The consumer removes the first item with this key. -/
  | remove (k : κ)

/-- The empty queue. -/
def Queue.empty : Queue α := ⟨[], .none, [], [], 0⟩

/-! ### The system -/

/-- The queue as a labelled transition system. -/
def system (cap : Nat) (key : α → κ) [DecidableEq κ] : System (Queue α) (Op α κ) where
  init := fun q => q = .empty
  step := fun q op q' =>
    match op with
    | .arrive a =>
        q.handover.carried = [] ∧ q.items.length < cap ∧
        q' = { q with items := q.items ++ [a], arrived := q.arrived ++ [a] }
    | .evict a =>
        q.handover.carried = [] ∧ cap ≤ q.items.length ∧
        ∃ oldest rest, q.items = oldest :: rest ∧
          q' = { q with
            items := rest
            handover := .evicted a
            arrived := q.arrived ++ [a]
            evicted := q.evicted ++ [oldest] }
    | .countDrop =>
        ∃ a, q.handover = .evicted a ∧
          q' = { q with handover := .counted a, dropped := q.dropped + 1 }
    | .append =>
        ∃ a, q.handover = .counted a ∧
          q' = { q with items := q.items ++ [a], handover := .none }
    | .remove k => q' = { q with items := q.items.eraseP (fun a => key a = k) }

variable {cap : Nat} {key : α → κ} [DecidableEq κ]

/-! ### Invariants -/

/-- The bound, with room for the item the producer carries. -/
theorem length_le_cap {q : Queue α} (h : Reachable (system cap key) q) :
    q.items.length + q.handover.carried.length ≤ cap := by
  refine System.invariant (fun q => q.items.length + q.handover.carried.length ≤ cap)
    ?_ ?_ q h
  · rintro q rfl
    exact Nat.zero_le _
  · intro q op q' hinv hstep
    match op with
    | .arrive a =>
      obtain ⟨hcarried, hroom, rfl⟩ := hstep
      simp only [hcarried, List.length_append, List.length_singleton, List.length_nil]
      omega
    | .evict a =>
      obtain ⟨hcarried, hfull, oldest, rest, hitems, rfl⟩ := hstep
      simp only [hitems, hcarried, List.length_cons, List.length_nil] at hinv
      simp only [Handover.carried, List.length_singleton]
      omega
    | .countDrop =>
      obtain ⟨a, ha, rfl⟩ := hstep
      simpa [ha, Handover.carried] using hinv
    | .append =>
      obtain ⟨a, ha, rfl⟩ := hstep
      simpa [ha, Handover.carried] using hinv
    | .remove k =>
      subst hstep
      exact Nat.le_trans (Nat.add_le_add_right List.length_eraseP_le _) hinv

/-- The queue, then the item on its way in, are in order of arrival. -/
theorem sublist_arrived {q : Queue α} (h : Reachable (system cap key) q) :
    (q.items ++ q.handover.carried).Sublist q.arrived := by
  refine System.invariant
    (fun q => (q.items ++ q.handover.carried).Sublist q.arrived) ?_ ?_ q h
  · rintro q rfl
    exact List.Sublist.refl _
  · intro q op q' hinv hstep
    match op with
    | .arrive a =>
      obtain ⟨hcarried, -, rfl⟩ := hstep
      simp only [hcarried, List.append_nil] at hinv ⊢
      exact hinv.append (List.Sublist.refl _)
    | .evict a =>
      obtain ⟨hcarried, -, oldest, rest, hitems, rfl⟩ := hstep
      simp only [hcarried, hitems, List.append_nil] at hinv
      exact ((List.sublist_cons_self oldest rest).trans hinv).append (List.Sublist.refl _)
    | .countDrop =>
      obtain ⟨a, ha, rfl⟩ := hstep
      simpa [ha, Handover.carried] using hinv
    | .append =>
      obtain ⟨a, ha, rfl⟩ := hstep
      simpa [ha, Handover.carried] using hinv
    | .remove k =>
      subst hstep
      exact (List.eraseP_sublist.append_right _).trans hinv

/-- Every eviction is counted, once. -/
theorem dropped_eq {q : Queue α} (h : Reachable (system cap key) q) :
    q.dropped + q.handover.uncounted = q.evicted.length := by
  refine System.invariant
    (fun q => q.dropped + q.handover.uncounted = q.evicted.length) ?_ ?_ q h
  · rintro q rfl
    rfl
  · intro q op q' hinv hstep
    match op with
    | .arrive a => obtain ⟨-, -, rfl⟩ := hstep; exact hinv
    | .evict a =>
      obtain ⟨hcarried, -, oldest, rest, -, rfl⟩ := hstep
      have hnone : q.handover.uncounted = 0 := by
        cases hq : q.handover with
        | none => rfl
        | evicted b => rw [hq] at hcarried; cases hcarried
        | counted b => rfl
      rw [hnone] at hinv
      simp [Handover.uncounted, ← hinv]
    | .countDrop =>
      obtain ⟨a, ha, rfl⟩ := hstep
      simpa [ha, Handover.uncounted] using hinv
    | .append =>
      obtain ⟨a, ha, rfl⟩ := hstep
      simpa [ha, Handover.uncounted] using hinv
    | .remove k => subst hstep; exact hinv

/-! ### What a step removes -/

/-- An item that is no longer there was evicted as the oldest of a full queue, or had the key
    the consumer removed. -/
theorem leaves {q q' : Queue α} {op : Op α κ} (hstep : (system cap key).step q op q') {a : α}
    (ha : a ∈ q.items) (ha' : a ∉ q'.items) :
    (∃ b, op = .evict b ∧ cap ≤ q.items.length ∧ q.items.head? = some a ∧
      q'.evicted = q.evicted ++ [a]) ∨ op = .remove (key a) := by
  match op with
  | .arrive b =>
    obtain ⟨-, -, rfl⟩ := hstep
    exact absurd (List.mem_append_left _ ha) ha'
  | .evict b =>
    obtain ⟨-, hfull, oldest, rest, hitems, rfl⟩ := hstep
    rw [hitems] at ha ⊢
    rcases List.mem_cons.mp ha with rfl | hrest
    · exact .inl ⟨b, rfl, hitems ▸ hfull, rfl, rfl⟩
    · exact absurd hrest ha'
  | .countDrop =>
    obtain ⟨b, -, rfl⟩ := hstep
    exact absurd ha ha'
  | .append =>
    obtain ⟨b, -, rfl⟩ := hstep
    exact absurd (List.mem_append_left _ ha) ha'
  | .remove k =>
    subst hstep
    by_cases hk : key a = k
    · exact .inr (by rw [hk])
    · exact absurd (List.mem_eraseP_of_neg (by simpa using hk) |>.mpr ha) ha'

/-- Nothing is taken back from what arrived. -/
theorem arrived_grows {q q' : Queue α} {op : Op α κ} (hstep : (system cap key).step q op q') :
    q.arrived <+: q'.arrived := by
  match op with
  | .arrive a => obtain ⟨-, -, rfl⟩ := hstep; exact List.prefix_append _ _
  | .evict a => obtain ⟨-, -, _, _, -, rfl⟩ := hstep; exact List.prefix_append _ _
  | .countDrop => obtain ⟨_, -, rfl⟩ := hstep; exact List.prefix_rfl
  | .append => obtain ⟨_, -, rfl⟩ := hstep; exact List.prefix_rfl
  | .remove k => subst hstep; exact List.prefix_rfl

/-! ### What becomes of an item -/

/-- Queued, on its way in, or evicted. -/
def Queue.Retains (q : Queue α) (a : α) : Prop :=
  a ∈ q.items ∨ a ∈ q.handover.carried ∨ a ∈ q.evicted

/-- An item that arrives is retained. -/
theorem retains_of_arrived {q q' : Queue α} {op : Op α κ}
    (hstep : (system cap key).step q op q') {a : α} (ha : a ∈ q'.arrived) :
    a ∈ q.arrived ∨ q'.Retains a := by
  match op with
  | .arrive b =>
    obtain ⟨-, -, rfl⟩ := hstep
    rcases List.mem_append.mp ha with ha | ha
    · exact .inl ha
    · exact .inr (.inl (List.mem_append_right _ ha))
  | .evict b =>
    obtain ⟨-, -, _, _, -, rfl⟩ := hstep
    rcases List.mem_append.mp ha with ha | ha
    · exact .inl ha
    · exact .inr (.inr (.inl ha))
  | .countDrop => obtain ⟨_, -, rfl⟩ := hstep; exact .inl ha
  | .append => obtain ⟨_, -, rfl⟩ := hstep; exact .inl ha
  | .remove k => subst hstep; exact .inl ha

/-- A retained item stays retained, unless the consumer removes its key. -/
theorem Queue.Retains.step {q q' : Queue α} {op : Op α κ} {a : α} (h : q.Retains a)
    (hstep : (system cap key).step q op q') : q'.Retains a ∨ op = .remove (key a) := by
  by_cases hitem : a ∈ q.items ∧ a ∉ q'.items
  · rcases leaves hstep hitem.1 hitem.2 with ⟨b, -, -, -, hevicted⟩ | hremove
    · exact .inl (.inr (.inr (by rw [hevicted]; simp)))
    · exact .inr hremove
  · left
    have hkeep : a ∈ q.items → a ∈ q'.items := by
      intro ha
      by_contra hnot
      exact hitem ⟨ha, hnot⟩
    rcases h with ha | ha | ha
    · exact .inl (hkeep ha)
    · match op with
      | .arrive b => obtain ⟨hnone, -, rfl⟩ := hstep; rw [hnone] at ha; cases ha
      | .evict b => obtain ⟨hnone, -, _, _, -, rfl⟩ := hstep; rw [hnone] at ha; cases ha
      | .countDrop =>
        obtain ⟨b, hb, rfl⟩ := hstep
        rw [hb] at ha
        exact .inr (.inl ha)
      | .append =>
        obtain ⟨b, hb, rfl⟩ := hstep
        rw [hb] at ha
        exact .inl (List.mem_append_right _ ha)
      | .remove k => subst hstep; exact .inr (.inl ha)
    · right; right
      match op with
      | .arrive b => obtain ⟨-, -, rfl⟩ := hstep; exact ha
      | .evict b => obtain ⟨-, -, _, _, -, rfl⟩ := hstep; exact List.mem_append_left _ ha
      | .countDrop => obtain ⟨_, -, rfl⟩ := hstep; exact ha
      | .append => obtain ⟨_, -, rfl⟩ := hstep; exact ha
      | .remove k => subst hstep; exact ha

end BoundedQueue
