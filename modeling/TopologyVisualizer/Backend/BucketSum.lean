import TopologyVisualizer.Backend.Memory

/-! # Buckets as a Commutative Semigroup

    `Bucket.merge` is associative and commutative, with `min` and `max` on
    the interval and a nullable sum on the measured fields, so what a store
    holds under a key is a sum that does not depend on the order of
    ingestion. The lemmas of the second half read the fields of such a sum
    off its contributions.
-/

namespace TopologyVisualizer.Backend

/-! ### Nullable sums -/

theorem addMeasured_comm (a b : Option Nat) : addMeasured a b = addMeasured b a := by
  cases a <;> cases b <;> simp [addMeasured, Nat.add_comm]

theorem addMeasured_assoc (a b c : Option Nat) :
    addMeasured (addMeasured a b) c = addMeasured a (addMeasured b c) := by
  cases a <;> cases b <;> cases c <;> simp [addMeasured, Nat.add_assoc]

theorem addMeasured_none_left (a : Option Nat) : addMeasured none a = a := by
  cases a <;> simp [addMeasured]

theorem addMeasured_eq_none_iff {a b : Option Nat} :
    addMeasured a b = none ↔ a = none ∧ b = none := by
  cases a <;> cases b <;> simp [addMeasured]

theorem addMeasured_getD (a b : Option Nat) :
    (addMeasured a b).getD 0 = a.getD 0 + b.getD 0 := by
  cases a <;> cases b <;> simp [addMeasured]

/-! ### The semigroup -/

theorem Bucket.merge_comm (a b : Bucket) : a.merge b = b.merge a := by
  ext1
  · exact Nat.add_comm _ _
  · exact addMeasured_comm _ _
  · exact Nat.add_comm _ _
  · exact Nat.add_comm _ _
  · exact addMeasured_comm _ _
  · exact addMeasured_comm _ _
  · exact min_comm _ _
  · exact max_comm _ _

theorem Bucket.merge_assoc (a b c : Bucket) : (a.merge b).merge c = a.merge (b.merge c) := by
  ext1
  · exact Nat.add_assoc _ _ _
  · exact addMeasured_assoc _ _ _
  · exact Nat.add_assoc _ _ _
  · exact Nat.add_assoc _ _ _
  · exact addMeasured_assoc _ _ _
  · exact addMeasured_assoc _ _ _
  · exact min_assoc _ _ _
  · exact max_assoc _ _ _

instance : AddCommSemigroup Bucket where
  add := Bucket.merge
  add_assoc := Bucket.merge_assoc
  add_comm := Bucket.merge_comm

/-- The query loop's empty accumulator adds nothing. -/
theorem Bucket.new_merge (b : Bucket) : (Bucket.new 0 b.firstSeen b.lastSeen).merge b = b := by
  ext1
  · exact Nat.zero_add _
  · exact addMeasured_none_left _
  · exact Nat.zero_add _
  · exact Nat.zero_add _
  · exact addMeasured_none_left _
  · exact addMeasured_none_left _
  · exact min_self _
  · exact max_self _

namespace InMemoryRepository

/-- Ingestion accumulates. -/
theorem mergeEdge_eq_addAt (buckets : Dict BucketKey Bucket) (edge : EdgeObservation) :
    mergeEdge buckets edge = buckets.addAt edge.bucketKey (Bucket.ofEdge edge) := by
  unfold mergeEdge Dict.addAt
  cases buckets.get? edge.bucketKey <;> rfl

/-- Queries accumulate. -/
theorem accumulate_eq_addAt (summed : Dict EdgeKey Bucket) (key : EdgeKey) (value : Bucket) :
    accumulate summed key value = summed.addAt key value := by
  unfold accumulate Dict.addAt
  cases summed.get? key with
  | none => simp only [Bucket.new_merge]
  | some acc => rfl

end InMemoryRepository

/-! ### Reading a sum -/

/-- The nullable field `f` of `v` is the nullable sum over `bs`: null exactly when it is
    null everywhere, and otherwise the sum of what was measured. -/
def NullableSum (f : Bucket → Option Nat) (v : Bucket) (bs : List Bucket) : Prop :=
  (f v = none ↔ ∀ b ∈ bs, f b = none) ∧ (f v).getD 0 = (bs.map (fun b => (f b).getD 0)).sum

/-- `v` is the sum of the buckets `bs`. -/
structure Bucket.IsSum (v : Bucket) (bs : List Bucket) : Prop where
  nonempty : bs ≠ []
  connectionCount : v.connectionCount = (bs.map Bucket.connectionCount).sum
  failedConnectionCount : NullableSum Bucket.failedConnectionCount v bs
  connectLatencyCount : v.connectLatencyCount = (bs.map Bucket.connectLatencyCount).sum
  connectLatencySumUs : v.connectLatencySumUs = (bs.map Bucket.connectLatencySumUs).sum
  bytesSent : NullableSum Bucket.bytesSent v bs
  bytesReceived : NullableSum Bucket.bytesReceived v bs
  firstSeen : v.firstSeen ∈ bs.map Bucket.firstSeen ∧ ∀ b ∈ bs, v.firstSeen ≤ b.firstSeen
  lastSeen : v.lastSeen ∈ bs.map Bucket.lastSeen ∧ ∀ b ∈ bs, b.lastSeen ≤ v.lastSeen

theorem NullableSum.single (f : Bucket → Option Nat) (b : Bucket) : NullableSum f b [b] := by
  simp [NullableSum]

theorem NullableSum.cons {f : Bucket → Option Nat} {b v : Bucket} {bs : List Bucket}
    (hf : f (b.merge v) = addMeasured (f b) (f v)) (h : NullableSum f v bs) :
    NullableSum f (b.merge v) (b :: bs) := by
  refine ⟨?_, ?_⟩
  · rw [hf, addMeasured_eq_none_iff, h.1]; simp
  · rw [hf, addMeasured_getD, h.2]; simp

theorem Bucket.IsSum.single (b : Bucket) : b.IsSum [b] where
  nonempty := by simp
  connectionCount := by simp
  failedConnectionCount := .single _ b
  connectLatencyCount := by simp
  connectLatencySumUs := by simp
  bytesSent := .single _ b
  bytesReceived := .single _ b
  firstSeen := by simp
  lastSeen := by simp

/-- An extremum of the merged interval is attained, at the new bucket or before. -/
theorem mem_of_min_or_max {g : Bucket → Datetime} {b v : Bucket} {bs : List Bucket} {x : Datetime}
    (hx : x = g b ∨ x = g v) (hv : g v ∈ bs.map g) : x ∈ (b :: bs).map g := by
  rcases hx with rfl | rfl
  · exact List.mem_map_of_mem List.mem_cons_self
  · exact List.mem_cons_of_mem _ hv

theorem Bucket.IsSum.cons {b v : Bucket} {bs : List Bucket} (h : v.IsSum bs) :
    (b.merge v).IsSum (b :: bs) where
  nonempty := by simp
  connectionCount := by simp [Bucket.merge, h.connectionCount]
  failedConnectionCount := h.failedConnectionCount.cons rfl
  connectLatencyCount := by simp [Bucket.merge, h.connectLatencyCount]
  connectLatencySumUs := by simp [Bucket.merge, h.connectLatencySumUs]
  bytesSent := h.bytesSent.cons rfl
  bytesReceived := h.bytesReceived.cons rfl
  firstSeen := by
    refine ⟨mem_of_min_or_max (min_choice b.firstSeen v.firstSeen) h.firstSeen.1, ?_⟩
    intro x hx
    rcases List.mem_cons.mp hx with rfl | hx
    · exact min_le_left _ _
    · exact (min_le_right _ _).trans (h.firstSeen.2 x hx)
  lastSeen := by
    refine ⟨mem_of_min_or_max (max_choice b.lastSeen v.lastSeen) h.lastSeen.1, ?_⟩
    intro x hx
    rcases List.mem_cons.mp hx with rfl | hx
    · exact le_max_left _ _
    · exact (h.lastSeen.2 x hx).trans (le_max_right _ _)

/-- A sum in the semigroup is a field-by-field sum. -/
theorem isSum_of_sum_eq {bs : List Bucket} {v : Bucket}
    (h : (bs.map (fun b : Bucket => (b : WithZero Bucket))).sum = (v : WithZero Bucket)) : v.IsSum bs := by
  induction bs generalizing v with
  | nil => exact absurd h.symm WithZero.coe_ne_zero
  | cons b bs ih =>
    rw [List.map_cons, List.sum_cons] at h
    cases hs : (bs.map (fun b : Bucket => (b : WithZero Bucket))).sum using WithZero.recZeroCoe with
    | zero =>
      -- a sum of buckets is zero only when there is none
      have hnil : bs = [] := by
        cases bs with
        | nil => rfl
        | cons c cs =>
          have hne : keyedSum ((c :: cs).map (fun b => ((), b))) () = 0 := by
            simpa [keyedSum, List.filter_map, Function.comp_def] using hs
          rw [keyedSum_eq_zero_iff] at hne
          simp at hne
      subst hnil
      rw [hs, add_zero, WithZero.coe_inj] at h
      exact h ▸ .single b
    | coe w =>
      rw [hs, ← WithZero.coe_add, WithZero.coe_inj] at h
      exact h ▸ (ih hs).cons

/-- The value an accumulation holds at a key is the sum of what was filed there. -/
theorem isSum_of_keyedSum_eq {κ : Type} [DecidableEq κ] {l : List (κ × Bucket)} {k : κ}
    {v : Bucket} (h : keyedSum l k = (v : WithZero Bucket)) :
    v.IsSum ((l.filter (fun e => e.1 = k)).map Prod.snd) := by
  apply isSum_of_sum_eq
  rw [List.map_map]
  exact h

end TopologyVisualizer.Backend
