import TopologyVisualizer.Backend.Compare

/-! # What a Comparison Says

    `compare` and `_classify` of `app/domain/diff.py`, seen from outside.

    The first half is about presence: which keys are listed, which of them
    are new or removed, and where the connections of both periods go. Edges
    without a success are dropped on each side before the keys are united,
    so a key is present where it `Occurs`.

    The second half is about magnitude. The percentage is rounded to two
    decimals before it is compared with the threshold, so an edge is judged
    by its change exactly when rounding does not carry the change across the
    threshold (`RoundsAcross`).
-/

namespace TopologyVisualizer.Backend

open InMemoryRepository

/-! ### Presence -/

/-- A key with successes in a period. -/
def Occurs (edges : List EdgeAggregate) (k : EdgeKey) : Prop :=
  ∃ e ∈ edges, e.key = k ∧ 0 < e.connectionCount

/-- The same edge seen with the periods swapped. -/
structure DiffEdge.Mirrors (e e' : DiffEdge) : Prop where
  key : e'.key = e.key
  delta : e'.connectionDelta = -e.connectionDelta
  new_iff : e'.classification = .new ↔ e.classification = .removed
  removed_iff : e'.classification = .removed ↔ e.classification = .new

section presence
variable {edges : List EdgeAggregate}

theorem isSome_positiveIn_iff (hnd : (edges.map EdgeAggregate.key).Nodup) {k : EdgeKey} :
    (positiveIn edges k).isSome ↔ Occurs edges k := by
  rw [Option.isSome_iff_exists]
  unfold positiveIn
  constructor
  · intro ⟨e, he⟩
    rw [Option.filter_eq_some_iff] at he
    obtain ⟨hmem, hkey⟩ := key_of_aggregateOf he.1
    exact ⟨e, hmem, hkey, by simpa using he.2⟩
  · intro ⟨e, hmem, hkey, hpos⟩
    have hfind := (aggregateOf_eq_some_iff hnd).mpr hmem
    rw [hkey] at hfind
    exact ⟨e, Option.filter_eq_some_iff.mpr ⟨hfind, by simpa using hpos⟩⟩

/-- The successes of a key in a period. -/
def countAt (edges : List EdgeAggregate) (k : EdgeKey) : Nat :=
  ((positiveIn edges k).map EdgeAggregate.connectionCount).getD 0

theorem countAt_eq_zero (k : EdgeKey) (h : k ∉ edges.map EdgeAggregate.key) :
    countAt edges k = 0 := by
  have hnone : positiveIn edges k = none := by
    by_contra hsome
    exact h (mem_of_positiveIn (Option.isSome_iff_ne_none.mpr hsome))
  rw [countAt, hnone]
  rfl

theorem countAt_cons {e : EdgeAggregate} (hnd : ((e :: edges).map EdgeAggregate.key).Nodup)
    (k : EdgeKey) :
    countAt (e :: edges) k = (if e.key = k then e.connectionCount else 0) + countAt edges k := by
  rw [List.map_cons, List.nodup_cons] at hnd
  by_cases hkey : e.key = k
  · -- no later edge has this key
    have hrest : countAt edges k = 0 := countAt_eq_zero k (hkey ▸ hnd.1)
    have hfind : aggregateOf (e :: edges) k = some e := by
      simp [aggregateOf, hkey]
    rw [hrest, if_pos hkey, countAt, positiveIn, hfind, Option.filter_some]
    by_cases hpos : e.connectionCount > 0
    · simp [hpos]
    · simp [hpos]
      omega
  · have hfind : aggregateOf (e :: edges) k = aggregateOf edges k := by
      simp [aggregateOf, hkey]
    rw [if_neg hkey, Nat.zero_add, countAt, positiveIn, hfind]
    rfl

/-- Summed over distinct keys that cover a period, the counts are those of the period. -/
theorem sum_countAt (hnd : (edges.map EdgeAggregate.key).Nodup) {ks : List EdgeKey}
    (hks : ks.Nodup) (hcover : ∀ k, Occurs edges k → k ∈ ks) :
    (ks.map (fun k => (countAt edges k : Int))).sum =
      (edges.map (fun e => (e.connectionCount : Int))).sum := by
  induction edges with
  | nil =>
    have hzero : ∀ k, (countAt [] k : Int) = 0 := fun k => by
      rw [countAt_eq_zero k List.not_mem_nil]
      rfl
    simp [hzero]
  | cons e es ih =>
    have hrest := ih (List.nodup_cons.mp hnd).2
      (fun k ⟨e', hmem, h⟩ => hcover k ⟨e', List.mem_cons_of_mem _ hmem, h⟩)
    have hsplit : ks.map (fun k => (countAt (e :: es) k : Int)) =
        ks.map (fun k => (if e.key = k then (e.connectionCount : Int) else 0) + countAt es k) := by
      apply List.map_congr_left
      intro k _
      rw [countAt_cons hnd k]
      split <;> simp
    rw [hsplit, List.sum_map_add, sum_map_single hks, hrest, List.map_cons, List.sum_cons]
    congr 1
    -- a key that is not covered has no successes
    by_cases hmem : e.key ∈ ks
    · rw [if_pos hmem]
    · have hzero : e.connectionCount = 0 := by
        by_contra hne
        exact hmem (hcover e.key ⟨e, List.mem_cons_self, rfl, Nat.pos_of_ne_zero hne⟩)
      rw [if_neg hmem, hzero]
      rfl

end presence

/-! ### The class of one edge -/

section classes
variable (fmt : Formats) (threshold : ℚ) (k : EdgeKey) (before after : Option EdgeAggregate)

/-- Present in both periods or in neither, only the magnitude decides. -/
theorem classify_same (present : Bool) (beforeCount afterCount : Nat)
    (connectionPercent bytesPercent : Option ℚ) :
    (classify fmt present present beforeCount afterCount connectionPercent bytesPercent
        threshold).1 =
      if reaches threshold bytesPercent ∨ reaches threshold connectionPercent then .changed
      else .unchanged := by
  unfold classify
  rw [if_neg (by simp), if_neg (by simp)]
  by_cases hbytes : reaches threshold bytesPercent = true
  · simp [hbytes]
  · by_cases hcount : reaches threshold connectionPercent = true
    · simp [hbytes, hcount]
    · rw [if_neg hbytes, if_neg hcount, if_neg (by simp [hbytes, hcount])]
      cases connectionPercent with
      | none => rfl
      | some percent => rfl

theorem diffEdge_same (h : before.isSome = after.isSome) :
    (diffEdge fmt threshold k before after).classification =
      if reaches threshold (bytesPercent before after) ∨
          reaches threshold (diffEdge fmt threshold k before after).connectionPercentDelta
      then .changed else .unchanged := by
  show (classify fmt before.isSome after.isSome _ _ _ _ threshold).1 = _
  rw [h]
  exact classify_same fmt threshold _ _ _ _ _

/-- **Presence decides first**: an edge is new when it is in the current period alone. -/
theorem diffEdge_new_iff :
    (diffEdge fmt threshold k before after).classification = .new ↔
      after.isSome ∧ ¬ before.isSome := by
  by_cases hsame : before.isSome = after.isSome
  · rw [diffEdge_same fmt threshold k before after hsame, hsame, and_not_self_iff, iff_false]
    split <;> simp
  · show (classify fmt before.isSome after.isSome _ _ _ _ threshold).1 = .new ↔ _
    cases hb : before.isSome <;> cases ha : after.isSome <;> simp_all [classify]

theorem diffEdge_removed_iff :
    (diffEdge fmt threshold k before after).classification = .removed ↔
      before.isSome ∧ ¬ after.isSome := by
  by_cases hsame : before.isSome = after.isSome
  · rw [diffEdge_same fmt threshold k before after hsame, hsame, and_not_self_iff, iff_false]
    split <;> simp
  · show (classify fmt before.isSome after.isSome _ _ _ _ threshold).1 = .removed ↔ _
    cases hb : before.isSome <;> cases ha : after.isSome <;> simp_all [classify]

theorem diffEdge_key : (diffEdge fmt threshold k before after).key = k := rfl

theorem diffEdge_connectionDelta :
    (diffEdge fmt threshold k before after).connectionDelta =
      ((after.map EdgeAggregate.connectionCount).getD 0 : Int) -
        (before.map EdgeAggregate.connectionCount).getD 0 := rfl

/-- With the periods swapped, new and removed change places. -/
theorem diffEdge_mirrors :
    (diffEdge fmt threshold k before after).Mirrors (diffEdge fmt threshold k after before) where
  key := by rw [diffEdge_key, diffEdge_key]
  delta := by rw [diffEdge_connectionDelta, diffEdge_connectionDelta, neg_sub]
  new_iff := by rw [diffEdge_new_iff, diffEdge_removed_iff]
  removed_iff := by rw [diffEdge_new_iff, diffEdge_removed_iff]

end classes

/-! ### The whole comparison -/

section whole
variable (fmt : Formats) (threshold : ℚ) {baseline current : List EdgeAggregate}

/-- The united keys, in order. -/
def unitedKeys (baseline current : List EdgeAggregate) : List EdgeKey :=
  sortOn id ((byKey baseline).keys ++ (byKey current).keys).dedup

/-- With unchanged edges asked for, every united key is classified. -/
theorem diffResults_all :
    diffResults fmt threshold true (byKey baseline) (byKey current) =
      (unitedKeys baseline current).map (fun k =>
        diffEdge fmt threshold k ((byKey baseline).get? k) ((byKey current).get? k)) := by
  unfold diffResults unitedKeys
  rw [List.filter_eq_self]
  intro e _
  simp

/-- Without them, the unchanged ones are left out. -/
theorem diffResults_filter (includeUnchanged : Bool) :
    diffResults fmt threshold includeUnchanged (byKey baseline) (byKey current) =
      (diffResults fmt threshold true (byKey baseline) (byKey current)).filter
        (fun e => includeUnchanged || e.classification ≠ .unchanged) := by
  rw [diffResults_all]
  unfold diffResults unitedKeys
  apply List.filter_congr
  intro e _
  cases includeUnchanged <;> simp

theorem unitedKeys_strict (baseline current : List EdgeAggregate) :
    (unitedKeys baseline current).Pairwise (· < ·) :=
  sortOn_id_strict (List.nodup_dedup _)

variable (hbaseline : (baseline.map EdgeAggregate.key).Nodup)
  (hcurrent : (current.map EdgeAggregate.key).Nodup)

include hbaseline hcurrent in
theorem mem_unitedKeys {k : EdgeKey} :
    k ∈ unitedKeys baseline current ↔ Occurs baseline k ∨ Occurs current k := by
  unfold unitedKeys
  rw [mem_sortOn, List.mem_dedup, List.mem_append, mem_byKey_keys hbaseline,
    mem_byKey_keys hcurrent, isSome_positiveIn_iff hbaseline, isSome_positiveIn_iff hcurrent]

include hbaseline hcurrent in
theorem unitedKeys_comm : unitedKeys current baseline = unitedKeys baseline current := by
  apply strict_eq_of_mem_iff (unitedKeys_strict _ _) (unitedKeys_strict _ _)
  intro k
  rw [mem_unitedKeys hcurrent hbaseline, mem_unitedKeys hbaseline hcurrent, or_comm]

include hbaseline hcurrent in
/-- **Conservation**: what the edges gained and lost is what the periods differ by. -/
theorem sum_connectionDelta :
    ((diffResults fmt threshold true (byKey baseline) (byKey current)).map
        DiffEdge.connectionDelta).sum =
      (current.map (fun e => (e.connectionCount : Int))).sum -
        (baseline.map (fun e => (e.connectionCount : Int))).sum := by
  have hnd : (unitedKeys baseline current).Nodup := (unitedKeys_strict _ _).nodup
  have hdelta : ∀ k, (diffEdge fmt threshold k ((byKey baseline).get? k)
      ((byKey current).get? k)).connectionDelta = (countAt current k : Int) - countAt baseline k := by
    intro k
    rw [get?_byKey hbaseline, get?_byKey hcurrent, diffEdge_connectionDelta]
    rfl
  rw [diffResults_all, List.map_map,
    ← sum_countAt hcurrent hnd (fun k hk => (mem_unitedKeys hbaseline hcurrent).mpr (.inr hk)),
    ← sum_countAt hbaseline hnd (fun k hk => (mem_unitedKeys hbaseline hcurrent).mpr (.inl hk)),
    eq_sub_iff_add_eq, ← List.sum_map_add]
  congr 1
  apply List.map_congr_left
  intro k _
  rw [Function.comp_apply, hdelta, sub_add_cancel]

include hbaseline hcurrent in
/-- **Symmetry**: with the periods swapped the same keys are listed, each as its mirror image. -/
theorem diffResults_mirror :
    List.Forall₂ DiffEdge.Mirrors
      (diffResults fmt threshold true (byKey baseline) (byKey current))
      (diffResults fmt threshold true (byKey current) (byKey baseline)) := by
  rw [diffResults_all, diffResults_all, unitedKeys_comm hbaseline hcurrent,
    List.forall₂_map_left_iff, List.forall₂_map_right_iff, List.forall₂_same]
  intro k _
  exact diffEdge_mirrors fmt threshold k _ _

include hbaseline hcurrent in
/-- Each listed edge is classified by where its key occurs. -/
theorem class_of_mem {e : DiffEdge}
    (he : e ∈ diffResults fmt threshold true (byKey baseline) (byKey current)) :
    (e.classification = .new ↔ Occurs current e.key ∧ ¬ Occurs baseline e.key) ∧
    (e.classification = .removed ↔ Occurs baseline e.key ∧ ¬ Occurs current e.key) ∧
    (Occurs baseline e.key → Occurs current e.key →
      e.classification = .changed ∨ e.classification = .unchanged) := by
  rw [diffResults_all] at he
  obtain ⟨k, -, rfl⟩ := List.mem_map.mp he
  rw [get?_byKey hbaseline, get?_byKey hcurrent]
  have hb := isSome_positiveIn_iff hbaseline (k := k)
  have hc := isSome_positiveIn_iff hcurrent (k := k)
  refine ⟨?_, ?_, ?_⟩
  · rw [diffEdge_new_iff, hb, hc]
    rfl
  · rw [diffEdge_removed_iff, hb, hc]
    rfl
  · intro hbefore hafter
    rw [diffEdge_same fmt threshold k _ _ (by rw [hb.mpr hbefore, hc.mpr hafter])]
    split <;> simp

end whole

/-- **A complete, conserving classification**: with unchanged edges asked for and nothing cut, a
    comparison lists every key with successes in either period once, in key order, says where
    it occurs and accounts for every connection; asked for less, it lists a part of that. -/
theorem compare_complete (fmt : Formats) (baseline current : List EdgeAggregate)
    (hbaseline : (baseline.map EdgeAggregate.key).Nodup)
    (hcurrent : (current.map EdgeAggregate.key).Nodup) (baselineWindow currentWindow : ResolvedWindow)
    (threshold : ℚ) (filters : EffectiveFilters) (generatedAt : Datetime) (maxEdges : Nat)
    (hwhole : (compare fmt baseline current baselineWindow currentWindow threshold filters
      generatedAt true maxEdges).summary.truncated = false) :
    let whole := (compare fmt baseline current baselineWindow currentWindow threshold filters
      generatedAt true maxEdges).edges
    let swapped := compare fmt current baseline currentWindow baselineWindow threshold filters
      generatedAt true maxEdges
    -- one edge for each key that occurs, in key order
    (whole.map DiffEdge.key).Pairwise (· < ·) ∧
    (∀ k, k ∈ whole.map DiffEdge.key ↔ Occurs baseline k ∨ Occurs current k) ∧
    -- classified by where it occurs
    (∀ e ∈ whole,
      (e.classification = .new ↔ Occurs current e.key ∧ ¬ Occurs baseline e.key) ∧
      (e.classification = .removed ↔ Occurs baseline e.key ∧ ¬ Occurs current e.key) ∧
      (Occurs baseline e.key → Occurs current e.key →
        e.classification = .changed ∨ e.classification = .unchanged)) ∧
    -- no connection is lost
    (whole.map DiffEdge.connectionDelta).sum =
      (current.map (fun e => (e.connectionCount : Int))).sum -
        (baseline.map (fun e => (e.connectionCount : Int))).sum ∧
    -- swapping the periods mirrors every edge
    swapped.summary.truncated = false ∧ List.Forall₂ DiffEdge.Mirrors whole swapped.edges ∧
    -- leaving out unchanged edges filters, a cap cuts to a first part and says so
    ∀ includeUnchanged cap,
      let part := compare fmt baseline current baselineWindow currentWindow threshold filters
        generatedAt includeUnchanged cap
      let kept := whole.filter (fun e => includeUnchanged || e.classification ≠ .unchanged)
      part.edges = kept.take cap ∧ (part.summary.truncated = true ↔ part.edges ≠ kept) := by
  intro whole swapped
  have hfits : (diffResults fmt threshold true (byKey baseline) (byKey current)).length ≤
      maxEdges := not_lt.mp (of_decide_eq_false hwhole)
  have hmirror := diffResults_mirror fmt threshold hbaseline hcurrent
  have hwhole_eq : whole = diffResults fmt threshold true (byKey baseline) (byKey current) :=
    List.take_of_length_le hfits
  have hswapped_fits : (diffResults fmt threshold true (byKey current) (byKey baseline)).length ≤
      maxEdges := hmirror.length_eq ▸ hfits
  have hswapped_eq : swapped.edges =
      diffResults fmt threshold true (byKey current) (byKey baseline) :=
    List.take_of_length_le hswapped_fits
  have hkeys : whole.map DiffEdge.key = unitedKeys baseline current := by
    rw [hwhole_eq, diffResults_all, List.map_map]
    exact List.map_id _
  rw [hkeys, hswapped_eq, hwhole_eq]
  refine ⟨unitedKeys_strict _ _, ?_, ?_, sum_connectionDelta fmt threshold hbaseline hcurrent,
    decide_eq_false (not_lt.mpr hswapped_fits), hmirror, ?_⟩
  · intro k
    exact mem_unitedKeys hbaseline hcurrent
  · intro e he
    exact class_of_mem fmt threshold hbaseline hcurrent he
  · intro includeUnchanged cap part kept
    have hkept : diffResults fmt threshold includeUnchanged (byKey baseline) (byKey current) =
        kept := diffResults_filter fmt threshold includeUnchanged
    have hpart : part.edges = kept.take cap := by
      rw [← hkept]
      rfl
    refine ⟨hpart, ?_⟩
    have htruncated : part.summary.truncated = decide (kept.length > cap) := by
      rw [← hkept]
      rfl
    rw [htruncated, decide_eq_true_iff, hpart, ne_eq, List.take_eq_self_iff]
    exact lt_iff_not_ge

/-- `count` successes and `failed` failures from `web` to `target`. -/
def sampleAggregate (target : String) (count : Nat) (failed : Option Nat) : EdgeAggregate where
  key := ⟨"web", target, .tcp, 5432⟩
  connectionCount := count
  firstSeen := 0
  lastSeen := 0
  failedConnectionCount := failed
  connectLatencyCount := 0
  connectLatencySumUs := 0
  bytesSent := none
  bytesReceived := none

/-- An edge that only failed before and an edge that only fails now are absent there: the first
    is new, the second removed, and five connections turn into six. -/
theorem compare_complete_failed_only :
    let answer := compare ⟨fun _ => "", fun _ => ""⟩
      [sampleAggregate "cache" 0 (some 4), sampleAggregate "db" 5 none]
      [sampleAggregate "cache" 6 none, sampleAggregate "db" 0 (some 1)]
      ⟨0, 60000000⟩ ⟨60000000, 120000000⟩ 20 {} 0 true 2
    answer.edges.map DiffEdge.classification = [.new, .removed] ∧
    (answer.edges.map DiffEdge.connectionDelta).sum = 6 - 5 := by
  refine ⟨by decide +kernel, ?_⟩
  exact (compare_complete ⟨fun _ => "", fun _ => ""⟩
    [sampleAggregate "cache" 0 (some 4), sampleAggregate "db" 5 none]
    [sampleAggregate "cache" 6 none, sampleAggregate "db" 0 (some 1)] (by decide) (by decide)
    ⟨0, 60000000⟩ ⟨60000000, 120000000⟩ 20 {} 0 2 (by decide +kernel)).2.2.2.1

/-! ### Rounding -/

/-- `roundHalfEven x` is within a half of `x`, and even when it is a half away. -/
theorem roundHalfEven_spec (x : ℚ) :
    |x - roundHalfEven x| ≤ 1 / 2 ∧ (|x - roundHalfEven x| = 1 / 2 → roundHalfEven x % 2 = 0) := by
  have hfloor := Int.floor_le x
  have hceil := Int.lt_floor_add_one x
  unfold roundHalfEven
  split_ifs with hlow hhigh heven
  · rw [abs_of_nonneg (by linarith)]
    exact ⟨by linarith, fun h => by linarith⟩
  · push_cast
    rw [abs_of_nonpos (by linarith)]
    exact ⟨by linarith, fun h => by linarith⟩
  · rw [abs_of_nonneg (by linarith)]
    exact ⟨by linarith, fun _ => heven⟩
  · push_cast
    rw [abs_of_nonpos (by linarith)]
    exact ⟨by linarith, fun _ => by omega⟩

/-- No other integer is. -/
theorem eq_roundHalfEven {x : ℚ} {n : Int} (hnear : |x - n| ≤ 1 / 2)
    (htie : |x - n| = 1 / 2 → n % 2 = 0) : n = roundHalfEven x := by
  obtain ⟨hnear', htie'⟩ := roundHalfEven_spec x
  rw [abs_le] at hnear hnear'
  generalize roundHalfEven x = r at *
  have hle : n ≤ r + 1 := by
    have h : (n : ℚ) ≤ r + 1 := by linarith [hnear.1, hnear'.2]
    exact_mod_cast h
  have hge : r ≤ n + 1 := by
    have h : (r : ℚ) ≤ n + 1 := by linarith [hnear.2, hnear'.1]
    exact_mod_cast h
  by_contra hne
  -- both are a half away, on either side, so both would be even
  obtain hup | hdown : n = r + 1 ∨ r = n + 1 := by omega
  · have hq : (n : ℚ) = r + 1 := by exact_mod_cast hup
    have hx : x = r + 1 / 2 := by linarith [hnear.1, hnear'.2]
    have h₁ := htie (by rw [hx, hq, abs_of_nonpos (by linarith)]; ring)
    have h₂ := htie' (by rw [hx, abs_of_nonneg (by linarith)]; ring)
    omega
  · have hq : (r : ℚ) = n + 1 := by exact_mod_cast hdown
    have hx : x = n + 1 / 2 := by linarith [hnear.2, hnear'.1]
    have h₁ := htie (by rw [hx, abs_of_nonneg (by linarith)]; ring)
    have h₂ := htie' (by rw [hx, hq, abs_of_nonpos (by linarith)]; ring)
    omega

theorem roundHalfEven_neg (x : ℚ) : roundHalfEven (-x) = -roundHalfEven x := by
  obtain ⟨hnear, htie⟩ := roundHalfEven_spec x
  have habs : |-x - ((-roundHalfEven x : Int) : ℚ)| = |x - roundHalfEven x| := by
    push_cast
    rw [← abs_neg]
    ring_nf
  refine (eq_roundHalfEven (by rw [habs]; exact hnear) ?_).symm
  intro h
  have heven := htie (habs ▸ h)
  omega

/-- An integer is at most the rounded value when `x` is above the midpoint below it, or at the
    midpoint and the integer is even. -/
theorem le_roundHalfEven_iff {x : ℚ} {n : Int} :
    n ≤ roundHalfEven x ↔ (n : ℚ) - 1 / 2 < x ∨ (x = n - 1 / 2 ∧ n % 2 = 0) := by
  obtain ⟨hnear, htie⟩ := roundHalfEven_spec x
  rw [abs_le] at hnear
  generalize roundHalfEven x = r at *
  constructor
  · intro hle
    have hq : (n : ℚ) ≤ r := by exact_mod_cast hle
    rcases lt_or_eq_of_le (show (n : ℚ) - 1 / 2 ≤ x by linarith [hnear.1]) with hlt | heq
    · exact .inl hlt
    · have hr : (r : ℚ) = n := by linarith [hnear.1]
      have heven := htie (by rw [hr, ← heq, abs_of_nonpos (by linarith)]; ring)
      have hrn : r = n := by exact_mod_cast hr
      exact .inr ⟨heq.symm, hrn ▸ heven⟩
  · intro h
    have hclose : (n : ℚ) ≤ r + 1 := by
      rcases h with hlt | ⟨heq, -⟩
      · linarith [hnear.2]
      · linarith [hnear.2]
    have hz : n ≤ r + 1 := by exact_mod_cast hclose
    by_contra hlt
    have hup : n = r + 1 := by omega
    have hq : (n : ℚ) = r + 1 := by exact_mod_cast hup
    rcases h with habove | ⟨heq, heven⟩
    · linarith [hnear.2]
    · have hodd := htie (by rw [heq, hq, abs_of_nonneg (by linarith)]; ring)
      omega

theorem abs_roundHalfEven (x : ℚ) : |roundHalfEven x| = roundHalfEven |x| := by
  have hnonneg : ∀ y : ℚ, 0 ≤ y → 0 ≤ roundHalfEven y := fun y hy =>
    le_roundHalfEven_iff.mpr (.inl (by push_cast; linarith))
  rcases le_total 0 x with hx | hx
  · rw [abs_of_nonneg hx, abs_of_nonneg (hnonneg x hx)]
  · have hneg := roundHalfEven_neg x
    rw [abs_of_nonpos hx, hneg, abs_of_nonpos]
    have := hnonneg (-x) (by linarith)
    omega

/-! ### The threshold -/

/-- The change of a count, in hundredths of a percent of the baseline. -/
def changeHundredths (before after : Nat) : ℚ := |(after : ℚ) - before| * 10000 / before

/-- From where on a change rounds up to the threshold: half a hundredth below the first
    hundredth of a percent that reaches it. -/
def roundingTurn (threshold : ℚ) : ℚ := ⌈threshold * 100⌉ - 1 / 2

/-- Rounding to hundredths carries the change across the threshold: a change at or beyond it is
    rounded below it, or a change below it is rounded up to it. At the turn itself the even
    hundredth is taken. -/
def RoundsAcross (threshold : ℚ) (before after : Nat) : Prop :=
  (threshold * 100 ≤ changeHundredths before after ∧
    (changeHundredths before after < roundingTurn threshold ∨
      (changeHundredths before after = roundingTurn threshold ∧ ⌈threshold * 100⌉ % 2 = 1))) ∨
  (changeHundredths before after < threshold * 100 ∧
    (roundingTurn threshold < changeHundredths before after ∨
      (changeHundredths before after = roundingTurn threshold ∧ ⌈threshold * 100⌉ % 2 = 0)))

/-- The rounded percentage reaches the threshold from the turn on. -/
theorem reaches_percentDelta_iff {threshold : ℚ} {before after : Nat} (hbefore : 0 < before) :
    reaches threshold (percentDelta before after) = true ↔
      roundingTurn threshold < changeHundredths before after ∨
        (changeHundredths before after = roundingTurn threshold ∧ ⌈threshold * 100⌉ % 2 = 0) := by
  have hq : (0 : ℚ) < before := by exact_mod_cast hbefore
  have hchange : |((after : ℚ) - before) / before * 100 * 100| = changeHundredths before after := by
    unfold changeHundredths
    rw [mul_assoc, abs_mul, abs_div, abs_of_pos hq]
    norm_num
    ring
  have hrounded : |roundTwo (((after : ℚ) - before) / before * 100)| =
      (roundHalfEven (changeHundredths before after) : ℚ) / 100 := by
    unfold roundTwo
    rw [abs_div, ← Int.cast_abs, abs_roundHalfEven, hchange]
    norm_num
  rw [percentDelta, if_neg (by omega), reaches, Option.any_some, decide_eq_true_iff, hrounded,
    le_div_iff₀ (by norm_num), ← Int.ceil_le, le_roundHalfEven_iff]
  rfl

/-- The change meets the threshold. -/
theorem threshold_le_change_iff {threshold : ℚ} {before after : Nat} (hbefore : 0 < before) :
    threshold * before ≤ |(after : ℚ) - before| * 100 ↔
      threshold * 100 ≤ changeHundredths before after := by
  have hq : (0 : ℚ) < before := by exact_mod_cast hbefore
  unfold changeHundredths
  rw [le_div_iff₀ hq]
  constructor
  · intro h
    linarith
  · intro h
    linarith

/-- The rounded change is judged as the change is, unless rounding carries it across. -/
theorem reaches_iff_change {threshold : ℚ} {before after : Nat} (hbefore : 0 < before) :
    (reaches threshold (percentDelta before after) = true ↔
      threshold * before ≤ |(after : ℚ) - before| * 100) ↔ ¬ RoundsAcross threshold before after := by
  rw [reaches_percentDelta_iff hbefore, threshold_le_change_iff hbefore]
  unfold RoundsAcross
  have hparity : ⌈threshold * 100⌉ % 2 = 0 ∨ ⌈threshold * 100⌉ % 2 = 1 := by omega
  have htrichotomy := lt_trichotomy (roundingTurn threshold) (changeHundredths before after)
  have hmeets := le_or_gt (threshold * 100) (changeHundredths before after)
  grind

section magnitude
variable (fmt : Formats) {baseline current : List EdgeAggregate}
  (hbaseline : (baseline.map EdgeAggregate.key).Nodup)
  (hcurrent : (current.map EdgeAggregate.key).Nodup) {b c : EdgeAggregate}

include hbaseline hcurrent in
/-- An edge with successes in both periods is classified by the two aggregates of its key. -/
theorem mem_diffResults_of_common (hb : b ∈ baseline) (hc : c ∈ current) (hkey : c.key = b.key)
    (hbefore : 0 < b.connectionCount) (hafter : 0 < c.connectionCount) (threshold : ℚ)
    {e : DiffEdge} :
    e ∈ diffResults fmt threshold true (byKey baseline) (byKey current) ∧ e.key = b.key ↔
      e = diffEdge fmt threshold b.key (some b) (some c) := by
  have hcommon : ∀ {edges : List EdgeAggregate} {a : EdgeAggregate},
      (edges.map EdgeAggregate.key).Nodup → a ∈ edges → 0 < a.connectionCount →
      (byKey edges).get? a.key = some a := by
    intro edges a hnd hmem hpos
    rw [get?_byKey hnd, positiveIn, (aggregateOf_eq_some_iff hnd).mpr hmem, Option.filter_some,
      if_pos (decide_eq_true hpos)]
  have hgetb := hcommon hbaseline hb hbefore
  have hgetc := hcommon hcurrent hc hafter
  rw [hkey] at hgetc
  rw [diffResults_all, List.mem_map]
  constructor
  · intro hlisted
    obtain ⟨⟨k, -, he⟩, hk⟩ := hlisted
    obtain rfl : k = b.key := by rw [← hk, ← he]; rfl
    rw [← he, hgetb, hgetc]
  · intro he
    refine ⟨⟨b.key, ?_, ?_⟩, by rw [he]; rfl⟩
    · exact (mem_unitedKeys hbaseline hcurrent).mpr (.inl ⟨b, hb, rfl, hbefore⟩)
    · rw [he, hgetb, hgetc]

end magnitude

/-- **The threshold is exact up to rounding**: an edge without byte volumes and with successes in
    both periods is reported as changed exactly when its change meets the threshold, if and only
    if rounding does not carry the change across the threshold. -/
theorem changed_exactly_iff (fmt : Formats) (baseline current : List EdgeAggregate)
    (hbaseline : (baseline.map EdgeAggregate.key).Nodup)
    (hcurrent : (current.map EdgeAggregate.key).Nodup) (b c : EdgeAggregate) (hb : b ∈ baseline)
    (hc : c ∈ current) (hkey : c.key = b.key) (hbefore : 0 < b.connectionCount)
    (hafter : 0 < c.connectionCount)
    (hbytes : (b.bytesSent = none ∧ b.bytesReceived = none) ∧
      (c.bytesSent = none ∧ c.bytesReceived = none))
    (baselineWindow currentWindow : ResolvedWindow) (threshold : ℚ) (filters : EffectiveFilters)
    (generatedAt : Datetime) (includeUnchanged : Bool) (maxEdges : Nat)
    (hwhole : (compare fmt baseline current baselineWindow currentWindow threshold filters
      generatedAt includeUnchanged maxEdges).summary.truncated = false) :
    ((∃ e ∈ (compare fmt baseline current baselineWindow currentWindow threshold filters
        generatedAt includeUnchanged maxEdges).edges,
        e.key = b.key ∧ e.classification = .changed) ↔
      threshold * b.connectionCount ≤ |(c.connectionCount : ℚ) - b.connectionCount| * 100) ↔
    ¬ RoundsAcross threshold b.connectionCount c.connectionCount := by
  have hnobytes : bytesPercent (some b) (some c) = none := by
    simp [bytesPercent, bytesTotal, hbytes.1]
  have hclass : (diffEdge fmt threshold b.key (some b) (some c)).classification = .changed ↔
      reaches threshold (percentDelta b.connectionCount c.connectionCount) = true := by
    rw [diffEdge_same fmt threshold b.key (some b) (some c) rfl, hnobytes]
    show (if false = true ∨ reaches threshold (percentDelta _ _) = true then _ else _) = _ ↔ _
    split <;> simp_all
  have hfits : (diffResults fmt threshold includeUnchanged (byKey baseline)
      (byKey current)).length ≤ maxEdges := not_lt.mp (of_decide_eq_false hwhole)
  have hedges : (compare fmt baseline current baselineWindow currentWindow threshold filters
      generatedAt includeUnchanged maxEdges).edges =
      (diffResults fmt threshold true (byKey baseline) (byKey current)).filter
        (fun e => includeUnchanged || e.classification ≠ .unchanged) := by
    rw [← diffResults_filter]
    exact List.take_of_length_le hfits
  rw [← reaches_iff_change hbefore, ← hclass, hedges]
  -- a changed edge is listed whether or not unchanged ones are
  have hlisted : (∃ e ∈ (diffResults fmt threshold true (byKey baseline) (byKey current)).filter
        (fun e => includeUnchanged || e.classification ≠ .unchanged),
        e.key = b.key ∧ e.classification = .changed) ↔
      (diffEdge fmt threshold b.key (some b) (some c)).classification = .changed := by
    have hmem := fun e => mem_diffResults_of_common fmt hbaseline hcurrent hb hc hkey hbefore
      hafter threshold (e := e)
    constructor
    · intro ⟨e, he, hk, hchanged⟩
      rw [← (hmem e).mp ⟨(List.mem_filter.mp he).1, hk⟩]
      exact hchanged
    · intro hchanged
      obtain ⟨hin, hk⟩ := (hmem _).mpr rfl
      exact ⟨_, List.mem_filter.mpr ⟨hin, by simp [hchanged]⟩, hk, hchanged⟩
  rw [hlisted]

/-- **A change of 19.996 % is reported as reaching 20 %**: it is rounded to 20.00 % first. -/
theorem change_rounded_up_to_threshold :
    (compare ⟨fun _ => "", fun _ => ""⟩ [sampleAggregate "db" 100000 none]
        [sampleAggregate "db" 119996 none] ⟨0, 60000000⟩ ⟨60000000, 120000000⟩ 20 {} 0 false
        graphMaxEdges).edges.map DiffEdge.classification = [.changed] ∧
      ¬ ((20 : ℚ) * 100000 ≤ |(119996 : ℚ) - 100000| * 100) := by
  constructor
  · decide +kernel
  · norm_num

/-- A change of 20 % is not moved by rounding. -/
theorem changed_exactly_at_twenty :
    (∃ e ∈ (compare ⟨fun _ => "", fun _ => ""⟩ [sampleAggregate "db" 100 none]
        [sampleAggregate "db" 120 none] ⟨0, 60000000⟩ ⟨60000000, 120000000⟩ 20 {} 0 false
        graphMaxEdges).edges, e.key = (sampleAggregate "db" 100 none).key ∧
        e.classification = .changed) ↔ (20 : ℚ) * (100 : Nat) ≤ |((120 : Nat) : ℚ) - (100 : Nat)| * 100 := by
  apply (changed_exactly_iff ⟨fun _ => "", fun _ => ""⟩ [sampleAggregate "db" 100 none]
    [sampleAggregate "db" 120 none] (by decide) (by decide) (sampleAggregate "db" 100 none)
    (sampleAggregate "db" 120 none) (by decide) (by decide) rfl (by decide) (by decide) (by decide)
    ⟨0, 60000000⟩ ⟨60000000, 120000000⟩ 20 {} 0 false graphMaxEdges (by decide +kernel)).mpr
  unfold RoundsAcross roundingTurn changeHundredths sampleAggregate
  norm_num

end TopologyVisualizer.Backend
