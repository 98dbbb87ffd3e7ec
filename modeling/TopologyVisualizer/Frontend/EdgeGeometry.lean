import Mathlib.Tactic.LinearCombination
import Mathlib.Tactic.NormNum.RealSqrt
import TopologyVisualizer.Framework.Dict
import TopologyVisualizer.Framework.KeyedSum
import TopologyVisualizer.Framework.Text
import TopologyVisualizer.Framework.Bezier

/-! # The Curves of the Edges

    `frontend/src/features/graph/edgeGeometry.ts`. Edges between the same
    two nodes are bent apart (`edgeBends`), and each edge is routed around
    the discs in its way, to the side that needs the smaller curve
    (`routeBends`).

    A bend is relative to the direction of its edge, so edges in opposite
    directions are compared on a common side. They see the obstacles
    mirrored, left and right exchanged (`needs_mirror`), and so are routed
    to the same side unless both sides need the same curve; then each goes
    to its own left. Either way the parallel bends on top keep them apart.

    Numbers are those of an ordered field with a `Math.hypot`, and in the
    results about curves the real numbers.
-/

namespace TopologyVisualizer.Frontend.EdgeGeometry

/-- What is read of an edge. -/
structure Edge where
  id : String
  sourceId : String
  targetId : String
  deriving DecidableEq

/-- `Disc`. -/
structure Disc (K : Type) [Zero K] [LE K] where
  x : K
  y : K
  r : K
  r_nonneg : 0 ≤ r

/-! ### Parallel edges -/

/-- `sort()`, of strings: by code units. -/
def sorted (l : List String) : List String := sortOn Text.utf16 l

/-- The key of the two ends of an edge. -/
def pairKey (e : Edge) : String := "\x00".intercalate (sorted [e.sourceId, e.targetId])

/-- `byPair`. -/
def byPair (edges : List Edge) : Dict String (List String) :=
  edges.foldl (fun d e => d.pushAt (pairKey e) e.id) .empty

section bends
variable {K : Type} [Field K] [LinearOrder K]

/-- `BEND_STEP`. -/
def bendStep : K := 22

/-- The bends of the edges of one pair. -/
def groupBends (ids : List String) : List (String × K) :=
  (sorted ids).zipIdx.map fun x =>
    (x.1, if ids.length = 1 then 0 else bendStep * ((x.2 : K) + 1))

/-- `edgeBends`. -/
def edgeBends (edges : List Edge) : Dict String K :=
  (byPair edges).entries.foldl
    (fun bends group => (groupBends group.2).foldl (fun bends x => bends.set x.1 x.2) bends) .empty

/-! ### Obstacles -/

/-- `EDGE_CLEARANCE`. -/
def edgeClearance : K := 14

/-- `MAX_BEND_RATIO`. -/
def maxBendRatio : K := 9 / 10

/-- The curves needed on each side. -/
structure Needs (K : Type) where
  left : K
  right : K
  blocked : Bool

section route
variable (hypot : K → K → K)

/-- `length`. -/
def length (a b : Disc K) : K := hypot (b.x - a.x) (b.y - a.y)

/-- `t`: how far along the segment a disc is. -/
def along (a b o : Disc K) : K :=
  ((o.x - a.x) * (b.x - a.x) + (o.y - a.y) * (b.y - a.y)) /
    (length hypot a b * length hypot a b)

/-- `d`: how far to the left of it. -/
def beside (a b o : Disc K) : K :=
  (o.x - (a.x + b.x) / 2) * ((b.y - a.y) / length hypot a b) +
    (o.y - (a.y + b.y) / 2) * (-(b.x - a.x) / length hypot a b)

/-- One pass of the loop over the discs. -/
def avoid (source target : String) (a b : Disc K) (needs : Needs K) (o : String × Disc K) :
    Needs K :=
  if o.1 = source ∨ o.1 = target then needs
  else
    let t := along hypot a b o.2
    -- before the one end or after the other
    if t ≤ 0 ∨ t ≥ 1 then needs
    else
      let d := beside hypot a b o.2
      let reach := o.2.r + edgeClearance
      if |d| ≥ reach then needs
      else
        -- how much of a bend there is at `t`
        let f := 2 * t * (1 - t)
        let away := (reach - |d|) / f
        let round := (|d| + reach) / f
        -- to pass on its own side is to go all the way round it
        if d ≥ 0 then ⟨max needs.left round, max needs.right away, true⟩
        else ⟨max needs.left away, max needs.right round, true⟩

/-- `needLeft`, `needRight` and `blocked`, after the loop. -/
def needs (discs : Dict String (Disc K)) (source target : String) (a b : Disc K) : Needs K :=
  discs.entries.foldl (avoid hypot source target a b) ⟨0, 0, false⟩

/-- The bend that clears the obstacles on the side that needs less, up to a cap. -/
def detour (needs : Needs K) (cap base : K) : K :=
  if needs.left ≤ needs.right then min needs.left cap + base
  else -(min needs.right cap + base)

/-- What `routeBends` sets for an edge. -/
def routeBend (discs : Dict String (Disc K)) (parallel : Dict String K) (e : Edge) : K :=
  let base := (parallel.get? e.id).getD 0
  match discs.get? e.sourceId, discs.get? e.targetId with
  | some a, some b =>
    if e.sourceId = e.targetId then base
    else if length hypot a b = 0 then base
    else
      let needs := needs hypot discs e.sourceId e.targetId a b
      if needs.blocked then detour needs (maxBendRatio * length hypot a b) base
      else base
  | _, _ => base

/-- `routeBends`. -/
def routeBends (edges : List Edge) (discs : Dict String (Disc K)) (parallel : Dict String K) :
    Dict String K :=
  edges.foldl (fun bends e => bends.set e.id (routeBend hypot discs parallel e)) .empty

/-! ### Paths -/

/-- A point. -/
structure Point (K : Type) where
  x : K
  y : K

/-- The commands of a path. -/
inductive Path (K : Type) where
  | line (start stop : Point K)
  | quadratic (start control stop : Point K)

/-- `towards`. -/
def towards (c : Disc K) (p : Point K) : Point K :=
  let dx := p.x - c.x
  let dy := p.y - c.y
  -- a length of zero is as good as none
  let d := if hypot dx dy = 0 then 1 else hypot dx dy
  ⟨c.x + dx / d * c.r, c.y + dy / d * c.r⟩

/-- The control point. -/
def control (a b : Disc K) (bend : K) : Point K :=
  ⟨(a.x + b.x) / 2 + (b.y - a.y) / length hypot a b * bend,
    (a.y + b.y) / 2 - (b.x - a.x) / length hypot a b * bend⟩

/-- `floatingPath`: the path and the place of the label. -/
def floatingPath (a b : Disc K) (bend : K) : Option (Path K × Point K) :=
  if length hypot a b ≤ a.r + b.r then none
  else
    let c := control hypot a b bend
    let start := towards hypot a c
    let stop := towards hypot b c
    some (if bend = 0 then .line start stop else .quadratic start c stop,
      ⟨1 / 4 * start.x + 1 / 2 * c.x + 1 / 4 * stop.x,
        1 / 4 * start.y + 1 / 2 * c.y + 1 / 4 * stop.y⟩)

end route

end bends

/-! ### Parallel bends -/

section parallel
variable {K : Type} [Field K] {edges : List Edge}

theorem byPair_eq : byPair edges =
    edges.foldl (fun d e => (some (pairKey e)).elim d (fun k => d.pushAt k e.id)) .empty := rfl

/-- The group of a key. -/
theorem mem_byPair {key : String} {ids : List String} (h : (key, ids) ∈ (byPair edges).entries) :
    ids = (edges.filter (fun e => some (pairKey e) = some key)).map Edge.id := by
  have hget := Dict.get?_eq_some_iff.mpr h
  have hgroup := Dict.get?_foldl_pushAt (fun e => some (pairKey e)) Edge.id edges .empty key
  rw [← byPair_eq, hget] at hgroup
  exact hgroup

theorem mem_keys_byPair {key : String} :
    key ∈ (byPair edges).keys ↔ ∃ e ∈ edges, some (pairKey e) = some key := by
  rw [byPair_eq, Dict.mem_keys_foldl_pushAt (fun e => some (pairKey e)) Edge.id]
  constructor
  · intro h
    rcases h with h | h
    · cases h
    · exact h
  · intro h
    exact .inr h

/-- Every edge is in one group. -/
theorem groups_perm : ((byPair edges).entries.flatMap Prod.snd).Perm (edges.map Edge.id) := by
  have hgroups : (byPair edges).entries.flatMap Prod.snd =
      ((byPair edges).keys.flatMap
        (fun key => edges.filter (fun e => some (pairKey e) = some key))).map Edge.id := by
    rw [Dict.keys, List.flatMap_map, List.map_flatMap]
    apply List.flatMap_congr
    intro group hgroup
    exact mem_byPair hgroup
  have hcover : ∀ e ∈ edges, ∀ key, some (pairKey e) = some key → key ∈ (byPair edges).keys :=
    fun e he key hkey => mem_keys_byPair.mpr ⟨e, he, hkey⟩
  have hperm := flatMap_filter_perm (fun e => some (pairKey e)) edges (byPair edges).nodup hcover
  have hall : edges.filter (fun e => (some (pairKey e)).isSome) = edges :=
    List.filter_eq_self.mpr (fun _ _ => rfl)
  rw [hall] at hperm
  rw [hgroups]
  exact hperm.map Edge.id

theorem map_fst_groupBends (ids : List String) :
    (groupBends (K := K) ids).map Prod.fst = sorted ids := by
  unfold groupBends
  rw [List.map_map]
  exact List.zipIdx_map_fst 0 (sorted ids)

theorem sorted_perm (l : List String) : (sorted l).Perm l := sortOn_perm Text.utf16 l

/-- What was set for the groups is what is looked up, if ids are distinct. -/
theorem get?_edgeBends (hids : (edges.map Edge.id).Nodup) {ids : List String} {key id : String}
    {bend : K} (hgroup : (key, ids) ∈ (byPair edges).entries) (hbend : (id, bend) ∈ groupBends ids) :
    (edgeBends edges).get? id = some bend := by
  have hflat : edgeBends (K := K) edges = ((byPair edges).entries.flatMap
      (fun group => groupBends group.2)).foldl (fun bends x => bends.set x.1 x.2) .empty := by
    rw [List.foldl_flatMap]
    rfl
  have hkeys : (((byPair edges).entries.flatMap
      (fun group => groupBends (K := K) group.2)).map Prod.fst).Nodup := by
    rw [List.map_flatMap]
    have hperm : ((byPair edges).entries.flatMap
        (fun group => (groupBends (K := K) group.2).map Prod.fst)).Perm
        ((byPair edges).entries.flatMap Prod.snd) := by
      apply List.Perm.flatMap_left
      intro group _
      rw [map_fst_groupBends]
      exact sorted_perm group.2
    exact (hperm.trans groups_perm).nodup_iff.mpr hids
  rw [hflat, Dict.get?_foldl_set_entries hkeys, Dict.get?_empty, Option.or_none,
    Dict.lookup_eq_some_iff hkeys]
  exact List.mem_flatMap.mpr ⟨(key, ids), hgroup, hbend⟩

/-- **Parallel edges** have different bends, all of them to the left. -/
theorem edgeBends_apart [LinearOrder K] [IsStrictOrderedRing K] (hids : (edges.map Edge.id).Nodup)
    {e e' : Edge} (he : e ∈ edges) (he' : e' ∈ edges) (hne : e ≠ e')
    (hpair : pairKey e = pairKey e') :
    ∃ b b' : K, (edgeBends edges).get? e.id = some b ∧ (edgeBends edges).get? e'.id = some b' ∧
      0 < b ∧ 0 < b' ∧ b ≠ b' := by
  obtain ⟨ids, hids'⟩ := Dict.mem_keys_iff.mp (mem_keys_byPair.mpr ⟨e, he, rfl⟩)
  have hgroup := Dict.get?_eq_some_iff.mp hids'
  have hmem : ∀ f ∈ edges, pairKey f = pairKey e → f.id ∈ sorted ids := by
    intro f hf hkey
    rw [(sorted_perm ids).mem_iff, mem_byPair hgroup]
    exact List.mem_map.mpr ⟨f, List.mem_filter.mpr ⟨hf, by rw [hkey]; exact decide_eq_true rfl⟩, rfl⟩
  -- their places in the sorted group tell them apart
  obtain ⟨i, hi⟩ := List.getElem?_of_mem (hmem e he rfl)
  obtain ⟨j, hj⟩ := List.getElem?_of_mem (hmem e' he' hpair.symm)
  have hij : i ≠ j := by
    intro h
    rw [h, hj] at hi
    exact hne (List.inj_on_of_nodup_map hids he he' (Option.some.inj hi).symm)
  have hmany : ids.length ≠ 1 := by
    have hlength := (sorted_perm ids).length_eq
    have hi' := (List.getElem?_eq_some_iff.mp hi).1
    have hj' := (List.getElem?_eq_some_iff.mp hj).1
    omega
  have hbend : ∀ (k : Nat) (id : String), (sorted ids)[k]? = some id →
      (edgeBends edges).get? id = some (bendStep * ((k : K) + 1)) := by
    intro k id hk
    refine get?_edgeBends hids hgroup (List.mem_map.mpr ⟨(id, k), ?_, ?_⟩)
    · exact List.mem_zipIdx_iff_getElem?.mpr hk
    · rw [if_neg hmany]
  have hstep : (0 : K) < bendStep := by
    unfold bendStep
    norm_num
  refine ⟨_, _, hbend i e.id hi, hbend j e'.id hj, by positivity, by positivity, ?_⟩
  intro h
  have hcast := add_right_cancel (mul_left_cancel₀ hstep.ne' h)
  exact hij (Nat.cast_injective hcast)

end parallel

/-! ### Routes -/

section routes
variable {a b o : Disc ℝ}

/-- `Math.hypot`. -/
noncomputable def hypot (x y : ℝ) : ℝ := √(x ^ 2 + y ^ 2)

theorem hypot_mul_self (x y : ℝ) : hypot x y * hypot x y = x ^ 2 + y ^ 2 :=
  Real.mul_self_sqrt (by positivity)

theorem length_nonneg (a b : Disc ℝ) : 0 ≤ length hypot a b := Real.sqrt_nonneg _

theorem length_mul_self (a b : Disc ℝ) :
    length hypot a b * length hypot a b = (b.x - a.x) ^ 2 + (b.y - a.y) ^ 2 :=
  hypot_mul_self _ _

theorem length_comm (a b : Disc ℝ) : length hypot b a = length hypot a b := by
  unfold length hypot
  congr 1
  ring

theorem along_mirror (o : Disc ℝ) (h : length hypot a b ≠ 0) :
    along hypot b a o = 1 - along hypot a b o := by
  unfold along
  rw [length_comm, eq_sub_iff_add_eq, ← add_div, div_eq_one_iff_eq (mul_self_ne_zero.mpr h),
    length_mul_self]
  ring

theorem beside_mirror (a b o : Disc ℝ) : beside hypot b a o = -beside hypot a b o := by
  unfold beside
  rw [length_comm]
  ring

/-- Left and right exchanged. -/
def Needs.mirror (needs : Needs ℝ) : Needs ℝ := ⟨needs.right, needs.left, needs.blocked⟩

/-- **An obstacle** seen from the other end. -/
theorem avoid_mirror {source target : String} (h : length hypot a b ≠ 0) (needs : Needs ℝ)
    (o : String × Disc ℝ) : avoid hypot target source b a needs.mirror o =
      (avoid hypot source target a b needs o).mirror := by
  unfold avoid
  by_cases hend : o.1 = source ∨ o.1 = target
  · rw [if_pos hend, if_pos hend.symm]
  rw [if_neg hend, if_neg (fun hend' => hend hend'.symm), along_mirror o.2 h, beside_mirror a b o.2]
  generalize along hypot a b o.2 = t
  generalize beside hypot a b o.2 = d
  have hout : 1 - t ≤ 0 ∨ 1 - t ≥ 1 ↔ t ≤ 0 ∨ t ≥ 1 := by
    constructor
    all_goals
      intro hout
      rcases hout with hout | hout
      · right
        linarith
      · left
        linarith
  have hf : 2 * (1 - t) * (1 - (1 - t)) = 2 * t * (1 - t) := by ring
  simp only [hout, abs_neg, hf]
  by_cases ht : t ≤ 0 ∨ t ≥ 1
  · rw [if_pos ht, if_pos ht]
  rw [if_neg ht, if_neg ht]
  by_cases hreach : |d| ≥ o.2.r + edgeClearance
  · rw [if_pos hreach, if_pos hreach]
  rw [if_neg hreach, if_neg hreach]
  -- an obstacle on the line itself is on the left both times, and as far round as away
  rcases lt_trichotomy d 0 with hd | hd | hd
  · rw [if_pos (by linarith), if_neg (by linarith)]
    rfl
  · rw [hd, neg_zero, if_pos le_rfl, if_pos le_rfl, abs_zero, sub_zero, zero_add]
    rfl
  · rw [if_neg (by linarith), if_pos hd.le]
    rfl

theorem needs_mirror (discs : Dict String (Disc ℝ)) (source target : String)
    (h : length hypot a b ≠ 0) :
    needs hypot discs target source b a = (needs hypot discs source target a b).mirror := by
  unfold needs
  have hinit : (⟨0, 0, false⟩ : Needs ℝ) = Needs.mirror ⟨0, 0, false⟩ := rfl
  rw [hinit, List.foldl_hom Needs.mirror (avoid_mirror h), ← hinit]

theorem avoid_nonneg {source target : String} {needs : Needs ℝ} (hleft : 0 ≤ needs.left)
    (hright : 0 ≤ needs.right) (o : String × Disc ℝ) :
    0 ≤ (avoid hypot source target a b needs o).left ∧
      0 ≤ (avoid hypot source target a b needs o).right := by
  unfold avoid
  dsimp only
  split_ifs
  all_goals exact ⟨by simp [hleft], by simp [hright]⟩

theorem needs_nonneg (discs : Dict String (Disc ℝ)) (source target : String) (a b : Disc ℝ) :
    0 ≤ (needs hypot discs source target a b).left ∧
      0 ≤ (needs hypot discs source target a b).right := by
  unfold needs
  refine List.foldlRecOn (motive := fun n : Needs ℝ => 0 ≤ n.left ∧ 0 ≤ n.right) _ _
    ⟨le_rfl, le_rfl⟩ ?_
  intro n hn o _
  exact avoid_nonneg hn.1 hn.2 o

end routes

/-! ### Displacements -/

/-- The bend of an edge as seen from one of its ends: to the left of the way from there. -/
def displacement (viewpoint : String) (e : Edge) (bend : ℝ) : ℝ :=
  if e.sourceId = viewpoint then bend else -bend

/-- An edge between two nodes, in either direction. -/
def Joins (e : Edge) (n n' : String) : Prop :=
  e.sourceId = n ∧ e.targetId = n' ∨ e.sourceId = n' ∧ e.targetId = n

section displacements
variable {discs : Dict String (Disc ℝ)} {parallel : Dict String ℝ} {edges : List Edge} {e e' : Edge}

theorem pairKey_of_joins (hends : e.sourceId ≠ e.targetId) (h : Joins e' e.sourceId e.targetId) :
    pairKey e = pairKey e' := by
  unfold pairKey
  rcases h with ⟨hs, ht⟩ | ⟨hs, ht⟩
  · rw [hs, ht]
  · have hnodup : ([e.sourceId, e.targetId].map Text.utf16).Nodup :=
      (List.nodup_cons.mpr ⟨by simpa using hends, List.nodup_singleton _⟩).map Text.utf16_injective
    rw [hs, ht]
    exact congrArg _ (sortOn_eq_of_perm (List.Perm.swap _ _ _) hnodup)

/-- The bend of an edge on top of which it is routed. -/
def base (parallel : Dict String ℝ) (e : Edge) : ℝ := (parallel.get? e.id).getD 0

/-- The obstacles between two nodes and the cap, if anything is in the way. -/
noncomputable def blocking (discs : Dict String (Disc ℝ)) (n n' : String) :
    Option (Needs ℝ × ℝ) :=
  (discs.get? n).bind fun a => (discs.get? n').bind fun b =>
    if length hypot a b = 0 then none
    else if (needs hypot discs n n' a b).blocked then
      some (needs hypot discs n n' a b, maxBendRatio * length hypot a b)
    else none

theorem routeBend_eq (hends : e.sourceId ≠ e.targetId) : routeBend hypot discs parallel e =
    (blocking discs e.sourceId e.targetId).elim (base parallel e)
      (fun way => detour way.1 way.2 (base parallel e)) := by
  unfold routeBend blocking base
  cases ha : discs.get? e.sourceId with
  | none => rfl
  | some a =>
    cases hb : discs.get? e.targetId with
    | none => rfl
    | some b =>
      dsimp only [Option.bind_some]
      rw [if_neg hends]
      split_ifs
      all_goals rfl

/-- **Both directions** meet the same obstacles. -/
theorem blocking_mirror (discs : Dict String (Disc ℝ)) (n n' : String) :
    blocking discs n' n = (blocking discs n n').map (fun way => (way.1.mirror, way.2)) := by
  unfold blocking
  cases ha : discs.get? n with
  | none => cases discs.get? n' <;> rfl
  | some a =>
    cases hb : discs.get? n' with
    | none => rfl
    | some b =>
      dsimp only [Option.bind_some]
      rw [length_comm a b]
      by_cases hlength : length hypot a b = 0
      · rw [if_pos hlength, if_pos hlength]
        rfl
      · rw [if_neg hlength, if_neg hlength, needs_mirror discs n n' hlength]
        rw [apply_ite (Option.map _)]
        rfl

theorem blocking_nonneg {n n' : String} {way : Needs ℝ × ℝ} (h : blocking discs n n' = some way) :
    0 ≤ way.1.left ∧ 0 ≤ way.1.right ∧ 0 ≤ way.2 := by
  unfold blocking at h
  simp only [Option.bind_eq_some_iff] at h
  obtain ⟨a, -, b, -, h⟩ := h
  split_ifs at h
  rw [← Option.some.inj h]
  obtain ⟨hleft, hright⟩ := needs_nonneg discs n n' a b
  refine ⟨hleft, hright, mul_nonneg ?_ (length_nonneg a b)⟩
  unfold maxBendRatio
  norm_num

/-- Detours in the same direction, on the same side. -/
theorem detour_ne {needs : Needs ℝ} {cap b b' : ℝ} (hne : b ≠ b') :
    detour needs cap b ≠ detour needs cap b' := by
  unfold detour
  split_ifs
  · exact fun h => hne (add_left_cancel h)
  · exact fun h => hne (add_left_cancel (neg_inj.mp h))

/-- Detours in opposite directions. On sides that need the same, each edge goes to its own left. -/
theorem detour_mirror_ne {needs : Needs ℝ} {cap b b' : ℝ} (hleft : 0 ≤ needs.left)
    (hright : 0 ≤ needs.right) (hcap : 0 ≤ cap) (hb : 0 < b) (hb' : 0 < b') (hne : b ≠ b') :
    detour needs cap b ≠ -detour needs.mirror cap b' := by
  have hl : 0 ≤ min needs.left cap := le_min hleft hcap
  have hr : 0 ≤ min needs.right cap := le_min hright hcap
  unfold detour Needs.mirror
  dsimp only
  intro h
  rcases lt_trichotomy needs.left needs.right with hlt | heq | hgt
  · -- both pass on the left of the first
    rw [if_pos hlt.le, if_neg (not_le.mpr hlt), neg_neg] at h
    exact hne (add_left_cancel h)
  · rw [if_pos heq.le, if_pos heq.ge] at h
    linarith
  · -- both pass on its right
    rw [if_neg (not_le.mpr hgt), if_pos hgt.le] at h
    exact hne (add_left_cancel (neg_inj.mp h))

/-- **Routed edges** with different bends for being parallel stay apart. -/
theorem displacement_ne (hends : e.sourceId ≠ e.targetId) (hjoins : Joins e' e.sourceId e.targetId)
    (hb : 0 < base parallel e) (hb' : 0 < base parallel e')
    (hne : base parallel e ≠ base parallel e') :
    displacement e.sourceId e (routeBend hypot discs parallel e) ≠
      displacement e.sourceId e' (routeBend hypot discs parallel e') := by
  unfold displacement
  rw [if_pos rfl, routeBend_eq hends]
  rcases hjoins with ⟨hs, ht⟩ | ⟨hs, ht⟩
  · -- in the same direction, both see the same
    have hends' : e'.sourceId ≠ e'.targetId := by rwa [hs, ht]
    rw [if_pos hs, routeBend_eq hends', hs, ht]
    cases blocking discs e.sourceId e.targetId with
    | none => exact hne
    | some way => exact detour_ne hne
  · have hends' : e'.sourceId ≠ e'.targetId := by
      rw [hs, ht]
      exact hends.symm
    have hback : e'.sourceId ≠ e.sourceId := by
      rw [hs]
      exact hends.symm
    rw [if_neg hback, routeBend_eq hends', hs, ht, blocking_mirror discs e.sourceId e.targetId]
    cases hway : blocking discs e.sourceId e.targetId with
    | none =>
      -- nothing is in the way: each bends to its own left
      show base parallel e ≠ -base parallel e'
      linarith
    | some way =>
      obtain ⟨hleft, hright, hcap⟩ := blocking_nonneg hway
      exact detour_mirror_ne hleft hright hcap hb hb' hne

theorem get?_routeBends (hids : (edges.map Edge.id).Nodup) (he : e ∈ edges) :
    (routeBends hypot edges discs parallel).get? e.id =
      some (routeBend hypot discs parallel e) := by
  have hmap : routeBends hypot edges discs parallel = (edges.map
      (fun e => (e.id, routeBend hypot discs parallel e))).foldl (fun d x => d.set x.1 x.2) .empty := by
    rw [List.foldl_map]
    rfl
  have hkeys : ((edges.map (fun e => (e.id, routeBend hypot discs parallel e))).map
      Prod.fst).Nodup := by
    rw [List.map_map]
    exact hids
  rw [hmap, Dict.get?_foldl_set_entries hkeys, Dict.get?_empty, Option.or_none,
    Dict.lookup_eq_some_iff hkeys]
  exact List.mem_map.mpr ⟨e, he, rfl⟩

end displacements

/-! ### Curves -/

section curves
variable {a b : Disc ℝ} {h h' : ℝ}

/-- A path is drawn from parameter 0 to parameter 1. -/
noncomputable def Path.point : Path ℝ → ℝ → Point ℝ
  | .line start stop, t => ⟨(1 - t) * start.x + t * stop.x, (1 - t) * start.y + t * stop.y⟩
  | .quadratic start c stop, t => ⟨Bezier.quadratic start.x c.x stop.x t,
      Bezier.quadratic start.y c.y stop.y t⟩

/-- The points of a path. -/
def Path.points (p : Path ℝ) : Set (Point ℝ) := p.point '' Set.Icc 0 1

/-- How far a point is to the left of the way from `a` to `b`. -/
noncomputable def height (a b : Disc ℝ) (p : Point ℝ) : ℝ :=
  (p.x - a.x) * ((b.y - a.y) / length hypot a b) - (p.y - a.y) * ((b.x - a.x) / length hypot a b)

/-- The control point of an edge the other way. -/
theorem control_reverse (a b : Disc ℝ) (h : ℝ) : control hypot b a h = control hypot a b (-h) := by
  unfold control
  rw [length_comm]
  congr 1
  · ring
  · ring

theorem height_control (hlength : length hypot a b ≠ 0) : height a b (control hypot a b h) = h := by
  have hsq := length_mul_self a b
  unfold height control
  field_simp
  linear_combination (-2 * h) * hsq

/-- How far the control point is from the ends of the segment. -/
theorem hypot_control (hlength : length hypot a b ≠ 0) :
    hypot ((control hypot a b h).x - a.x) ((control hypot a b h).y - a.y) =
      √((length hypot a b / 2) ^ 2 + h ^ 2) := by
  have hsq := length_mul_self a b
  have hunit : ((b.y - a.y) / length hypot a b) ^ 2 + ((b.x - a.x) / length hypot a b) ^ 2 = 1 := by
    field_simp
    linear_combination -hsq
  have hdist : ((control hypot a b h).x - a.x) ^ 2 + ((control hypot a b h).y - a.y) ^ 2 =
      (length hypot a b / 2) ^ 2 + h ^ 2 := by
    unfold control
    dsimp only
    linear_combination h ^ 2 * hunit - hsq / 4
  exact congrArg Real.sqrt hdist

/-- Where a curve leaves a disc that the segment ends at. -/
theorem height_towards {o : Disc ℝ} {c : Point ℝ} {d : ℝ} (ho : height a b ⟨o.x, o.y⟩ = 0)
    (hd : hypot (c.x - o.x) (c.y - o.y) = d) (hpos : d ≠ 0) :
    height a b (towards hypot o c) = o.r * (height a b c / d) := by
  unfold towards
  dsimp only
  rw [hd, if_neg hpos]
  unfold height at ho ⊢
  linear_combination (1 - o.r / d) * ho

theorem root_ne_zero (hpos : 0 < length hypot a b) (h : ℝ) :
    √((length hypot a b / 2) ^ 2 + h ^ 2) ≠ 0 :=
  (Real.sqrt_pos.mpr (by positivity)).ne'

theorem height_start (hpos : 0 < length hypot a b) (h : ℝ) :
    height a b (towards hypot a (control hypot a b h)) =
      a.r * Bezier.slope (length hypot a b / 2) h := by
  have ha : height a b ⟨a.x, a.y⟩ = 0 := by
    unfold height
    ring
  rw [height_towards ha (hypot_control hpos.ne') (root_ne_zero hpos h), height_control hpos.ne']
  rfl

theorem height_stop (hpos : 0 < length hypot a b) (h : ℝ) :
    height a b (towards hypot b (control hypot a b h)) =
      b.r * Bezier.slope (length hypot a b / 2) h := by
  have hb : height a b ⟨b.x, b.y⟩ = 0 := by
    unfold height
    ring
  have hd : hypot ((control hypot a b h).x - b.x) ((control hypot a b h).y - b.y) =
      √((length hypot a b / 2) ^ 2 + h ^ 2) := by
    have hback := hypot_control (a := b) (b := a) (h := -h) (length_comm a b ▸ hpos).ne'
    rw [control_reverse, neg_neg, length_comm, neg_sq] at hback
    exact hback
  rw [height_towards hb hd (root_ne_zero hpos h), height_control hpos.ne']
  rfl

theorem height_quadratic (a b : Disc ℝ) (start c stop : Point ℝ) (t : ℝ) :
    height a b ((Path.quadratic start c stop).point t) =
      Bezier.quadratic (height a b start) (height a b c) (height a b stop) t := by
  unfold height Path.point Bezier.quadratic
  ring

theorem height_line (a b : Disc ℝ) (start stop : Point ℝ) (t : ℝ) :
    height a b ((Path.line start stop).point t) =
      (1 - t) * height a b start + t * height a b stop := by
  unfold height Path.point
  ring

theorem length_pos_of_floatingPath {p : Path ℝ × Point ℝ} (hp : floatingPath hypot a b h = some p) :
    0 < length hypot a b := by
  by_contra hzero
  have htouch : length hypot a b ≤ a.r + b.r :=
    (not_lt.mp hzero).trans (add_nonneg a.r_nonneg b.r_nonneg)
  unfold floatingPath at hp
  rw [if_pos htouch] at hp
  cases hp

/-- **The heights** of a path over the segment are those of a bow. -/
theorem heights {p : Path ℝ × Point ℝ} (hp : floatingPath hypot a b h = some p) :
    height a b '' p.1.points = Bezier.bow (length hypot a b / 2) a.r b.r h '' Set.Icc 0 1 := by
  have hpos := length_pos_of_floatingPath hp
  unfold floatingPath at hp
  unfold Path.points
  rw [Set.image_image]
  apply Set.image_congr
  intro t _
  split_ifs at hp with htouch hstraight
  · -- neither end of a straight path is above the segment
    rw [← Option.some.inj hp, height_line, height_start hpos, height_stop hpos, hstraight]
    unfold Bezier.bow Bezier.slope Bezier.quadratic
    ring
  · rw [← Option.some.inj hp, height_quadratic, height_start hpos, height_stop hpos,
      height_control hpos.ne']
    rfl

theorem points_ne {p p' : Path ℝ × Point ℝ} (hne : h ≠ h') (hp : floatingPath hypot a b h = some p)
    (hp' : floatingPath hypot a b h' = some p') : p.1.points ≠ p'.1.points := by
  intro heq
  have hpos := length_pos_of_floatingPath hp
  refine Bezier.image_bow_ne (half_pos hpos) a.r_nonneg b.r_nonneg hne ?_
  rw [← heights hp, ← heights hp', heq]

/-- A path the other way. -/
def Path.reverse : Path ℝ → Path ℝ
  | .line start stop => .line stop start
  | .quadratic start c stop => .quadratic stop c start

theorem Path.point_reverse (p : Path ℝ) (t : ℝ) : p.reverse.point t = p.point (1 - t) := by
  cases p with
  | line start stop =>
    unfold Path.reverse Path.point
    dsimp only
    rw [sub_sub_cancel, add_comm, add_comm (t * start.y)]
  | quadratic start c stop =>
    unfold Path.reverse Path.point
    dsimp only
    rw [Bezier.quadratic_reverse start.x, Bezier.quadratic_reverse start.y]

theorem Path.points_reverse (p : Path ℝ) : p.reverse.points = p.points := by
  have hback : (fun t : ℝ => 1 - t) '' Set.Icc 0 1 = Set.Icc 0 1 := by
    rw [Set.image_const_sub_Icc, sub_self, sub_zero]
  unfold Path.points
  nth_rewrite 2 [← hback]
  rw [Set.image_image]
  exact Set.image_congr (fun t _ => p.point_reverse t)

theorem floatingPath_reverse (a b : Disc ℝ) (h : ℝ) : floatingPath hypot b a h =
    (floatingPath hypot a b (-h)).map (fun p => (p.1.reverse, p.2)) := by
  unfold floatingPath
  rw [length_comm a b, add_comm b.r, control_reverse]
  by_cases htouch : length hypot a b ≤ a.r + b.r
  · rw [if_pos htouch, if_pos htouch]
    rfl
  rw [if_neg htouch, if_neg htouch]
  simp only [Option.map_some, neg_eq_zero]
  congr 2
  · rw [apply_ite Path.reverse]
    rfl
  · -- the label is on the same point
    congr 1
    · ring
    · ring

/-- **Different displacements** give different curves, wherever the two nodes are drawn. -/
theorem curves_ne {e e' : Edge} {bend bend' : ℝ} {p p' : Path ℝ × Point ℝ}
    (place : String → Disc ℝ) (hends : e.sourceId ≠ e.targetId)
    (hjoins : Joins e' e.sourceId e.targetId)
    (hne : displacement e.sourceId e bend ≠ displacement e.sourceId e' bend')
    (hp : floatingPath hypot (place e.sourceId) (place e.targetId) bend = some p)
    (hp' : floatingPath hypot (place e'.sourceId) (place e'.targetId) bend' = some p') :
    p.1.points ≠ p'.1.points := by
  unfold displacement at hne
  rw [if_pos rfl] at hne
  rcases hjoins with ⟨hs, ht⟩ | ⟨hs, ht⟩
  · rw [if_pos hs] at hne
    rw [hs, ht] at hp'
    exact points_ne hne hp hp'
  · -- the path of the other direction is one of this direction, run backwards
    rw [if_neg (by rw [hs]; exact hends.symm)] at hne
    rw [hs, ht, floatingPath_reverse] at hp'
    obtain ⟨q, hq, rfl⟩ := Option.map_eq_some_iff.mp hp'
    rw [Path.points_reverse]
    exact points_ne hne hp hq

end curves

/-! ### Parallel edges are drawn apart -/

/-- **Two edges between the same two nodes**, in either direction, are displaced differently on
    the one side of the segment, and no drawing gives them the same curve. -/
theorem parallel_edges_apart {edges : List Edge} {e e' : Edge} (discs : Dict String (Disc ℝ))
    (hids : (edges.map Edge.id).Nodup) (he : e ∈ edges) (he' : e' ∈ edges) (hne : e ≠ e')
    (hends : e.sourceId ≠ e.targetId) (hjoins : Joins e' e.sourceId e.targetId) :
    ∃ bend bend' : ℝ,
      (routeBends hypot edges discs (edgeBends edges)).get? e.id = some bend ∧
      (routeBends hypot edges discs (edgeBends edges)).get? e'.id = some bend' ∧
      displacement e.sourceId e bend ≠ displacement e.sourceId e' bend' ∧
      ∀ (place : String → Disc ℝ) (p p' : Path ℝ × Point ℝ),
        floatingPath hypot (place e.sourceId) (place e.targetId) bend = some p →
        floatingPath hypot (place e'.sourceId) (place e'.targetId) bend' = some p' →
        p.1.points ≠ p'.1.points := by
  obtain ⟨b, b', hb, hb', hpos, hpos', hapart⟩ :=
    edgeBends_apart (K := ℝ) hids he he' hne (pairKey_of_joins hends hjoins)
  have hbase : base (edgeBends edges) e = b := by
    unfold base
    rw [hb]
    rfl
  have hbase' : base (edgeBends edges) e' = b' := by
    unfold base
    rw [hb']
    rfl
  have hdisplaced := @displacement_ne discs (edgeBends edges) e e' hends hjoins (by rwa [hbase])
    (by rwa [hbase']) (by rwa [hbase, hbase'])
  refine ⟨_, _, get?_routeBends hids he, get?_routeBends hids he', hdisplaced, ?_⟩
  intro place p p' hp hp'
  exact curves_ne place hends hjoins hdisplaced hp hp'

/-- Traffic both ways between two nodes. -/
def bothWays : List Edge := [⟨"ab", "a", "b"⟩, ⟨"ba", "b", "a"⟩]

theorem ten_nonneg : (0 : ℝ) ≤ 10 := by norm_num

/-- A disc on a horizontal line. -/
noncomputable def onLine (x : ℝ) : Disc ℝ := ⟨x, 0, 10, ten_nonneg⟩

/-- The two nodes, and a third one half way between them. -/
noncomputable def inTheWay : Dict String (Disc ℝ) :=
  ((Dict.empty.set "a" (onLine 0)).set "b" (onLine 100)).set "c" (onLine 50)

theorem exists_floatingPath {a b : Disc ℝ} (h : a.r + b.r < length hypot a b) (bend : ℝ) :
    ∃ p, floatingPath hypot a b bend = some p := by
  unfold floatingPath
  rw [if_neg (not_le.mpr h)]
  exact ⟨_, rfl⟩

theorem parallel_edges_apart_both_ways : ∃ (bend bend' : ℝ) (p p' : Path ℝ × Point ℝ),
    (routeBends hypot bothWays inTheWay (edgeBends bothWays)).get? "ab" = some bend ∧
    (routeBends hypot bothWays inTheWay (edgeBends bothWays)).get? "ba" = some bend' ∧
    bend ≠ -bend' ∧
    floatingPath hypot (onLine 0) (onLine 100) bend = some p ∧
    floatingPath hypot (onLine 100) (onLine 0) bend' = some p' ∧
    p.1.points ≠ p'.1.points := by
  obtain ⟨bend, bend', hbend, hbend', hne, hcurves⟩ := @parallel_edges_apart bothWays
    ⟨"ab", "a", "b"⟩ ⟨"ba", "b", "a"⟩ inTheWay (by decide) (by decide) (by decide) (by decide)
    (by decide) (.inr ⟨rfl, rfl⟩)
  have hfar : length hypot (onLine 0) (onLine 100) = 100 := by
    unfold length hypot onLine
    norm_num
  have hapart : (onLine 0).r + (onLine 100).r < length hypot (onLine 0) (onLine 100) := by
    rw [hfar]
    unfold onLine
    norm_num
  have hapart' : (onLine 100).r + (onLine 0).r < length hypot (onLine 100) (onLine 0) := by
    rwa [length_comm, add_comm]
  obtain ⟨p, hp⟩ := exists_floatingPath hapart bend
  obtain ⟨p', hp'⟩ := exists_floatingPath hapart' bend'
  refine ⟨bend, bend', p, p', hbend, hbend', ?_, hp, hp', ?_⟩
  · unfold displacement at hne
    rwa [if_pos rfl, if_neg (by decide)] at hne
  · exact hcurves (fun id => if id = "a" then onLine 0 else onLine 100) p p' hp hp'

end TopologyVisualizer.Frontend.EdgeGeometry
