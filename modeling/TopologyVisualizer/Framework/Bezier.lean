import Mathlib.Analysis.Real.Sqrt
import Mathlib.Topology.Order.IntermediateValue

/-! # Bows over a Segment

    A quadratic Bézier curve that bows over a segment: its control point is
    at height `h` over the middle of the segment, and it starts and ends at
    given distances from the ends of the segment, on the lines to the
    control point. `bow` is the height of its points over the segment.

    A higher control point gives a higher bow (`exists_above`), so bows with
    different control points have points at different heights
    (`image_bow_ne`).
-/

namespace Bezier

open Set

/-- A point of the quadratic curve from `p` to `q` with control point `c`, in one coordinate: on the
    way from a point of the segment to `c` to the point of the segment from `c`. -/
def quadratic {K : Type*} [Field K] (p c q t : K) : K :=
  (1 - t) * ((1 - t) * p + t * c) + t * ((1 - t) * c + t * q)

/-- The curve run backwards. -/
theorem quadratic_reverse {K : Type*} [Field K] (p c q t : K) :
    quadratic q c p t = quadratic p c q (1 - t) := by
  unfold quadratic
  ring

section bow
variable {half ra rb h h' t : ℝ}

/-- How far up the way from an end of the segment to the control point leads, per unit. -/
noncomputable def slope (half h : ℝ) : ℝ := h / √(half ^ 2 + h ^ 2)

/-- The height of a bow: `half` is half the length of the segment, `ra` and `rb` are the distances
    at which the curve starts and ends. -/
noncomputable def bow (half ra rb h t : ℝ) : ℝ :=
  quadratic (ra * slope half h) h (rb * slope half h) t

theorem slope_lt (hhalf : 0 < half) (hpos : 0 ≤ h) (hlt : h < h') : slope half h < slope half h' := by
  have hroot : 0 < √(half ^ 2 + h ^ 2) := Real.sqrt_pos.mpr (by positivity)
  have hroot' : 0 < √(half ^ 2 + h' ^ 2) := Real.sqrt_pos.mpr (by positivity)
  unfold slope
  rw [div_lt_div_iff₀ hroot hroot']
  apply lt_of_pow_lt_pow_left₀ 2 (mul_nonneg (hpos.trans hlt.le) (Real.sqrt_nonneg _))
  rw [mul_pow, mul_pow, Real.sq_sqrt (by positivity), Real.sq_sqrt (by positivity)]
  have hsq : h ^ 2 < h' ^ 2 := pow_lt_pow_left₀ hlt hpos two_ne_zero
  have hhalf2 : 0 < half ^ 2 := by positivity
  nlinarith

theorem slope_neg : slope half (-h) = -slope half h := by
  unfold slope
  rw [neg_sq, neg_div]

theorem bow_neg : bow half ra rb (-h) t = -bow half ra rb h t := by
  unfold bow quadratic
  rw [slope_neg]
  ring

/-- In its middle, a bow is at half the height of the control point or higher. -/
theorem half_le_bow (half : ℝ) (hra : 0 ≤ ra) (hrb : 0 ≤ rb) (hpos : 0 ≤ h) :
    h / 2 ≤ bow half ra rb h (1 / 2) := by
  have hslope : 0 ≤ slope half h := div_nonneg hpos (Real.sqrt_nonneg _)
  have hends : 0 ≤ (ra + rb) * slope half h := mul_nonneg (add_nonneg hra hrb) hslope
  unfold bow quadratic
  linarith

/-- Between its ends, a bow is below one with a higher control point. -/
theorem bow_lt (hhalf : 0 < half) (hra : 0 ≤ ra) (hrb : 0 ≤ rb) (hpos : 0 ≤ h) (hlt : h < h')
    (ht : 0 < t) (ht' : t < 1) : bow half ra rb h t < bow half ra rb h' t := by
  have hslope := (slope_lt hhalf hpos hlt).le
  have hstart : (1 - t) ^ 2 * (ra * slope half h) ≤ (1 - t) ^ 2 * (ra * slope half h') := by gcongr
  have hend : t ^ 2 * (rb * slope half h) ≤ t ^ 2 * (rb * slope half h') := by gcongr
  have hmiddle : 2 * t * (1 - t) * h < 2 * t * (1 - t) * h' :=
    mul_lt_mul_of_pos_left hlt (mul_pos (by linarith) (by linarith))
  unfold bow quadratic
  linarith

theorem continuous_bow (half ra rb h : ℝ) : Continuous (bow half ra rb h) := by
  unfold bow quadratic
  fun_prop

/-- **A higher control point** gives a point above all of the bow. -/
theorem exists_above (hhalf : 0 < half) (hra : 0 ≤ ra) (hrb : 0 ≤ rb) (hpos : 0 ≤ h)
    (hlt : h < h') : ∃ t ∈ Icc (0 : ℝ) 1, ∀ s ∈ Icc (0 : ℝ) 1,
      bow half ra rb h s < bow half ra rb h' t := by
  obtain ⟨top, htop, hmax⟩ := isCompact_Icc.exists_isMaxOn (nonempty_Icc.mpr zero_le_one)
    (continuous_bow half ra rb h).continuousOn
  have hmax : ∀ s ∈ Icc (0 : ℝ) 1, bow half ra rb h s ≤ bow half ra rb h top :=
    fun s hs => hmax hs
  have hmiddle : (1 / 2 : ℝ) ∈ Icc (0 : ℝ) 1 := ⟨by norm_num, by norm_num⟩
  -- at an end of the segment, the bow is as high as the slope says
  have hat_end : ∀ r, 0 ≤ r → bow half ra rb h top = r * slope half h →
      (∃ e ∈ Icc (0 : ℝ) 1, bow half ra rb h' e = r * slope half h') →
      ∃ t ∈ Icc (0 : ℝ) 1, ∀ s ∈ Icc (0 : ℝ) 1, bow half ra rb h s < bow half ra rb h' t := by
    intro r hr hvalue hend
    obtain ⟨e, he, hvalue'⟩ := hend
    rcases hr.lt_or_eq with hr | hr
    · refine ⟨e, he, ?_⟩
      intro s hs
      have hslope := mul_lt_mul_of_pos_left (slope_lt hhalf hpos hlt) hr
      linarith [hmax s hs]
    · -- with no distance, the highest point is on the segment
      refine ⟨1 / 2, hmiddle, ?_⟩
      intro s hs
      have hhigh := half_le_bow half hra hrb (hpos.trans hlt.le)
      rw [← hr, zero_mul] at hvalue
      linarith [hmax s hs]
  rcases htop.1.lt_or_eq with hleft | hleft
  · rcases htop.2.lt_or_eq with hright | hright
    · refine ⟨top, htop, ?_⟩
      intro s hs
      exact (hmax s hs).trans_lt (bow_lt hhalf hra hrb hpos hlt hleft hright)
    · refine hat_end rb hrb ?_ ⟨1, ⟨zero_le_one, le_refl 1⟩, ?_⟩
      · rw [hright]
        simp [bow, quadratic]
      · simp [bow, quadratic]
  · refine hat_end ra hra ?_ ⟨0, ⟨le_refl 0, zero_le_one⟩, ?_⟩
    · rw [← hleft]
      simp [bow, quadratic]
    · simp [bow, quadratic]

theorem image_bow_ne_of_lt (hhalf : 0 < half) (hra : 0 ≤ ra) (hrb : 0 ≤ rb) (hpos : 0 ≤ h)
    (hlt : h < h') : bow half ra rb h '' Icc 0 1 ≠ bow half ra rb h' '' Icc 0 1 := by
  intro heq
  obtain ⟨t, ht, habove⟩ := exists_above hhalf hra hrb hpos hlt
  have hmem : bow half ra rb h' t ∈ bow half ra rb h '' Icc 0 1 := heq ▸ mem_image_of_mem _ ht
  obtain ⟨s, hs, hst⟩ := hmem
  exact absurd hst (habove s hs).ne

/-- Bows on different sides are at different heights. -/
theorem image_bow_ne_of_neg (hra : 0 ≤ ra) (hrb : 0 ≤ rb) (hneg : h < 0) (hpos : 0 < h') :
    bow half ra rb h '' Icc 0 1 ≠ bow half ra rb h' '' Icc 0 1 := by
  intro heq
  have hmem : bow half ra rb h' (1 / 2) ∈ bow half ra rb h '' Icc 0 1 :=
    heq ▸ mem_image_of_mem _ ⟨by norm_num, by norm_num⟩
  obtain ⟨s, hs, hst⟩ := hmem
  have hhigh := half_le_bow half hra hrb hpos.le
  have hslope : slope half h ≤ 0 := div_nonpos_of_nonpos_of_nonneg hneg.le (Real.sqrt_nonneg _)
  have hlow : bow half ra rb h s ≤ 0 := by
    have hstart : (1 - s) ^ 2 * (ra * slope half h) ≤ 0 :=
      mul_nonpos_of_nonneg_of_nonpos (sq_nonneg _) (mul_nonpos_of_nonneg_of_nonpos hra hslope)
    have hend : s ^ 2 * (rb * slope half h) ≤ 0 :=
      mul_nonpos_of_nonneg_of_nonpos (sq_nonneg _) (mul_nonpos_of_nonneg_of_nonpos hrb hslope)
    have hmiddle : 2 * s * (1 - s) * h ≤ 0 :=
      mul_nonpos_of_nonneg_of_nonpos
        (mul_nonneg (by linarith [hs.1]) (by linarith [hs.2])) hneg.le
    unfold bow quadratic
    linarith
  linarith

/-- **Different control points** give bows at different heights. -/
theorem image_bow_ne (hhalf : 0 < half) (hra : 0 ≤ ra) (hrb : 0 ≤ rb) (hne : h ≠ h') :
    bow half ra rb h '' Icc 0 1 ≠ bow half ra rb h' '' Icc 0 1 := by
  wlog hlt : h < h' generalizing h h' with hsymm
  · exact (hsymm hne.symm (lt_of_le_of_ne (not_lt.mp hlt) hne.symm)).symm
  rcases le_or_gt 0 h with hpos | hneg
  · exact image_bow_ne_of_lt hhalf hra hrb hpos hlt
  · rcases lt_or_ge 0 h' with hpos' | hneg'
    · exact image_bow_ne_of_neg hra hrb hneg hpos'
    · -- mirrored, it is the bow below that is higher
      intro heq
      have hmirror : ∀ k, (fun y => -y) '' (bow half ra rb k '' Icc 0 1) =
          bow half ra rb (-k) '' Icc 0 1 := by
        intro k
        rw [image_image]
        exact image_congr (fun t _ => bow_neg.symm)
      refine image_bow_ne_of_lt hhalf hra hrb (neg_nonneg.mpr hneg') (neg_lt_neg hlt) ?_
      rw [← hmirror, ← hmirror, heq]

end bow

end Bezier
