import Mathlib.Algebra.Order.Group.Int
import Mathlib.Tactic.Ring
import TopologyVisualizer.Framework.WallClock

/-! # Stepping through History

    `frontend/src/features/timerange/history.ts`. The start of a window is
    kept as the text of a `datetime-local` input: the wall clock of the
    viewer's zone, to the minute. Every step reads it, moves it by the length
    of a window and writes it again.

    What the clock shows twice, when it is put back, is read as the first of
    the two. A step to the second one is lost: an hour later the clock shows
    the same again, and the next step starts from where this one did.
    `step_iff` says when a step forward makes progress and when a step back
    goes back by a window; `steps_kept` is the case in which no start is a
    time that the clock has shown before. The zone is any; what is assumed
    is assumed of the instants that a step writes (`Browser.Keeps`).
-/

namespace TopologyVisualizer.Frontend.History

open Text

/-! ### Dates -/

/-- What a browser has to know: the zone, and what it makes of a text that is not a minute of the
    calendar. -/
structure Browser where
  zone : Zone
  other : String → Option Int

/-- `TimeClip`. An invalid date is none. -/
def timeClip (t : Int) : Option Int := if |t| ≤ 8640000000000000 then some t else none

section dates
variable (browser : Browser)

/-- `new Date(text).getTime()`. -/
def getTime (text : String) : Option Int :=
  (readMinute? text).elim (browser.other text) (fun w => timeClip (browser.zone.utc (1000 * w)))

/-- `setSeconds(0, 0)`. -/
def setSeconds (moment : Option Int) : Option Int :=
  moment.bind (fun t => timeClip (browser.zone.reread t))

/-- `toLocalInputValue`. -/
def toLocalInputValue (moment : Option Int) : String :=
  match moment with
  | none => "NaN-NaN-NaNTNaN:NaN"
  | some t => (Civil.ofUnix (browser.zone.wall t / 1000)).minuteText

/-! ### Steps -/

/-- `WindowPreset`. -/
inductive WindowPreset where
  | m1
  | m5
  | m15
  | h1
  | h6
  | h24
  deriving DecidableEq

/-- `PRESET_MINUTES`. -/
def presetMinutes : WindowPreset → Int
  | .m1 => 1
  | .m5 => 5
  | .m15 => 15
  | .h1 => 60
  | .h6 => 360
  | .h24 => 1440

/-- The length of a window. -/
def span (preset : WindowPreset) : Int := presetMinutes preset * 60000

/-- `direction`. -/
inductive Direction where
  | earlier
  | later

/-- -1 or 1. -/
def Direction.sign : Direction → Int
  | .earlier => -1
  | .later => 1

/-- `initialHistoryStart`. -/
def initialHistoryStart (preset : WindowPreset) (now : Int) : String :=
  toLocalInputValue browser (setSeconds browser (timeClip (now - span preset)))

/-- `stepHistoryStart`. -/
def stepHistoryStart (startLocal : String) (preset : WindowPreset) (direction : Direction)
    (now : Int) : String :=
  match getTime browser startLocal with
  | none => initialHistoryStart browser preset now
  | some start =>
    -- the minimum with a date that is not valid is not either
    toLocalInputValue browser ((setSeconds browser (timeClip (now - span preset))).bind
      fun latest => timeClip (min (start + direction.sign * span preset) latest))

/-- `atLatest`. -/
def atLatest (startLocal : String) (preset : WindowPreset) (now : Int) : Bool :=
  match getTime browser startLocal with
  | none => true
  | some start => decide (start + span preset ≥ now - 60000)

end dates

/-! ### What is written and read -/

/-- An instant that a text can keep: it is a date, at which the offset is of whole minutes and the
    clock shows a year of four digits, and what it is read as is a date too. -/
structure Browser.Keeps (browser : Browser) (t : Int) : Prop where
  regular : browser.zone.RegularAt t
  date : timeClip t = some t
  year : 1000 ≤ (Civil.ofUnix (browser.zone.wall t / 1000)).year
  year' : (Civil.ofUnix (browser.zone.wall t / 1000)).year ≤ 9999
  reread : timeClip (browser.zone.reread t) = some (browser.zone.reread t)

/-- Where a step leads before it is written. -/
def target (preset : WindowPreset) (direction : Direction) (start latest : Int) : Int :=
  min (start + direction.sign * span preset) latest

section steps
variable {browser : Browser} {startLocal : String} {preset : WindowPreset} {start now latest : Int}

theorem span_bounds (preset : WindowPreset) : 60000 ≤ span preset ∧ 60000 ∣ span preset := by
  cases preset <;> decide

theorem eq_of_timeClip {t u : Int} (h : timeClip t = some u) : u = t := by
  unfold timeClip at h
  split at h
  · exact (Option.some.inj h).symm
  · cases h

/-- **Writing and reading** an instant. -/
theorem getTime_toLocalInputValue {t : Int} (h : browser.Keeps t) :
    getTime browser (toLocalInputValue browser (some t)) = some (browser.zone.reread t) := by
  have hread := Civil.readMinute?_minuteText h.year h.year'
  have hminute : 1000 * (browser.zone.wall t / 1000 - browser.zone.wall t / 1000 % 60) =
      Zone.floorMinute (browser.zone.wall t) := by
    unfold Zone.floorMinute
    omega
  unfold getTime toLocalInputValue
  rw [hread, Option.elim_some, hminute]
  exact h.reread

/-- The latest start is that of the window up to now, to the minute. -/
theorem latest_eq (hlatest : setSeconds browser (timeClip (now - span preset)) = some latest) :
    latest = browser.zone.reread (now - span preset) := by
  obtain ⟨t, ht, hclip⟩ := Option.bind_eq_some_iff.mp hlatest
  rw [eq_of_timeClip hclip, eq_of_timeClip ht]

/-- **A step** leads to its target, as that is read back. -/
theorem getTime_step (hstart : getTime browser startLocal = some start)
    (hlatest : setSeconds browser (timeClip (now - span preset)) = some latest)
    (direction : Direction) (hkeeps : browser.Keeps (target preset direction start latest)) :
    getTime browser (stepHistoryStart browser startLocal preset direction now) =
      some (browser.zone.reread (target preset direction start latest)) := by
  unfold stepHistoryStart
  rw [hstart, hlatest]
  dsimp only [Option.bind_some]
  rw [← target, hkeeps.date]
  exact getTime_toLocalInputValue hkeeps

/-- **A step** to a start that the clock has not shown before. -/
theorem getTime_step_kept (hstart : getTime browser startLocal = some start)
    (hwhole : 60000 ∣ start)
    (hlatest : setSeconds browser (timeClip (now - span preset)) = some latest)
    (direction : Direction) (hkeeps : browser.Keeps (start + direction.sign * span preset))
    (hle : start + direction.sign * span preset ≤ latest)
    (hfirst : browser.zone.First (start + direction.sign * span preset)) :
    getTime browser (stepHistoryStart browser startLocal preset direction now) =
      some (start + direction.sign * span preset) := by
  obtain ⟨-, hminutes⟩ := span_bounds preset
  have hwhole' : 60000 ∣ start + direction.sign * span preset :=
    Int.dvd_add hwhole (hminutes.mul_left _)
  have htarget : target preset direction start latest = start + direction.sign * span preset :=
    min_eq_left hle
  rw [getTime_step hstart hlatest direction (htarget.symm ▸ hkeeps), htarget,
    hkeeps.regular.reread_eq_iff.mpr ⟨hwhole', hfirst⟩]

/-- **A step later** ends in time; it makes progress exactly if the clock has not shown the minute
    of its target by the start. -/
theorem step_later_iff (hstart : getTime browser startLocal = some start)
    (hlatest : setSeconds browser (timeClip (now - span preset)) = some latest)
    (hkeeps : browser.Keeps (target preset .later start latest)) :
    ∃ next, getTime browser (stepHistoryStart browser startLocal preset .later now) = some next ∧
      (browser.zone.RegularAt (now - span preset) → next + span preset ≤ now) ∧
      (start < next ↔ ∀ t, browser.zone.wall t = browser.zone.wall
        (Zone.floorMinute (target preset .later start latest)) → start < t) := by
  obtain ⟨hwall, hfirst, hback⟩ := hkeeps.regular.reread_spec
  refine ⟨_, getTime_step hstart hlatest .later hkeeps, ?_, ?_⟩
  · intro hnow
    obtain ⟨-, -, hle⟩ := hnow.reread_spec
    rw [← latest_eq hlatest] at hle
    have htarget : target preset .later start latest ≤ latest := min_le_right _ _
    have hfloor := Zone.floorMinute_le (now - span preset)
    have hfloor' := Zone.floorMinute_le (target preset .later start latest)
    omega
  · constructor
    · intro hprogress t ht
      have hnext := hfirst t (ht.trans hwall.symm)
      omega
    · intro hall
      exact hall _ hwall

/-- **A step earlier** goes back by a window exactly if the clock has not shown that start before,
    and the latest window does not begin before it. -/
theorem step_earlier_iff (hstart : getTime browser startLocal = some start)
    (hwhole : 60000 ∣ start)
    (hlatest : setSeconds browser (timeClip (now - span preset)) = some latest)
    (hkeeps : browser.Keeps (target preset .earlier start latest)) :
    getTime browser (stepHistoryStart browser startLocal preset .earlier now) =
        some (start - span preset) ↔
      start - span preset ≤ latest ∧ browser.zone.First (start - span preset) := by
  have hone : start + Direction.earlier.sign * span preset = start - span preset := by
    show start + -1 * span preset = _
    omega
  have htarget : target preset .earlier start latest = min (start - span preset) latest := by
    rw [target, hone]
  constructor
  · intro hback
    have heq := Option.some.inj ((getTime_step hstart hlatest .earlier hkeeps).symm.trans hback)
    -- reading back is never later, so the target was not cut to the latest window
    obtain ⟨-, -, hmin⟩ := hkeeps.regular.reread_spec
    have hfloor := Zone.floorMinute_le (target preset .earlier start latest)
    have hbefore : start - span preset ≤ latest := by omega
    rw [htarget, min_eq_left hbefore] at heq hkeeps
    exact ⟨hbefore, (hkeeps.regular.reread_eq_iff.mp heq).2⟩
  · intro h
    rw [htarget, min_eq_left h.1, ← hone] at hkeeps
    have hkept := getTime_step_kept hstart hwhole hlatest .earlier hkeeps
    rw [hone] at hkept
    exact hkept h.1 h.2

/-- **Steps** to starts that the clock has not shown before go from window to window. -/
theorem steps_kept (hstart : getTime browser startLocal = some start) (hwhole : 60000 ∣ start)
    (hlatest : setSeconds browser (timeClip (now - span preset)) = some latest)
    (direction : Direction) (k : Nat)
    (hkept : ∀ j : Nat, 1 ≤ j → j ≤ k →
      browser.Keeps (start + direction.sign * (j * span preset)) ∧
      start + direction.sign * (j * span preset) ≤ latest ∧
      browser.zone.First (start + direction.sign * (j * span preset))) :
    getTime browser
        ((fun text => stepHistoryStart browser text preset direction now)^[k] startLocal) =
      some (start + direction.sign * (k * span preset)) := by
  obtain ⟨-, hminutes⟩ := span_bounds preset
  induction k with
  | zero =>
    rw [Nat.cast_zero, Int.zero_mul, Int.mul_zero, Int.add_zero]
    exact hstart
  | succ k ih =>
    have hprevious := ih (fun j hj hjk => hkept j hj (by omega))
    obtain ⟨hkeeps, hle, hfirst⟩ := hkept (k + 1) (by omega) le_rfl
    have hnext : start + direction.sign * (((k + 1 : Nat) : Int) * span preset) =
        start + direction.sign * (k * span preset) + direction.sign * span preset := by
      push_cast
      ring
    rw [hnext] at hkeeps hle hfirst ⊢
    rw [Function.iterate_succ_apply']
    have hwhole' : 60000 ∣ start + direction.sign * (k * span preset) :=
      Int.dvd_add hwhole ((hminutes.mul_left _).mul_left _)
    exact getTime_step_kept hprevious hwhole' hlatest direction hkeeps hle hfirst

/-- **Stepping**, in any zone, wherever the text keeps the instant that a step leads to: a step
    later ends in time, and makes progress exactly if the clock has not shown the minute of its
    target by the start; a step earlier goes back by a window exactly if the clock has not shown
    that start before, and the latest window does not begin before it; and steps that meet no such
    start go from window to window. -/
theorem step_iff (hstart : getTime browser startLocal = some start) (hwhole : 60000 ∣ start)
    (hlatest : setSeconds browser (timeClip (now - span preset)) = some latest) :
    (browser.Keeps (target preset .later start latest) →
      ∃ next, getTime browser (stepHistoryStart browser startLocal preset .later now) = some next ∧
        (browser.zone.RegularAt (now - span preset) → next + span preset ≤ now) ∧
        (start < next ↔ ∀ t, browser.zone.wall t = browser.zone.wall
          (Zone.floorMinute (target preset .later start latest)) → start < t)) ∧
    (browser.Keeps (target preset .earlier start latest) →
      (getTime browser (stepHistoryStart browser startLocal preset .earlier now) =
          some (start - span preset) ↔
        start - span preset ≤ latest ∧ browser.zone.First (start - span preset))) ∧
    ∀ (direction : Direction) (k : Nat),
      (∀ j : Nat, 1 ≤ j → j ≤ k →
        browser.Keeps (start + direction.sign * (j * span preset)) ∧
        start + direction.sign * (j * span preset) ≤ latest ∧
        browser.zone.First (start + direction.sign * (j * span preset))) →
      getTime browser
          ((fun text => stepHistoryStart browser text preset direction now)^[k] startLocal) =
        some (start + direction.sign * (k * span preset)) := by
  refine ⟨?_, ?_, ?_⟩
  · exact step_later_iff hstart hlatest
  · exact step_earlier_iff hstart hwhole hlatest
  · intro direction k hkept
    exact steps_kept hstart hwhole hlatest direction k hkept

end steps

theorem berlin_sorted : ([(-2422054408000, 3600000), (1774746000000, 7200000),
    (1792890000000, 3600000)].map (Prod.fst : Int × Int → Int)).Pairwise (· < ·) := by
  decide

/-- Central Europe: by the sun until 1893, when the clock was put forward by 392 seconds; in 2026
    an hour ahead, two in summer. -/
def berlin : Zone :=
  ⟨3208000, [(-2422054408000, 3600000), (1774746000000, 7200000), (1792890000000, 3600000)],
    berlin_sorted⟩

/-- A browser there that reads no other texts. -/
def berliner : Browser := ⟨berlin, fun _ => none⟩

/-- What the clock shows in the middle of summer it shows once. -/
theorem berlin_wall_inj {t u : Int} (hlow : 1774749600000 ≤ t) (hhigh : t < 1792886400000)
    (h : berlin.wall u = berlin.wall t) : u = t := by
  simp only [Zone.wall, Zone.offset, berlin, Zone.offsetFrom] at h
  rw [if_neg (by omega : ¬ t < -2422054408000), if_neg (by omega : ¬ t < 1774746000000),
    if_pos (by omega : t < 1792890000000)] at h
  split at h
  · omega
  · split at h
    · omega
    · split at h
      · omega
      · omega

/-- Three hours of a day in August. -/
theorem berliner_keeps {t : Int} (h : t ∈ [1786348800000, 1786356000000, 1786359600000]) :
    berliner.Keeps t := by
  simp only [List.mem_cons, List.not_mem_nil, or_false] at h
  rcases h with rfl | rfl | rfl <;>
    exact ⟨⟨by decide, by decide⟩, by decide, by decide, by decide, by decide⟩

/-- On that day, nine hours before now: a step later, a step earlier, and two steps later. -/
theorem step_in_august :
    atLatest berliner "2026-08-10T11:00" .h1 1786384800000 = false ∧
    (∃ next, getTime berliner
        (stepHistoryStart berliner "2026-08-10T11:00" .h1 .later 1786384800000) = some next ∧
      next + 3600000 ≤ 1786384800000 ∧ 1786352400000 < next) ∧
    getTime berliner (stepHistoryStart berliner "2026-08-10T11:00" .h1 .earlier 1786384800000) =
      some 1786348800000 ∧
    getTime berliner ((fun text => stepHistoryStart berliner text .h1 .later 1786384800000)^[2]
      "2026-08-10T11:00") = some 1786359600000 := by
  obtain ⟨hlater, hearlier, hsteps⟩ := @step_iff berliner "2026-08-10T11:00" .h1 1786352400000
    1786384800000 1786381200000 (by decide +kernel) (by decide) (by decide +kernel)
  have hfirst : ∀ t, 1774749600000 ≤ t → t < 1792886400000 → berlin.First t :=
    fun t hlow hhigh u hu => (berlin_wall_inj hlow hhigh hu).ge
  refine ⟨by decide +kernel, ?_, ?_, ?_⟩
  · obtain ⟨next, hnext, hend, hprogress⟩ := hlater (berliner_keeps (by decide))
    refine ⟨next, hnext, hend ⟨by decide, by decide⟩, hprogress.mpr ?_⟩
    intro t ht
    exact lt_of_lt_of_le (by decide) (hfirst 1786356000000 (by decide) (by decide) t ht)
  · exact (hearlier (berliner_keeps (by decide))).mpr
      ⟨by decide, hfirst _ (by decide) (by decide)⟩
  · refine hsteps .later 2 ?_
    intro j hone htwo
    obtain rfl | rfl : j = 1 ∨ j = 2 := by omega
    · exact ⟨berliner_keeps (by decide), by decide, hfirst _ (by decide) (by decide)⟩
    · exact ⟨berliner_keeps (by decide), by decide, hfirst _ (by decide) (by decide)⟩

/-- On the morning in October when the clock is put back, a step later comes back to where it
    started, and a step earlier skips an hour. -/
theorem step_in_october :
    (atLatest berliner "2026-10-25T02:30" .h1 1792929600000 = false ∧
      getTime berliner "2026-10-25T02:30" = some 1792888200000 ∧
      stepHistoryStart berliner "2026-10-25T02:30" .h1 .later 1792929600000 =
        "2026-10-25T02:30") ∧
    (atLatest berliner "2026-10-25T03:30" .h1 1792929600000 = false ∧
      getTime berliner "2026-10-25T03:30" = some 1792895400000 ∧
      getTime berliner
          (stepHistoryStart berliner "2026-10-25T03:30" .h1 .earlier 1792929600000) =
        some (1792895400000 - 2 * 3600000)) := by
  decide +kernel

end TopologyVisualizer.Frontend.History
