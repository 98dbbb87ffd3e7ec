import Mathlib.Algebra.Ring.Int.Defs
import Mathlib.Algebra.Ring.Nat
import Mathlib.Data.List.Induction
import Mathlib.Data.Int.Order.Basic
import Mathlib.Order.Defs.LinearOrder

/-! # Go's `time.Time`

    A time is a wall-clock instant that may carry a monotonic reading.
    Comparisons use the monotonic readings when both sides have one and the
    wall clock otherwise; `UTC` strips the reading. So the order in which
    times compare may disagree with the order of the instants they print:
    after the wall clock is set back, a later event has an earlier instant.
-/

/-- Two's complement: the value a 64-bit signed integer holds after computing `x`. -/
def wrapInt64 (x : Int) : Int := Int.bmod x (2 ^ 64)

theorem wrapInt64_lower (x : Int) : -2 ^ 63 ≤ wrapInt64 x := by
  have := Int.le_bmod (x := x) (m := 2 ^ 64) (by decide)
  unfold wrapInt64
  omega

theorem wrapInt64_upper (x : Int) : wrapInt64 x < 2 ^ 63 := by
  have := Int.bmod_lt (x := x) (m := 2 ^ 64) (by decide)
  unfold wrapInt64
  omega

/-- A wall instant in nanoseconds since the Unix epoch, with an optional monotonic reading. -/
@[ext] structure GoTime where
  wall : Int
  mono : Option Int
  deriving DecidableEq

namespace GoTime

/-- Midnight, January 1 of year 1: the zero value. -/
def zeroWall : Int := -62135596800000000000

/-- `IsZero`. -/
def isZero (t : GoTime) : Bool := t.wall = zeroWall

/-- `Before`. -/
def before (t u : GoTime) : Bool :=
  match t.mono, u.mono with
  | some m, some n => m < n
  | _, _ => t.wall < u.wall

/-- `After`. -/
def after (t u : GoTime) : Bool := u.before t

/-- `UTC`: the same instant without its monotonic reading. -/
def utc (t : GoTime) : GoTime := { t with mono := none }

/-- Whether an instant fits the packed form that can hold a monotonic reading: 33 bits of
    seconds from 1885. -/
def packed (wall : Int) : Bool :=
  -2682288000 * 1000000000 ≤ wall ∧ wall < (-2682288000 + 2 ^ 33) * 1000000000

/-- `Add`: a reading that overflows, or an instant that no longer fits, loses the reading. -/
def add (t : GoTime) (d : Int) : GoTime where
  wall := t.wall + d
  mono := t.mono.bind (fun m =>
    if packed (t.wall + d) ∧ -2 ^ 63 ≤ m + d ∧ m + d < 2 ^ 63 then some (m + d) else none)

@[simp] theorem utc_wall (t : GoTime) : t.utc.wall = t.wall := rfl

@[simp] theorem add_wall (t : GoTime) (d : Int) : (t.add d).wall = t.wall + d := rfl

@[simp] theorem utc_before_utc (t u : GoTime) : t.utc.before u.utc = decide (t.wall < u.wall) := rfl

/-- The earlier of two times, the first on a tie. -/
def earlier (first t : GoTime) : GoTime := if t.before first then t else first

/-- The later of two times, the first on a tie. -/
def later (last t : GoTime) : GoTime := if t.after last then t else last

@[simp] theorem earlier_self (t : GoTime) : t.earlier t = t := by
  unfold earlier; split <;> rfl

@[simp] theorem later_self (t : GoTime) : t.later t = t := by
  unfold later; split <;> rfl

/-- The earliest of a sequence of times, as a running minimum finds it. -/
def earliest? (ts : List GoTime) : Option GoTime :=
  ts.foldl (fun first t => some ((first.getD t).earlier t)) none

/-- The latest of a sequence of times, as a running maximum finds it. -/
def latest? (ts : List GoTime) : Option GoTime :=
  ts.foldl (fun last t => some ((last.getD t).later t)) none

theorem earliest?_concat (ts : List GoTime) (t : GoTime) :
    earliest? (ts ++ [t]) = some (((earliest? ts).getD t).earlier t) := by
  simp [earliest?]

theorem latest?_concat (ts : List GoTime) (t : GoTime) :
    latest? (ts ++ [t]) = some (((latest? ts).getD t).later t) := by
  simp [latest?]

theorem earliest?_eq_none {ts : List GoTime} (h : earliest? ts = none) : ts = [] := by
  induction ts using List.reverseRecOn with
  | nil => rfl
  | append_singleton ts t ih => rw [earliest?_concat] at h; cases h

theorem latest?_eq_none {ts : List GoTime} (h : latest? ts = none) : ts = [] := by
  induction ts using List.reverseRecOn with
  | nil => rfl
  | append_singleton ts t ih => rw [latest?_concat] at h; cases h

theorem mem_of_earliest? {ts : List GoTime} {first : GoTime} (h : earliest? ts = some first) :
    first ∈ ts := by
  induction ts using List.reverseRecOn generalizing first with
  | nil => cases h
  | append_singleton ts t ih =>
    rw [earliest?_concat] at h
    cases h
    cases hts : earliest? ts with
    | none => simp
    | some u =>
      simp only [Option.getD_some, earlier]
      split
      · simp
      · exact List.mem_append_left _ (ih hts)

theorem mem_of_latest? {ts : List GoTime} {last : GoTime} (h : latest? ts = some last) :
    last ∈ ts := by
  induction ts using List.reverseRecOn generalizing last with
  | nil => cases h
  | append_singleton ts t ih =>
    rw [latest?_concat] at h
    cases h
    cases hts : latest? ts with
    | none => simp
    | some u =>
      simp only [Option.getD_some, later]
      split
      · simp
      · exact List.mem_append_left _ (ih hts)

end GoTime
