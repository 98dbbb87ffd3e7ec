import TopologyVisualizer.Framework.Timestamp

/-! # Wall-Clock Times

    Times as a clock on the wall shows them, in a zone whose offset changes
    now and then, and their texts, to the minute and without the zone.

    * A text is read back as the minute it was written for
      (`Civil.readMinute?_minuteText`).
    * What the clock shows more than once is taken for the first time that
      it does, and what it never shows, because it was put forward, is taken
      with the offset from before (`Zone.utc`).
    * So writing an instant and reading it back gives the first instant at
      which the clock shows the same minute (`Zone.reread`). Where the offset
      is of whole minutes, this is never later, and it is the same instant
      exactly if that is a whole minute that the clock has not shown before
      (`Zone.RegularAt.reread_eq_iff`).
-/

namespace Text

/-! ### From the calendar -/

namespace Civil

/-- The seconds since the Unix epoch, in UTC. -/
def toUnix (c : Civil) : Int :=
  -- years that begin in March
  let year := if c.month ≤ 2 then c.year - 1 else c.year
  let month := (c.month + 9) % 12
  let yearOfEra := year % 400
  let dayOfEra := 365 * yearOfEra + yearOfEra / 4 - yearOfEra / 100 +
    ((153 * month + 2) / 5 : Nat) + c.day - 1
  (146097 * (year / 400) + dayOfEra - 719468) * 86400 + 3600 * c.hour + 60 * c.minute + c.second

theorem index_add_century {e : EraDay} (h : e.Valid) :
    e.index + e.yearOfEra / 100 = 365 * e.yearOfEra + e.yearOfEra / 4 + e.day := by
  obtain ⟨hc, ho, hy, _⟩ := h
  have hfour : e.yearOfEra / 4 = 25 * e.century + e.olympiad := by
    unfold EraDay.yearOfEra
    omega
  have hhundred : e.yearOfEra / 100 = e.century := by
    unfold EraDay.yearOfEra
    omega
  rw [hfour, hhundred]
  unfold EraDay.index EraDay.yearOfEra
  omega

theorem toUnix_ofUnix (s : Int) : (ofUnix s).toUnix = s := by
  obtain ⟨e, hvalid, hindex, hyear, hday, hlow, hhigh⟩ := ofUnix_date s
  have hmonth := hvalid.month_le
  have hera := hvalid.yearOfEra_le
  have hcount := index_add_century hvalid
  -- the month began before the day
  have hbegan : (153 * e.month + 2) / 5 + e.dayOfMonth = e.day := by
    have hle : (153 * e.month + 2) / 5 ≤ e.day := by
      unfold EraDay.month
      omega
    unfold EraDay.dayOfMonth
    omega
  have hshift : (if (ofUnix s).month ≤ 2 then (ofUnix s).year - 1 else (ofUnix s).year) =
      400 * ((s / 86400 + 719468) / 146097) + e.yearOfEra := by
    split <;> omega
  have hfrom : ((ofUnix s).month + 9) % 12 = e.month := by omega
  have hhour : (ofUnix s).hour = (s % 86400).toNat / 3600 := rfl
  have hminute : (ofUnix s).minute = (s % 86400).toNat / 60 % 60 := rfl
  have hsecond : (ofUnix s).second = (s % 86400).toNat % 60 := rfl
  unfold toUnix
  simp only [hshift, hfrom, hday, hhour, hminute, hsecond]
  generalize e.yearOfEra = yearOfEra at *
  generalize (153 * e.month + 2) / 5 = began at *
  have hof : (400 * ((s / 86400 + 719468) / 146097) + (yearOfEra : Int)) % 400 = yearOfEra := by omega
  have hdiv : (400 * ((s / 86400 + 719468) / 146097) + (yearOfEra : Int)) / 400 =
      (s / 86400 + 719468) / 146097 := by omega
  rw [hof, hdiv]
  have hdays : 146097 * ((s / 86400 + 719468) / 146097) + (365 * (yearOfEra : Int) +
      (yearOfEra : Int) / 4 - (yearOfEra : Int) / 100 + (began : Int) +
      ((e.dayOfMonth + 1 : Nat) : Int) - 1) - 719468 = s / 86400 := by omega
  rw [hdays]
  omega

/-- The minute that a second is in. -/
theorem ofUnix_minute (s : Int) : ofUnix (s - s % 60) = { ofUnix s with second := 0 } := by
  have hdays : (s - s % 60) / 86400 = s / 86400 := by omega
  have hhour : ((s - s % 60) % 86400).toNat / 3600 = (s % 86400).toNat / 3600 := by omega
  have hminute : ((s - s % 60) % 86400).toNat / 60 % 60 = (s % 86400).toNat / 60 % 60 := by omega
  have hsecond : ((s - s % 60) % 86400).toNat % 60 = 0 := by omega
  simp only [ofUnix, hdays, hhour, hminute, hsecond]

end Civil

/-! ### Reading a minute -/

/-- The number that digits stand for. -/
def value (ds : List Char) : Nat := ds.foldl (fun n c => 10 * n + (c.toNat - 48)) 0

/-- A number of some width, and what follows. -/
def field (width : Nat) (cs : List Char) : Option (Nat × List Char) :=
  if (cs.take width).length = width ∧ (cs.take width).all Char.isDigit = true then
    some (value (cs.take width), cs.drop width)
  else none

/-- What follows a character. -/
def mark (c : Char) (cs : List Char) : Option (List Char) :=
  if cs.head? = some c then some cs.tail else none

/-- The seconds, since the Unix epoch on the same clock, of a text `YYYY-MM-DDTHH:mm` that is a
    minute of the calendar. -/
def readMinute? (text : String) : Option Int :=
  (field 4 text.toList).bind fun year =>
  (mark '-' year.2).bind fun cs =>
  (field 2 cs).bind fun month =>
  (mark '-' month.2).bind fun cs =>
  (field 2 cs).bind fun day =>
  (mark 'T' day.2).bind fun cs =>
  (field 2 cs).bind fun hour =>
  (mark ':' hour.2).bind fun cs =>
  (field 2 cs).bind fun minute =>
    let c : Civil := ⟨year.1, month.1, day.1, hour.1, minute.1, 0⟩
    if minute.2 = [] ∧ Civil.ofUnix c.toUnix = c then some c.toUnix else none

example : readMinute? "2026-08-10T11:00" = some 1786359600 := by decide +kernel

example : readMinute? "2026-02-30T11:00" = none := by decide +kernel

theorem length_digits (width n : Nat) : (digits width n).length = width := by
  induction width generalizing n with
  | zero => rfl
  | succ width ih => rw [digits, List.length_append, ih, List.length_singleton]

theorem isDigit_of_mem_digits {width n : Nat} {c : Char} (h : c ∈ digits width n) :
    c.isDigit = true := by
  induction width generalizing n with
  | zero => cases h
  | succ width ih =>
    rw [digits, List.mem_append, List.mem_singleton] at h
    rcases h with h | h
    · exact ih h
    · rw [h]
      rw [Nat.isDigit_digitChar]
      exact decide_eq_true (by omega)

theorem value_digits {width n : Nat} (h : n < 10 ^ width) : value (digits width n) = n := by
  induction width generalizing n with
  | zero =>
    rw [Nat.pow_zero] at h
    have hn : n = 0 := by omega
    rw [hn]
    rfl
  | succ width ih =>
    rw [Nat.pow_succ] at h
    have hrec := ih (n := n / 10) (by omega)
    unfold value at hrec ⊢
    rw [digits, List.foldl_append, hrec]
    show 10 * (n / 10) + ((Nat.digitChar (n % 10)).toNat - 48) = n
    rw [Nat.toNat_digitChar_of_lt_ten (by omega)]
    omega

/-- **A field** that was written is read. -/
theorem field_digits {width n : Nat} (h : n < 10 ^ width) (cs : List Char) :
    field width (digits width n ++ cs) = some (n, cs) := by
  have htake : (digits width n ++ cs).take width = digits width n :=
    List.take_left' (length_digits width n)
  have hdrop : (digits width n ++ cs).drop width = cs := List.drop_left' (length_digits width n)
  have hall : (digits width n).all Char.isDigit = true :=
    List.all_eq_true.mpr (fun c hc => isDigit_of_mem_digits hc)
  unfold field
  rw [htake, hdrop, if_pos ⟨length_digits width n, hall⟩, value_digits h]

theorem mark_cons (c : Char) (cs : List Char) : mark c (c :: cs) = some cs := if_pos rfl

/-- A minute, as it is written; the year is written as it is. -/
def Civil.minuteText (c : Civil) : String :=
  toString c.year ++ "-" ++ pad 2 c.month ++ "-" ++ pad 2 c.day ++ "T" ++ pad 2 c.hour ++ ":" ++
    pad 2 c.minute

theorem toList_year {n : Int} (h : 1000 ≤ n) (h' : n ≤ 9999) :
    (toString n).toList = digits 4 n.toNat := by
  obtain ⟨m, rfl⟩ := Int.eq_ofNat_of_zero_le (show 0 ≤ n by omega)
  have hshort : m < 10 ^ (3 + 1) := by omega
  have hlong : 4 ≤ (toString m).toList.length := by
    rw [String.length_toList]
    by_contra hlt
    have hle : (toString m).length ≤ 3 := by omega
    have hsmall := (Nat.length_repr_le_iff (by decide)).mp hle
    omega
  rw [Int.toNat_natCast, ← pad_eq_digits hshort, pad, Nat.sub_eq_zero_of_le hlong]
  rfl

/-- **A minute** of a year of four digits is read as it was written. -/
theorem Civil.readMinute?_minuteText {s : Int} (h : 1000 ≤ (ofUnix s).year)
    (h' : (ofUnix s).year ≤ 9999) : readMinute? (ofUnix s).minuteText = some (s - s % 60) := by
  obtain ⟨-, hmonth, hday, hhour, hminute, -⟩ := ofUnix_fits (s := s) ⟨by omega, by omega⟩
  have htwo : ∀ n : Nat, n < 100 → (pad 2 n).toList = digits 2 n := fun n hn => pad_eq_digits hn
  have hchars : (ofUnix s).minuteText.toList = digits 4 (ofUnix s).year.toNat ++ '-' ::
      (digits 2 (ofUnix s).month ++ '-' :: (digits 2 (ofUnix s).day ++ 'T' ::
        (digits 2 (ofUnix s).hour ++ ':' :: (digits 2 (ofUnix s).minute ++ [])))) := by
    have hdash : "-".toList = ['-'] := rfl
    have ht : "T".toList = ['T'] := rfl
    have hcolon : ":".toList = [':'] := rfl
    unfold minuteText
    simp only [String.toList_append, toList_year h h', htwo _ hmonth, htwo _ hday, htwo _ hhour,
      htwo _ hminute, hdash, ht, hcolon, List.append_assoc, List.cons_append, List.nil_append,
      List.append_nil]
  have hyear : (ofUnix s).year.toNat < 10 ^ 4 := by omega
  have hcivil : (⟨((ofUnix s).year.toNat : Int), (ofUnix s).month, (ofUnix s).day, (ofUnix s).hour,
      (ofUnix s).minute, 0⟩ : Civil) = ofUnix (s - s % 60) := by
    rw [ofUnix_minute, Int.toNat_of_nonneg (by omega)]
  have hfield : ∀ n : Nat, n < 100 → ∀ cs, field 2 (digits 2 n ++ cs) = some (n, cs) :=
    fun n hn cs => field_digits hn cs
  unfold readMinute?
  rw [hchars]
  simp only [field_digits hyear, hfield _ hmonth, hfield _ hday, hfield _ hhour, hfield _ hminute,
    mark_cons, Option.bind_some, hcivil, toUnix_ofUnix, and_self, if_true]

end Text

/-! ### Zones -/

/-- A time zone, in milliseconds: the offset before the first change, and the changes, each with
    the offset from then on. -/
structure Zone where
  initial : Int
  changes : List (Int × Int)
  sorted : (changes.map Prod.fst).Pairwise (· < ·)

namespace Zone

/-- The offset at an instant, with the offset before the changes. -/
def offsetFrom : Int → List (Int × Int) → Int → Int
  | o, [], _ => o
  | o, c :: changes, t => if t < c.1 then o else offsetFrom c.2 changes t

def offset (z : Zone) (t : Int) : Int := offsetFrom z.initial z.changes t

/-- What the clock shows. -/
def wall (z : Zone) (t : Int) : Int := t + z.offset t

/-- The first instant, of those since the last change, at which the clock shows a time. -/
def firstFrom : Int → Option Int → List (Int × Int) → Int → Option Int
  | o, since, [], w => if since.all (fun s => s ≤ w - o) = true then some (w - o) else none
  | o, since, c :: changes, w =>
    if since.all (fun s => s ≤ w - o) = true ∧ w - o < c.1 then some (w - o)
    else firstFrom c.2 (some c.1) changes w

/-- What the clock would show at each change with the offset before it, and that offset. -/
def turns : Int → List (Int × Int) → List (Int × Int)
  | _, [] => []
  | o, c :: changes => (c.1 + o, o) :: turns c.2 changes

/-- The offset before a time is skipped: the one with which the clock came closest to it. -/
def offsetBefore (z : Zone) (w : Int) : Int :=
  (((turns z.initial z.changes).filter (fun turn => turn.1 ≤ w)).foldl
    (fun closest turn => if closest.all (fun c => c.1 ≤ turn.1) = true then some turn else closest)
    none).elim z.initial Prod.snd

/-- The instant that a time of the clock is taken for. -/
def utc (z : Zone) (w : Int) : Int :=
  (firstFrom z.initial none z.changes w).getD (w - z.offsetBefore w)

-- put forward by 3600 at 7200: what is skipped is taken with the offset before
example : utc ⟨0, [(7200, 3600)], by decide⟩ 9000 = 9000 := by decide

-- put back by 3600 at 7200: what is shown twice is taken for the first time
example : utc ⟨3600, [(7200, 0)], by decide⟩ 9000 = 5400 := by decide

section zones
variable {z : Zone} {t : Int}

/-- **The first instant** at which the clock shows what it shows at `t`. -/
theorem firstFrom_spec {o w t : Int} {since : Option Int} {changes : List (Int × Int)}
    (hsorted : (since.toList ++ changes.map Prod.fst).Pairwise (· < ·))
    (hsince : ∀ s ∈ since, s ≤ t) (h : t + offsetFrom o changes t = w) :
    ∃ u, firstFrom o since changes w = some u ∧ u ≤ t ∧ (∀ s ∈ since, s ≤ u) ∧
      u + offsetFrom o changes u = w := by
  have hall : ∀ u, since.all (fun s => s ≤ u) = true ↔ ∀ s ∈ since, s ≤ u := by
    intro u
    simp [Option.all_eq_true]
  induction changes generalizing o since with
  | nil =>
    have ht : t = w - o := by
      unfold offsetFrom at h
      omega
    refine ⟨t, ?_, le_rfl, hsince, h⟩
    unfold firstFrom
    rw [← ht, if_pos ((hall t).mpr hsince)]
  | cons c changes ih =>
    unfold firstFrom
    by_cases hthis : since.all (fun s => s ≤ w - o) = true ∧ w - o < c.1
    · refine ⟨w - o, if_pos hthis, ?_, (hall _).mp hthis.1, ?_⟩
      · -- the instant is of this stretch too, or of a later one
        unfold offsetFrom at h
        split at h
        · omega
        · omega
      · unfold offsetFrom
        rw [if_pos hthis.2]
        omega
    · -- nothing before the change, so `t` is after it
      have hlater : c.1 ≤ t := by
        by_contra hlt
        have hbefore : t < c.1 := by omega
        unfold offsetFrom at h
        rw [if_pos hbefore] at h
        have ht : t = w - o := by omega
        exact hthis ⟨(hall _).mpr (ht ▸ hsince), by omega⟩
      have hrest : t + offsetFrom c.2 changes t = w := by
        unfold offsetFrom at h
        rwa [if_neg (by omega)] at h
      obtain ⟨-, hchanges, hbelow⟩ := List.pairwise_append.mp hsorted
      obtain ⟨u, hu, hle, hfrom, hwall⟩ := @ih c.2 (some c.1) hchanges
        (fun s hs => Option.some.inj hs ▸ hlater) hrest (fun u => by simp)
      have hc : c.1 ≤ u := hfrom c.1 rfl
      refine ⟨u, by rw [if_neg hthis, hu], hle, ?_, ?_⟩
      · intro s hs
        have hlt := hbelow s (Option.mem_toList.mpr hs) c.1 List.mem_cons_self
        omega
      · unfold offsetFrom
        rw [if_neg (by omega)]
        exact hwall

theorem utc_wall (z : Zone) (t : Int) : z.wall (z.utc (z.wall t)) = z.wall t ∧
    z.utc (z.wall t) ≤ t := by
  obtain ⟨u, hu, hle, -, hwall⟩ := @firstFrom_spec z.initial (z.wall t) t none z.changes z.sorted
    (fun s hs => by cases hs) rfl
  have hutc : z.utc (z.wall t) = u := by
    unfold utc
    rw [hu]
    rfl
  rw [hutc]
  exact ⟨hwall, hle⟩

/-- The clock has not shown before what it shows at this instant. -/
def First (z : Zone) (t : Int) : Prop := ∀ u, z.wall u = z.wall t → t ≤ u

/-- An instant to the minute. -/
def floorMinute (t : Int) : Int := t - t % 60000

theorem floorMinute_le (t : Int) : floorMinute t ≤ t := by
  unfold floorMinute
  omega

/-- An instant written to the minute and read back. -/
def reread (z : Zone) (t : Int) : Int := z.utc (floorMinute (z.wall t))

/-! ### Whole minutes -/

/-- At `t` the offset is of whole minutes, and has not changed since the minute began. -/
structure RegularAt (z : Zone) (t : Int) : Prop where
  whole : 60000 ∣ z.offset t
  unchanged : z.offset (floorMinute t) = z.offset t

/-- There the minute of the clock began with a minute of UTC. -/
theorem RegularAt.floorMinute_wall (h : z.RegularAt t) :
    floorMinute (z.wall t) = z.wall (floorMinute t) := by
  have hwhole := h.whole
  unfold wall
  rw [h.unchanged]
  unfold floorMinute
  omega

/-- **Reading back** gives the first instant at which the clock shows the minute. -/
theorem RegularAt.reread_spec (h : z.RegularAt t) :
    z.wall (z.reread t) = z.wall (floorMinute t) ∧ z.First (z.reread t) ∧
      z.reread t ≤ floorMinute t := by
  have heq : z.reread t = z.utc (z.wall (floorMinute t)) := by
    unfold reread
    rw [h.floorMinute_wall]
  obtain ⟨hwall, hle⟩ := utc_wall z (floorMinute t)
  rw [← heq] at hwall hle
  refine ⟨hwall, ?_, hle⟩
  -- what the clock shows at `u` is read as the same instant
  intro u hu
  have hfirst := (utc_wall z u).2
  rw [hu, hwall, ← heq] at hfirst
  exact hfirst

/-- An instant is **read back as itself** exactly if it is a whole minute that the clock has not
    shown before. -/
theorem RegularAt.reread_eq_iff (h : z.RegularAt t) : z.reread t = t ↔ 60000 ∣ t ∧ z.First t := by
  obtain ⟨hwall, hfirst, hle⟩ := h.reread_spec
  have hfloor : floorMinute t = t - t % 60000 := rfl
  constructor
  · intro heq
    rw [heq] at hfirst hle
    exact ⟨by omega, hfirst⟩
  · intro ht
    have hsame : floorMinute t = t := by omega
    rw [hsame] at hwall hle
    exact le_antisymm hle (ht.2 _ hwall)

end zones

end Zone
