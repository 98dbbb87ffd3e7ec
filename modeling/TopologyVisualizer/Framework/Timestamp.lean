import Mathlib.Algebra.Ring.Nat
import Mathlib.Data.Prod.Lex
import TopologyVisualizer.Framework.Text

/-! # Timestamps and their Order

    Timestamps in the form of RFC 3339, in UTC: the fields of the calendar in
    fixed widths, then a fraction of six digits if there is one, then `Z`.

    Numbers of one width are ordered as their texts are (`field_lt_iff`), and
    instants as their fields are (`Civil.ofUnix_order_lt`), so timestamps
    of different seconds compare as the instants do. Within a second they do
    not: `.` comes before `Z`, so the second itself comes after all of its
    fractions (`timestamp_lt_iff`).
-/

namespace Text

/-! ### Fields of one width -/

/-- The last digits of a number. -/
def digits : Nat → Nat → List Char
  | 0, _ => []
  | width + 1, n => digits width (n / 10) ++ [Nat.digitChar (n % 10)]

theorem digits_zero (width : Nat) : digits width 0 = List.replicate width '0' := by
  induction width with
  | zero => rfl
  | succ width ih =>
    rw [digits, Nat.zero_div, ih, List.replicate_succ']
    rfl

/-- A padded number is its last digits. -/
theorem pad_eq_digits {width n : Nat} (h : n < 10 ^ (width + 1)) :
    (pad (width + 1) n).toList = digits (width + 1) n := by
  have hpad : ∀ width n, (pad width n).toList =
      List.replicate (width - (Nat.toDigits 10 n).length) '0' ++ Nat.toDigits 10 n := by
    intro width n
    rw [pad, String.toList_append, String.toList_ofList, Nat.toString_eq_ofList_toDigits,
      String.toList_ofList]
  rw [hpad]
  induction width generalizing n with
  | zero =>
    rw [Nat.toDigits_of_lt_base (by simpa using h)]
    simp [digits, Nat.mod_eq_of_lt (show n < 10 by simpa using h)]
  | succ width ih =>
    rcases Nat.lt_or_ge n 10 with hn | hn
    · rw [Nat.toDigits_of_lt_base hn, digits, Nat.div_eq_of_lt hn, digits_zero,
        Nat.mod_eq_of_lt hn]
      rfl
    · have hdiv : n / 10 < 10 ^ (width + 1) := by
        rw [Nat.pow_succ] at h
        omega
      rw [Nat.toDigits_of_base_le (by decide) hn, digits, ← ih hdiv, List.length_append,
        List.append_assoc, List.length_singleton, Nat.add_sub_add_right]

/-- The codes of characters. -/
def codes (cs : List Char) : List Nat := cs.map Char.toNat

theorem codes_append (cs ds : List Char) : codes (cs ++ ds) = codes cs ++ codes ds :=
  List.map_append

theorem codes_digits_lt_iff {width n m : Nat} (hn : n < 10 ^ width) (hm : m < 10 ^ width)
    {x y : List Nat} :
    codes (digits width n) ++ x < codes (digits width m) ++ y ↔ n < m ∨ (n = m ∧ x < y) := by
  induction width generalizing n m x y with
  | zero =>
    have hn0 : n = 0 := by simpa using hn
    have hm0 : m = 0 := by simpa using hm
    simp [hn0, hm0, digits, codes]
  | succ width ih =>
    rw [Nat.pow_succ] at hn hm
    have hlast : ∀ k, codes [Nat.digitChar (k % 10)] = [48 + k % 10] := by
      intro k
      rw [codes, List.map_singleton, Nat.toNat_digitChar_of_lt_ten (by omega)]
    rw [digits, digits, codes_append, codes_append, hlast, hlast, List.append_assoc,
      List.append_assoc, ih (by omega) (by omega), List.singleton_append, List.singleton_append,
      List.cons_lt_cons_iff]
    constructor
    · rintro (hlt | ⟨heq, hlt | ⟨heq', hxy⟩⟩)
      · exact .inl (by omega)
      · exact .inl (by omega)
      · exact .inr ⟨by omega, hxy⟩
    · rintro (hlt | ⟨rfl, hxy⟩)
      · rcases Nat.lt_or_ge (n / 10) (m / 10) with hdiv | hdiv
        · exact .inl hdiv
        · exact .inr ⟨by omega, .inl (by omega)⟩
      · exact .inr ⟨rfl, .inr ⟨rfl, hxy⟩⟩

/-- **Fields**: numbers of one width compare before what follows them. -/
theorem field_lt_iff {width n m : Nat} (hn : n < 10 ^ (width + 1)) (hm : m < 10 ^ (width + 1))
    {x y : List Nat} :
    codes (pad (width + 1) n).toList ++ x < codes (pad (width + 1) m).toList ++ y ↔
      n < m ∨ (n = m ∧ x < y) := by
  rw [pad_eq_digits hn, pad_eq_digits hm, codes_digits_lt_iff hn hm]

/-- Comparing one more component. -/
theorem toLex_lt_or_eq_and {α β : Type*} [LT α] [LT β] {a a' : α} {b b' : β} {p : Prop} :
    (toLex (a, b) < toLex (a', b') ∨ toLex (a, b) = toLex (a', b') ∧ p) ↔
      a < a' ∨ a = a' ∧ (b < b' ∨ b = b' ∧ p) := by
  rw [Prod.Lex.toLex_lt_toLex, toLex_inj, Prod.mk.injEq]
  tauto

/-! ### The calendar -/

/-- A day of an era: in which century, four years and year of these it is, and on which day of a
    year that begins in March. The last year of four, and the last century, may be a day longer. -/
structure EraDay where
  century : Nat
  olympiad : Nat
  year : Nat
  day : Nat

namespace EraDay

/-- The days before it. -/
def index (e : EraDay) : Nat := 36524 * e.century + 1461 * e.olympiad + 365 * e.year + e.day

/-- The year of the era. -/
def yearOfEra (e : EraDay) : Nat := 100 * e.century + 4 * e.olympiad + e.year

/-- Within bounds. A leap day is the last of four years, except before a century. -/
structure Valid (e : EraDay) : Prop where
  century : e.century ≤ 3
  olympiad : e.olympiad ≤ 24
  year : e.year ≤ 3
  day : e.day ≤ 364 ∨ (e.day = 365 ∧ e.year = 3 ∧ (e.olympiad = 24 → e.century = 3))

/-- The month of a year that begins in March: five months have 153 days. -/
def month (e : EraDay) : Nat := (5 * e.day + 2) / 153

/-- The days of the month before it. -/
def dayOfMonth (e : EraDay) : Nat := e.day - (153 * e.month + 2) / 5

theorem Valid.yearOfEra_le {e : EraDay} (h : e.Valid) : e.yearOfEra ≤ 399 := by
  obtain ⟨hc, ha, hb, _⟩ := h
  unfold yearOfEra
  omega

theorem Valid.month_le {e : EraDay} (h : e.Valid) : e.month ≤ 11 := by
  have hd := h.day
  unfold month
  omega

theorem Valid.dayOfMonth_le {e : EraDay} (h : e.Valid) : e.dayOfMonth ≤ 30 := by
  have hd := h.day
  unfold dayOfMonth month
  omega

/-- Later days of a year are in later months, or later in the month. -/
theorem month_lt_of_day_lt {e e' : EraDay} (h : e.day < e'.day) :
    e.month < e'.month ∨ (e.month = e'.month ∧ e.dayOfMonth < e'.dayOfMonth) := by
  have hmono : e.month ≤ e'.month := Nat.div_le_div_right (by omega)
  rcases Nat.lt_or_eq_of_le hmono with hlt | heq
  · exact .inl hlt
  · refine .inr ⟨heq, ?_⟩
    -- the month began before both days
    have hbegan : (153 * e.month + 2) / 5 ≤ e.day := by
      unfold month
      omega
    unfold dayOfMonth
    rw [← heq]
    omega

theorem exists_index (doe : Nat) (h : doe < 146097) : ∃ e : EraDay, e.Valid ∧ e.index = doe := by
  let century := min 3 (doe / 36524)
  let ofCentury := doe - 36524 * century
  let year := min 3 (ofCentury % 1461 / 365)
  refine ⟨⟨century, ofCentury / 1461, year, ofCentury % 1461 - 365 * year⟩, ?_, ?_⟩
  · constructor <;> simp only [century, ofCentury, year] <;> omega
  · simp only [index, century, ofCentury, year]
    omega

/-- The year, as it is computed from the day. -/
theorem yearOfEra_eq {e : EraDay} (h : e.Valid) :
    (e.index - e.index / 1460 + e.index / 36524 - e.index / 146096) / 365 = e.yearOfEra := by
  obtain ⟨c, a, b, d⟩ := e
  obtain ⟨hc, ha, hb, hd⟩ := h
  simp only [index, yearOfEra] at *
  set doe := 36524 * c + 1461 * a + 365 * b + d with hdoe
  -- the last day of the era would be in a fifth century
  have hcentury : doe - doe / 1460 + doe / 36524 - doe / 146096 = doe - doe / 1460 + c := by
    have hlast : 1461 * a + 365 * b + d < 36524 ∨ doe = 146096 ∧ c = 3 := by omega
    rcases hlast with hlast | ⟨hlast, hc3⟩
    · have h₁ : doe / 36524 = c := by omega
      have h₂ : doe / 146096 = 0 := by omega
      omega
    · rw [hlast, hc3]
  rw [hcentury]
  -- in each four years the count of leap days may be one ahead at the end
  rcases Nat.lt_or_ge (24 * c + a + 365 * b + d) 1460 with hs | hs
  · have hleap : doe / 1460 = 25 * c + a := by omega
    have hdays : doe - (25 * c + a) + c = 365 * (100 * c + 4 * a + b) + d := by omega
    rw [hleap, hdays]
    omega
  · have hleap : doe / 1460 = 25 * c + a + 1 := by omega
    have hdays : doe - (25 * c + a + 1) + c = 365 * (100 * c + 4 * a + b) + (d - 1) := by omega
    rw [hleap, hdays]
    omega

theorem day_eq {e : EraDay} (h : e.Valid) :
    e.index - (365 * e.yearOfEra + e.yearOfEra / 4 - e.yearOfEra / 100) = e.day := by
  obtain ⟨hc, ha, hb, _⟩ := h
  have h₁ : e.yearOfEra / 4 = 25 * e.century + e.olympiad := by
    unfold yearOfEra
    omega
  have h₂ : e.yearOfEra / 100 = e.century := by
    unfold yearOfEra
    omega
  rw [h₁, h₂]
  unfold index yearOfEra
  omega

/-- Later days are in later years, or later in the year. -/
theorem lt_of_index_lt {e e' : EraDay} (h : e.Valid) (h' : e'.Valid) (hlt : e.index < e'.index) :
    e.yearOfEra < e'.yearOfEra ∨ (e.yearOfEra = e'.yearOfEra ∧ e.day < e'.day) := by
  obtain ⟨c, a, b, d⟩ := e
  obtain ⟨c', a', b', d'⟩ := e'
  obtain ⟨hc, ha, hb, hd⟩ := h
  obtain ⟨hc', ha', hb', hd'⟩ := h'
  simp only [index, yearOfEra] at *
  have hcc : c ≤ c' := by omega
  rcases Nat.lt_or_eq_of_le hcc with hcc | rfl
  · exact .inl (by omega)
  · have haa : a ≤ a' := by omega
    rcases Nat.lt_or_eq_of_le haa with haa | rfl
    · exact .inl (by omega)
    · omega

end EraDay

namespace Civil

/-- The fields, compared in turn. -/
def order (c : Civil) : ℤ ×ₗ ℕ ×ₗ ℕ ×ₗ ℕ ×ₗ ℕ ×ₗ ℕ :=
  toLex (c.year, toLex (c.month, toLex (c.day, toLex (c.hour, toLex (c.minute, c.second)))))

/-- The date of a second, by its place in its era. Months are counted through, from March. -/
theorem ofUnix_date (s : Int) : ∃ e : EraDay, e.Valid ∧
    (e.index : Int) = (s / 86400 + 719468) % 146097 ∧
    12 * (ofUnix s).year + (ofUnix s).month =
      12 * (400 * ((s / 86400 + 719468) / 146097) + e.yearOfEra) + e.month + 3 ∧
    (ofUnix s).day = e.dayOfMonth + 1 ∧
    1 ≤ (ofUnix s).month ∧ (ofUnix s).month ≤ 12 := by
  obtain ⟨e, hvalid, hindex⟩ :=
    EraDay.exists_index ((s / 86400 + 719468) % 146097).toNat (by omega)
  refine ⟨e, hvalid, by omega, ?_⟩
  unfold ofUnix
  simp only [← hindex, EraDay.yearOfEra_eq hvalid, EraDay.day_eq hvalid]
  have hmonth : (5 * e.day + 2) / 153 = e.month := rfl
  have hle := hvalid.month_le
  rw [hmonth]
  by_cases hten : e.month < 10
  · have hnot : ¬ e.month + 3 ≤ 2 := by omega
    simp only [if_pos hten, if_neg hnot]
    exact ⟨by push_cast; omega, rfl, by omega, by omega⟩
  · have htwo : e.month - 9 ≤ 2 := by omega
    simp only [if_neg hten, if_pos htwo]
    exact ⟨by omega, rfl, by omega, by omega⟩

/-- A later day has a later month, or is later in the month. -/
theorem date_lt {s s' : Int} (h : s / 86400 < s' / 86400) :
    (ofUnix s).year < (ofUnix s').year ∨ (ofUnix s).year = (ofUnix s').year ∧
      ((ofUnix s).month < (ofUnix s').month ∨ (ofUnix s).month = (ofUnix s').month ∧
        (ofUnix s).day < (ofUnix s').day) := by
  obtain ⟨e, hvalid, hindex, hmonth, hday, hlow, hhigh⟩ := ofUnix_date s
  obtain ⟨e', hvalid', hindex', hmonth', hday', hlow', hhigh'⟩ := ofUnix_date s'
  have hyear := hvalid.yearOfEra_le
  have hlast := hvalid.month_le
  have hlex : 12 * (ofUnix s).year + (ofUnix s).month < 12 * (ofUnix s').year + (ofUnix s').month ∨
      12 * (ofUnix s).year + (ofUnix s).month = 12 * (ofUnix s').year + (ofUnix s').month ∧
        (ofUnix s).day < (ofUnix s').day := by
    rw [hmonth, hmonth', hday, hday']
    rcases lt_or_ge ((s / 86400 + 719468) / 146097) ((s' / 86400 + 719468) / 146097) with hera | hera
    · exact .inl (by omega)
    · have heq : (s / 86400 + 719468) / 146097 = (s' / 86400 + 719468) / 146097 := by omega
      rcases EraDay.lt_of_index_lt hvalid hvalid' (by omega) with hlt | ⟨hsame, hlt⟩
      · exact .inl (by omega)
      · rcases EraDay.month_lt_of_day_lt hlt with hmonth | ⟨hmonth, hday⟩
        · exact .inl (by omega)
        · exact .inr ⟨by omega, by omega⟩
  omega

theorem ofUnix_order_lt {s s' : Int} (h : s < s') : (ofUnix s).order < (ofUnix s').order := by
  unfold order
  simp only [Prod.Lex.toLex_lt_toLex]
  rcases lt_or_ge (s / 86400) (s' / 86400) with hday | hday
  · have hdate := date_lt hday
    tauto
  · -- on one day, only the time differs
    have heq : s / 86400 = s' / 86400 := by omega
    have hyear : (ofUnix s).year = (ofUnix s').year := by simp only [ofUnix, heq]
    have hmonth : (ofUnix s).month = (ofUnix s').month := by simp only [ofUnix, heq]
    have hdate : (ofUnix s).day = (ofUnix s').day := by simp only [ofUnix, heq]
    refine .inr ⟨hyear, .inr ⟨hmonth, .inr ⟨hdate, ?_⟩⟩⟩
    have htime : (s % 86400).toNat < (s' % 86400).toNat := by omega
    simp only [ofUnix]
    omega

/-- Fields that fit into their widths. -/
structure Fits (c : Civil) : Prop where
  year : 0 ≤ c.year ∧ c.year < 10000
  month : c.month < 100
  day : c.day < 100
  hour : c.hour < 100
  minute : c.minute < 100
  second : c.second < 100

theorem ofUnix_fits {s : Int} (h : 0 ≤ (ofUnix s).year ∧ (ofUnix s).year < 10000) :
    (ofUnix s).Fits := by
  obtain ⟨e, hvalid, _, _, hday, _, hmonth⟩ := ofUnix_date s
  have hshort := hvalid.dayOfMonth_le
  refine ⟨h, by omega, by omega, ?_, ?_, ?_⟩
  · simp only [ofUnix]
    omega
  · simp only [ofUnix]
    omega
  · simp only [ofUnix]
    omega

/-- The second, as it is written. -/
def text (c : Civil) : String :=
  pad 4 c.year.toNat ++ "-" ++ pad 2 c.month ++ "-" ++ pad 2 c.day ++ "T" ++
    pad 2 c.hour ++ ":" ++ pad 2 c.minute ++ ":" ++ pad 2 c.second

theorem text_lt_iff {c c' : Civil} (h : c.Fits) (h' : c'.Fits) {x y : List Nat} :
    codes c.text.toList ++ x < codes c'.text.toList ++ y ↔
      c.order < c'.order ∨ (c.order = c'.order ∧ x < y) := by
  have hcons : ∀ (i : Nat) (u v : List Nat), i :: u < i :: v ↔ u < v := by
    intro i u v
    rw [List.cons_lt_cons_iff]
    simp
  have hyear : c.year.toNat < c'.year.toNat ↔ c.year < c'.year := by
    have := h.year
    have := h'.year
    omega
  have hyear' : c.year.toNat = c'.year.toNat ↔ c.year = c'.year := by
    have := h.year
    have := h'.year
    omega
  have hdash : codes "-".toList = [45] := rfl
  have hcolon : codes ":".toList = [58] := rfl
  have htime : codes "T".toList = [84] := rfl
  simp only [text, String.toList_append, codes_append, List.append_assoc, hdash, hcolon, htime,
    List.cons_append, List.nil_append]
  have hy : c.year.toNat < 10000 := by have := h.year; omega
  have hy' : c'.year.toNat < 10000 := by have := h'.year; omega
  rw [field_lt_iff hy hy', hcons, field_lt_iff h.month h'.month, hcons, field_lt_iff h.day h'.day,
    hcons, field_lt_iff h.hour h'.hour, hcons, field_lt_iff h.minute h'.minute, hcons,
    field_lt_iff h.second h'.second, hyear, hyear']
  unfold order
  rw [toLex_lt_or_eq_and, toLex_lt_or_eq_and, toLex_lt_or_eq_and, toLex_lt_or_eq_and,
    toLex_lt_or_eq_and]

end Civil

/-! ### Timestamps -/

/-- What follows the second: its microseconds, unless there are none. -/
def fraction (micros : Nat) : String := if micros = 0 then "Z" else "." ++ pad 6 micros ++ "Z"

/-- An instant in microseconds since the Unix epoch, as it is written. -/
def timestamp (t : Int) : String :=
  (Civil.ofUnix (t / 1000000)).text ++ fraction (t % 1000000).toNat

example : timestamp 1786359600000000 = "2026-08-10T11:00:00Z" := by decide +kernel

example : timestamp 1786359600500000 = "2026-08-10T11:00:00.500000Z" := by decide +kernel

/-- The year has four digits. -/
def Writable (t : Int) : Prop :=
  1 ≤ (Civil.ofUnix (t / 1000000)).year ∧ (Civil.ofUnix (t / 1000000)).year ≤ 9999

instance (t : Int) : Decidable (Writable t) := inferInstanceAs (Decidable (_ ∧ _))

/-- Where a timestamp is in the order of texts: a second is after its fractions. -/
def rank (t : Int) : ℤ ×ₗ ℕ :=
  toLex (t / 1000000, if (t % 1000000).toNat = 0 then 1000000 else (t % 1000000).toNat)

theorem rank_lt_iff {t t' : Int} : rank t < rank t' ↔ t / 1000000 < t' / 1000000 ∨
    (t / 1000000 = t' / 1000000 ∧ t % 1000000 ≠ 0 ∧ (t < t' ∨ t' % 1000000 = 0)) := by
  unfold rank
  rw [Prod.Lex.toLex_lt_toLex]
  split <;> split <;> omega

theorem rank_injective : Function.Injective rank := by
  intro t t' h
  simp only [rank, toLex_inj, Prod.mk.injEq] at h
  obtain ⟨hsecond, hfraction⟩ := h
  split at hfraction <;> split at hfraction <;> omega

/-- What follows the second, compared. -/
theorem fraction_lt_iff {n m : Nat} (hn : n < 1000000) (hm : m < 1000000) :
    codes (fraction n).toList < codes (fraction m).toList ↔
      (if n = 0 then 1000000 else n) < if m = 0 then 1000000 else m := by
  have hz : codes "Z".toList = [90] := rfl
  have hpoint : codes ".".toList = [46] := rfl
  have hdot : ∀ k, codes ("." ++ pad 6 k ++ "Z").toList = 46 :: (codes (pad 6 k).toList ++ [90]) := by
    intro k
    rw [String.append_assoc, String.toList_append, String.toList_append, codes_append, codes_append,
      hz, hpoint, List.singleton_append]
  unfold fraction
  by_cases hn0 : n = 0
  · by_cases hm0 : m = 0
    · simp [hn0, hm0]
    · rw [if_pos hn0, if_neg hm0, if_pos hn0, if_neg hm0, hdot, hz, List.cons_lt_cons_iff]
      omega
  · by_cases hm0 : m = 0
    · rw [if_neg hn0, if_pos hm0, if_neg hn0, if_pos hm0, hdot, hz, List.cons_lt_cons_iff]
      omega
    · rw [if_neg hn0, if_neg hm0, if_neg hn0, if_neg hm0, hdot, hdot, List.cons_lt_cons_iff,
        field_lt_iff hn hm]
      simp

theorem isAscii_append {a b : String} (ha : IsAscii a) (hb : IsAscii b) : IsAscii (a ++ b) := by
  intro c hc
  rw [String.toList_append, List.mem_append] at hc
  exact hc.elim (ha c) (hb c)

theorem isAscii_pad (width n : Nat) : IsAscii (pad width n) := by
  intro c hc
  have hdigit := isDigit_of_mem_pad hc
  simp only [Char.isDigit, Bool.and_eq_true, decide_eq_true_eq] at hdigit
  have hle : c.toNat ≤ 57 := hdigit.2
  omega

theorem isAscii_timestamp (t : Int) : IsAscii (timestamp t) := by
  have hfraction : ∀ n, IsAscii (fraction n) := by
    intro n
    unfold fraction
    split
    · decide
    · exact isAscii_append (isAscii_append (by decide) (isAscii_pad 6 n)) (by decide)
  refine isAscii_append ?_ (hfraction _)
  unfold Civil.text
  refine isAscii_append (isAscii_append (isAscii_append (isAscii_append (isAscii_append
    (isAscii_append (isAscii_append (isAscii_append (isAscii_append (isAscii_append
    (isAscii_pad _ _) ?_) (isAscii_pad _ _)) ?_) (isAscii_pad _ _)) ?_) (isAscii_pad _ _)) ?_)
    (isAscii_pad _ _)) ?_) (isAscii_pad _ _)
  all_goals decide

/-- **The order of timestamps**, as texts. -/
theorem timestamp_lt_iff {t t' : Int} (h : Writable t) (h' : Writable t') :
    utf16 (timestamp t) < utf16 (timestamp t') ↔ rank t < rank t' := by
  have hfits : ∀ {t}, Writable t → (Civil.ofUnix (t / 1000000)).Fits := by
    intro t ht
    apply Civil.ofUnix_fits
    unfold Writable at ht
    omega
  have hcodes : ∀ t, utf16 (timestamp t) =
      codes (Civil.ofUnix (t / 1000000)).text.toList ++
        codes (fraction (t % 1000000).toNat).toList := by
    intro t
    rw [utf16_of_ascii (isAscii_timestamp t), timestamp, String.toList_append, List.map_append]
    rfl
  have hmono : StrictMono (fun s => (Civil.ofUnix s).order) := fun _ _ => Civil.ofUnix_order_lt
  have horder : (Civil.ofUnix (t / 1000000)).order = (Civil.ofUnix (t' / 1000000)).order ↔
      t / 1000000 = t' / 1000000 := hmono.injective.eq_iff
  have horder' : (Civil.ofUnix (t / 1000000)).order < (Civil.ofUnix (t' / 1000000)).order ↔
      t / 1000000 < t' / 1000000 := hmono.lt_iff_lt
  rw [hcodes, hcodes, Civil.text_lt_iff (hfits h) (hfits h'), horder, horder',
    fraction_lt_iff (by omega) (by omega), rank, rank, Prod.Lex.toLex_lt_toLex]

/-- Instants are written apart. -/
theorem timestamp_inj {t t' : Int} (h : Writable t) (h' : Writable t')
    (heq : timestamp t = timestamp t') : t = t' := by
  apply rank_injective
  have hle : ¬ rank t < rank t' := by
    rw [← timestamp_lt_iff h h', heq]
    exact lt_irrefl _
  have hge : ¬ rank t' < rank t := by
    rw [← timestamp_lt_iff h' h, heq]
    exact lt_irrefl _
  exact le_antisymm (not_lt.mp hge) (not_lt.mp hle)

end Text
