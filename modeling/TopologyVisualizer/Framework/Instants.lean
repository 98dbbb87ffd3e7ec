import Mathlib.Data.List.DropRight
import Mathlib.Tactic.Ring
import TopologyVisualizer.Framework.WallClock

/-! # Instants as Texts

    Instants in the form of RFC 3339, in UTC, with any number of digits of
    the second, and a reader that keeps microseconds.

    * Two writers: nanoseconds without trailing zeros (`nanoText`), and
      milliseconds with three digits (`milliText`).
    * One reader, `readInstant?`, which cuts what is below the microsecond.
      It reads what either wrote (`readInstant?_nanoText`,
      `readInstant?_milliText`).
-/

namespace Text

/-! ### Digits of a fraction -/

theorem digits_add (width k n : Nat) :
    digits (width + k) n = digits width (n / 10 ^ k) ++ digits k n := by
  induction k generalizing n with
  | zero => simp [digits]
  | succ k ih =>
    rw [← Nat.add_assoc, digits, ih, digits, List.append_assoc, Nat.div_div_eq_div_mul,
      ← Nat.pow_succ']

theorem value_append (ds es : List Char) :
    value (ds ++ es) = value ds * 10 ^ es.length + value es := by
  unfold value
  rw [List.foldl_append]
  generalize ds.foldl (fun n c => 10 * n + (c.toNat - 48)) 0 = a
  -- the digits after `a` count for themselves, whatever stands before them
  induction es using List.reverseRecOn with
  | nil => simp
  | append_singleton es c ih =>
    rw [List.foldl_append, ih, List.foldl_append, List.length_append]
    simp only [List.foldl_cons, List.foldl_nil, List.length_singleton, Nat.pow_succ]
    ring

theorem value_zeros (k : Nat) : value (List.replicate k '0') = 0 := by
  rw [← digits_zero, value_digits (Nat.pow_pos (by decide))]

/-- The microseconds of a fraction: six digits of it. -/
def micros (ds : List Char) : Nat := value ((ds ++ List.replicate 6 '0').take 6)

/-- Zeros at the end of a fraction say nothing. -/
theorem micros_append_zeros (ds : List Char) (k : Nat) :
    micros (ds ++ List.replicate k '0') = micros ds := by
  have htake : ((ds ++ List.replicate k '0') ++ List.replicate 6 '0').take 6 =
      (ds ++ List.replicate 6 '0').take 6 := by
    rw [List.append_assoc, List.replicate_append_replicate, List.take_append, List.take_append,
      List.take_replicate, List.take_replicate]
    have hmin : min (6 - ds.length) (k + 6) = min (6 - ds.length) 6 := by omega
    rw [hmin]
  rw [micros, htake, micros]

theorem micros_digits_nine {n : Nat} (h : n < 1000000000) : micros (digits 9 n) = n / 1000 := by
  have htake : (digits 9 n ++ List.replicate 6 '0').take 6 = digits 6 (n / 1000) := by
    rw [digits_add 6 3 n, List.append_assoc]
    exact List.take_left' (length_digits 6 _)
  rw [micros, htake, value_digits (by omega)]

theorem micros_digits_three {n : Nat} (h : n < 1000) : micros (digits 3 n) = 1000 * n := by
  have htake : (digits 3 n ++ List.replicate 6 '0').take 6 = digits 3 n ++ List.replicate 3 '0' := by
    rw [List.take_append, length_digits, List.take_of_length_le (by rw [length_digits]; decide),
      List.take_replicate]
    rfl
  rw [micros, htake, value_append, value_digits h, value_zeros, List.length_replicate]
  omega

/-- What a fraction is written as when zeros at its end are left out. -/
def trimZeros (ds : List Char) : List Char := ds.rdropWhile (· = '0')

theorem micros_trimZeros (ds : List Char) : micros (trimZeros ds) = micros ds := by
  have hzeros : ds.rtakeWhile (· = '0') =
      List.replicate (ds.rtakeWhile (· = '0')).length '0' := by
    refine List.eq_replicate_of_mem (fun c hc => ?_)
    simpa using List.mem_rtakeWhile_imp hc
  have hsplit : ds = trimZeros ds ++ ds.rtakeWhile (· = '0') := by
    unfold trimZeros
    exact (List.rdropWhile_append_rtakeWhile ..).symm
  conv_rhs => rw [hsplit, hzeros, micros_append_zeros]

/-! ### Reading -/

/-- The rest of the text: a fraction or none, and the zone. -/
def readFraction? (cs : List Char) : Option Nat :=
  match cs with
  | ['Z'] => some 0
  | '.' :: rest =>
    let ds := rest.takeWhile Char.isDigit
    if ds ≠ [] ∧ rest.dropWhile Char.isDigit = ['Z'] then some (micros ds) else none
  | _ => none

/-- The microseconds since the Unix epoch of a text `YYYY-MM-DDTHH:mm:ss`, with a fraction or
    without one, and `Z`. -/
def readInstant? (text : String) : Option Int :=
  (field 4 text.toList).bind fun year =>
  (mark '-' year.2).bind fun cs =>
  (field 2 cs).bind fun month =>
  (mark '-' month.2).bind fun cs =>
  (field 2 cs).bind fun day =>
  (mark 'T' day.2).bind fun cs =>
  (field 2 cs).bind fun hour =>
  (mark ':' hour.2).bind fun cs =>
  (field 2 cs).bind fun minute =>
  (mark ':' minute.2).bind fun cs =>
  (field 2 cs).bind fun second =>
  (readFraction? second.2).bind fun micros =>
    let c : Civil := ⟨year.1, month.1, day.1, hour.1, minute.1, second.1⟩
    if 1 ≤ c.year ∧ Civil.ofUnix c.toUnix = c then some (1000000 * c.toUnix + micros) else none

example : readInstant? "2026-08-10T11:00:00.0000019Z" = some 1786359600000001 := by decide +kernel

example : readInstant? "2026-02-29T11:00:00Z" = none := by decide +kernel

/-- **An instant** of the years 1 to 9999 is read as it was written, down to the fraction. -/
theorem readInstant?_text {s : Int} (h : 1 ≤ (Civil.ofUnix s).year)
    (h' : (Civil.ofUnix s).year ≤ 9999) {text : String} {m : Nat} (cs : List Char)
    (htext : text.toList = (Civil.ofUnix s).text.toList ++ cs) (hcs : readFraction? cs = some m) :
    readInstant? text = some (1000000 * s + m) := by
  obtain ⟨-, hmonth, hday, hhour, hminute, hsecond⟩ :=
    Civil.ofUnix_fits (s := s) ⟨by omega, by omega⟩
  have hyear : (Civil.ofUnix s).year.toNat < 10 ^ 4 := by omega
  have htwo : ∀ n : Nat, n < 100 → (pad 2 n).toList = digits 2 n := fun n hn => pad_eq_digits hn
  have hfour : (pad 4 (Civil.ofUnix s).year.toNat).toList = digits 4 (Civil.ofUnix s).year.toNat :=
    pad_eq_digits hyear
  have hchars : text.toList = digits 4 (Civil.ofUnix s).year.toNat ++ '-' ::
      (digits 2 (Civil.ofUnix s).month ++ '-' :: (digits 2 (Civil.ofUnix s).day ++ 'T' ::
        (digits 2 (Civil.ofUnix s).hour ++ ':' :: (digits 2 (Civil.ofUnix s).minute ++ ':' ::
          (digits 2 (Civil.ofUnix s).second ++ cs))))) := by
    have hdash : "-".toList = ['-'] := rfl
    have ht : "T".toList = ['T'] := rfl
    have hcolon : ":".toList = [':'] := rfl
    rw [htext]
    unfold Civil.text
    simp only [String.toList_append, hfour, htwo _ hmonth, htwo _ hday, htwo _ hhour,
      htwo _ hminute, htwo _ hsecond, hdash, ht, hcolon, List.append_assoc, List.cons_append,
      List.nil_append]
  have hcast : ((Civil.ofUnix s).year.toNat : Int) = (Civil.ofUnix s).year :=
    Int.toNat_of_nonneg (by omega)
  have hcivil : (⟨(Civil.ofUnix s).year, (Civil.ofUnix s).month, (Civil.ofUnix s).day,
      (Civil.ofUnix s).hour, (Civil.ofUnix s).minute, (Civil.ofUnix s).second⟩ : Civil) =
      Civil.ofUnix s := rfl
  have hfield : ∀ n : Nat, n < 100 → ∀ cs, field 2 (digits 2 n ++ cs) = some (n, cs) :=
    fun n hn cs => field_digits hn cs
  unfold readInstant?
  rw [hchars]
  simp only [field_digits hyear, hfield _ hmonth, hfield _ hday, hfield _ hhour, hfield _ hminute,
    hfield _ hsecond, mark_cons, Option.bind_some, hcs, hcast, hcivil, Civil.toUnix_ofUnix,
    h, and_self, if_true]

theorem readFraction?_digits {ds : List Char} (hne : ds ≠ [])
    (hdigits : ∀ c ∈ ds, c.isDigit = true) : readFraction? ('.' :: (ds ++ ['Z'])) = some (micros ds) := by
  have htake : (ds ++ ['Z']).takeWhile Char.isDigit = ds := by
    rw [List.takeWhile_append_of_pos hdigits]
    simp
  have hdrop : (ds ++ ['Z']).dropWhile Char.isDigit = ['Z'] := by
    rw [List.dropWhile_append_of_pos hdigits]
    rfl
  simp only [readFraction?, htake, hdrop]
  exact if_pos ⟨hne, trivial⟩

/-! ### Writing -/

/-- Nanoseconds, without zeros at the end. -/
def nanoText (t : Int) : String :=
  let ds := trimZeros (digits 9 (t % 1000000000).toNat)
  (Civil.ofUnix (t / 1000000000)).text ++
    (if ds = [] then "" else "." ++ String.ofList ds) ++ "Z"

/-- Milliseconds. -/
def milliText (t : Int) : String :=
  (Civil.ofUnix (t / 1000)).text ++ "." ++ pad 3 (t % 1000).toNat ++ "Z"

theorem isDigit_of_mem_trimZeros {n : Nat} {c : Char} (h : c ∈ trimZeros (digits 9 n)) :
    c.isDigit = true :=
  isDigit_of_mem_digits ((List.rdropWhile_prefix ..).subset h)

/-- Nanoseconds are cut to microseconds. -/
theorem readInstant?_nanoText {t : Int} (h : Writable (t / 1000)) :
    readInstant? (nanoText t) = some (t / 1000) := by
  have hsecond : t / 1000 / 1000000 = t / 1000000000 := by omega
  rw [Writable, hsecond] at h
  have hsmall : (t % 1000000000).toNat < 1000000000 := by omega
  have hmicros : micros (trimZeros (digits 9 (t % 1000000000).toNat)) =
      (t % 1000000000).toNat / 1000 := by
    rw [micros_trimZeros, micros_digits_nine hsmall]
  have hvalue : t / 1000 =
      1000000 * (t / 1000000000) + ((t % 1000000000).toNat / 1000 : Nat) := by omega
  rw [hvalue]
  by_cases hzero : trimZeros (digits 9 (t % 1000000000).toNat) = []
  · rw [hzero] at hmicros
    refine readInstant?_text h.1 h.2 ['Z'] ?_ ?_
    · simp [nanoText, hzero]
    · rw [← hmicros]
      rfl
  · refine readInstant?_text h.1 h.2
      ('.' :: (trimZeros (digits 9 (t % 1000000000).toNat) ++ ['Z'])) ?_ ?_
    · simp [nanoText, hzero]
    · rw [readFraction?_digits hzero (fun c hc => isDigit_of_mem_trimZeros hc), hmicros]

theorem digits_ne_nil (width n : Nat) : digits (width + 1) n ≠ [] := by
  intro h
  have hlength := length_digits (width + 1) n
  rw [h] at hlength
  cases hlength

/-- Milliseconds are kept. -/
theorem readInstant?_milliText {t : Int} (h : Writable (1000 * t)) :
    readInstant? (milliText t) = some (1000 * t) := by
  have hsecond : 1000 * t / 1000000 = t / 1000 := by omega
  rw [Writable, hsecond] at h
  have hsmall : (t % 1000).toNat < 1000 := by omega
  have hvalue : 1000 * t = 1000000 * (t / 1000) + (1000 * (t % 1000).toNat : Nat) := by omega
  have hpad : (pad 3 (t % 1000).toNat).toList = digits 3 (t % 1000).toNat :=
    pad_eq_digits (by omega)
  rw [hvalue]
  refine readInstant?_text h.1 h.2 ('.' :: (digits 3 (t % 1000).toNat ++ ['Z'])) ?_ ?_
  · simp [milliText, hpad]
  · rw [readFraction?_digits (digits_ne_nil 2 _) (fun c hc => isDigit_of_mem_digits hc),
      micros_digits_three hsmall]

end Text
