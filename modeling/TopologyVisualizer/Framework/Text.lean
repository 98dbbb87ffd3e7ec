import Mathlib.Data.List.Basic
import Mathlib.Data.List.Lex
import TopologyVisualizer.Framework.Decoding

/-! # Texts Built Line by Line

    What programs that print a text need: the text of a list of lines and
    the two usual ways to build it, a builder that is written to and a list
    that is joined; the replacement of characters; numbers padded with zeros
    and the calendar; and the code units of a string, in UTF-8 and in UTF-16.
-/

namespace Text

universe u

/-! ### Lines -/

/-- Every line with a line feed after it. -/
def lines : List String → String
  | [] => ""
  | l :: ls => l ++ "\n" ++ lines ls

@[simp] theorem lines_nil : lines [] = "" := rfl

theorem lines_eq_join (ls : List String) : lines ls = String.join (ls.map (· ++ "\n")) := by
  induction ls with
  | nil => rfl
  | cons l ls ih => rw [lines, List.map_cons, String.join_cons, ih]

theorem lines_append (ls ls' : List String) : lines (ls ++ ls') = lines ls ++ lines ls' := by
  induction ls with
  | nil => simp
  | cons l ls ih => simp [lines, ih, String.append_assoc]

/-- Joining with line feeds leaves out the last one. -/
theorem intercalate_newline {ls : List String} (h : ls ≠ []) :
    "\n".intercalate ls ++ "\n" = lines ls := by
  induction ls with
  | nil => exact absurd rfl h
  | cons l ls ih =>
    cases ls with
    | nil => simp [lines]
    | cons l' ls =>
      have hrest := ih (List.cons_ne_nil l' ls)
      rw [String.intercalate_cons_cons, String.append_assoc, hrest]
      rfl

/-- A loop that writes to a builder, by what one pass writes. -/
theorem foldl_write {α : Type u} {step : String → α → String} {written : α → List String}
    (hstep : ∀ b a, step b a = b ++ lines (written a)) (as : List α) (b : String) :
    as.foldl step b = b ++ lines (as.flatMap written) := by
  induction as generalizing b with
  | nil => simp
  | cons a as ih =>
    rw [List.foldl_cons, ih, hstep, List.flatMap_cons, lines_append, String.append_assoc]

/-- A loop that appends to a list, by what one pass appends. -/
theorem foldl_push {α β : Type u} {step : List β → α → List β} {pushed : α → List β}
    (hstep : ∀ ls a, step ls a = ls ++ pushed a) (as : List α) (ls : List β) :
    as.foldl step ls = ls ++ as.flatMap pushed := by
  induction as generalizing ls with
  | nil => simp
  | cons a as ih => rw [List.foldl_cons, ih, hstep, List.flatMap_cons, List.append_assoc]

/-- A loop that appends some elements to a list. -/
theorem foldl_push_if {α β : Type u} {step : List β → α → List β} {p : α → Bool} {f : α → β}
    (hstep : ∀ ls a, step ls a = if p a then ls ++ [f a] else ls) (as : List α) (ls : List β) :
    as.foldl step ls = ls ++ (as.filter p).map f := by
  induction as generalizing ls with
  | nil => simp
  | cons a as ih =>
    rw [List.foldl_cons, ih, hstep]
    by_cases ha : p a <;> simp [ha]

/-- Going through the positions of some elements is going through these elements. -/
theorem flatMap_positions {α β : Type u} (p : α → Bool) (f : α → List β) (as : List α) :
    ((as.zipIdx.filter (fun x => p x.1)).map Prod.snd).flatMap
      (fun i => (as[i]?.map f).getD []) = (as.filter p).flatMap f := by
  -- the element at a position that was collected is the one it was collected for
  have hat : ∀ x ∈ as.zipIdx.filter (fun x => p x.1), (as[x.2]?.map f).getD [] = f x.1 := by
    intro x hx
    rw [List.mem_zipIdx_iff_getElem?.mp (List.mem_filter.mp hx).1]
    rfl
  have hfst : as.filter p = (as.zipIdx.filter (fun x => p x.1)).map Prod.fst := by
    conv_lhs => rw [← List.zipIdx_map_fst 0 as]
    rw [List.filter_map]
    rfl
  rw [List.flatMap_map, List.flatMap_congr hat, hfst, List.flatMap_map]

/-! ### Substitution -/

/-- Every character replaced by a text. -/
def substitute (f : Char → String) (s : String) : String :=
  String.ofList (s.toList.flatMap (fun c => (f c).toList))

/-- A loop that appends the replacement of each character. -/
theorem foldl_substitute (f : Char → String) (s : String) :
    s.toList.foldl (fun b c => b ++ f c) "" = substitute f s := by
  have hall : ∀ (cs : List Char) (b : String), cs.foldl (fun b c => b ++ f c) b =
      b ++ String.ofList (cs.flatMap (fun c => (f c).toList)) := by
    intro cs
    induction cs with
    | nil => intro b; simp
    | cons c cs ih =>
      intro b
      rw [List.foldl_cons, ih, List.flatMap_cons, String.ofList_append, String.ofList_toList,
        String.append_assoc]
  rw [hall]
  exact String.empty_append

theorem substitute_append (f : Char → String) (s t : String) :
    substitute f (s ++ t) = substitute f s ++ substitute f t := by
  simp [substitute, String.toList_append, List.flatMap_append, String.ofList_append]

/-- Replacing twice is replacing in what was put in. -/
theorem substitute_substitute (f g : Char → String) (s : String) :
    substitute g (substitute f s) = substitute (fun c => substitute g (f c)) s := by
  simp [substitute, List.flatMap_assoc]

/-- A text without anything to replace stays. -/
theorem substitute_of_fixed {f : Char → String} {s : String}
    (h : ∀ c ∈ s.toList, f c = String.singleton c) : substitute f s = s := by
  have hchars : s.toList.flatMap (fun c => (f c).toList) = s.toList.flatMap (fun c => [c]) := by
    apply List.flatMap_congr
    intro c hc
    rw [h c hc]
    exact String.toList_singleton c
  unfold substitute
  rw [hchars, List.flatMap_singleton', String.ofList_toList]

/-! ### Numbers and dates -/

/-- A number is written in digits. -/
theorem isDigit_of_mem_toString {n : Nat} {c : Char} (h : c ∈ (toString n).toList) :
    c.isDigit = true := by
  have hdigits : (toString n).toList = Nat.toDigits 10 n := by
    show (Nat.repr n).toList = _
    rw [Nat.repr, String.toList_ofList]
  rw [hdigits] at h
  exact Nat.isDigit_of_mem_toDigits (by decide) (by decide) h

/-- A number can be read off its digits. -/
theorem toString_nat_inj {n m : Nat} (h : toString n = toString m) : n = m := by
  have hdigits : Nat.toDigits 10 n = Nat.toDigits 10 m := by
    rw [Nat.toString_eq_ofList_toDigits, Nat.toString_eq_ofList_toDigits] at h
    exact String.ofList_inj.mp h
  rw [← Nat.ofDigitChars_ten_toDigits (n := n), hdigits, Nat.ofDigitChars_ten_toDigits]

/-- A number with zeros in front up to a width. -/
def pad (width n : Nat) : String :=
  String.ofList (List.replicate (width - (toString n).toList.length) '0') ++ toString n

/-- A second on the calendar. -/
structure Civil where
  year : Int
  month : Nat
  day : Nat
  hour : Nat
  minute : Nat
  second : Nat
  deriving DecidableEq

/-- The Gregorian calendar, in UTC, of seconds since the Unix epoch: counted in eras of 400
    years that begin on the first of March. -/
def Civil.ofUnix (seconds : Int) : Civil :=
  let days := seconds / 86400 + 719468
  let ofDay := (seconds % 86400).toNat
  let era := days / 146097
  let dayOfEra := (days % 146097).toNat
  let yearOfEra := (dayOfEra - dayOfEra / 1460 + dayOfEra / 36524 - dayOfEra / 146096) / 365
  let dayOfYear := dayOfEra - (365 * yearOfEra + yearOfEra / 4 - yearOfEra / 100)
  -- months counted from March, so that February and its leap day come last
  let shifted := (5 * dayOfYear + 2) / 153
  let month := if shifted < 10 then shifted + 3 else shifted - 9
  { year := yearOfEra + era * 400 + if month ≤ 2 then 1 else 0
    month := month
    day := dayOfYear - (153 * shifted + 2) / 5 + 1
    hour := ofDay / 3600
    minute := ofDay / 60 % 60
    second := ofDay % 60 }

example : Civil.ofUnix 1786359600 = ⟨2026, 8, 10, 11, 0, 0⟩ := by decide

example : Civil.ofUnix (-62135596800) = ⟨1, 1, 1, 0, 0, 0⟩ := by decide

theorem isDigit_of_mem_pad {width n : Nat} {c : Char} (h : c ∈ (pad width n).toList) :
    c.isDigit = true := by
  rw [pad, String.toList_append, String.toList_ofList, List.mem_append] at h
  rcases h with hzero | hdigit
  · rw [List.eq_of_mem_replicate hzero]
    decide
  · exact isDigit_of_mem_toString hdigit

/-- Thousandths have three digits. -/
theorem pad_three {n : Nat} (h : n < 1000) :
    ∃ a b c : Char, (pad 3 n).toList = [a, b, c] ∧ a.isDigit ∧ b.isDigit ∧ c.isDigit := by
  have hshort : (toString n).toList.length ≤ 3 := by
    rw [String.length_toList]
    exact (Nat.length_repr_le_iff (by decide)).mpr h
  have hlength : (pad 3 n).toList.length = 3 := by
    simp only [pad, String.toList_append, String.toList_ofList, List.length_append,
      List.length_replicate]
    omega
  have hdigits : ∀ c ∈ (pad 3 n).toList, c.isDigit = true := fun c => isDigit_of_mem_pad
  obtain ⟨a, b, c, hlist⟩ := List.length_eq_three.mp hlength
  rw [hlist] at hdigits
  exact ⟨a, b, c, hlist, hdigits a (by simp), hdigits b (by simp), hdigits c (by simp)⟩

/-! ### Code units -/

/-- The code units of a string in UTF-8. -/
def utf8 (s : String) : List Nat :=
  s.toList.flatMap (fun c => (String.utf8EncodeChar c).map UInt8.toNat)

/-- The code units of a character in UTF-16. -/
def utf16Char (c : Char) : List Nat :=
  if c.toNat < 0x10000 then [c.toNat]
  -- a surrogate pair
  else [0xd800 + (c.toNat - 0x10000) / 0x400, 0xdc00 + (c.toNat - 0x10000) % 0x400]

/-- The code units of a string in UTF-16. -/
def utf16 (s : String) : List Nat := s.toList.flatMap utf16Char

/-- A string of ASCII characters. -/
def IsAscii (s : String) : Prop := ∀ c ∈ s.toList, c.toNat < 128

instance (s : String) : Decidable (IsAscii s) :=
  List.decidableBAll (fun c : Char => c.toNat < 128) s.toList

/-- What holds of the codes of ASCII holds of its characters. -/
theorem forall_ascii {P : Char → Prop} (h : ∀ n < 128, P (Char.ofNat n)) {c : Char}
    (hc : c.toNat < 128) : P c := by
  rw [← Char.ofNat_toNat c]
  exact h c.toNat hc

/-- The code units of an ASCII string are its characters. -/
theorem utf8_of_ascii {s : String} (h : IsAscii s) : utf8 s = s.toList.map Char.toNat := by
  unfold utf8
  rw [List.flatMap_congr (g := fun c => [c.toNat]), ← List.map_eq_flatMap]
  intro c hc
  have hlt : c.toNat < 128 := h c hc
  have hle : c.toNat ≤ 127 := by omega
  have hmod : c.toNat % 256 = c.toNat := Nat.mod_eq_of_lt (by omega)
  simp [String.utf8EncodeChar, hle, hmod]

theorem utf16_of_ascii {s : String} (h : IsAscii s) : utf16 s = s.toList.map Char.toNat := by
  unfold utf16
  rw [List.flatMap_congr (g := fun c => [c.toNat]), ← List.map_eq_flatMap]
  intro c hc
  have hlt : c.toNat < 128 := h c hc
  unfold utf16Char
  rw [if_pos (by omega)]

/-- UTF-8 tells strings apart. -/
theorem utf8_injective : Function.Injective utf8 := by
  intro s t h
  have hcode : ∀ u : String, utf8 u = (u.toList.flatMap String.utf8EncodeChar).map UInt8.toNat :=
    fun u => (List.map_flatMap).symm
  rw [hcode, hcode] at h
  have hbytes : s.toList.flatMap String.utf8EncodeChar = t.toList.flatMap String.utf8EncodeChar :=
    List.map_injective_iff.mpr (fun _ _ => UInt8.toNat_inj.mp) h
  have henc : s.toList.utf8Encode = t.toList.utf8Encode := congrArg List.toByteArray hbytes
  rw [String.utf8Encode_toList, String.utf8Encode_toList] at henc
  exact String.toByteArray_inj.mp henc

/-- A character is one code unit that is not a surrogate, or a pair of surrogates. -/
theorem utf16Char_cases (c : Char) :
    (utf16Char c = [c.toNat] ∧ (c.toNat < 0xd800 ∨ 0xdfff < c.toNat)) ∨
      ∃ high low, utf16Char c = [high, low] ∧ 0xd800 ≤ high ∧ high < 0xdc00 ∧
        c.toNat = 0x10000 + (high - 0xd800) * 0x400 + (low - 0xdc00) := by
  have hvalid : c.toNat < 0xd800 ∨ (0xdfff < c.toNat ∧ c.toNat < 0x110000) := c.valid
  unfold utf16Char
  by_cases h : c.toNat < 0x10000
  · rw [if_pos h]
    exact .inl ⟨rfl, by omega⟩
  · rw [if_neg h]
    exact .inr ⟨_, _, rfl, by omega, by omega, by omega⟩

/-- No character is written as the beginning of another one. -/
theorem utf16Char_prefixFree {c d : Char} (h : utf16Char c <+: utf16Char d) : c = d := by
  apply Char.toNat_inj.mp
  rcases utf16Char_cases c with ⟨hc, hvalid⟩ | ⟨high, low, hc, hle, hlt, hcode⟩
  · rcases utf16Char_cases d with ⟨hd, -⟩ | ⟨high', low', hd, hle', hlt', -⟩
    · rw [hc, hd, List.cons_prefix_cons] at h
      exact h.1
    · rw [hc, hd, List.cons_prefix_cons] at h
      omega
  · rcases utf16Char_cases d with ⟨hd, -⟩ | ⟨high', low', hd, -, -, hcode'⟩
    · rw [hc, hd] at h
      exact absurd h.length_le (by simp)
    · rw [hc, hd, List.cons_prefix_cons, List.cons_prefix_cons] at h
      rw [hcode, hcode', h.1, h.2.1]

/-- UTF-16 tells strings apart. -/
theorem utf16_injective : Function.Injective utf16 := by
  intro s t h
  have hcode : Decoding.SelfDelimiting (fun _ => True) utf16Char :=
    .of_prefixFree (fun _ _ _ _ => utf16Char_prefixFree)
  have hne : ∀ c, True → utf16Char c ≠ [] := by
    intro c _
    rcases utf16Char_cases c with ⟨hc, -⟩ | ⟨_, _, hc, -⟩
    · simp [hc]
    · simp [hc]
  exact String.toList_inj.mp (hcode.flatMap_inj hne (fun _ _ => trivial) (fun _ _ => trivial) h)

end Text
