import Mathlib.Data.List.Basic
import Mathlib.Data.UInt
import Mathlib.Tactic.FinCases

/-! # Percent-Encoding

    Bytes as the characters of a URL, and back.

    * **Escaping**: a byte of the alphabet is its own character, any other
      byte is `%` and two hexadecimal digits. Whatever the alphabet is,
      decoding gives the byte back (`decode_escapeByte`).
    * **Forms**: names and values of a query, where a space is `+`. The pairs
      are read as they were written, in order (`parseForm_form`), by any
      reader and for any writer.
    * **Texts**: a string is its UTF-8 bytes (`ofUtf8_utf8`), so the pairs of
      texts are read as they were written (`parseFormText_formText`).
-/

namespace PercentEncoding

/-! ### Hexadecimal digits -/

/-- The character of a digit, in upper case. -/
def hexDigit (n : Nat) : Char := Char.ofNat (if n < 10 then 48 + n else 55 + n)

/-- The digit of a character, in either case. -/
def hexValue (c : Char) : Option Nat :=
  if '0' ≤ c ∧ c ≤ '9' then some (c.toNat - 48)
  else if 'A' ≤ c ∧ c ≤ 'F' then some (c.toNat - 55)
  else if 'a' ≤ c ∧ c ≤ 'f' then some (c.toNat - 87)
  else none

theorem hexValue_hexDigit {n : Nat} (h : n < 16) : hexValue (hexDigit n) = some n := by
  revert n
  decide

/-- Two digits as a byte. -/
def hexByte (high low : Char) : Option UInt8 :=
  (hexValue high).bind fun h => (hexValue low).map fun l => UInt8.ofNat (16 * h + l)

theorem hexByte_hexDigit (b : UInt8) :
    hexByte (hexDigit (b.toNat / 16)) (hexDigit (b.toNat % 16)) = some b := by
  have hb : b.toNat < 256 := b.toNat_lt
  unfold hexByte
  rw [hexValue_hexDigit (by omega), hexValue_hexDigit (by omega)]
  simp only [Option.bind_some, Option.map_some, Option.some.injEq]
  rw [Nat.div_add_mod, UInt8.ofNat_toNat]

/-! ### Alphabets -/

/-- Every byte, checked. -/
theorem forall_byte {p : UInt8 → Prop} (h : ∀ n : Fin 256, p (UInt8.ofNat n)) (b : UInt8) : p b := by
  have hb := h ⟨b.toNat, b.toNat_lt⟩
  rwa [UInt8.ofNat_toNat] at hb

/-- The bytes that are not escaped: characters of ASCII, and `%` is not one of them. -/
structure Alphabet where
  keeps : UInt8 → Bool
  ascii : ∀ b, keeps b = true → b.toNat < 128
  percent : keeps 37 = false

/-- Of an alphabet for forms, the separators and `+` are none either. -/
structure FormAlphabet extends Alphabet where
  plus : keeps 43 = false
  ampersand : keeps 38 = false
  equals : keeps 61 = false

/-- A byte of ASCII as a character. -/
def character (b : UInt8) : Char := Char.ofNat b.toNat

theorem utf8EncodeChar_character {b : UInt8} (h : b.toNat < 128) :
    String.utf8EncodeChar (character b) = [b] := by
  have hall : ∀ n : Fin 128, String.utf8EncodeChar (Char.ofNat n) = [UInt8.ofNat n] := by decide
  have hb := hall ⟨b.toNat, h⟩
  rwa [UInt8.ofNat_toNat] at hb

theorem character_injective {b b' : UInt8} (h : b.toNat < 128) (h' : b'.toNat < 128)
    (heq : character b = character b') : b = b' := by
  have henc := congrArg String.utf8EncodeChar heq
  rw [utf8EncodeChar_character h, utf8EncodeChar_character h'] at henc
  exact (List.cons.inj henc).1

/-! ### Escaping -/

def escapeByte (a : Alphabet) (b : UInt8) : List Char :=
  if a.keeps b then [character b]
  else ['%', hexDigit (b.toNat / 16), hexDigit (b.toNat % 16)]

/-- A `%` that two hexadecimal digits do not follow stays as it is. -/
def decode : List Char → List UInt8
  | [] => []
  | [c] => String.utf8EncodeChar c
  | [c, d] => String.utf8EncodeChar c ++ String.utf8EncodeChar d
  | c :: h :: l :: cs =>
    if c = '%' then
      match hexByte h l with
      | some b => b :: decode cs
      | none => 37 :: decode (h :: l :: cs)
    else String.utf8EncodeChar c ++ decode (h :: l :: cs)

theorem decode_cons {c : Char} (h : c ≠ '%') (cs : List Char) :
    decode (c :: cs) = String.utf8EncodeChar c ++ decode cs := by
  match cs with
  | [] => simp [decode]
  | [d] => simp [decode]
  | d :: e :: cs => rw [decode, if_neg h]

theorem character_ne {a : Alphabet} {b : UInt8} (h : a.keeps b = true) {b' : UInt8}
    (h' : b'.toNat < 128) (hb' : a.keeps b' = false) : character b ≠ character b' := by
  intro heq
  rw [character_injective (a.ascii b h) h' heq, hb'] at h
  cases h

/-- A kept byte is decoded to itself. -/
theorem decode_character {a : Alphabet} {b : UInt8} (h : a.keeps b = true) (cs : List Char) :
    decode (character b :: cs) = b :: decode cs := by
  have hne : character b ≠ '%' := character_ne h (by decide) a.percent
  rw [decode_cons hne, utf8EncodeChar_character (a.ascii b h)]
  rfl

theorem decode_escapeByte (a : Alphabet) (b : UInt8) (cs : List Char) :
    decode (escapeByte a b ++ cs) = b :: decode cs := by
  unfold escapeByte
  split
  · rename_i hkeeps
    exact decode_character hkeeps cs
  · show decode ('%' :: hexDigit (b.toNat / 16) :: hexDigit (b.toNat % 16) :: cs) = _
    rw [decode, if_pos rfl, hexByte_hexDigit]

/-- What stands in an escaped text. -/
inductive Plain (a : Alphabet) : Char → Prop where
  | kept {b : UInt8} (h : a.keeps b = true) : Plain a (character b)
  | percent : Plain a '%'
  | digit {n : Nat} (h : n < 16) : Plain a (hexDigit n)

theorem plain_of_mem_escapeByte {a : Alphabet} {b : UInt8} {c : Char} (h : c ∈ escapeByte a b) :
    Plain a c := by
  unfold escapeByte at h
  have hb : b.toNat < 256 := b.toNat_lt
  split at h
  · rename_i hkeeps
    rw [List.mem_singleton.mp h]
    exact .kept hkeeps
  · simp only [List.mem_cons, List.not_mem_nil, or_false] at h
    rcases h with rfl | rfl | rfl
    · exact .percent
    · exact .digit (by omega)
    · exact .digit (by omega)

/-- A character that is escaped itself does not stand in an escaped text, unless it is `%` or a
    digit. -/
theorem Plain.ne {a : Alphabet} {c : Char} (h : Plain a c) {b : UInt8} (hb : a.keeps b = false)
    (hascii : b.toNat < 128) (hpercent : character b ≠ '%') (hdigit : hexValue (character b) = none) :
    c ≠ character b := by
  cases h with
  | kept hkeeps => exact character_ne hkeeps hascii hb
  | percent => exact hpercent.symm
  | digit hn =>
    intro heq
    rw [← heq, hexValue_hexDigit hn] at hdigit
    cases hdigit

/-! ### Forms -/

/-- A name or a value: a space is `+`. -/
def formByte (a : FormAlphabet) (b : UInt8) : List Char :=
  if b = 32 then ['+'] else escapeByte a.toAlphabet b

def formEscape (a : FormAlphabet) (bs : List UInt8) : List Char := bs.flatMap (formByte a)

def formDecode (cs : List Char) : List UInt8 := decode (cs.map fun c => if c = '+' then ' ' else c)

/-- No `+` comes from escaping. -/
theorem plus_notMem_escapeByte (a : FormAlphabet) (b : UInt8) :
    ∀ c ∈ escapeByte a.toAlphabet b, c ≠ '+' := fun _ hc =>
  (plain_of_mem_escapeByte hc).ne a.plus (by decide) (by decide) (by decide)

theorem formDecode_formByte (a : FormAlphabet) (b : UInt8) (cs : List Char) :
    formDecode (formByte a b ++ cs) = b :: formDecode cs := by
  unfold formDecode formByte
  split
  · rename_i hspace
    rw [hspace]
    exact decode_cons (by decide) _
  · have hmap : (escapeByte a.toAlphabet b).map (fun c => if c = '+' then ' ' else c) =
        escapeByte a.toAlphabet b := by
      have hsame : ∀ c ∈ escapeByte a.toAlphabet b, (if c = '+' then ' ' else c) = c :=
        fun c hc => if_neg (plus_notMem_escapeByte a b c hc)
      exact (List.map_congr_left hsame).trans (List.map_id' _)
    rw [List.map_append, hmap, decode_escapeByte]

/-- **A component** is read as it was written. -/
theorem formDecode_formEscape (a : FormAlphabet) (bs : List UInt8) :
    formDecode (formEscape a bs) = bs := by
  induction bs with
  | nil => rfl
  | cons b bs ih =>
    rw [formEscape, List.flatMap_cons, formDecode_formByte]
    exact congrArg (b :: ·) ih

/-- The separators of a form do not stand in its components. -/
theorem separator_notMem_formEscape (a : FormAlphabet) (bs : List UInt8) :
    '&' ∉ formEscape a bs ∧ '=' ∉ formEscape a bs := by
  have hne : ∀ c ∈ formEscape a bs, c ≠ '&' ∧ c ≠ '=' := by
    intro c hc
    obtain ⟨b, -, hb⟩ := List.mem_flatMap.mp hc
    unfold formByte at hb
    split at hb
    · rw [List.mem_singleton.mp hb]
      decide
    · have hplain := plain_of_mem_escapeByte hb
      exact ⟨hplain.ne a.ampersand (by decide) (by decide) (by decide),
        hplain.ne a.equals (by decide) (by decide) (by decide)⟩
  exact ⟨fun h => (hne _ h).1 rfl, fun h => (hne _ h).2 rfl⟩

/-- A name and its value. -/
abbrev Pair := List UInt8 × List UInt8

def formPair (a : FormAlphabet) (p : Pair) : List Char :=
  formEscape a p.1 ++ '=' :: formEscape a p.2

def form (a : FormAlphabet) (ps : List Pair) : List Char := ['&'].intercalate (ps.map (formPair a))

/-- A part up to its first `=`, and from there on. Empty parts are passed over. -/
def parsePair (part : List Char) : Option Pair :=
  if part = [] then none
  else some (formDecode (part.takeWhile (· ≠ '=')), formDecode (part.dropWhile (· ≠ '=')).tail)

def parseForm (cs : List Char) : List Pair := (cs.splitOn '&').filterMap parsePair

theorem parsePair_formPair (a : FormAlphabet) (p : Pair) : parsePair (formPair a p) = some p := by
  have hname : ∀ c ∈ formEscape a p.1, decide (c ≠ '=') = true := by
    intro c hc
    refine decide_eq_true (fun heq => ?_)
    exact (separator_notMem_formEscape a p.1).2 (heq ▸ hc)
  have hne : formPair a p ≠ [] := by simp [formPair]
  have htake : (formPair a p).takeWhile (· ≠ '=') = formEscape a p.1 := by
    rw [formPair, List.takeWhile_append_of_pos hname]
    simp
  have hdrop : (formPair a p).dropWhile (· ≠ '=') = '=' :: formEscape a p.2 := by
    rw [formPair, List.dropWhile_append_of_pos hname]
    simp
  rw [parsePair, if_neg hne, htake, hdrop, List.tail_cons, formDecode_formEscape,
    formDecode_formEscape]

theorem ampersand_notMem_formPair (a : FormAlphabet) (p : Pair) : '&' ∉ formPair a p := by
  unfold formPair
  rw [List.mem_append, List.mem_cons]
  rintro (h | h | h)
  · exact (separator_notMem_formEscape a p.1).1 h
  · exact absurd h (by decide)
  · exact (separator_notMem_formEscape a p.2).1 h

/-- **A form** is read as it was written, whatever its alphabet is. -/
theorem parseForm_form (a : FormAlphabet) (ps : List Pair) : parseForm (form a ps) = ps := by
  have hall : (ps.map (formPair a)).filterMap parsePair = ps := by
    rw [List.filterMap_map]
    have hsome : parsePair ∘ formPair a = some := funext (parsePair_formPair a)
    rw [hsome, List.filterMap_some]
  cases ps with
  | nil => rfl
  | cons p ps =>
    unfold parseForm form
    rw [List.splitOn_intercalate _ ?_ (by simp), hall]
    intro part hpart
    obtain ⟨q, -, rfl⟩ := List.mem_map.mp hpart
    exact ampersand_notMem_formPair a q

/-! ### Texts -/

/-- The bytes of a text. -/
def utf8 (s : String) : List UInt8 := s.toList.flatMap String.utf8EncodeChar

/-- The text of bytes, if they are UTF-8. -/
def ofUtf8 (bs : List UInt8) : Option String := String.fromUTF8? bs.toByteArray

theorem ofUtf8_utf8 (s : String) : ofUtf8 (utf8 s) = some s := by
  have hbytes : (utf8 s).toByteArray = s.toByteArray := String.utf8Encode_toList
  rw [ofUtf8, hbytes, String.fromUTF8?, dif_pos s.isValidUTF8]
  rfl

/-- The text of a form. -/
def formText (a : FormAlphabet) (ps : List (String × String)) : String :=
  String.ofList (form a (ps.map fun p => (utf8 p.1, utf8 p.2)))

/-- The pairs of such a text; those that are not UTF-8 are passed over. -/
def parseFormText (text : String) : List (String × String) :=
  (parseForm text.toList).filterMap fun p =>
    (ofUtf8 p.1).bind fun name => (ofUtf8 p.2).map fun value => (name, value)

theorem parseFormText_formText (a : FormAlphabet) (ps : List (String × String)) :
    parseFormText (formText a ps) = ps := by
  unfold parseFormText formText
  rw [String.toList_ofList, parseForm_form, List.filterMap_map]
  refine Eq.trans (List.filterMap_congr (g := some) ?_) (List.filterMap_some)
  intro p _
  simp [ofUtf8_utf8]

/-! ### Values by name -/

/-- The values of a name, in order. -/
def named (ps : List (String × String)) (name : String) : List String :=
  (ps.filter (fun p => p.1 = name)).map Prod.snd

@[simp]
theorem named_nil (name : String) : named [] name = [] := rfl

@[simp]
theorem named_cons (p : String × String) (ps : List (String × String)) (name : String) :
    named (p :: ps) name = if name = p.1 then p.2 :: named ps name else named ps name := by
  unfold named
  rw [List.filter_cons]
  by_cases h : p.1 = name
  · simp [h]
  · simp [h, Ne.symm h]

theorem named_append (ps qs : List (String × String)) (name : String) :
    named (ps ++ qs) name = named ps name ++ named qs name := by
  unfold named
  rw [List.filter_append, List.map_append]

theorem named_pairs (k : String) (values : List String) (name : String) :
    named (values.map fun value => (k, value)) name = if name = k then values else [] := by
  induction values with
  | nil => simp
  | cons value values ih =>
    rw [List.map_cons, named_cons, ih]
    split <;> rfl

end PercentEncoding
