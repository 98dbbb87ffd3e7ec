import TopologyVisualizer.Framework.Text

/-! # Quoted Parts of a Text

    Texts in which double quotes delimit strings, line by line. What is left
    of a text without its strings is `unquoted`, with the quotes themselves;
    its `skeleton` is what is left of its lines. Lines that are put together
    from a part before, a quoted part and a part after it have a skeleton
    that does not depend on the quoted part (`skeleton_quotedLine`).
-/

namespace Text

/-! ### Outside of quotes -/

/-- A text without what stands between double quotes; `inside` says whether it begins there. -/
def unquoted (inside : Bool) : List Char → List Char
  | [] => []
  | c :: cs =>
    if c = '\"' then c :: unquoted (!inside) cs
    else if inside then unquoted inside cs
    else c :: unquoted inside cs

theorem unquoted_outside {a : List Char} (ha : '\"' ∉ a) (b : List Char) :
    unquoted false (a ++ b) = a ++ unquoted false b := by
  induction a with
  | nil => rfl
  | cons c a ih =>
    rw [List.mem_cons, not_or] at ha
    rw [List.cons_append, unquoted, if_neg (Ne.symm ha.1), ih ha.2]
    rfl

theorem unquoted_inside {a : List Char} (ha : '\"' ∉ a) (b : List Char) :
    unquoted true (a ++ b) = unquoted true b := by
  induction a with
  | nil => rfl
  | cons c a ih =>
    rw [List.mem_cons, not_or] at ha
    rw [List.cons_append, unquoted, if_neg (Ne.symm ha.1), if_pos rfl, ih ha.2]

/-! ### Lines -/

/-- The lines of a text, as characters. -/
def lineList (text : String) : List (List Char) := text.toList.splitOn '\n'

/-- The lines of a text without their strings. -/
def skeleton (text : String) : List (List Char) := (lineList text).map (unquoted false)

theorem lineList_lines (ls : List String) : lineList (lines ls) = ls.flatMap lineList ++ [[]] := by
  induction ls with
  | nil => rfl
  | cons l ls ih =>
    have hsplit : lineList (lines (l :: ls)) = lineList l ++ lineList (lines ls) := by
      unfold lineList
      rw [lines, String.toList_append, String.toList_append, List.append_assoc]
      exact List.splitOn_append_cons_self _ _
    rw [hsplit, ih, List.flatMap_cons, List.append_assoc]

theorem skeleton_lines (ls : List String) : skeleton (lines ls) = ls.flatMap skeleton ++ [[]] := by
  unfold skeleton
  rw [lineList_lines, List.map_append, List.map_flatMap]
  rfl

/-- A text that has neither quotes nor line feeds. -/
def Inert (s : String) : Prop := '\"' ∉ s.toList ∧ '\n' ∉ s.toList

theorem Inert.append {s t : String} (hs : Inert s) (ht : Inert t) : Inert (s ++ t) := by
  unfold Inert
  rw [String.toList_append, List.mem_append, List.mem_append, not_or, not_or]
  exact ⟨⟨hs.1, ht.1⟩, hs.2, ht.2⟩

/-- Digits are inert. -/
theorem inert_of_isDigit {s : String} (h : ∀ c ∈ s.toList, c.isDigit = true) : Inert s :=
  ⟨fun hc => absurd (h _ hc) (by decide), fun hc => absurd (h _ hc) (by decide)⟩

theorem inert_toString (n : Nat) : Inert (toString n) :=
  inert_of_isDigit (fun _ => isDigit_of_mem_toString)

/-- A line with one quoted part. -/
def quotedLine (before inside after : String) : String :=
  before ++ "\"" ++ inside ++ "\"" ++ after

section quotedLine
variable {before inside after : String} (hbefore : Inert before) (hinside : Inert inside)
  (hafter : Inert after)
include hbefore hinside hafter

theorem lineList_quotedLine :
    lineList (quotedLine before inside after) =
      [before.toList ++ '\"' :: (inside.toList ++ '\"' :: after.toList)] := by
  have hchars : (quotedLine before inside after).toList =
      before.toList ++ '\"' :: (inside.toList ++ '\"' :: after.toList) := by
    simp [quotedLine, String.toList_append]
  unfold lineList
  rw [hchars]
  apply List.splitOn_eq_singleton
  simp [hbefore.2, hinside.2, hafter.2]

/-- What is quoted does not show. -/
theorem skeleton_quotedLine :
    skeleton (quotedLine before inside after) =
      [before.toList ++ '\"' :: '\"' :: after.toList] := by
  have hrest : unquoted false after.toList = after.toList := by
    have h := unquoted_outside hafter.1 []
    rwa [List.append_nil, unquoted, List.append_nil] at h
  unfold skeleton
  rw [lineList_quotedLine hbefore hinside hafter, List.map_singleton, unquoted_outside hbefore.1,
    unquoted, if_pos rfl, Bool.not_false, unquoted_inside hinside.1, unquoted, if_pos rfl,
    Bool.not_true, hrest]

end quotedLine

/-- A text has a line with one pair of quotes, and `s` is inside of it. -/
def Quotes (text s : String) : Prop :=
  ∃ before x y after : String, Inert before ∧ Inert (x ++ s ++ y) ∧ Inert after ∧
    (quotedLine before (x ++ s ++ y) after).toList ∈ lineList text

theorem quotes_of_mem {ls : List String} {before x s y after : String} (hbefore : Inert before)
    (hinside : Inert (x ++ s ++ y)) (hafter : Inert after)
    (h : quotedLine before (x ++ s ++ y) after ∈ ls) : Quotes (lines ls) s := by
  refine ⟨before, x, y, after, hbefore, hinside, hafter, ?_⟩
  rw [lineList_lines]
  refine List.mem_append_left _ (List.mem_flatMap.mpr ⟨_, h, ?_⟩)
  rw [lineList_quotedLine hbefore hinside hafter, List.mem_singleton]
  simp [quotedLine, String.toList_append]

end Text
