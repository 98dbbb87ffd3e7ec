import TopologyVisualizer.Cli.Render

/-! # The Output Cap of the MCP Server

    `capped` of `cli/internal/mcpserver/server.go`. Rows are dropped from the
    end until the text fits. What a text needs depends on the number of rows
    that are kept twice: through the rows, and through the line that says how
    many were left out, which is there only if some were and gets longer with
    the number. So the sizes are not monotone in the number of rows, and the
    loop looks at them one by one, from the largest number down.
-/

namespace TopologyVisualizer.Cli.McpServer

open Render

/-- `MaxRows`. -/
def maxRows : Nat := 200

/-- `MaxBytes`. -/
def maxBytes : Nat := 16 <<< 10

/-- `serverTruncated`. -/
def serverTruncated : String :=
  "the server truncated this result: relationships are missing; narrow the query " ++
    "(namespaces, kind, query, or a shorter window) before concluding anything is absent"

/-- `size`: the bytes of lines with their line feeds. -/
def size (lines : List String) : Nat := lines.foldl (fun n l => n + (l.utf8ByteSize + 1)) 0

/-- `omitLine`. -/
def omitLine (n : Nat) : String :=
  toString n ++ " more relationships omitted (output capped at " ++ toString maxRows ++
    " lines / " ++ toString (maxBytes >>> 10) ++ " KiB); narrow the " ++
    "query with namespaces, kind, query or a shorter window"

section capped
variable (t : Rendering) (serverTrunc : Bool)

def tail : List String := if serverTrunc then [serverTruncated] else []

def fixed : Nat := size t.header + size t.notes + size (tail serverTrunc)

/-- `used`, of so many rows. -/
def used (kept : Nat) : Nat :=
  let used := fixed t serverTrunc + size (t.rows.take kept)
  if kept < t.rows.length then used + ((omitLine (t.rows.length - kept)).utf8ByteSize + 1)
  else used

/-- The loop. -/
def shrink : Nat → Nat
  | 0 => 0
  | kept + 1 => if used t serverTrunc (kept + 1) ≤ maxBytes then kept + 1 else shrink kept

/-- `kept`, after the loop. -/
def kept : Nat :=
  shrink t serverTrunc (if t.rows.length > maxRows then maxRows else t.rows.length)

/-- `out`, of so many rows. -/
def out (kept : Nat) : Rendering where
  header := t.header
  rows := t.rows.take kept
  notes :=
    let notes := if kept < t.rows.length then t.notes ++ [omitLine (t.rows.length - kept)]
      else t.notes
    notes ++ tail serverTrunc

/-- `capped`. -/
def capped : String := (out t serverTrunc (kept t serverTrunc)).string

end capped

/-! ### Sizes -/

theorem size_cons (l : String) (ls : List String) : size (l :: ls) = l.utf8ByteSize + 1 + size ls := by
  have hstart : ∀ (ls : List String) (n : Nat),
      ls.foldl (fun n l => n + (l.utf8ByteSize + 1)) n = n + size ls := by
    intro ls
    induction ls with
    | nil => intro n; rfl
    | cons l ls ih =>
      intro n
      unfold size
      rw [List.foldl_cons, List.foldl_cons, ih, ih]
      omega
  unfold size
  rw [List.foldl_cons, hstart]
  unfold size
  omega

theorem size_append (ls ls' : List String) : size (ls ++ ls') = size ls + size ls' := by
  induction ls with
  | nil => exact (Nat.zero_add _).symm
  | cons l ls ih =>
    rw [List.cons_append, size_cons, size_cons, ih]
    omega

/-- The size of lines is that of their text. -/
theorem utf8ByteSize_lines (ls : List String) : (Text.lines ls).utf8ByteSize = size ls := by
  induction ls with
  | nil => rfl
  | cons l ls ih =>
    have hfeed : "\n".utf8ByteSize = 1 := rfl
    rw [Text.lines, String.utf8ByteSize_append, String.utf8ByteSize_append, ih, hfeed, size_cons]

section sizes
variable (t : Rendering) (serverTrunc : Bool)

/-- The loop computes the size of the text. -/
theorem utf8ByteSize_out (kept : Nat) :
    (out t serverTrunc kept).string.utf8ByteSize = used t serverTrunc kept := by
  rw [Rendering.string_eq, utf8ByteSize_lines]
  unfold Rendering.lines out used fixed
  dsimp only
  split
  · simp only [size_append, size_cons]
    have hnil : size [] = 0 := rfl
    omega
  · simp only [size_append]
    omega

/-- What the loop finds: the largest number of rows, up to where it starts, that fits. -/
theorem shrink_spec (h : used t serverTrunc 0 ≤ maxBytes) (n : Nat) :
    shrink t serverTrunc n ≤ n ∧ used t serverTrunc (shrink t serverTrunc n) ≤ maxBytes ∧
      ∀ k, shrink t serverTrunc n < k → k ≤ n → maxBytes < used t serverTrunc k := by
  induction n with
  | zero =>
    refine ⟨Nat.le_refl 0, h, ?_⟩
    intro k hlt hle
    have hzero : shrink t serverTrunc 0 = 0 := rfl
    omega
  | succ n ih =>
    rw [shrink]
    split
    · next hfits =>
      refine ⟨Nat.le_refl _, hfits, ?_⟩
      intro k hlt hle
      omega
    · next hlong =>
      obtain ⟨hle, hfits, hmax⟩ := ih
      refine ⟨Nat.le_succ_of_le hle, hfits, ?_⟩
      intro k hlt hk
      rcases Nat.lt_or_eq_of_le hk with hk | rfl
      · exact hmax k hlt (by omega)
      · omega

end sizes

/-- The omission line, if rows were dropped. -/
def omission (t : Rendering) (kept : Nat) : List String :=
  if kept < t.rows.length then [omitLine (t.rows.length - kept)] else []

theorem omission_eq_nil_iff {t : Rendering} {kept : Nat} (h : kept ≤ t.rows.length) :
    omission t kept = [] ↔ kept = t.rows.length := by
  unfold omission
  split
  · next hlt => exact iff_of_false (List.cons_ne_nil _ _) (by omega)
  · exact iff_of_true rfl (by omega)

theorem omission_states {t : Rendering} {kept : Nat} (h : kept < t.rows.length) :
    ∃ rest, omission t kept =
      [toString (t.rows.length - kept) ++ " more relationships omitted" ++ rest] := by
  have hsplit : " more relationships omitted (output capped at " =
      " more relationships omitted" ++ " (output capped at " := rfl
  refine ⟨" (output capped at " ++ toString maxRows ++ " lines / " ++ toString (maxBytes >>> 10) ++
    " KiB); narrow the " ++ "query with namespaces, kind, query or a shorter window", ?_⟩
  rw [omission, if_pos h, omitLine, hsplit]
  simp only [String.append_assoc]

/-- The text is that of its lines, each with a line feed after it. -/
theorem string_out (t : Rendering) (serverTrunc : Bool) (kept : Nat) :
    (out t serverTrunc kept).string = String.join ((t.header ++ t.rows.take kept ++ t.notes ++
      omission t kept ++ tail serverTrunc).map (· ++ "\n")) := by
  have hlines : (out t serverTrunc kept).lines = t.header ++ t.rows.take kept ++ t.notes ++
      omission t kept ++ tail serverTrunc := by
    unfold Rendering.lines out omission
    split <;> simp
  rw [Rendering.string_eq, Text.lines_eq_join, hlines]

/-- **The cap** is tight and honest: for every text whose header, notes, tail and omission line
    fit, the result has at most `maxRows` rows and `maxBytes` bytes; its lines are the header, the
    first rows, the notes, the omission line and the tail, each with a line feed after it; the
    omission line is there exactly if rows were dropped, and begins with how many; and no larger
    number of rows within `maxRows` would have fitted, with its own omission line if it needs
    one. -/
theorem capped_tight (t : Rendering) (serverTrunc : Bool)
    (h : used t serverTrunc 0 ≤ maxBytes) :
    let lines : Nat → List String := fun k => t.header ++ t.rows.take k ++ t.notes ++
      omission t k ++ (if serverTrunc then [serverTruncated] else [])
    ∃ kept, kept ≤ t.rows.length ∧ kept ≤ maxRows ∧
      capped t serverTrunc = String.join ((lines kept).map (· ++ "\n")) ∧
      (capped t serverTrunc).utf8ByteSize ≤ maxBytes ∧
      (omission t kept = [] ↔ kept = t.rows.length) ∧
      (kept < t.rows.length → ∃ rest, omission t kept =
        [toString (t.rows.length - kept) ++ " more relationships omitted" ++ rest]) ∧
      ∀ k, kept < k → k ≤ t.rows.length → k ≤ maxRows →
        maxBytes < (String.join ((lines k).map (· ++ "\n"))).utf8ByteSize := by
  obtain ⟨hle, hfits, hmax⟩ :=
    shrink_spec t serverTrunc h (if t.rows.length > maxRows then maxRows else t.rows.length)
  have hkept : kept t serverTrunc ≤ t.rows.length ∧ kept t serverTrunc ≤ maxRows := by
    unfold kept
    split at hle <;> split <;> omega
  refine ⟨kept t serverTrunc, hkept.1, hkept.2, string_out t serverTrunc _, ?_,
    omission_eq_nil_iff hkept.1, omission_states, ?_⟩
  · unfold capped
    rw [utf8ByteSize_out]
    exact hfits
  · intro k hlt hlength hrows
    have hsize := utf8ByteSize_out t serverTrunc k
    rw [string_out] at hsize
    refine lt_of_lt_of_eq (hmax k hlt ?_) hsize.symm
    split <;> omega

/-- Two hundred rows of the 201 are kept, and one is said to be missing. -/
theorem capped_tight_one_more :
    ∃ rest, capped ⟨["h"], List.replicate 201 "r", []⟩ true =
      String.join ((["h"] ++ List.replicate 200 "r" ++
        ["1 more relationships omitted" ++ rest] ++ [serverTruncated]).map (· ++ "\n")) := by
  have hfits : used ⟨["h"], List.replicate 201 "r", []⟩ true 0 ≤ maxBytes := by decide +kernel
  obtain ⟨kept, hlength, hrows, hcapped, -, -, hstates, hmax⟩ :=
    capped_tight ⟨["h"], List.replicate 201 "r", []⟩ true hfits
  have hkept : kept = 200 := by
    by_contra hne
    have hlong := hmax 200 (lt_of_le_of_ne hrows hne) (by rw [List.length_replicate]; decide)
      (Nat.le_refl _)
    exact absurd hlong (by decide +kernel)
  subst hkept
  obtain ⟨rest, hrest⟩ := hstates (by rw [List.length_replicate]; decide)
  refine ⟨rest, ?_⟩
  have hone : toString ((List.replicate 201 "r").length - 200) = "1" := by
    rw [List.length_replicate]
    rfl
  have htake : (List.replicate 201 "r").take 200 = List.replicate 200 "r" := List.take_replicate
  have hmore : "1" ++ " more relationships omitted" = "1 more relationships omitted" := rfl
  rw [hcapped]
  dsimp only
  rw [hrest, hone, htake, hmore, List.append_nil, if_pos rfl]

end TopologyVisualizer.Cli.McpServer
