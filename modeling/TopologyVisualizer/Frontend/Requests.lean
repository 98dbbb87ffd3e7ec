import TopologyVisualizer.Framework.PercentEncoding
import TopologyVisualizer.Framework.Instants
import TopologyVisualizer.Frontend.History

/-! # What the UI Asks For

    `buildQuery` of `client.ts`, which makes URLs of queries. The parameters
    that are written hold, for each name, the values of the query
    (`named_set`, `named_appendNamespaces`).
-/

namespace TopologyVisualizer.Frontend.Requests

open PercentEncoding Text History

/-! ### URLs -/

/-- `URLSearchParams`: pairs in the order in which they came. -/
abbrev SearchParams := List (String × String)

/-- `set`: the first pair of this name has the value, and there is no other. -/
def SearchParams.set (name value : String) : SearchParams → SearchParams
  | [] => [(name, value)]
  | p :: ps =>
    if p.1 = name then (name, value) :: ps.filter (fun p => p.1 ≠ name)
    else p :: SearchParams.set name value ps

/-- The alphabet of `application/x-www-form-urlencoded`: letters, digits, `*`, `-`, `.`, `_`. -/
def formAlphabet : FormAlphabet where
  keeps b := (97 ≤ b && b ≤ 122) || (65 ≤ b && b ≤ 90) || (48 ≤ b && b ≤ 57) ||
    b == 42 || b == 45 || b == 46 || b == 95
  ascii := forall_byte (by decide +kernel)
  percent := by decide
  plus := by decide
  ampersand := by decide
  equals := by decide

def SearchParams.toString (params : SearchParams) : String := formText formAlphabet params

/-- `GraphQuery`. -/
structure GraphQuery where
  window : Option String := none
  «from» : Option String := none
  «to» : Option String := none
  «namespace» : Option (List String) := none
  kind : Option String := none
  query : Option String := none
  includeExternal : Option Bool := none
  includeUnresolved : Option Bool := none

/-- A parameter that is set when its value is a text that is not empty. -/
def setText (name : String) (value : Option String) (params : SearchParams) : SearchParams :=
  match value with
  | none => params
  | some text => if text = "" then params else params.set name text

/-- A parameter that is set when its value is given. -/
def setFlag (name : String) (value : Option Bool) (params : SearchParams) : SearchParams :=
  match value with
  | none => params
  | some b => params.set name (if b then "true" else "false")

/-- The namespaces, each as a pair of its own. -/
def appendNamespaces (namespaces : Option (List String)) (params : SearchParams) : SearchParams :=
  params ++ (namespaces.getD []).map (fun ns => ("namespace", ns))

/-- `buildQuery`, without the question mark. -/
def GraphQuery.params (q : GraphQuery) : SearchParams :=
  let params : SearchParams := []
  let params := setText "window" q.window params
  let params := setText "from" q.from params
  let params := setText "to" q.to params
  let params := setText "kind" q.kind params
  let params := setText "query" q.query params
  let params := appendNamespaces q.namespace params
  let params := setFlag "include_external" q.includeExternal params
  setFlag "include_unresolved" q.includeUnresolved params

/-! ### Instants -/

/-- `toISOString`, which throws for an invalid date. Years that have not four digits are written
    with a sign and six. -/
def toISOString (moment : Option Int) : Option String :=
  moment.map fun t =>
    let c := Civil.ofUnix (t / 1000)
    if 0 ≤ c.year ∧ c.year ≤ 9999 then milliText t
    else (if c.year < 0 then "-" else "+") ++ pad 6 c.year.natAbs ++ "-" ++ pad 2 c.month ++ "-" ++
      pad 2 c.day ++ "T" ++ pad 2 c.hour ++ ":" ++ pad 2 c.minute ++ ":" ++ pad 2 c.second ++ "." ++
      pad 3 (t % 1000).toNat ++ "Z"

/-- A text that `toISOString` wrote. -/
def Wrote (t : Int) (text : String) : Prop := toISOString (timeClip t) = some text

/-- In the years 1 to 9999 it is the plain one. -/
theorem Wrote.eq_milliText {t : Int} {text : String} (h : Wrote t text) (ht : Writable (1000 * t)) :
    text = milliText t := by
  obtain ⟨t', hclip, htext⟩ := Option.map_eq_some_iff.mp h
  have hsecond : 1000 * t / 1000000 = t / 1000 := by omega
  rw [Writable, hsecond] at ht
  rw [eq_of_timeClip hclip] at htext
  exact htext.symm.trans (if_pos ⟨by omega, ht.2⟩)

/-! ### Values by name -/

theorem named_filter_ne (name : String) (params : SearchParams) (m : String) :
    named (params.filter fun p => p.1 ≠ name) m = if m = name then [] else named params m := by
  induction params with
  | nil => simp
  | cons p ps ih =>
    rw [List.filter_cons]
    split
    · rw [named_cons, named_cons, ih]
      grind
    · rw [named_cons, ih]
      grind

@[simp]
theorem named_set (name value : String) (params : SearchParams) (m : String) :
    named (params.set name value) m = if m = name then [value] else named params m := by
  induction params with
  | nil => simp [SearchParams.set]
  | cons p ps ih =>
    rw [SearchParams.set]
    split
    · rw [named_cons, named_cons, named_filter_ne]
      grind
    · rw [named_cons, named_cons, ih]
      grind

@[simp]
theorem named_setText (name : String) (value : Option String) (params : SearchParams) (m : String) :
    named (setText name value params) m =
      if m = name ∧ value.getD "" ≠ "" then [value.getD ""] else named params m := by
  unfold setText
  cases value with
  | none => simp
  | some text =>
    by_cases htext : text = ""
    · simp [htext]
    · simp [htext]

@[simp]
theorem named_setFlag (name : String) (value : Option Bool) (params : SearchParams) (m : String) :
    named (setFlag name value params) m =
      if m = name then value.elim (named params m) (fun b => [if b then "true" else "false"])
      else named params m := by
  unfold setFlag
  cases value with
  | none => simp
  | some b => simp

@[simp]
theorem named_appendNamespaces (namespaces : Option (List String)) (params : SearchParams)
    (m : String) :
    named (appendNamespaces namespaces params) m =
      named params m ++ if m = "namespace" then namespaces.getD [] else [] := by
  rw [appendNamespaces, named_append, named_pairs]

end TopologyVisualizer.Frontend.Requests
