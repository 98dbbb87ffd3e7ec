import Mathlib.Data.List.Basic

/-! # Sequential Checks

    Validators that run their checks in order and report the first failure.
    A validator is an `Except String Unit`; the lemmas say when one accepts,
    so proofs about acceptance never look at messages.
-/

universe u

namespace Checks

variable {α : Type u}

/-- Fail with `message` when `bad`. -/
def rejectIf (bad : Bool) (message : String) : Except String Unit :=
  if bad then .error message else .ok ()

/-- Check the elements in order; a failure is reported under the label of its index. -/
def checkEach (label : Nat → String) (check : α → Except String Unit) (start : Nat) :
    List α → Except String Unit
  | [] => .ok ()
  | a :: as =>
    match check a with
    | .error message => .error (label start ++ message)
    | .ok () => checkEach label check (start + 1) as

@[simp] theorem rejectIf_eq_ok {bad : Bool} {message : String} :
    rejectIf bad message = .ok () ↔ bad = false := by
  cases bad <;> simp [rejectIf]

/-- A check in front of a computation: both have to succeed. -/
@[simp] theorem seq_eq_ok {β : Type} {first : Except String Unit} {second : Except String β}
    {b : β} : (first >>= fun _ => second) = .ok b ↔ first = .ok () ∧ second = .ok b := by
  cases first with
  | error message => simp [bind, Except.bind]
  | ok u => cases u; simp [bind, Except.bind]

@[simp] theorem checkEach_eq_ok {label : Nat → String} {check : α → Except String Unit}
    {start : Nat} {l : List α} :
    checkEach label check start l = .ok () ↔ ∀ a ∈ l, check a = .ok () := by
  induction l generalizing start with
  | nil => simp [checkEach]
  | cons a as ih =>
    rw [List.forall_mem_cons, ← @ih (start + 1)]
    cases ha : check a with
    | error message => simp [checkEach, ha]
    | ok u => cases u; simp [checkEach, ha]

end Checks
