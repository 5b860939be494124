import Mathlib.Data.List.Basic
namespace ZenohDslr.Numerals

universe u
variable {α : Type u} [DecidableEq α] {digit : α → Option Nat} {gap x : α} {xs : List α} {after : Bool} {value : Nat}

-- Decimal figures, between two of which one gap may stand. The flag says that a
-- figure came last, the number is what the figures so far amount to.
def readDigits (digit : α → Option Nat) (gap : α) : Bool → Nat → List α → Option Nat
  | true,value,[] => some value
  | false,_,[] => none
  | after,value,x :: rest =>
    if x = gap then (if after then readDigits digit gap false value rest else none)
    else match digit x with
      | some figure => readDigits digit gap true (10 * value + figure) rest
      | none => none

theorem readDigits_cons : readDigits digit gap after value (x :: xs) =
    if x = gap then (if after then readDigits digit gap false value xs else none)
    else (digit x).bind fun figure => readDigits digit gap true (10 * value + figure) xs := by
  cases after <;> cases found : digit x <;> simp [readDigits,found]

-- Of figures alone, at least one before the end, every one counts.
theorem readDigits_figures (worth : α → Nat) (each : ∀ x ∈ xs, x ≠ gap ∧ digit x = some (worth x)) (begun : after = true ∨ xs ≠ []) :
    readDigits digit gap after value xs = some (xs.foldl (fun sofar x => 10 * sofar + worth x) value) := by
  induction xs generalizing after value with
  | nil =>
    have reading : after = true := begun.resolve_right (by simp)
    rw [reading]
    rfl
  | cons x rest ih =>
    obtain ⟨figure,worthy⟩ := each x List.mem_cons_self
    rw [readDigits_cons,if_neg figure,worthy,Option.bind_some,List.foldl_cons]
    exact ih (fun y inside => each y (List.mem_cons_of_mem x inside)) (Or.inl rfl)

-- What is neither a figure nor a gap spoils the whole.
theorem readDigits_strange (there : x ∈ xs) (other : x ≠ gap) (strange : digit x = none) :
    readDigits digit gap after value xs = none := by
  induction xs generalizing after value with
  | nil => cases there
  | cons y rest ih =>
    rw [readDigits_cons]
    rcases List.mem_cons.mp there with rfl | behind
    · simp [other,strange]
    · simp [ih behind]

end ZenohDslr.Numerals
