import Mathlib.Data.List.Infix
import Mathlib.Data.List.Basic
namespace ZenohDslr.KeyExpressions

universe u
variable {α : Type u} [DecidableEq α] {key front rest : List α}

-- A piece of a pattern over keys made of chunks: one chunk spelled out, any one,
-- or any number of them.
inductive Piece (α : Type u) where
  | spelled (chunk : α)
  | one
  | many
  deriving DecidableEq,Repr

def accepts : List (Piece α) → List α → Bool
  | [],key => key.isEmpty
  | .many :: pattern,key => key.tails.any fun rest => accepts pattern rest
  | .one :: pattern,key =>
    match key with
    | [] => false
    | _ :: rest => accepts pattern rest
  | .spelled chunk :: pattern,key =>
    match key with
    | [] => false
    | first :: rest => first = chunk && accepts pattern rest

theorem accepts_many : accepts [.many] key = true := by
  have all : [] ∈ key.tails := (List.mem_tails _ _).mpr key.nil_suffix
  simp only [accepts,List.any_eq_true]
  exact ⟨[],all,rfl⟩

-- Everything under a key that is spelled out.
theorem accepts_under : accepts (front.map .spelled ++ [.many]) key = true ↔ front <+: key := by
  induction front generalizing key with
  | nil => simp [accepts_many]
  | cons chunk front ih =>
    cases key with
    | nil => simp [accepts]
    | cons first rest =>
      rw [List.cons_prefix_cons,← ih,List.map_cons,List.cons_append,accepts,Bool.and_eq_true,decide_eq_true_eq]
      exact and_congr_left' eq_comm

end ZenohDslr.KeyExpressions
