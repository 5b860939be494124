import Mathlib.Data.List.Basic
namespace ZenohDslr.Turns

universe u v
variable {α : Type u} {κ : Type v} [DecidableEq κ] {owner : α → κ} {turns : List κ} {log : List α} {entry : α} {key : κ}

-- What one party contributed to a shared log, in the order of the log.
def own (owner : α → κ) (key : κ) (log : List α) : List α := log.filter fun entry => owner entry = key

-- The log is one block after the other, in the order of the turns.
def InTurns (owner : α → κ) (turns : List κ) (log : List α) : Prop := log = turns.flatMap fun key => own owner key log

theorem own_snoc_self (here : owner entry = key) : own owner key (log ++ [entry]) = own owner key log ++ [entry] := by
  simp [own,here]

theorem own_snoc_other (different : owner entry ≠ key) : own owner key (log ++ [entry]) = own owner key log := by
  simp [own,different]

theorem inTurns_nil : InTurns owner [] ([] : List α) := rfl

theorem inTurns_turn (ordered : InTurns owner turns log) (fresh : own owner key log = []) : InTurns owner (turns ++ [key]) log := by
  unfold InTurns
  rw [List.flatMap_append,List.flatMap_singleton,fresh,List.append_nil]
  exact ordered

-- Whoever has the latest turn may go on writing.
theorem inTurns_snoc (ordered : InTurns owner turns log) (distinct : turns.Nodup) (latest : turns.getLast? = some (owner entry)) :
    InTurns owner turns (log ++ [entry]) := by
  obtain ⟨earlier,rfl⟩ := List.getLast?_eq_some_iff.mp latest
  have apart : ∀ key ∈ earlier, own owner key (log ++ [entry]) = own owner key log := by
    intro key member
    apply own_snoc_other
    intro same
    exact (List.nodup_append.mp distinct).2.2 key member _ List.mem_cons_self same.symm
  unfold InTurns at ordered ⊢
  rw [List.flatMap_append,List.flatMap_singleton] at ordered ⊢
  rw [List.flatMap_congr apart,own_snoc_self rfl,← List.append_assoc,← ordered]

end ZenohDslr.Turns
