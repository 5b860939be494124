import Mathlib.Logic.Function.Basic
import Mathlib.Data.List.Nodup
namespace ZenohDslr.Writes

universe u v
variable {κ : Type u} {ν : Type v} [DecidableEq κ] {store : κ → Option ν} {key : κ} {value : ν}

-- What a store holds under each key, and what assignments do to it in order.
def assign (store : κ → Option ν) (write : κ × ν) : κ → Option ν := Function.update store write.1 (some write.2)

def assignAll (store : κ → Option ν) (writes : List (κ × ν)) : κ → Option ν := writes.foldl assign store

def last? : List (κ × ν) → κ → Option ν
  | [],_ => none
  | write :: rest,key => (last? rest key).or (if write.1 = key then some write.2 else none)

@[simp] theorem assignAll_nil : assignAll store ([] : List (κ × ν)) = store := rfl

@[simp] theorem assignAll_cons (write : κ × ν) (rest : List (κ × ν)) :
    assignAll store (write :: rest) = assignAll (assign store write) rest := rfl

theorem assignAll_append (earlier later : List (κ × ν)) :
    assignAll store (earlier ++ later) = assignAll (assignAll store earlier) later :=
  List.foldl_append

theorem assign_apply (write : κ × ν) : assign store write key = if key = write.1 then some write.2 else store key := by
  simp [assign,Function.update_apply]

-- A key holds what the last assignment to it wrote, else what it held before.
theorem assignAll_apply (writes : List (κ × ν)) : assignAll store writes key = (last? writes key).or (store key) := by
  induction writes generalizing store with
  | nil => rfl
  | cons write rest ih =>
    rw [assignAll_cons,ih,assign_apply,last?]
    by_cases here : write.1 = key
    · subst here; simp
    · have there : ¬ key = write.1 := fun equal => here equal.symm
      simp [here,there]

theorem last?_mem {writes : List (κ × ν)} (found : last? writes key = some value) : (key,value) ∈ writes := by
  induction writes with
  | nil => cases found
  | cons write rest ih =>
    rcases Option.or_eq_some_iff.mp found with later | ⟨_,here⟩
    · exact List.mem_cons_of_mem _ (ih later)
    · split at here
      · rename_i same
        cases same; cases here
        exact List.mem_cons_self
      · cases here

theorem assignAll_eq_self (writes : List (κ × ν)) :
    assignAll store writes = store ↔ ∀ key value, last? writes key = some value → store key = some value := by
  constructor
  · intro same key value found
    have held := congrFun same key
    rw [assignAll_apply,found] at held
    exact held.symm
  · intro held
    funext key
    rw [assignAll_apply]
    cases found : last? writes key with
    | none => rfl
    | some value => exact (held key value found).symm

theorem last?_append (earlier later : List (κ × ν)) :
    last? (earlier ++ later) key = (last? later key).or (last? earlier key) := by
  induction earlier with
  | nil => simp [last?]
  | cons write rest ih => simp [last?,ih,Option.or_assoc]

theorem last?_absent {writes : List (κ × ν)} (absent : ∀ write ∈ writes, write.1 ≠ key) : last? writes key = none := by
  induction writes with
  | nil => rfl
  | cons write rest ih =>
    simp [last?,ih (fun other inside => absent other (List.mem_cons_of_mem _ inside)),absent write List.mem_cons_self]

-- Leaving out assignments to other keys leaves this key's last one.
theorem last?_filter {keep : κ × ν → Bool} {writes : List (κ × ν)}
    (own : ∀ write ∈ writes, write.1 = key → keep write = true) : last? (writes.filter keep) key = last? writes key := by
  induction writes with
  | nil => rfl
  | cons write rest ih =>
    have tail := ih (fun other inside => own other (List.mem_cons_of_mem _ inside))
    by_cases kept : keep write = true
    · simp [kept,last?,tail]
    · have apart : write.1 ≠ key := fun same => kept (own write List.mem_cons_self same)
      simp [kept,last?,tail,apart]

-- Assignments to different keys can be made in any order.
theorem assignAll_perm {writes other : List (κ × ν)} (distinct : (writes.map Prod.fst).Nodup) (moved : writes.Perm other) :
    assignAll store writes = assignAll store other := by
  apply moved.foldl_eq'
  intro one inside two also held
  by_cases same : one = two
  · rw [same]
  · have apart : one.1 ≠ two.1 := fun equal => same (List.inj_on_of_nodup_map distinct inside also equal)
    exact Function.update_comm apart _ _ _

end ZenohDslr.Writes
