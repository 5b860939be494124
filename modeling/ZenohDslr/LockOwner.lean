import Mathlib.Logic.Function.Basic
namespace ZenohDslr.LockOwner

universe u
variable {κ : Type u} {lock : Bool} {holds after : κ → Bool} {key : κ}

-- A lock is held exactly when some party holds it, and by one party at most.
structure Owned (lock : Bool) (holds : κ → Bool) : Prop where
  held : lock = true ↔ ∃ key, holds key = true
  alone : ∀ left right, holds left = true → holds right = true → left = right

theorem owned_free (nobody : ∀ key, holds key = false) : Owned false holds := by
  refine ⟨⟨fun taken => Bool.noConfusion taken,?_⟩,?_⟩
  · intro someone
    obtain ⟨key,held⟩ := someone
    rw [nobody key] at held
    exact held
  · intro left right held
    rw [nobody left] at held
    cases held

theorem Owned.nobody (owned : Owned false holds) (key : κ) : holds key = false :=
  Bool.eq_false_iff.mpr fun held => Bool.noConfusion (owned.held.mpr ⟨key,held⟩)

theorem Owned.same (owned : Owned lock holds) (unchanged : ∀ key, after key = holds key) : Owned lock after := by
  have equal : after = holds := funext unchanged
  rw [equal]; exact owned

theorem Owned.take (owned : Owned false holds) (key : κ) (mine : after key = true)
    (others : ∀ other, other ≠ key → after other = holds other) :
    Owned true after := by
  have only : ∀ other, after other = true → other = key := by
    intro other held
    apply Classical.byContradiction
    intro different
    rw [others other different,owned.nobody other] at held
    cases held
  refine ⟨⟨fun _ => ⟨key,mine⟩,fun _ => rfl⟩,?_⟩
  intro left right first second
  rw [only left first,only right second]

theorem Owned.give (owned : Owned lock holds) (mine : holds key = true) (gone : after key = false)
    (others : ∀ other, other ≠ key → after other = holds other) : Owned false after := by
  apply owned_free
  intro other
  by_cases same : other = key
  · rw [same]; exact gone
  · rw [others other same]
    apply Bool.eq_false_iff.mpr
    intro held
    exact same (owned.alone other key held mine)

end ZenohDslr.LockOwner
