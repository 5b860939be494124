import Mathlib.Data.Finset.Card
import Mathlib.Logic.Relation
namespace ZenohDslr.Definitions

universe u v
variable {κ : Type u} {ν : Type v} {out : ν → List κ} {first middle last : κ → Option ν} {a b : κ} {value : ν}

-- Definitions by name, each of which refers to further names.
def Edge (out : ν → List κ) (defs : κ → Option ν) (a b : κ) : Prop := ∃ value, defs a = some value ∧ b ∈ out value

def Closed (out : ν → List κ) (defs : κ → Option ν) (a : κ) : Prop := ∀ b, Edge out defs a b → (defs b).isSome = true

def Extends (first last : κ → Option ν) : Prop := ∀ a value, first a = some value → last a = some value

-- Nothing is redefined, and whatever is new refers to defined names only.
structure Grows (out : ν → List κ) (first last : κ → Option ν) : Prop where
  keeps : Extends first last
  fresh : ∀ a, first a = none → Closed out last a

theorem Extends.refl (first : κ → Option ν) : Extends first first := fun _ _ found => found

theorem Extends.trans (left : Extends first middle) (right : Extends middle last) : Extends first last :=
  fun a value found => right a value (left a value found)

theorem Extends.defined (grown : Extends first last) (found : (first a).isSome = true) : (last a).isSome = true := by
  obtain ⟨value,here⟩ := Option.isSome_iff_exists.mp found
  simp [grown a value here]

theorem Extends.edge (grown : Extends first last) (found : first a = some value) (edge : Edge out last a b) : b ∈ out value := by
  obtain ⟨other,here,inside⟩ := edge
  cases (grown a value found).symm.trans here
  exact inside

-- A name that is defined and closed stays so.
theorem Extends.closed (grown : Extends first last) (found : first a = some value) (closed : Closed out first a) : Closed out last a :=
  fun b edge => grown.defined (closed b ⟨value,found,grown.edge found edge⟩)

theorem Grows.refl (first : κ → Option ν) : Grows out first first := by
  refine ⟨.refl first,?_⟩
  intro a absent b edge
  obtain ⟨value,found,_⟩ := edge
  cases absent.symm.trans found

theorem Grows.trans (left : Grows out first middle) (right : Grows out middle last) : Grows out first last := by
  refine ⟨left.keeps.trans right.keeps,?_⟩
  intro a absent
  cases found : middle a with
  | none => exact right.fresh a found
  | some value => exact right.keeps.closed found (left.fresh a absent)

-- Where every name is closed nothing that can be reached is undefined.
theorem reached_defined (closed : ∀ a, Closed out last a) (path : Relation.TransGen (Edge out last) a b) : (last b).isSome = true := by
  cases path with
  | single edge => exact closed a b edge
  | tail _ edge => exact closed _ b edge

section Missing
variable {names : Finset κ}

def missing (names : Finset κ) (defs : κ → Option ν) : Nat := (names.filter fun a => (defs a).isNone = true).card

theorem missing_le (grown : Extends first last) : missing names last ≤ missing names first := by
  apply Finset.card_le_card
  intro a inside
  obtain ⟨member,absent⟩ := Finset.mem_filter.mp inside
  refine Finset.mem_filter.mpr ⟨member,?_⟩
  cases found : first a with
  | none => rfl
  | some value => simp [grown a value found] at absent

theorem missing_lt [DecidableEq κ] (grown : Extends first last) (member : a ∈ names) (absent : first a = none) (found : (last a).isSome = true) :
    missing names last < missing names first := by
  have fewer : (names.filter fun a => (last a).isNone = true) ⊆ (names.filter fun a => (first a).isNone = true).erase a := by
    intro b inside
    obtain ⟨there,undefined⟩ := Finset.mem_filter.mp inside
    refine Finset.mem_erase.mpr ⟨?_,Finset.mem_filter.mpr ⟨there,?_⟩⟩
    · intro same
      subst same
      obtain ⟨value,here⟩ := Option.isSome_iff_exists.mp found
      simp [here] at undefined
    · cases known : first b with
      | none => rfl
      | some value => simp [grown b value known] at undefined
  have inside : a ∈ names.filter fun a => (first a).isNone = true := Finset.mem_filter.mpr ⟨member,by simp [absent]⟩
  calc missing names last ≤ ((names.filter fun a => (first a).isNone = true).erase a).card := Finset.card_le_card fewer
    _ < missing names first := Finset.card_erase_lt_of_mem inside

theorem missing_pos (member : a ∈ names) (absent : first a = none) : 0 < missing names first :=
  Finset.card_pos.mpr ⟨a,Finset.mem_filter.mpr ⟨member,by simp [absent]⟩⟩

end Missing
end ZenohDslr.Definitions
