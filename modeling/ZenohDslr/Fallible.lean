import Mathlib.Data.List.Forall2
namespace ZenohDslr.Fallible

universe u v w
variable {ε : Type u} {α : Type v} {β : Type v} {f : α → Except ε β}

theorem bind_ok {x : Except ε α} {g : α → Except ε β} {result : β} :
    (x >>= g) = .ok result ↔ ∃ value, x = .ok value ∧ g value = .ok result := by
  cases x with
  | error e => simp [bind,Except.bind]
  | ok value => simp [bind,Except.bind]

-- A fallible map succeeds exactly when every element does, element by element.
theorem mapM_ok {xs : List α} {ys : List β} :
    xs.mapM f = .ok ys ↔ List.Forall₂ (fun x y => f x = .ok y) xs ys := by
  induction xs generalizing ys with
  | nil => cases ys <;> simp [pure,Except.pure]
  | cons x rest ih =>
    rw [List.mapM_cons,bind_ok]
    constructor
    · intro first
      obtain ⟨y,here,tail⟩ := first
      obtain ⟨others,there,whole⟩ := bind_ok.mp tail
      cases whole
      exact .cons here (ih.mp there)
    · intro related
      cases related with
      | cons here tail => exact ⟨_,here,bind_ok.mpr ⟨_,ih.mpr tail,rfl⟩⟩

theorem mapM_total {xs : List α} (total : ∀ x ∈ xs, ∃ y, f x = .ok y) : ∃ ys, xs.mapM f = .ok ys := by
  induction xs with
  | nil => exact ⟨[],rfl⟩
  | cons x rest ih =>
    obtain ⟨y,here⟩ := total x List.mem_cons_self
    obtain ⟨ys,tail⟩ := ih (fun z member => total z (List.mem_cons_of_mem _ member))
    exact ⟨y :: ys,mapM_ok.mpr (.cons here (mapM_ok.mp tail))⟩

-- Each element is among those mapped, and each result comes from one.
theorem mapM_member {xs : List α} {ys : List β} {x : α} (mapped : xs.mapM f = .ok ys) (inside : x ∈ xs) :
    ∃ y, f x = .ok y ∧ y ∈ ys := by
  have related := mapM_ok.mp mapped
  clear mapped
  induction related with
  | nil => cases inside
  | cons here _ ih =>
    rcases List.mem_cons.mp inside with rfl | later
    · exact ⟨_,here,List.mem_cons_self⟩
    · obtain ⟨y,found,member⟩ := ih later
      exact ⟨y,found,List.mem_cons_of_mem _ member⟩

theorem mapM_source {xs : List α} {ys : List β} {y : β} (mapped : xs.mapM f = .ok ys) (member : y ∈ ys) :
    ∃ x ∈ xs, f x = .ok y := by
  have related := mapM_ok.mp mapped
  clear mapped
  induction related with
  | nil => cases member
  | cons here _ ih =>
    rcases List.mem_cons.mp member with rfl | later
    · exact ⟨_,List.mem_cons_self,here⟩
    · obtain ⟨x,inside,found⟩ := ih later
      exact ⟨x,List.mem_cons_of_mem _ inside,found⟩

-- It fails with the first element that does.
theorem mapM_error {xs : List α} {e : ε} : xs.mapM f = .error e ↔
    ∃ front x back, xs = front ++ x :: back ∧ (∀ y ∈ front, ∃ value, f y = .ok value) ∧ f x = .error e := by
  induction xs with
  | nil => simp [pure,Except.pure]
  | cons first rest ih =>
    rw [List.mapM_cons]
    constructor
    · intro failed
      cases here : f first with
      | error other =>
        simp only [here,bind,Except.bind] at failed
        cases failed
        exact ⟨[],first,rest,rfl,by simp,here⟩
      | ok value =>
        cases tail : rest.mapM f with
        | ok values => simp [here,tail,bind,Except.bind,pure,Except.pure] at failed
        | error other =>
          simp only [here,tail,bind,Except.bind] at failed
          cases failed
          obtain ⟨front,x,back,rfl,fine,refused⟩ := ih.mp tail
          refine ⟨first :: front,x,back,rfl,?_,refused⟩
          intro y inside
          rcases List.mem_cons.mp inside with rfl | later
          · exact ⟨value,here⟩
          · exact fine y later
    · intro split
      obtain ⟨front,x,back,whole,fine,refused⟩ := split
      cases front with
      | nil =>
        cases whole
        simp [refused,bind,Except.bind]
      | cons y front =>
        cases whole
        obtain ⟨value,here⟩ := fine _ List.mem_cons_self
        have tail := ih.mpr ⟨front,x,back,rfl,fun z inside => fine z (List.mem_cons_of_mem _ inside),refused⟩
        simp only [here,tail,bind,Except.bind]

end ZenohDslr.Fallible
