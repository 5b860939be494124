import Mathlib.Data.List.Chain
import Mathlib.Data.List.Find
import ZenohDslr.Pieces
namespace ZenohDslr.Collapsing

universe u
variable {α : Type u} {keep wider space solid : α → Bool} {mark : α} {fallback xs ys : List α}

-- Every run of what is not kept becomes one mark. The flag says that such a run is being read.
def collapseFrom (keep : α → Bool) (mark : α) : Bool → List α → List α
  | _,[] => []
  | inRun,x :: rest =>
    if keep x then x :: collapseFrom keep mark false rest
    else if inRun then collapseFrom keep mark true rest
    else mark :: collapseFrom keep mark true rest

def collapse (keep : α → Bool) (mark : α) (xs : List α) : List α := collapseFrom keep mark false xs

structure Settled (keep : α → Bool) (mark : α) (xs : List α) : Prop where
  drawn : ∀ x ∈ xs, keep x = true ∨ x = mark
  apart : xs.IsChain (fun a b => keep a = true ∨ keep b = true)

theorem collapseFrom_cons (inRun : Bool) (x : α) (rest : List α) :
    collapseFrom keep mark inRun (x :: rest) =
      if keep x then x :: collapseFrom keep mark false rest
      else if inRun then collapseFrom keep mark true rest
      else mark :: collapseFrom keep mark true rest := rfl

theorem settled_cons {x : α} (drawn : keep x = true ∨ x = mark) (settled : Settled keep mark xs)
    (next : keep x = true ∨ ∀ y ∈ xs.head?, keep y = true) : Settled keep mark (x :: xs) := by
  refine ⟨?_,?_⟩
  · intro y inside
    rcases List.mem_cons.mp inside with rfl | behind
    · exact drawn
    · exact settled.drawn y behind
  · rw [List.isChain_cons]
    refine ⟨?_,settled.apart⟩
    intro y first
    rcases next with kept | kept
    · exact Or.inl kept
    · exact Or.inr (kept y first)

-- While a run is being read, what comes out next is kept.
theorem collapseFrom_settled (inRun : Bool) (xs : List α) :
    Settled keep mark (collapseFrom keep mark inRun xs) ∧
      (inRun = true → ∀ y ∈ (collapseFrom keep mark inRun xs).head?, keep y = true) := by
  induction xs generalizing inRun with
  | nil => exact ⟨⟨by simp [collapseFrom],by simp [collapseFrom]⟩,by simp [collapseFrom]⟩
  | cons x rest ih =>
    rw [collapseFrom_cons]
    by_cases kept : keep x = true
    · rw [if_pos kept]
      refine ⟨settled_cons (Or.inl kept) (ih false).1 (Or.inl kept),?_⟩
      intro _ y first
      simp only [List.head?_cons,Option.mem_def,Option.some.injEq] at first
      rwa [← first]
    · rw [if_neg kept]
      cases inRun with
      | true => exact ih true
      | false => exact ⟨settled_cons (Or.inr rfl) (ih true).1 (Or.inr ((ih true).2 rfl)),by simp⟩

theorem collapse_settled (xs : List α) : Settled keep mark (collapse keep mark xs) := (collapseFrom_settled false xs).1

theorem collapseFrom_of_settled {inRun : Bool} (settled : Settled keep mark xs)
    (next : inRun = true → ∀ y ∈ xs.head?, keep y = true) : collapseFrom keep mark inRun xs = xs := by
  induction xs generalizing inRun with
  | nil => rfl
  | cons x rest ih =>
    obtain ⟨after,behind⟩ := List.isChain_cons.mp settled.apart
    have tail : Settled keep mark rest := ⟨fun y inside => settled.drawn y (List.mem_cons_of_mem x inside),behind⟩
    rw [collapseFrom_cons]
    by_cases kept : keep x = true
    · rw [if_pos kept,ih tail (by simp)]
    · have isMark : x = mark := (settled.drawn x List.mem_cons_self).resolve_left kept
      have fresh : ¬inRun = true := fun reading => kept (next reading x (by simp))
      have follows : ∀ y ∈ rest.head?, keep y = true := fun y first => (after y first).resolve_left kept
      rw [if_neg kept,if_neg fresh,ih tail (fun _ => follows),isMark]

theorem collapse_of_settled (settled : Settled keep mark xs) : collapse keep mark xs = xs :=
  collapseFrom_of_settled settled (by simp)

theorem Settled.part (settled : Settled keep mark xs) (inner : ys <:+: xs) : Settled keep mark ys := by
  refine ⟨fun y inside => settled.drawn y (inner.subset inside),?_⟩
  exact List.IsChain.infix settled.apart inner

theorem Settled.mono (settled : Settled keep mark xs) (more : ∀ x, keep x = true → wider x = true) : Settled wider mark xs :=
  ⟨fun x inside => (settled.drawn x inside).imp_left (more x),
    settled.apart.imp (fun _ _ either => either.imp (more _) (more _))⟩

theorem Settled.single (settled : Settled keep mark xs) (unkept : keep mark = false) : ¬[mark,mark] <:+: xs := by
  intro doubled
  have chain := (settled.part doubled).apart
  simp [unkept] at chain

theorem find?_collapseFrom (kept : ∀ x, solid x = true → keep x = true) (unmarked : solid mark = false) (inRun : Bool) (xs : List α) :
    (collapseFrom keep mark inRun xs).find? solid = xs.find? solid := by
  induction xs generalizing inRun with
  | nil => rfl
  | cons x rest ih =>
    rw [collapseFrom_cons]
    by_cases stays : keep x = true
    · simp only [stays,if_true,List.find?_cons,ih]
    · have other : solid x = false := by
        by_contra found
        exact stays (kept x (by simpa using found))
      cases inRun <;> simp [stays,other,unmarked,ih]

section Marks
variable [DecidableEq α]

-- The blanks go first, the marks at both ends last.
def bared (space keep : α → Bool) (mark : α) (xs : List α) : List α :=
  Pieces.strip (· == mark) (collapse keep mark (Pieces.strip space xs))

def sanitized (space keep : α → Bool) (mark : α) (fallback xs : List α) : List α :=
  if bared space keep mark xs = [] then fallback else bared space keep mark xs

structure Clean (keep : α → Bool) (mark : α) (xs : List α) : Prop extends Settled keep mark xs where
  nonempty : xs ≠ []
  bare : Pieces.Stripped (· == mark) xs

theorem Clean.mono (clean : Clean keep mark xs) (more : ∀ x, keep x = true → wider x = true) : Clean wider mark xs :=
  ⟨clean.toSettled.mono more,clean.nonempty,clean.bare⟩

theorem clean_of_kept (nonempty : xs ≠ []) (kept : xs.all keep = true) (unmarked : xs.all (· != mark) = true) : Clean keep mark xs := by
  have each := List.all_eq_true.mp kept
  refine ⟨⟨fun x inside => Or.inl (each x inside),?_⟩,nonempty,?_⟩
  · exact List.Pairwise.isChain (List.pairwise_of_forall_mem_list fun x inside _ _ => Or.inl (each x inside))
  · exact Pieces.stripped_of_solid (fun x inside => by simpa using List.all_eq_true.mp unmarked x inside)

theorem sanitized_clean (home : Clean keep mark fallback) (xs : List α) : Clean keep mark (sanitized space keep mark fallback xs) := by
  unfold sanitized
  split
  · exact home
  · rename_i nonempty
    exact ⟨(collapse_settled _).part (Pieces.strip_inner _ _),nonempty,Pieces.strip_stripped _ _⟩

-- A clean text is a fixed point, whatever it came from.
theorem sanitized_of_clean (solid : ∀ x, keep x = true ∨ x = mark → space x = false) (clean : Clean keep mark xs) :
    sanitized space keep mark fallback xs = xs := by
  have blankless : Pieces.Stripped space xs := Pieces.stripped_of_solid (fun x inside => solid x (clean.drawn x inside))
  have cut : bared space keep mark xs = xs := by
    rw [bared,Pieces.strip_of_stripped blankless,collapse_of_settled clean.toSettled,Pieces.strip_of_stripped clean.bare]
  simp only [sanitized,cut,if_neg clean.nonempty]

theorem Clean.head (clean : Clean keep mark xs) : xs.head? ≠ some mark := by
  intro first
  cases xs with
  | nil => cases first
  | cons x rest =>
    simp only [List.head?_cons,Option.some.injEq] at first
    simpa [first] using Pieces.front_solid clean.bare

theorem Clean.last (clean : Clean keep mark xs) : xs.getLast? ≠ some mark := by
  intro last
  have whole := List.rdropWhile_eq_self_iff.mp clean.bare.back
  obtain ⟨front,rfl⟩ := List.getLast?_eq_some_iff.mp last
  exact whole (by simp) (by simp)

theorem head?_sanitized (bare : ∀ x, solid x = true → space x = false) (meets : ∀ x, solid x = (keep x && x != mark)) (xs : List α) :
    (sanitized space keep mark fallback xs).head? = (xs.find? solid).or fallback.head? := by
  have kept : ∀ x, solid x = true → keep x = true := by
    intro x found
    rw [meets] at found
    exact (Bool.and_eq_true_iff.mp found).1
  have unmarked : solid mark = false := by simp [meets]
  have survives : (bared space keep mark xs).head? = xs.find? solid := by
    rw [bared,Pieces.head?_strip,← Pieces.find?_strip bare xs,← find?_collapseFrom kept unmarked false (Pieces.strip space xs)]
    apply List.find?_congr
    intro x inside
    rcases (collapse_settled (Pieces.strip space xs)).drawn x inside with stays | isMark
    · simp [meets,stays,bne]
    · simp [isMark,unmarked]
  rw [← survives,sanitized]
  cases bared space keep mark xs with
  | nil => rfl
  | cons x rest => rfl

end Marks

end ZenohDslr.Collapsing
