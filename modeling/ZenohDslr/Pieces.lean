import Mathlib.Data.List.DropRight
import Mathlib.Data.List.Basic
namespace ZenohDslr.Pieces

universe u
variable {α : Type u} {space solid : α → Bool} {sep x : α} {xs ys : List α}

-- Dropping the blanks at both ends.
def strip (space : α → Bool) (xs : List α) : List α := (xs.dropWhile space).rdropWhile space

structure Stripped (space : α → Bool) (xs : List α) : Prop where
  front : xs.dropWhile space = xs
  back : xs.rdropWhile space = xs

theorem strip_stripped (space : α → Bool) (xs : List α) : Stripped space (strip space xs) := by
  refine ⟨?_,List.rdropWhile_idempotent _ _⟩
  rw [List.dropWhile_eq_self_iff]
  intro nonempty blank
  have head := (List.dropWhile_eq_self_iff.mp (List.dropWhile_idempotent space xs))
  have inside : strip space xs <+: xs.dropWhile space := List.rdropWhile_prefix _ _
  have longer := Nat.lt_of_lt_of_le nonempty inside.length_le
  apply head longer
  rw [← inside.getElem nonempty]
  exact blank

theorem strip_of_stripped (stripped : Stripped space xs) : strip space xs = xs := by
  rw [strip,stripped.front,stripped.back]

theorem mem_of_mem_strip (inside : x ∈ strip space xs) : x ∈ xs :=
  (List.dropWhile_sublist _).subset ((List.rdropWhile_prefix _ _).subset inside)

theorem strip_cons (blank : space x = true) : strip space (x :: xs) = strip space xs := by
  simp [strip,blank]

theorem strip_snoc (blank : space x = true) : strip space (xs ++ [x]) = strip space xs := by
  rw [strip,List.dropWhile_append]
  split
  · rename_i empty
    have none : xs.dropWhile space = [] := List.isEmpty_iff.mp empty
    simp [strip,none,blank]
  · rw [List.rdropWhile_concat_pos _ _ _ blank]
    rfl

theorem strip_inner (space : α → Bool) (xs : List α) : strip space xs <:+: xs :=
  (List.rdropWhile_prefix _ _).isInfix.trans (List.dropWhile_suffix _).isInfix

theorem stripped_of_solid (solid : ∀ x ∈ xs, space x = false) : Stripped space xs := by
  refine ⟨?_,?_⟩
  · rw [List.dropWhile_eq_self_iff]
    intro long
    simp [solid _ (List.getElem_mem long)]
  · rw [List.rdropWhile_eq_self_iff]
    intro long
    simp [solid _ (List.getLast_mem long)]

theorem front_solid (stripped : Stripped space (x :: xs)) : space x = false := by
  have solid := List.dropWhile_eq_self_iff.mp stripped.front
  simpa using solid

theorem stripped_between (opened : space x = false) (nonempty : ys ≠ []) (closed : ∀ y ∈ ys, space y = false) :
    Stripped space (x :: xs ++ ys) := by
  refine ⟨?_,?_⟩
  · simp [opened]
  · rw [List.rdropWhile_eq_self_iff]
    intro long
    rw [List.getLast_append_of_ne_nil _ nonempty]
    simp [closed _ (List.getLast_mem nonempty)]

-- The first solid element survives at the front.
theorem find?_strip (bare : ∀ x, solid x = true → space x = false) (xs : List α) :
    (strip space xs).find? solid = xs.find? solid := by
  have front : ∀ ys : List α, (ys.dropWhile space).find? solid = ys.find? solid := by
    intro ys
    induction ys with
    | nil => rfl
    | cons y rest ih =>
      by_cases blank : space y = true
      · have other : ¬solid y = true := fun found => by simp [bare y found] at blank
        rw [List.dropWhile_cons_of_pos blank,ih,List.find?_cons_of_neg other]
      · rw [List.dropWhile_cons_of_neg blank]
  have back : ∀ ys : List α, (ys.rdropWhile space).find? solid = ys.find? solid := by
    intro ys
    induction ys using List.reverseRecOn with
    | nil => rfl
    | append_singleton rest y ih =>
      by_cases blank : space y = true
      · have other : ¬solid y = true := fun found => by simp [bare y found] at blank
        rw [List.rdropWhile_concat_pos _ _ _ blank,ih,List.find?_append,List.find?_singleton,if_neg other,Option.or_none]
      · rw [List.rdropWhile_concat_neg _ _ _ blank]
  rw [strip,back,front]

theorem mem_strip (there : x ∈ xs) (bare : space x = false) : x ∈ strip space xs := by
  classical
  have kept := @find?_strip _ space (fun y => decide (y = x)) (by simpa using bare) xs
  have found : (xs.find? (fun y => decide (y = x))).isSome = true := by simpa using there
  rw [← kept] at found
  simpa using found

theorem head?_strip (xs : List α) : (strip space xs).head? = xs.find? (fun x => !space x) := by
  have outside := strip_stripped space xs
  rw [← @find?_strip _ space (fun x => !space x) (by simp) xs]
  cases cut : strip space xs with
  | nil => rfl
  | cons x rest =>
    rw [cut] at outside
    simp [front_solid outside]

theorem ne_sep (solid : space sep = false) (blank : space x = true) : x ≠ sep := by
  intro same
  rw [same,solid] at blank
  cases blank

section Cutting
variable [DecidableEq α]

-- What is left of the text between two separators, blank pieces left out.
def pieces (space : α → Bool) (sep : α) (xs : List α) : List (List α) :=
  ((xs.splitOn sep).map (strip space)).filter (· ≠ [])

theorem splitOn_snoc (other : x ≠ sep) (xs : List α) :
    ∃ front last, xs.splitOn sep = front ++ [last] ∧ (xs ++ [x]).splitOn sep = front ++ [last ++ [x]] := by
  induction xs with
  | nil => exact ⟨[],[],by simp,by simp [List.splitOn_cons_eq_if_modifyHead,other]⟩
  | cons a rest ih =>
    obtain ⟨front,last,plain,longer⟩ := ih
    by_cases here : a = sep
    · refine ⟨[] :: front,last,?_,?_⟩
      · simp [List.splitOn_cons_eq_if_modifyHead,here,plain]
      · simp [List.splitOn_cons_eq_if_modifyHead,here,longer]
    · cases front with
      | nil =>
        refine ⟨[],a :: last,?_,?_⟩
        · simp [List.splitOn_cons_eq_if_modifyHead,here,plain]
        · simp [List.splitOn_cons_eq_if_modifyHead,here,longer]
      | cons first others =>
        refine ⟨(a :: first) :: others,last,?_,?_⟩
        · simp [List.splitOn_cons_eq_if_modifyHead,here,plain]
        · simp [List.splitOn_cons_eq_if_modifyHead,here,longer]

theorem pieces_cons (blank : space x = true) (other : x ≠ sep) : pieces space sep (x :: xs) = pieces space sep xs := by
  have same : ((x :: xs).splitOn sep).map (strip space) = (xs.splitOn sep).map (strip space) := by
    rw [List.splitOn_cons_eq_if_modifyHead]
    simp only [beq_iff_eq,other,if_false]
    cases split : xs.splitOn sep with
    | nil => rfl
    | cons first rest => simp [strip_cons blank]
  rw [pieces,same,pieces]

theorem pieces_snoc (blank : space x = true) (other : x ≠ sep) : pieces space sep (xs ++ [x]) = pieces space sep xs := by
  obtain ⟨front,last,plain,longer⟩ := splitOn_snoc other xs
  simp [pieces,plain,longer,strip_snoc blank]

-- Blanks around the whole text are blanks around its first and last piece.
theorem pieces_strip (solid : space sep = false) (xs : List α) : pieces space sep (strip space xs) = pieces space sep xs := by
  have front : ∀ ys : List α, pieces space sep (ys.dropWhile space) = pieces space sep ys := by
    intro ys
    induction ys with
    | nil => rfl
    | cons y rest ih =>
      by_cases blank : space y = true
      · rw [List.dropWhile_cons_of_pos blank,ih,pieces_cons blank (ne_sep solid blank)]
      · rw [List.dropWhile_cons_of_neg blank]
  have back : ∀ ys : List α, pieces space sep (ys.rdropWhile space) = pieces space sep ys := by
    intro ys
    induction ys using List.reverseRecOn with
    | nil => rfl
    | append_singleton rest y ih =>
      by_cases blank : space y = true
      · rw [List.rdropWhile_concat_pos _ _ _ blank,ih,pieces_snoc blank (ne_sep solid blank)]
      · rw [List.rdropWhile_concat_neg _ _ _ blank]
  rw [strip,back,front]

theorem not_mem_of_mem_splitOn {piece : List α} (inside : piece ∈ xs.splitOn sep) : sep ∉ piece := by
  induction xs generalizing piece with
  | nil => simp at inside; simp [inside]
  | cons a rest ih =>
    rw [List.splitOn_cons_eq_if_modifyHead] at inside
    by_cases here : a = sep
    · simp only [here,beq_self_eq_true,if_true,List.mem_cons] at inside
      rcases inside with rfl | behind
      · simp
      · exact ih behind
    · simp only [beq_iff_eq,here,if_false] at inside
      cases cut : rest.splitOn sep with
      | nil => simp [cut] at inside
      | cons first others =>
        simp only [cut,List.modifyHead_cons,List.mem_cons] at inside ih
        rcases inside with rfl | behind
        · simp [Ne.symm here,ih (Or.inl rfl)]
        · exact ih (Or.inr behind)

theorem mem_pieces {piece : List α} (inside : piece ∈ pieces space sep xs) :
    piece ≠ [] ∧ Stripped space piece ∧ sep ∉ piece := by
  obtain ⟨cut,nonempty⟩ := List.mem_filter.mp inside
  obtain ⟨raw,there,rfl⟩ := List.mem_map.mp cut
  refine ⟨of_decide_eq_true nonempty,strip_stripped space raw,?_⟩
  intro found
  exact not_mem_of_mem_splitOn there (mem_of_mem_strip found)

-- Joined by the separator, pieces are cut apart again where they were joined.
theorem pieces_join {parts : List (List α)} (nonempty : parts ≠ [])
    (whole : ∀ part ∈ parts, part ≠ [] ∧ Stripped space part ∧ sep ∉ part) :
    pieces space sep ([sep].intercalate parts) = parts := by
  have cut := List.splitOn_intercalate sep (fun part inside => (whole part inside).2.2) nonempty
  have same : parts.map (strip space) = parts :=
    (List.map_congr_left (fun part inside => strip_of_stripped (whole part inside).2.1)).trans (List.map_id _)
  rw [pieces,cut,same]
  exact List.filter_eq_self.mpr (fun part inside => decide_eq_true (whole part inside).1)

end Cutting

end ZenohDslr.Pieces
