import Mathlib.Data.List.Infix
namespace ZenohDslr.Segments

universe u
variable {α : Type u} {sep : α} {p q n : List α}

-- Texts cut into segments by a separator: under `p` lie `p` itself and whatever
-- goes on behind `p` and a separator.
def Under (sep : α) (p n : List α) : Prop := n = p ∨ p ++ [sep] <+: n

theorem intercalate_append {xs ys : List (List α)} (left : xs ≠ []) (right : ys ≠ []) :
    [sep].intercalate (xs ++ ys) = [sep].intercalate xs ++ sep :: [sep].intercalate ys := by
  induction xs with
  | nil => exact absurd rfl left
  | cons x rest ih =>
    cases rest with
    | nil => simp [List.intercalate_cons_of_ne_nil right]
    | cons y others =>
      have tail := ih (List.cons_ne_nil _ _)
      simpa [List.intercalate_cons_cons] using tail

-- Above a text of one segment lies nothing, so what is above something under it
-- is under it as well.
theorem under_of_above (single : sep ∉ p) (under : Under sep p n) (above : q ++ [sep] <+: n) : Under sep p q := by
  rcases under with rfl | behind
  · exact absurd (above.subset (by simp)) single
  · rcases List.prefix_or_prefix_of_prefix behind above with shorter | longer
    · rcases List.prefix_concat_iff.mp shorter with same | inside
      · exact .inl (List.append_cancel_right same).symm
      · exact .inr inside
    · rcases List.prefix_concat_iff.mp longer with same | inside
      · exact .inl (List.append_cancel_right same)
      · exact absurd (inside.subset (by simp)) single

-- A text of several segments has one above it, which is not under it.
theorem above_of_several (several : sep ∈ p) : ∃ q, q ++ [sep] <+: p ∧ ¬ Under sep p q := by
  obtain ⟨q,rest,rfl⟩ := List.append_of_mem several
  refine ⟨q,⟨rest,by simp⟩,?_⟩
  intro under
  rcases under with same | behind
  · have lengths := congrArg List.length same
    simp at lengths
  · have lengths := behind.length_le
    simp only [List.length_append,List.length_cons,List.length_nil] at lengths
    omega

theorem above_under (above : q ++ [sep] <+: p) (under : Under sep p n) : q ++ [sep] <+: n := by
  rcases under with rfl | behind
  · exact above
  · exact above.trans ((List.prefix_append _ _).trans behind)

section Cutting
variable [DecidableEq α]

-- Comparing segment by segment is comparing texts up to a separator.
theorem splitOn_under : p.splitOn sep <+: n.splitOn sep ↔ Under sep p n := by
  constructor
  · intro segments
    obtain ⟨rest,split⟩ := segments
    have whole := @List.intercalate_splitOn _ n _ _ sep
    cases rest with
    | nil =>
      left
      simpa [← split] using whole.symm
    | cons segment others =>
      right
      rw [← split,intercalate_append (List.splitOn_ne_nil _ _) (List.cons_ne_nil _ _),List.intercalate_splitOn] at whole
      exact ⟨_,by simpa using whole⟩
  · intro under
    rcases under with rfl | behind
    · exact List.prefix_rfl
    · obtain ⟨rest,rfl⟩ := behind
      simp [List.splitOn_append_cons_self]

-- The first segments of a text, at least one and not all of them, are the texts
-- in front of its separators.
theorem first_segments : (∃ i, 0 < i ∧ i < (n.splitOn sep).length ∧ q = [sep].intercalate ((n.splitOn sep).take i)) ↔
    q ++ [sep] <+: n := by
  constructor
  · intro found
    obtain ⟨i,positive,inside,rfl⟩ := found
    have front : (n.splitOn sep).take i ≠ [] := List.ne_nil_of_length_pos (by simp; omega)
    have back : (n.splitOn sep).drop i ≠ [] := List.ne_nil_of_length_pos (by simp; omega)
    have whole := @List.intercalate_splitOn _ n _ _ sep
    rw [← List.take_append_drop i (n.splitOn sep),intercalate_append front back] at whole
    exact ⟨_,by simpa using whole⟩
  · intro behind
    obtain ⟨rest,rfl⟩ := behind
    have more := List.length_pos_of_ne_nil (List.splitOn_ne_nil sep rest)
    refine ⟨(q.splitOn sep).length,List.length_pos_of_ne_nil (List.splitOn_ne_nil sep q),?_,?_⟩
    · simpa [List.splitOn_append_cons_self] using more
    · simp [List.splitOn_append_cons_self,List.intercalate_splitOn]

end Cutting
end ZenohDslr.Segments
