import Mathlib.Data.List.Sort
import Mathlib.Data.List.TakeWhile
namespace ZenohDslr.StableSort

universe u v
variable {α : Type u} {β : Type v} [LinearOrder β] {key : α → β} {a x : α} {front back pre post l : List α}

-- Python's `list.sort(key=...)`: entries with equal keys keep their order.
def sortBy (key : α → β) (l : List α) : List α := l.insertionSort fun a b => key a ≤ key b

theorem sortBy_perm (l : List α) : (sortBy key l).Perm l := List.perm_insertionSort _ l

theorem sortBy_sorted (l : List α) : (sortBy key l).Pairwise fun a b => key a ≤ key b := by
  have total : Std.Total fun a b : α => key a ≤ key b := ⟨fun a b => le_total (key a) (key b)⟩
  have trans : IsTrans α fun a b => key a ≤ key b := ⟨fun _ _ _ first second => le_trans first second⟩
  exact List.pairwise_insertionSort _ l

-- Where no two entries have one key, the order they come in is forgotten.
theorem sortBy_congr {m : List α} (distinct : ∀ a ∈ l, ∀ b ∈ l, key a = key b → a = b) (same : m.Perm l) : sortBy key m = sortBy key l := by
  have perm : (sortBy key m).Perm (sortBy key l) := (sortBy_perm m).trans (same.trans (sortBy_perm l).symm)
  refine perm.eq_of_pairwise ?_ (sortBy_sorted m) (sortBy_sorted l)
  intro a b first second below above
  have inside : a ∈ l := same.mem_iff.mp ((sortBy_perm m).mem_iff.mp first)
  exact distinct a inside b ((sortBy_perm l).mem_iff.mp second) (le_antisymm below above)

-- In sorted order, the largest entry is the last one.
theorem sorted_last (sorted : l.Pairwise fun a b => key a ≤ key b) (same : l.Perm (pre ++ [x])) (below : ∀ a ∈ pre, key a < key x) :
    ∃ front, l = front ++ [x] ∧ front.Perm pre := by
  rcases List.eq_nil_or_concat l with rfl | ⟨front,y,rfl⟩
  · exact absurd same.length_eq (by simp)
  · rw [List.concat_eq_append] at sorted same ⊢
    have final : y = x := by
      have inside : y ∈ pre ++ [x] := same.mem_iff.mp (List.mem_append_right _ List.mem_cons_self)
      rcases List.mem_append.mp inside with smaller | single
      · have there : x ∈ front ++ [y] := same.mem_iff.mpr (List.mem_append_right _ List.mem_cons_self)
        rcases List.mem_append.mp there with earlier | single
        · have before := (List.pairwise_append.mp sorted).2.2 x earlier y List.mem_cons_self
          exact absurd (below y smaller) (not_lt.mpr before)
        · exact (List.mem_singleton.mp single).symm
      · exact List.mem_singleton.mp single
    subst final
    exact ⟨front,rfl,(List.perm_append_right_iff [y]).mp same⟩

theorem insert_before (earlier : key a ≤ key x) : List.orderedInsert (fun a b => key a ≤ key b) a (front ++ x :: back) =
    List.orderedInsert (fun a b => key a ≤ key b) a front ++ x :: back := by
  induction front with
  | nil => simp [earlier]
  | cons b rest ih =>
    by_cases here : key a ≤ key b
    · simp [here]
    · simp [here,ih]

theorem insert_behind (later : key x < key a) (sorted : ∀ b ∈ front, key b ≤ key x) :
    List.orderedInsert (fun a b => key a ≤ key b) a (front ++ x :: back) =
      front ++ x :: List.orderedInsert (fun a b => key a ≤ key b) a back := by
  induction front with
  | nil => simp [not_le.mpr later]
  | cons b rest ih =>
    have here : ¬ key a ≤ key b := not_le.mpr (lt_of_le_of_lt (sorted b List.mem_cons_self) later)
    simp [here,ih fun c member => sorted c (List.mem_cons_of_mem _ member)]

theorem dropWhile_sorted (sorted : l.Pairwise fun a b => key a ≤ key b) :
    l.dropWhile (fun b => decide ¬ key x ≤ key b) = l.filter fun b => key x ≤ key b := by
  induction l with
  | nil => rfl
  | cons b rest ih =>
    obtain ⟨below,sorted⟩ := List.pairwise_cons.mp sorted
    by_cases here : key x ≤ key b
    · rw [List.dropWhile_cons_of_neg (by simpa using here)]
      symm
      apply List.filter_eq_self.mpr
      intro c member
      rcases List.mem_cons.mp member with rfl | later
      · exact decide_eq_true here
      · exact decide_eq_true (le_trans here (below c later))
    · rw [List.dropWhile_cons_of_pos (by simpa using here),List.filter_cons_of_neg (by simpa using here)]
      exact ih sorted

-- What comes behind an entry: all that is larger, and of the equal ones those
-- that came behind it before.
theorem sortBy_split (key : α → β) (pre post : List α) (x : α) : ∃ front back, sortBy key (pre ++ x :: post) = front ++ x :: back ∧
    (∀ b ∈ front, key b ≤ key x) ∧ back.Perm (pre.filter (key x < key ·) ++ post.filter (key x ≤ key ·)) := by
  induction pre with
  | nil =>
    have sorted : (sortBy key post).Pairwise fun a b => key a ≤ key b := sortBy_sorted post
    refine ⟨(sortBy key post).takeWhile fun b => decide ¬ key x ≤ key b,(sortBy key post).dropWhile fun b => decide ¬ key x ≤ key b,
      List.orderedInsert_eq_take_drop _ x _,?_,?_⟩
    · intro b member
      have small := List.mem_takeWhile_imp member
      exact le_of_lt (not_le.mp (of_decide_eq_true small))
    · rw [List.filter_nil,List.nil_append,dropWhile_sorted sorted]
      exact (sortBy_perm post).filter _
  | cons a rest ih =>
    obtain ⟨front,back,split,sorted,behind⟩ := ih
    have step : sortBy key (a :: rest ++ x :: post) =
        List.orderedInsert (fun a b => key a ≤ key b) a (front ++ x :: back) := by
      rw [← split]; rfl
    by_cases earlier : key a ≤ key x
    · refine ⟨List.orderedInsert (fun a b => key a ≤ key b) a front,back,?_,?_,?_⟩
      · rw [step,insert_before earlier]
      · intro b member
        rcases (List.mem_orderedInsert _).mp member with rfl | inside
        · exact earlier
        · exact sorted b inside
      · rw [List.filter_cons_of_neg (by simpa using earlier)]
        exact behind
    · refine ⟨front,List.orderedInsert (fun a b => key a ≤ key b) a back,?_,sorted,?_⟩
      · rw [step,insert_behind (not_le.mp earlier) sorted]
      · rw [List.filter_cons_of_pos (by simpa using earlier)]
        exact (List.perm_orderedInsert _ a back).trans (behind.cons a)

end ZenohDslr.StableSort
