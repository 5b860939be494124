import Mathlib.Algebra.Order.Ring.Int
namespace ZenohDslr.RollingWindow

universe u
variable {α : Type u} {weight : α → Nat} {cap : Int} {front l m s : List α}

def total (weight : α → Nat) (l : List α) : Nat := (l.map weight).sum

-- The longest suffix within the cap, and what has to go in front of it.
def keep (weight : α → Nat) (cap : Int) : List α → List α
  | [] => []
  | x :: rest => if (total weight (x :: rest) : Int) ≤ cap then x :: rest else keep weight cap rest

def dropped (weight : α → Nat) (cap : Int) : List α → List α
  | [] => []
  | x :: rest => if (total weight (x :: rest) : Int) ≤ cap then [] else x :: dropped weight cap rest

structure LongestFitting (weight : α → Nat) (cap : Int) (l kept : List α) : Prop where
  suffix : kept <:+ l
  fits : (total weight kept : Int) ≤ cap
  longest : ∀ s, s <:+ l → (total weight s : Int) ≤ cap → s.length ≤ kept.length

theorem total_cons (x : α) : total weight (x :: l) = weight x + total weight l := by simp [total]

theorem total_append : total weight (l ++ m) = total weight l + total weight m := by simp [total]

theorem total_perm (same : l.Perm m) : total weight l = total weight m := (same.map weight).sum_nat

theorem total_suffix (suffix : s <:+ l) : total weight s ≤ total weight l := by
  obtain ⟨earlier,rfl⟩ := suffix
  rw [total_append]
  omega

theorem dropped_over {x : α} (heavy : cap < total weight (x :: l)) :
    dropped weight cap (x :: l) = x :: dropped weight cap l := by
  rw [dropped,if_neg (by omega)]

theorem dropped_within {x : α} (light : ¬ cap < total weight (x :: l)) : dropped weight cap (x :: l) = [] := by
  rw [dropped,if_pos (by omega)]

theorem dropped_append_keep (l : List α) : dropped weight cap l ++ keep weight cap l = l := by
  induction l with
  | nil => rfl
  | cons x rest ih =>
    unfold dropped keep
    split
    · rfl
    · rw [List.cons_append,ih]

theorem keep_suffix (l : List α) : keep weight cap l <:+ l := ⟨dropped weight cap l,dropped_append_keep l⟩

theorem keep_fits (room : 0 ≤ cap) (l : List α) : (total weight (keep weight cap l) : Int) ≤ cap := by
  induction l with
  | nil => simpa [keep,total] using room
  | cons x rest ih =>
    unfold keep
    split
    · assumption
    · exact ih

-- Nothing is removed needlessly.
theorem keep_longest (suffix : s <:+ l) (fits : (total weight s : Int) ≤ cap) : s <:+ keep weight cap l := by
  induction l with
  | nil => rw [List.suffix_nil.mp suffix]; exact List.nil_suffix
  | cons x rest ih =>
    unfold keep
    split
    · exact suffix
    · rename_i heavy
      rcases List.suffix_cons_iff.mp suffix with rfl | inside
      · exact absurd fits heavy
      · exact ih inside

theorem longestFitting_keep (room : 0 ≤ cap) (l : List α) : LongestFitting weight cap l (keep weight cap l) :=
  ⟨keep_suffix l,keep_fits room l,fun _ suffix fits => (keep_longest suffix fits).length_le⟩

-- Entries that do not fit with what follows play no part in the window.
theorem keep_append (blocked : ∀ earlier x, front = earlier ++ [x] → cap < total weight (x :: l)) :
    keep weight cap (front ++ l) = keep weight cap l := by
  induction front with
  | nil => rfl
  | cons a rest ih =>
    have heavy : cap < total weight (a :: (rest ++ l)) := by
      rcases List.eq_nil_or_concat rest with rfl | ⟨earlier,x,rfl⟩
      · exact blocked [] a rfl
      · have bound := blocked (a :: earlier) x (by simp)
        have more : total weight (x :: l) ≤ total weight (a :: (earlier.concat x ++ l)) := by
          apply total_suffix
          exact ⟨a :: earlier,by simp⟩
        omega
    rw [List.cons_append,keep,if_neg (by omega)]
    apply ih
    intro earlier x same
    exact blocked (a :: earlier) x (by rw [same]; rfl)

theorem dropped_blocked (l : List α) : ∀ earlier x, dropped weight cap l = earlier ++ [x] →
    cap < total weight (x :: keep weight cap l) := by
  induction l with
  | nil => intro earlier x same; simp [dropped] at same
  | cons a rest ih =>
    intro earlier x same
    unfold dropped at same
    unfold keep
    split at same
    · simp at same
    · rename_i heavy
      rw [if_neg heavy]
      cases earlier with
      | nil =>
        rw [List.nil_append] at same
        obtain ⟨rfl,nothing⟩ := List.cons.inj same
        have whole : dropped weight cap rest ++ keep weight cap rest = rest := dropped_append_keep rest
        rw [nothing,List.nil_append] at whole
        rw [whole]
        omega
      | cons b earlier =>
        obtain ⟨_,tail⟩ := List.cons.inj same
        exact ih earlier x tail

-- Pruning as one goes along comes to the same as pruning the whole history.
theorem keep_keep_append (l m : List α) : keep weight cap (keep weight cap l ++ m) = keep weight cap (l ++ m) := by
  have whole : l ++ m = dropped weight cap l ++ (keep weight cap l ++ m) := by
    rw [← List.append_assoc,dropped_append_keep]
  rw [whole]
  symm
  apply keep_append
  intro earlier x same
  have bound := dropped_blocked l earlier x same
  rw [total_cons,total_append]
  rw [total_cons] at bound
  omega

-- Only the sum matters: what is kept may be arranged differently.
theorem keep_rearranged (room : 0 ≤ cap) {again : List α} (same : again.Perm (keep weight cap l)) :
    keep weight cap (dropped weight cap l ++ again) = again := by
  have equal : total weight again = total weight (keep weight cap l) := total_perm same
  rw [keep_append]
  · cases again with
    | nil => rfl
    | cons a rest =>
      rw [keep,if_pos]
      rw [equal]
      exact keep_fits room l
  · intro earlier x here
    have bound := dropped_blocked l earlier x here
    rw [total_cons] at bound ⊢
    omega

theorem rearranged_pairwise {r : α → α → Prop} {again : List α} (ordered : l.Pairwise r)
    (same : again.Perm (keep weight cap l)) (againOrdered : again.Pairwise r) : (dropped weight cap l ++ again).Pairwise r := by
  have whole : dropped weight cap l ++ keep weight cap l = l := dropped_append_keep l
  rw [← whole] at ordered
  obtain ⟨front,_,across⟩ := List.pairwise_append.mp ordered
  apply List.pairwise_append.mpr
  refine ⟨front,againOrdered,?_⟩
  intro a before b after
  exact across a before b (same.mem_iff.mp after)

theorem dropped_of_over {before after : List α} {x : α} (heavy : cap < total weight (x :: after)) :
    before ++ [x] <+: dropped weight cap (before ++ x :: after) := by
  induction before with
  | nil =>
    rw [List.nil_append,List.nil_append,dropped_over heavy]
    exact ⟨_,rfl⟩
  | cons a rest ih =>
    have more : total weight (x :: after) ≤ total weight (a :: (rest ++ x :: after)) :=
      total_suffix ⟨a :: rest,rfl⟩
    rw [List.cons_append,List.cons_append,dropped_over (by omega)]
    exact List.cons_prefix_cons.mpr ⟨rfl,ih⟩

theorem kept_of_within {before after : List α} {x : α} (light : (total weight (x :: after) : Int) ≤ cap) :
    x ∈ keep weight cap (before ++ x :: after) :=
  (keep_longest (List.suffix_append before (x :: after)) light).subset List.mem_cons_self

end ZenohDslr.RollingWindow
