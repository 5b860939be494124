import Mathlib.Data.List.Forall2
namespace ZenohDslr.Sweeps

universe u v w x

-- What a reader that looks at one key after the other can collect while a writer
-- applies one write after the other to the same store.
inductive Sweep {σ : Type u} {ι : Type v} {κ : Type w} {τ : Type x} (apply : σ → ι → σ) (look : σ → κ → τ) :
    σ → List ι → List κ → List τ → Prop where
  | finished (s writes) : Sweep apply look s writes [] []
  | read (s writes key keys seen) (rest : Sweep apply look s writes keys seen) :
      Sweep apply look s writes (key :: keys) (look s key :: seen)
  | write (s write writes keys seen) (rest : Sweep apply look (apply s write) writes keys seen) :
      Sweep apply look s (write :: writes) keys seen

variable {σ : Type u} {ι : Type v} {κ : Type w} {τ : Type x} {apply : σ → ι → σ} {look : σ → κ → τ} {s : σ}
  {writes done rest : List ι} {keys later : List κ} {seen : List τ}

-- No sweep can tell that it was not made before the first write or after the last.
def Whole (apply : σ → ι → σ) (look : σ → κ → τ) (s : σ) (writes : List ι) (keys : List κ) : Prop :=
  ∀ seen, Sweep apply look s writes keys seen → seen = keys.map (look s) ∨ seen = keys.map (look (writes.foldl apply s))

-- No key shows anything but its first and its last state on the way.
def Steady (apply : σ → ι → σ) (look : σ → κ → τ) (s : σ) (writes : List ι) (keys : List κ) : Prop :=
  ∀ key ∈ keys, ∀ done rest, writes = done ++ rest →
    look (done.foldl apply s) key = look s key ∨ look (done.foldl apply s) key = look (writes.foldl apply s) key

-- Of any two keys one is in the end as it was.
def Single (apply : σ → ι → σ) (look : σ → κ → τ) (s : σ) (writes : List ι) (keys : List κ) : Prop :=
  keys.Pairwise fun a b => look s a = look (writes.foldl apply s) a ∨ look s b = look (writes.foldl apply s) b

theorem sweep_now (s : σ) (writes : List ι) (keys : List κ) : Sweep apply look s writes keys (keys.map (look s)) := by
  induction keys with
  | nil => exact .finished _ _
  | cons key rest ih => exact .read _ _ _ _ _ ih

theorem sweep_later (sweep : Sweep apply look (done.foldl apply s) rest keys seen) : Sweep apply look s (done ++ rest) keys seen := by
  induction done generalizing s with
  | nil => exact sweep
  | cons write done ih => exact .write _ _ _ _ _ (ih sweep)

theorem sweep_append (first : List κ) (sweep : Sweep apply look s writes later seen) :
    Sweep apply look s writes (first ++ later) (first.map (look s) ++ seen) := by
  induction first with
  | nil => exact sweep
  | cons key first ih => exact .read _ _ _ _ _ ih

theorem sweep_end (s : σ) (writes : List ι) (keys : List κ) :
    Sweep apply look s writes keys (keys.map (look (writes.foldl apply s))) := by
  have sweep : Sweep apply look s (writes ++ []) keys (keys.map (look (writes.foldl apply s))) := sweep_later (sweep_now _ [] keys)
  rwa [List.append_nil] at sweep

-- Everything a sweep collects was in the store at some moment of the writes.
theorem sweep_seen (sweep : Sweep apply look s writes keys seen) :
    List.Forall₂ (fun key value => ∃ done rest, writes = done ++ rest ∧ value = look (done.foldl apply s) key) keys seen := by
  induction sweep with
  | finished => exact .nil
  | read s writes key keys seen _ ih => exact .cons ⟨[],writes,rfl,rfl⟩ ih
  | write s write writes keys seen _ ih =>
    refine ih.imp ?_
    intro key value moment
    obtain ⟨done,rest,split,held⟩ := moment
    exact ⟨write :: done,rest,by rw [split]; rfl,held⟩

theorem whole_steady (whole : Whole apply look s writes keys) : Steady apply look s writes keys := by
  intro key inside done rest split
  have middle := whole (keys.map (look (done.foldl apply s))) (by rw [split]; exact sweep_later (sweep_now _ rest keys))
  rcases middle with before | after
  · exact .inl (List.map_inj_left.mp before key inside)
  · exact .inr (List.map_inj_left.mp after key inside)

-- Two keys that both change are told apart by reading the first of them at the
-- start and the second at the end.
theorem whole_single (whole : Whole apply look s writes keys) : Single apply look s writes keys := by
  apply List.pairwise_iff_forall_sublist.mpr
  intro a b pair
  obtain ⟨first,later,split,here,there⟩ := List.cons_sublist_iff.mp pair
  have between := whole _ (by rw [split]; exact sweep_append first (sweep_end s writes later))
  rw [split,List.map_append,List.map_append] at between
  rcases between with before | after
  · have same := List.append_cancel_left before
    exact .inr (List.map_inj_left.mp same b (List.singleton_sublist.mp there)).symm
  · have same := List.append_cancel_right after
    exact .inl (List.map_inj_left.mp same a here)

theorem ends_whole {first last : κ → τ} (ends : List.Forall₂ (fun key value => value = first key ∨ value = last key) keys seen)
    (single : keys.Pairwise fun a b => first a = last a ∨ first b = last b) : seen = keys.map first ∨ seen = keys.map last := by
  induction ends with
  | nil => exact .inl rfl
  | @cons key value keys seen here ends ih =>
    obtain ⟨alone,single⟩ := List.pairwise_cons.mp single
    by_cases same : first key = last key
    · have value_first : value = first key := by rcases here with here | here <;> simp [here,same]
      rcases ih single with before | after
      · exact .inl (by simp [value_first,before])
      · exact .inr (by simp [value_first,same,after])
    · have still : keys.map first = keys.map last :=
        List.map_congr_left fun other inside => (alone other inside).resolve_left same
      have tail : seen = keys.map first := by rcases ih single with before | after <;> simp [*]
      rcases here with before | after
      · exact .inl (by simp [before,tail])
      · exact .inr (by simp [after,tail,still])

theorem whole_iff : Whole apply look s writes keys ↔ Steady apply look s writes keys ∧ Single apply look s writes keys := by
  refine ⟨fun whole => ⟨whole_steady whole,whole_single whole⟩,fun both seen sweep => ends_whole ?_ both.2⟩
  have within := (List.forall₂_and_left _ _).mpr ⟨fun key inside => inside,sweep_seen sweep⟩
  refine within.imp ?_
  intro key value moment
  obtain ⟨inside,done,rest,split,rfl⟩ := moment
  exact both.1 key inside done rest split

end ZenohDslr.Sweeps
