import Mathlib.Data.List.Nodup
import Mathlib.Logic.Function.Basic
namespace ZenohDslr

universe u v

-- A dictionary that keeps insertion order: assigning to a present key keeps its
-- place, a new key goes last. The field makes a repeated key impossible.
structure OrderedDict (κ : Type u) (ν : Type v) where
  items : List (κ × ν)
  distinct : (items.map Prod.fst).Nodup

namespace OrderedDict
variable {κ : Type u} {ν : Type v} [DecidableEq κ] {key other : κ} {value : ν}

def put (key : κ) (value : ν) : List (κ × ν) → List (κ × ν)
  | [] => [(key,value)]
  | item :: rest => if item.1 = key then (key,value) :: rest else item :: put key value rest

def find (key : κ) : List (κ × ν) → Option ν
  | [] => none
  | item :: rest => if item.1 = key then some item.2 else find key rest

theorem put_keys (items : List (κ × ν)) : (put key value items).map Prod.fst =
    if key ∈ items.map Prod.fst then items.map Prod.fst else items.map Prod.fst ++ [key] := by
  induction items with
  | nil => rfl
  | cons item rest ih =>
    by_cases here : item.1 = key
    · simp [put,here]
    · have there : key ≠ item.1 := fun equal => here equal.symm
      by_cases inside : key ∈ rest.map Prod.fst <;> simp_all [put]

theorem put_nodup (items : List (κ × ν)) (distinct : (items.map Prod.fst).Nodup) :
    ((put key value items).map Prod.fst).Nodup := by
  rw [put_keys]
  split
  · exact distinct
  · rename_i outside
    exact List.nodup_append.mpr ⟨distinct,List.nodup_singleton _,
      fun a inside b single equal => outside (by rw [← List.mem_singleton.mp single,← equal]; exact inside)⟩

theorem find_put_self (items : List (κ × ν)) : find key (put key value items) = some value := by
  induction items with
  | nil => simp [put,find]
  | cons item rest ih => by_cases here : item.1 = key <;> simp [put,find,here,ih]

theorem find_put_other (different : other ≠ key) (items : List (κ × ν)) :
    find other (put key value items) = find other items := by
  induction items with
  | nil => simp [put,find,different.symm]
  | cons item rest ih =>
    by_cases here : item.1 = key
    · have apart : ¬ item.1 = other := fun equal => different (equal.symm.trans here)
      simp [put,find,here,different.symm]
    · simp [put,find,here,ih]

theorem find_mem {items : List (κ × ν)} (found : find key items = some value) : (key,value) ∈ items := by
  induction items with
  | nil => cases found
  | cons item rest ih =>
    unfold find at found
    split at found
    · rename_i here
      cases found
      rw [← here]
      exact List.mem_cons_self
    · exact List.mem_cons_of_mem _ (ih found)

theorem put_absent {items : List (κ × ν)} (absent : find key items = none) : put key value items = items ++ [(key,value)] := by
  induction items with
  | nil => rfl
  | cons item rest ih =>
    unfold find at absent
    split at absent
    · cases absent
    · rename_i different
      rw [put,if_neg different,ih absent,List.cons_append]

theorem find_filter_self (items : List (κ × ν)) : find key (items.filter fun item => item.1 ≠ key) = none := by
  induction items with
  | nil => rfl
  | cons item rest ih => by_cases here : item.1 = key <;> simpa [find,here] using ih

theorem find_filter_other (different : other ≠ key) (items : List (κ × ν)) :
    find other (items.filter fun item => item.1 ≠ key) = find other items := by
  induction items with
  | nil => rfl
  | cons item rest ih =>
    by_cases here : item.1 = key
    · simpa [find,here,different.symm] using ih
    · simp only [ne_eq,decide_not] at ih
      simp [find,here,ih]

theorem find_isSome (items : List (κ × ν)) : (find key items).isSome = true ↔ key ∈ items.map Prod.fst := by
  induction items with
  | nil => simp [find]
  | cons item rest ih =>
    by_cases here : item.1 = key
    · simp [find,here]
    · have there : key ≠ item.1 := fun equal => here equal.symm
      simpa [find,here,there] using ih

theorem find_other {items : List (κ × ν)} (absent : key ∉ items.map Prod.fst) : find key items = none := by
  cases found : find key items with
  | none => rfl
  | some value => exact absurd (List.mem_map_of_mem (find_mem found)) absent

-- Two lists of items with the same keys in the same order and the same value
-- under each are the same.
theorem items_ext {items others : List (κ × ν)} (distinct : (items.map Prod.fst).Nodup)
    (keys : items.map Prod.fst = others.map Prod.fst) (values : ∀ key, find key items = find key others) : items = others := by
  induction items generalizing others with
  | nil => exact (List.map_eq_nil_iff.mp keys.symm).symm
  | cons item rest ih =>
    cases others with
    | nil => cases keys
    | cons other others =>
      obtain ⟨key,value⟩ := item
      obtain ⟨same,tail⟩ := List.cons.inj keys
      obtain ⟨outside,distinct⟩ := List.nodup_cons.mp distinct
      obtain ⟨_,held⟩ := other
      cases same
      have here := values key
      simp only [find,if_true,Option.some.injEq] at here
      rw [here,ih distinct tail]
      intro later
      by_cases there : later = key
      · have absent : later ∉ rest.map Prod.fst := there ▸ outside
        have also : later ∉ others.map Prod.fst := tail ▸ absent
        rw [find_other absent,find_other also]
      · have apart : ¬ key = later := fun equal => there equal.symm
        simpa [find,apart] using values later

-- Entries made out of some elements of a list, each under its element's key,
-- carry keys of that list in its order.
omit [DecidableEq κ] in
theorem filterMap_keys {α β : Type u} {f : α → Option β} {source : α → κ} {target : β → κ}
    (same : ∀ a b, f a = some b → target b = source a) (l : List α) : ((l.filterMap f).map target).Sublist (l.map source) := by
  induction l with
  | nil => exact .slnil
  | cons a rest ih =>
    cases made : f a with
    | none => simpa [made] using ih.cons (source a)
    | some b => simpa [made,same a b made] using ih.cons_cons (source a)

def empty : OrderedDict κ ν := ⟨[],List.nodup_nil⟩

def keys (d : OrderedDict κ ν) : List κ := d.items.map Prod.fst

def get? (d : OrderedDict κ ν) (key : κ) : Option ν := find key d.items

def insert (d : OrderedDict κ ν) (key : κ) (value : ν) : OrderedDict κ ν :=
  ⟨put key value d.items,put_nodup d.items d.distinct⟩

def erase (d : OrderedDict κ ν) (key : κ) : OrderedDict κ ν :=
  ⟨d.items.filter fun item => item.1 ≠ key,d.distinct.sublist ((List.filter_sublist).map Prod.fst)⟩

-- Python's `dict.fromkeys(iterable)`, read back as its keys: the order of first
-- occurrences, without repetitions.
def fromKeys (names : List κ) : OrderedDict κ Unit := names.foldl (fun d key => d.insert key ()) empty

@[simp] theorem get?_insert_self (d : OrderedDict κ ν) : (d.insert key value).get? key = some value :=
  find_put_self d.items

theorem get?_insert_other (d : OrderedDict κ ν) (different : other ≠ key) :
    (d.insert key value).get? other = d.get? other := find_put_other different d.items

theorem get?_insert (d : OrderedDict κ ν) :
    (d.insert key value).get? other = if other = key then some value else d.get? other := by
  by_cases same : other = key
  · subst same; simp
  · simp [get?_insert_other d same,same]

theorem keys_insert (d : OrderedDict κ ν) :
    (d.insert key value).keys = if key ∈ d.keys then d.keys else d.keys ++ [key] := put_keys d.items

theorem get?_isSome (d : OrderedDict κ ν) : (d.get? key).isSome = true ↔ key ∈ d.keys := find_isSome d.items

theorem mem_keys_of_get? {d : OrderedDict κ ν} (found : d.get? key = some value) : key ∈ d.keys :=
  d.get?_isSome.mp (by rw [found]; rfl)

theorem get?_erase_self (d : OrderedDict κ ν) : (d.erase key).get? key = none := find_filter_self d.items

theorem get?_erase_other (d : OrderedDict κ ν) (different : other ≠ key) : (d.erase key).get? other = d.get? other :=
  find_filter_other different d.items

theorem items_insert_absent (d : OrderedDict κ ν) (absent : d.get? key = none) :
    (d.insert key value).items = d.items ++ [(key,value)] := put_absent absent

-- Assigning to a key that is present moves nothing and adds nothing.
theorem keys_insert_present {d : OrderedDict κ ν} {old : ν} (found : d.get? key = some old) :
    (d.insert key value).keys = d.keys := by
  rw [keys_insert,if_pos (mem_keys_of_get? found)]

theorem mem_fromKeys {names : List κ} : key ∈ (fromKeys names).keys ↔ key ∈ names := by
  have grown : ∀ d : OrderedDict κ Unit, key ∈ (names.foldl (fun d key => d.insert key ()) d).keys ↔ key ∈ d.keys ∨ key ∈ names := by
    induction names with
    | nil => simp
    | cons first rest ih =>
      intro d
      rw [List.foldl_cons,ih,keys_insert]
      split
      · rename_i present
        constructor
        · exact fun found => found.imp_right (List.mem_cons_of_mem _)
        · rintro (old | new)
          · exact .inl old
          · rcases List.mem_cons.mp new with rfl | later
            · exact .inl present
            · exact .inr later
      · simp [or_assoc]
  have nothing : key ∉ (empty : OrderedDict κ Unit).keys := List.not_mem_nil
  exact (grown empty).trans (or_iff_right nothing)

theorem ext_get? {d other : OrderedDict κ ν} (keys : d.keys = other.keys) (values : ∀ key, d.get? key = other.get? key) :
    d = other := by
  have items := items_ext d.distinct keys values
  cases d; cases other
  cases items
  rfl

-- A dictionary filled item by item.
def insertAll (d : OrderedDict κ ν) (items : List (κ × ν)) : OrderedDict κ ν := items.foldl (fun d item => d.insert item.1 item.2) d

theorem insertAll_items {d : OrderedDict κ ν} {items : List (κ × ν)} (distinct : (items.map Prod.fst).Nodup)
    (fresh : ∀ item ∈ items, d.get? item.1 = none) : (d.insertAll items).items = d.items ++ items := by
  induction items generalizing d with
  | nil => simp [insertAll]
  | cons item rest ih =>
    obtain ⟨outside,distinct⟩ := List.nodup_cons.mp distinct
    have later : ∀ other ∈ rest, (d.insert item.1 item.2).get? other.1 = none := by
      intro other inside
      have apart : other.1 ≠ item.1 := fun same => outside (same ▸ List.mem_map_of_mem inside)
      rw [get?_insert_other _ apart]
      exact fresh other (List.mem_cons_of_mem _ inside)
    have tail := ih distinct later
    rw [items_insert_absent d (fresh item List.mem_cons_self)] at tail
    simpa [insertAll] using tail

theorem get?_insertAll_other {d : OrderedDict κ ν} {items : List (κ × ν)} (outside : key ∉ items.map Prod.fst) :
    (d.insertAll items).get? key = d.get? key := by
  induction items generalizing d with
  | nil => rfl
  | cons item rest ih =>
    rw [List.map_cons,List.mem_cons,not_or] at outside
    exact (ih outside.2).trans (get?_insert_other d outside.1)

theorem mem_put {items : List (κ × ν)} {item : κ × ν} (inside : item ∈ put key value items) : item = (key,value) ∨ item ∈ items := by
  induction items with
  | nil => exact .inl (List.mem_singleton.mp inside)
  | cons first rest ih =>
    unfold put at inside
    split at inside
    · exact (List.mem_cons.mp inside).imp_right (List.mem_cons_of_mem first)
    · rcases List.mem_cons.mp inside with here | there
      · exact .inr (List.mem_cons.mpr (.inl here))
      · exact (ih there).imp_right (List.mem_cons_of_mem first)

-- An item of a dictionary so filled is an old one or one put in.
theorem mem_insertAll {d : OrderedDict κ ν} {items : List (κ × ν)} {item : κ × ν} (inside : item ∈ (d.insertAll items).items) :
    item ∈ d.items ∨ item ∈ items := by
  induction items generalizing d with
  | nil => exact .inl inside
  | cons first rest ih =>
    rcases @ih (d.insert first.1 first.2) inside with here | there
    · exact (mem_put here).elim (fun same => .inr (List.mem_cons.mpr (.inl same))) .inl
    · exact .inr (List.mem_cons_of_mem first there)

end OrderedDict
end ZenohDslr
