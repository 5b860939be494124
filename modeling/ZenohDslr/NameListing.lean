import ZenohDslr.ParameterServer
import ZenohDslr.Segments
namespace ZenohDslr.Picoparams
open Segments

namespace DictParameterBackend
variable {self : DictParameterBackend} {name pfx : String} {out names : List String}

def Below (pfx name : String) : Prop := name = pfx ∨ startswith name (pfx ++ ".") = true

-- `".".join(parts[:i])` for a proper, non-empty part of the segments.
def Ancestor (pfx name : String) : Prop :=
  ∃ i, 0 < i ∧ i < (splitDots name).length ∧ pfx = joinDots ((splitDots name).take i)

theorem startswith_dot : startswith name (pfx ++ ".") = true ↔ pfx.toList ++ ['.'] <+: name.toList := by
  simp [startswith]

theorem below_under : Below pfx name ↔ Under '.' pfx.toList name.toList := by
  simp [Below,Under,startswith_dot,String.toList_inj]

theorem splitDots_below : splitDots pfx <+: splitDots name ↔ Below pfx name := by
  rw [below_under,← splitOn_under]
  exact List.prefix_map_iff_of_injective fun _ _ same => String.ofList_injective same

theorem ancestor_above : Ancestor pfx name ↔ pfx.toList ++ ['.'] <+: name.toList := by
  rw [← first_segments]
  have joined : ∀ i, pfx = joinDots ((splitDots name).take i) ↔
      pfx.toList = ['.'].intercalate ((name.toList.splitOn '.').take i) := by
    intro i
    rw [← String.toList_inj]
    simp [joinDots,splitDots,← List.map_take,Function.comp_def]
  simp only [Ancestor,joined]
  simp [splitDots]

theorem mem_namesUnder (start : Option String) : name ∈ self.namesUnder start ↔
    name ∈ self.params.keys ∧ (start = none ∨ start = some "" ∨ ∃ pfx, start = some pfx ∧ pfx ≠ "" ∧ Below pfx name) := by
  cases start with
  | none => simp [namesUnder]
  | some pfx => by_cases empty : pfx = "" <;> simp [namesUnder,empty,Below]

theorem mem_properPrefixes : pfx ∈ properPrefixes name ↔ Ancestor pfx name := by
  simp only [properPrefixes,List.mem_map,List.mem_range',Ancestor]
  constructor
  · intro found
    obtain ⟨i,⟨k,inside,rfl⟩,rfl⟩ := found
    exact ⟨_,by omega,by omega,rfl⟩
  · intro found
    obtain ⟨i,positive,inside,rfl⟩ := found
    exact ⟨i,⟨i - 1,by omega,by omega⟩,rfl⟩

theorem mem_addPrefixes : pfx ∈ names.foldl addPrefix out ↔ pfx ∈ out ∨ pfx ∈ names := by
  induction names generalizing out with
  | nil => simp
  | cons first rest ih =>
    rw [List.foldl_cons,ih,List.mem_cons,addPrefix]
    split
    · rename_i seen
      constructor
      · exact fun found => found.imp_right .inr
      · rintro (old | rfl | later)
        · exact .inl old
        · exact .inl seen
        · exact .inr later
    · simp [or_assoc]

theorem addPrefixes_nodup (distinct : out.Nodup) : (names.foldl addPrefix out).Nodup := by
  induction names generalizing out with
  | nil => exact distinct
  | cons first rest ih =>
    apply ih
    unfold addPrefix
    split
    · exact distinct
    · rename_i fresh
      exact List.nodup_append.mpr ⟨distinct,List.nodup_singleton _,
        fun x inside y single same => fresh (by rw [← List.mem_singleton.mp single,← same]; exact inside)⟩

theorem mem_prefixes (start : Option String) : pfx ∈ self.prefixes start ↔
    ∃ name ∈ self.namesUnder start, Ancestor pfx name := by
  simp [prefixes,mem_addPrefixes,mem_properPrefixes]

-- The sub-namespaces under `start`: the proper ancestors of names under it that
-- are themselves under it, each once; without a `start` all proper ancestors.
structure SubNamespaces (backend : DictParameterBackend) (start : Option String) : Prop where
  distinct : (backend.prefixes start).Nodup
  members : ∀ pfx, pfx ∈ backend.prefixes start ↔ ∃ name ∈ backend.params.keys, Ancestor pfx name ∧
    (start = none ∨ start = some "" ∨ ∃ top, start = some top ∧ top ≠ "" ∧ Below top name ∧ Below top pfx)

theorem subNamespaces_iff (self : DictParameterBackend) (start : Option String) : SubNamespaces self start ↔
    ∀ top, start = some top → top ≠ "" → '.' ∉ top.toList ∨ ∀ name ∈ self.params.keys, ¬ Below top name := by
  constructor
  · intro right top given nonempty
    by_contra bad
    obtain ⟨several,found⟩ := not_or.mp bad
    obtain ⟨name,inside,below⟩ : ∃ name ∈ self.params.keys, Below top name := by simpa using found
    obtain ⟨above,higher,outside⟩ := above_of_several (not_not.mp several)
    have ancestor : Ancestor (String.ofList above) name :=
      ancestor_above.mpr (by simpa using above_under higher (below_under.mp below))
    have listed : String.ofList above ∈ self.prefixes start :=
      (mem_prefixes start).mpr ⟨name,(mem_namesUnder start).mpr ⟨inside,.inr (.inr ⟨top,given,nonempty,below⟩)⟩,ancestor⟩
    obtain ⟨_,_,_,absent | empty | ⟨other,same,_,_,under⟩⟩ := (right.members _).mp listed
    · rw [given] at absent; cases absent
    · rw [given] at empty; exact nonempty (Option.some.inj empty)
    · cases given.symm.trans same
      exact outside (by simpa using below_under.mp under)
  · intro condition
    refine ⟨addPrefixes_nodup List.nodup_nil,?_⟩
    intro pfx
    rw [mem_prefixes]
    constructor
    · intro found
      obtain ⟨name,listed,ancestor⟩ := found
      obtain ⟨inside,absent | empty | ⟨top,given,nonempty,below⟩⟩ := (mem_namesUnder start).mp listed
      · exact ⟨name,inside,ancestor,.inl absent⟩
      · exact ⟨name,inside,ancestor,.inr (.inl empty)⟩
      · have single := (condition top given nonempty).resolve_right fun none => none name inside below
        have under := below_under.mpr (under_of_above single (below_under.mp below) (ancestor_above.mp ancestor))
        exact ⟨name,inside,ancestor,.inr (.inr ⟨top,given,nonempty,below,under⟩)⟩
    · intro found
      obtain ⟨name,inside,ancestor,which⟩ := found
      refine ⟨name,(mem_namesUnder start).mpr ⟨inside,?_⟩,ancestor⟩
      rcases which with absent | empty | ⟨top,given,nonempty,below,_⟩
      · exact .inl absent
      · exact .inr (.inl empty)
      · exact .inr (.inr ⟨top,given,nonempty,below⟩)

-- One name, three segments deep.
def deepBackend : DictParameterBackend :=
  (init fun _ => {}).declareOwn {name := "camera.lens.focus",value := .native (.int 3)} (.integer 3)

theorem enclosing_namespace_listed : ¬ SubNamespaces deepBackend (some "camera.lens") := by
  intro right
  have listed : "camera" ∈ deepBackend.prefixes (some "camera.lens") := by decide
  obtain ⟨_,_,_,absent | empty | ⟨top,given,_,_,under⟩⟩ := (right.members _).mp listed
  · cases absent
  · exact absurd empty (by decide)
  · cases given
    rcases under with same | behind
    · exact absurd same (by decide)
    · exact absurd behind (by decide)

end DictParameterBackend

namespace ParameterServer
open DictParameterBackend

-- The names a list request is about, by segments.
def Requested (requested : List String) (name : String) : Prop :=
  requested = [] ∨ "" ∈ requested ∨ ∃ pfx ∈ requested, pfx ≠ "" ∧ splitDots pfx <+: splitDots name

theorem mem_handleList (self : ParameterServer) (requested : List String) (name : String) :
    name ∈ (self.handleList requested).names ↔ name ∈ self.backend.params.keys ∧ Requested requested name := by
  simp only [handleList,OrderedDict.mem_fromKeys,List.mem_flatMap,DictParameterBackend.list,mem_namesUnder,Requested,splitDots_below]
  cases requested with
  | nil => simp
  | cons first rest =>
    simp only [List.isEmpty_cons,Bool.false_eq_true,if_false,List.mem_map,reduceCtorEq,false_or]
    constructor
    · rintro ⟨_,⟨pfx,inside,rfl⟩,declared,absent | empty | ⟨_,same,nonempty,below⟩⟩
      · cases absent
      · exact ⟨declared,.inl (Option.some.inj empty ▸ inside)⟩
      · cases same
        exact ⟨declared,.inr ⟨pfx,inside,nonempty,below⟩⟩
    · rintro ⟨declared,inside | ⟨pfx,inside,nonempty,below⟩⟩
      · exact ⟨_,⟨"",inside,rfl⟩,declared,.inr (.inl rfl)⟩
      · exact ⟨_,⟨pfx,inside,rfl⟩,declared,.inr (.inr ⟨pfx,rfl,nonempty,below⟩)⟩

theorem list_exact (self : ParameterServer) (requested : List String) :
    (self.handleList requested).names.Nodup ∧
    (∀ name, name ∈ (self.handleList requested).names ↔ name ∈ self.backend.params.keys ∧
      (requested = [] ∨ "" ∈ requested ∨ ∃ pfx ∈ requested, pfx ≠ "" ∧ splitDots pfx <+: splitDots name)) ∧
    ∀ other, (∀ pfx, pfx ∈ other ↔ pfx ∈ requested) →
      ∀ name, name ∈ (self.handleList other).names ↔ name ∈ (self.handleList requested).names := by
  refine ⟨OrderedDict.distinct _,mem_handleList self requested,?_⟩
  intro other same name
  have empty : other = [] ↔ requested = [] := by
    simp only [List.eq_nil_iff_forall_not_mem,same]
  simp only [mem_handleList,Requested,same,empty]

end ParameterServer
end ZenohDslr.Picoparams
