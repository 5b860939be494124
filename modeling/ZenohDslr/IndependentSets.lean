import ZenohDslr.AtomicSets
import ZenohDslr.ReadYourWrites
namespace ZenohDslr.Picoparams
open Rcl

namespace DictParameterBackend

-- A store is its schema and its values.
theorem params_ext {left right : DictParameterBackend} (schema : SameSchema left right) (values : left.valueOf = right.valueOf) :
    left.params = right.params := by
  apply OrderedDict.ext_get? schema.keys.symm
  intro name
  have refs := schema.refs name
  have held := congrFun values name
  unfold valueOf at held
  cases one : left.params.get? name with
  | none =>
    cases two : right.params.get? name with
    | none => rfl
    | some entry => simp [one,two] at held
  | some entry =>
    cases two : right.params.get? name with
    | none => simp [one,two] at held
    | some other =>
      rw [one,two] at refs held
      obtain ⟨descriptor,value⟩ := entry
      obtain ⟨_,_⟩ := other
      cases Option.some.inj refs
      cases Option.some.inj held
      rfl

end DictParameterBackend

namespace ParameterServer
open DictParameterBackend

section Independence
variable [Python] {self : ParameterServer} {params xs ys other : List ParameterMsg}

-- The entries answered successful, with the values they carried.
def successes (params : List ParameterMsg) (results : List SetParametersResultMsg) : List (String × ParameterValue) :=
  (params.zip results).filterMap fun item => if item.2.successful then decoded item.1 else none

def resultOf (backend : DictParameterBackend) (p : ParameterMsg) : SetParametersResultMsg :=
  ⟨(judge backend p).result.1,(judge backend p).result.2⟩

-- One result for each entry, the one it would get alone on the store the request
-- meets; every parameter ends with its last successful entry; a request is its
-- parts one behind the other, and the order of entries for different names is free.
structure Independent (self : ParameterServer) (params : List ParameterMsg) (results : List SetParametersResultMsg) : Prop where
  each : List.Forall₂ (fun p result => (self.handleSet [p]).1 = .ok [result]) params results
  values : ∀ name, (self.handleSet params).2.backend.valueOf name =
    (Writes.last? (successes params results) name).or (self.backend.valueOf name)
  parts : ∀ xs ys, params = xs ++ ys → ∃ first second, results = first ++ second ∧ (self.handleSet xs).1 = .ok first ∧
    ((self.handleSet xs).2.handleSet ys).1 = .ok second ∧
    ((self.handleSet xs).2.handleSet ys).2.backend = (self.handleSet params).2.backend
  permuted : (params.map ParameterMsg.name).Nodup → ∀ other, params.Perm other → ∃ moved, (self.handleSet other).1 = .ok moved ∧
    (params.zip results).Perm (other.zip moved) ∧ (self.handleSet other).2.backend.params = (self.handleSet params).2.backend.params

theorem resultOf_schema {before after : DictParameterBackend} (same : SameSchema before after) : resultOf after = resultOf before := by
  funext p
  simp only [resultOf,judge_schema same]

-- With values that decode a request is judged entry by entry and stored in order.
theorem handleSet_judged (small : ∀ p ∈ params, p.value.type.toNat ≤ 9) :
    (self.handleSet params).1 = .ok (params.map (resultOf self.backend)) ∧
      (self.handleSet params).2.backend = self.backend.assignAll (params.filterMap (acceptedWrite self.backend)) := by
  have readable : ∀ p ∈ params, (judge self.backend p).error? = none := decodable_of_codes small
  constructor
  · change (self.applySets params).1.map _ = _
    rw [applySets_through (failure_of_decodable readable)]
    simp [Except.map,resultOf]
  · rw [handleSet_backend,stored,reached_of_decodable readable]

theorem successes_judged (backend : DictParameterBackend) (params : List ParameterMsg) :
    successes params (params.map (resultOf backend)) = params.filterMap (acceptedWrite backend) := by
  induction params with
  | nil => rfl
  | cons p rest ih =>
    simp only [successes,List.map_cons,List.zip_cons_cons,List.filterMap_cons] at ih ⊢
    rw [ih,resultOf,acceptedWrite_result]

theorem handleSet_schema (self : ParameterServer) (params : List ParameterMsg) : SameSchema self.backend (self.handleSet params).2.backend := by
  rw [handleSet_backend]
  exact assignAll_schema _ _

theorem acceptedWrites_declared {backend : DictParameterBackend} :
    ∀ write ∈ params.filterMap (acceptedWrite backend), (backend.params.get? write.1).isSome = true := by
  intro write member
  obtain ⟨p,_,accepted⟩ := List.mem_filterMap.mp member
  exact acceptedWrite_declared accepted

theorem acceptedWrites_distinct {backend : DictParameterBackend} (distinct : (params.map ParameterMsg.name).Nodup) :
    ((params.filterMap (acceptedWrite backend)).map Prod.fst).Nodup :=
  distinct.sublist (OrderedDict.filterMap_keys (fun _ _ accepted => (acceptedWrite_some accepted).1) params)

-- Storing an entry changes no descriptor, so it changes no later judgement.
theorem handleSet_append (small : ∀ p ∈ xs ++ ys, p.value.type.toNat ≤ 9) :
    ((self.handleSet xs).2.handleSet ys).1 = .ok (ys.map (resultOf self.backend)) ∧
      ((self.handleSet xs).2.handleSet ys).2.backend = (self.handleSet (xs ++ ys)).2.backend := by
  have first : ∀ p ∈ xs, p.value.type.toNat ≤ 9 := fun p inside => small p (List.mem_append_left _ inside)
  have second : ∀ p ∈ ys, p.value.type.toNat ≤ 9 := fun p inside => small p (List.mem_append_right _ inside)
  have same := handleSet_schema self xs
  obtain ⟨answered,stored⟩ := @handleSet_judged _ (self.handleSet xs).2 _ second
  constructor
  · rw [answered,resultOf_schema same]
  · rw [stored,acceptedWrite_schema same,(handleSet_judged first).2,(handleSet_judged small).2,List.filterMap_append,assignAll_append]

theorem handleSet_perm (small : ∀ p ∈ params, p.value.type.toNat ≤ 9) (distinct : (params.map ParameterMsg.name).Nodup)
    (moved : params.Perm other) : (self.handleSet other).2.backend.params = (self.handleSet params).2.backend.params := by
  have also : ∀ p ∈ other, p.value.type.toNat ≤ 9 := fun p inside => small p (moved.mem_iff.mpr inside)
  have here := handleSet_schema self params
  have there := handleSet_schema self other
  have back : SameSchema (self.handleSet other).2.backend self.backend :=
    ⟨there.keys.symm,fun name => (there.refs name).symm,there.heap.symm,there.built.symm,there.onSet.symm⟩
  apply params_ext (back.trans here)
  rw [(handleSet_judged also).2,(handleSet_judged small).2,assignAll_value acceptedWrites_declared,
    assignAll_value acceptedWrites_declared]
  exact (Writes.assignAll_perm (acceptedWrites_distinct distinct) (moved.filterMap _)).symm

theorem sets_independent (small : ∀ p ∈ params, p.value.type.toNat ≤ 9) :
    ∃ results, (self.handleSet params).1 = .ok results ∧ Independent self params results := by
  refine ⟨_,(handleSet_judged small).1,?_,?_,?_,?_⟩
  · rw [List.forall₂_map_right_iff,List.forall₂_same]
    intro p inside
    have alone : ∀ q ∈ [p], q.value.type.toNat ≤ 9 := fun q single => List.mem_singleton.mp single ▸ small p inside
    exact (handleSet_judged alone).1
  · intro name
    rw [successes_judged,(handleSet_judged small).2,assignAll_value acceptedWrites_declared,Writes.assignAll_apply]
  · intro xs ys split
    subst split
    have first : ∀ p ∈ xs, p.value.type.toNat ≤ 9 := fun p inside => small p (List.mem_append_left _ inside)
    obtain ⟨answered,stored⟩ := @handleSet_append _ self _ _ small
    exact ⟨_,_,List.map_append,(handleSet_judged first).1,answered,stored⟩
  · intro distinct other moved
    have also : ∀ p ∈ other, p.value.type.toNat ≤ 9 := fun p inside => small p (moved.mem_iff.mpr inside)
    refine ⟨_,(handleSet_judged also).1,?_,handleSet_perm small distinct moved⟩
    have paired : ∀ entries : List ParameterMsg, entries.zip (entries.map (resultOf self.backend)) =
        entries.map fun p => (p,resultOf self.backend p) := by
      intro entries
      induction entries with
      | nil => rfl
      | cons p rest ih => simp [ih]
    rw [paired,paired]
    exact moved.map _

end Independence

-- The second entry is judged as it would be without the first.
theorem sets_independent_camera : ∃ results,
    (@handleSet Python.bare ⟨"/camera",cameraBackend,none,[]⟩
      [⟨"iso",{type := 2,integerValue := 200}⟩,⟨"lens",{type := 4,stringValue := "85mm"}⟩]).1 = .ok results ∧
    @Independent Python.bare ⟨"/camera",cameraBackend,none,[]⟩
      [⟨"iso",{type := 2,integerValue := 200}⟩,⟨"lens",{type := 4,stringValue := "85mm"}⟩] results :=
  @sets_independent Python.bare _ _ (by decide)

end ParameterServer
end ZenohDslr.Picoparams
