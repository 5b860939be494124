import Mathlib.Data.List.TakeWhile
import ZenohDslr.Declarations
import ZenohDslr.Judgements
namespace ZenohDslr.Picoparams.ParameterServer
open Rcl DictParameterBackend

variable {self : ParameterServer} {backend : DictParameterBackend} {params : List ParameterMsg} {names : List String}

theorem getOne_value (backend : DictParameterBackend) (name : String) :
    getOne backend name = .ok ((backend.valueOf name).getD .notSet) := by
  cases found : backend.params.get? name <;> simp [getOne,ref,DictParameterBackend.get,valueOf,found]

theorem getOne_values (backend : DictParameterBackend) (names : List String) :
    names.mapM (getOne backend) = .ok (names.map fun name => (backend.valueOf name).getD .notSet) := by
  apply Fallible.mapM_ok.mpr
  rw [List.forall₂_map_right_iff]
  exact List.forall₂_same.mpr fun name _ => getOne_value backend name

theorem handleGet_exact {values : List ParameterValueMsg} : self.handleGet names = .ok values ↔
    List.Forall₂ (fun name msg => paramValueToMsg ((self.backend.valueOf name).getD .notSet) = .ok msg) names values := by
  have mapped : self.handleGet names = (names.map fun name => (self.backend.valueOf name).getD .notSet).mapM paramValueToMsg := by
    rw [handleGet,getOne_values]
    rfl
  rw [mapped,Fallible.mapM_ok,List.forall₂_map_left_iff]

-- Echoing a name into a descriptor never reaches an entry's value.
theorem describeLoop_params (descriptors : List (DescriptorRef ⊕ ParameterDescriptor)) :
    (describeLoop backend descriptors names).2.params = backend.params := by
  induction names generalizing backend descriptors with
  | nil => rfl
  | cons name rest ih =>
    unfold describeLoop
    cases backend.ref name with
    | none => exact ih _
    | some handle =>
      dsimp only
      cases backend.describe handle with
      | error e => rfl
      | ok ref => exact ih _

theorem describeLoop_same (named : backend.Named) (descriptors : List (DescriptorRef ⊕ ParameterDescriptor)) :
    (describeLoop backend descriptors names).2 = backend := by
  induction names generalizing descriptors with
  | nil => rfl
  | cons name rest ih =>
    unfold describeLoop
    cases found : backend.params.get? name with
    | none =>
      have missing : backend.ref name = none := by simp [ref,found]
      rw [missing]
      exact ih _
    | some entry =>
      have present : backend.ref name = some name := by simp [ref,found]
      have object : backend.describe name = .ok entry.descriptor := by simp [describe,found]
      have echo : {backend.heap entry.descriptor with name} = backend.heap entry.descriptor := by
        rw [← named name entry found]
      rw [present]
      dsimp only
      rw [object]
      dsimp only
      rw [echo,Function.update_eq_self]
      exact ih _

section Writing
variable [Python]

theorem stored_accepts : ∀ write ∈ stored backend params, accepts backend write = true := by
  intro write member
  obtain ⟨p,_,accepted⟩ := List.mem_filterMap.mp member
  obtain ⟨name,_,desc,found,passed⟩ := acceptedWrite_some accepted
  simp [accepts,name,found,passed]

theorem handleSet_backend : (self.handleSet params).2.backend = self.backend.assignAll (stored self.backend params) := by
  change (self.applySets params).2.backend = _
  cases outcome : failure self.backend params with
  | error e => rw [applySets_failed outcome]
  | ok through =>
    cases through
    rw [applySets_through outcome]
    dsimp only
    split
    · rfl
    · rw [emitEvent_backend]

-- What an atomic request stores, whatever it answers.
def atomicWrites (backend : DictParameterBackend) (params : List ParameterMsg) : List (String × ParameterValue) :=
  if ready backend params then (params.filterMap decoded).takeWhile (accepts backend) else []

theorem atomicWrites_decoded {write : String × ParameterValue} (member : write ∈ atomicWrites backend params) :
    write ∈ params.filterMap decoded := by
  unfold atomicWrites at member
  split at member
  · exact (List.takeWhile_sublist _).subset member
  · cases member

theorem atomicWrites_accepts : ∀ write ∈ atomicWrites backend params, accepts backend write = true := by
  intro write member
  unfold atomicWrites at member
  split at member
  · exact List.mem_takeWhile_imp member
  · cases member

theorem handleSetAtomic_backend :
    (self.handleSetAtomic params).2.backend = self.backend.assignAll (atomicWrites self.backend params) := by
  unfold atomicWrites
  cases valid : ready self.backend params with
  | false =>
    unfold handleSetAtomic
    split
    · rfl
    · rfl
    · rename_i validated; exact absurd validated (previewLoop_stops [] valid)
  | true =>
    rw [handleSetAtomic,previewLoop_ready [] valid,List.nil_append]
    dsimp only
    rw [commitLoop_eq self.backend _ fun write member => ready_declared valid member]
    cases firstRefusal self.backend (params.filterMap decoded) with
    | none => exact emitEvent_backend _
    | some reason => rfl

-- All that one request can do to a store whose descriptors carry their names:
-- a series of assignments each of which `set` accepts.
theorem handle_backend (named : self.backend.Named) (request : Request) :
    ∃ done, (∀ write ∈ done, accepts self.backend write = true) ∧
      (self.handle request).2.backend = self.backend.assignAll done := by
  have nothing : ∃ done, (∀ write ∈ done, accepts self.backend write = true) ∧ self.backend = self.backend.assignAll done :=
    ⟨[],fun _ member => (List.not_mem_nil member).elim,rfl⟩
  cases request with
  | listParameters requested => exact nothing
  | getParameters names => exact nothing
  | getParameterTypes names => exact nothing
  | setParameters params => exact ⟨_,stored_accepts,handleSet_backend⟩
  | setParametersAtomically params => exact ⟨_,atomicWrites_accepts,handleSetAtomic_backend⟩
  | describeParameters names =>
    have same : (self.handle (.describeParameters names)).2.backend = self.backend := describeLoop_same named []
    rw [same]
    exact nothing

end Writing
end ZenohDslr.Picoparams.ParameterServer
