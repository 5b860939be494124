import ZenohDslr.RequestEffects
namespace ZenohDslr.Picoparams.ParameterServer
open Rcl DictParameterBackend

-- The two read services on the same names, whenever both of them answer.
def ReadsAgree (self : ParameterServer) : Prop :=
  ∀ names types values, self.handleGetTypes names = .ok types → self.handleGet names = .ok values →
    types = values.map ParameterValueMsg.type

-- A value that `get_parameters` can answer with at all.
def Sendable (value : ParameterValue) : Prop := ∃ msg, paramValueToMsg value = .ok msg

def TypedAsDescribed (backend : DictParameterBackend) : Prop :=
  ∀ name entry, backend.params.get? name = some entry → Sendable entry.value →
    entry.value.type = (backend.heap entry.descriptor).type

inductive Act where
  | declare (call : Declaration)
  | setParameters (params : List ParameterMsg)
  | setParametersAtomically (params : List ParameterMsg)

-- In the end every assigned name holds a value of its descriptor's type.
def Settles (backend : DictParameterBackend) (writes : List (String × ParameterValue)) : Prop :=
  ∀ name value desc, Writes.last? writes name = some value → backend.descriptorOf name = some desc → value.type = desc.type

-- Giving `pv` to the object `i`: the object has no other type, and it gets no
-- type while another name uses it.
def Suits (backend : DictParameterBackend) (name : String) (i : Nat) (pv : ParameterValue) : Prop :=
  (Sendable pv → (backend.heap (.application i)).type ≠ .notSet → pv.type = (backend.heap (.application i)).type) ∧
  ((backend.heap (.application i)).type = .notSet → ∀ other entry, other ≠ name → backend.params.get? other = some entry →
    entry.descriptor = .application i → Sendable entry.value → pv.type = .notSet)

section Types
variable {self : ParameterServer} {backend : DictParameterBackend} {name : String} {names : List String}
  {writes : List (String × ParameterValue)} {given : List Nat}

theorem getTypeOne_value (backend : DictParameterBackend) (name : String) : getTypeOne backend name =
    .ok (((backend.descriptorOf name).map ParameterDescriptor.type).getD .notSet).code := by
  cases found : backend.params.get? name with
  | none => simp [getTypeOne,ref,descriptorOf,found,ParameterType.code]
  | some entry =>
    simp only [getTypeOne,ref,descriptorOf,found,Option.isSome_some,if_true,DictParameterBackend.type]
    rfl

theorem descriptorOf_isSome : (backend.descriptorOf name).isSome = (backend.valueOf name).isSome := by
  simp [descriptorOf,valueOf]

theorem typed_exact : TypedAsDescribed backend ↔ ∀ name desc value, backend.descriptorOf name = some desc →
    backend.valueOf name = some value → Sendable value → value.type = desc.type := by
  constructor
  · intro typed name desc value described held able
    obtain ⟨entry,found,rfl⟩ := Option.map_eq_some_iff.mp described
    simp only [valueOf,found,Option.map_some,Option.some.injEq] at held
    subst held
    exact typed name entry found able
  · intro typed name entry found able
    apply typed name _ _ _ _ able
    · simp [descriptorOf,found]
    · simp [valueOf,found]

-- One name: the value answered has the type answered.
theorem typed_one (typed : TypedAsDescribed backend) {msg : ParameterValueMsg}
    (sent : paramValueToMsg ((backend.valueOf name).getD .notSet) = .ok msg) :
    (((backend.descriptorOf name).map ParameterDescriptor.type).getD .notSet).code = msg.type := by
  rw [toMsg_type sent]
  have both := @descriptorOf_isSome backend name
  cases described : backend.descriptorOf name with
  | none =>
    cases held : backend.valueOf name with
    | none => rfl
    | some value => rw [described,held] at both; cases both
  | some desc =>
    cases held : backend.valueOf name with
    | none => rw [described,held] at both; cases both
    | some value =>
      rw [held] at sent
      have same := typed_exact.mp typed name desc value described held ⟨msg,sent⟩
      exact congrArg ParameterType.code same.symm

theorem readsAgree_exact : self.ReadsAgree ↔ TypedAsDescribed self.backend := by
  rw [typed_exact]
  constructor
  · intro agree name desc value described held sendable
    obtain ⟨msg,sent⟩ := sendable
    have types : self.handleGetTypes [name] = .ok [desc.type.code] := by
      apply Fallible.mapM_ok.mpr
      refine .cons ?_ .nil
      rw [getTypeOne_value,described]
      rfl
    have read : paramValueToMsg ((self.backend.valueOf name).getD .notSet) = .ok msg := by simpa [held] using sent
    have values : self.handleGet [name] = .ok [msg] := handleGet_exact.mpr (.cons read .nil)
    have same := agree [name] _ _ types values
    rw [List.map_singleton,toMsg_type sent] at same
    exact ParameterType.code_injective (List.cons.inj same).1.symm
  · intro typed names types values typesRead valuesRead
    have codes := Fallible.mapM_ok.mp typesRead
    have sent := handleGet_exact.mp valuesRead
    clear typesRead valuesRead
    induction codes generalizing values with
    | nil => cases sent; rfl
    | @cons name code rest codes here _ ih =>
      cases sent with
      | cons first others =>
        rw [getTypeOne_value] at here
        cases here
        rw [List.map_cons,typed_one (typed_exact.mpr typed) first,ih _ others]

theorem assignAll_typed (typed : TypedAsDescribed backend)
    (known : ∀ write ∈ writes, (backend.params.get? write.1).isSome = true) (sendable : ∀ write ∈ writes, Sendable write.2) :
    TypedAsDescribed (backend.assignAll writes) ↔ Settles backend writes := by
  have described : (backend.assignAll writes).descriptorOf = backend.descriptorOf := (assignAll_schema backend writes).descriptorOf
  rw [typed_exact] at typed ⊢
  rw [described,assignAll_value known]
  constructor
  · intro after name value desc written found
    apply after name desc value found _ (sendable _ (Writes.last?_mem written))
    rw [Writes.assignAll_apply,written]
    rfl
  · intro settles name desc value found held able
    rw [Writes.assignAll_apply] at held
    cases written : Writes.last? writes name with
    | some latest =>
      rw [written] at held
      cases held
      exact settles name _ desc written found
    | none =>
      rw [written] at held
      exact typed name desc value found (by simpa using held) able

theorem declareOwn_typed {call : Declaration} {pv : ParameterValue} (used : backend.InUse given) (typed : TypedAsDescribed backend) :
    TypedAsDescribed (backend.declareOwn call pv) := by
  intro name entry found able
  simp only [declareOwn,OrderedDict.get?_insert] at found ⊢
  split at found
  · cases found
    rw [Function.update_self]
  · rw [Function.update_of_ne (used.fresh found)]
    exact typed name entry found able

theorem declareWith_typed {call : Declaration} {i : Nat} {pv : ParameterValue} (typed : TypedAsDescribed backend) :
    TypedAsDescribed (backend.declareWith call i pv) ↔ Suits backend call.name i pv := by
  constructor
  · intro after
    refine ⟨?_,?_⟩
    · intro able different
      have here := after call.name ⟨.application i,pv⟩ (OrderedDict.get?_insert_self _) able
      simpa [declareWith,adopted,different] using here
    · intro untyped other entry apart found object able
      have before := typed other entry found able
      have later := after other entry (by rw [declareWith,OrderedDict.get?_insert_other _ apart]; exact found) able
      rw [object] at before
      simp only [declareWith,object,Function.update_self,adopted,untyped,if_true] at later
      rw [← later,before,untyped]
  · intro suits name entry found able
    obtain ⟨fits,alone⟩ := suits
    simp only [declareWith,OrderedDict.get?_insert] at found ⊢
    split at found
    · cases found
      rw [Function.update_self]
      unfold adopted
      dsimp only
      split
      · rfl
      · rename_i different; exact fits able different
    · rename_i apart
      have before := typed name entry found able
      by_cases shared : entry.descriptor = .application i
      · rw [shared] at before ⊢
        rw [Function.update_self,before]
        unfold adopted
        dsimp only
        split
        · rename_i untyped
          rw [untyped,alone untyped name entry apart found shared able]
        · rfl
      · rw [Function.update_of_ne shared]
        exact before

theorem decoded_sendable {p : ParameterMsg} {write : String × ParameterValue} (read : decoded p = some write) : Sendable write.2 := by
  obtain ⟨pv,value,rfl⟩ := Option.map_eq_some_iff.mp read
  cases outcome : paramValueFromMsg (some p.value) with
  | error e => rw [outcome] at value; cases value
  | ok pv => rw [outcome] at value; cases value; exact fromMsg_encodable outcome

end Types

section Reachable
variable [Python] {self : ParameterServer} {step : Act}

-- A `declare` whose value has no parameter type raises and declares nothing.
def attempt (self : ParameterServer) (call : Declaration) : ParameterServer :=
  match self.backend.declare call with
  | .error _ => self
  | .ok backend => {self with backend}

def act (self : ParameterServer) : Act → ParameterServer
  | .declare call => self.attempt call
  | .setParameters params => (self.handleSet params).2
  | .setParametersAtomically params => (self.handleSetAtomic params).2

def actStep (self : ParameterServer) (step : Act) : Option ParameterServer := some (self.act step)

def Fits (self : ParameterServer) : Act → Prop
  | .declare call => ∀ i pv, call.descriptor = some i → call.value.pv = .ok pv → Suits self.backend call.name i pv
  | .setParameters params => Settles self.backend (stored self.backend params)
  | .setParametersAtomically params => Settles self.backend (atomicWrites self.backend params)

def OwnObjects (self : ParameterServer) : Prop := ∃ given, self.backend.InUse given

theorem attempt_objects {call : Declaration} {given : List Nat} (used : self.backend.InUse given) : (self.attempt call).OwnObjects := by
  unfold attempt
  split
  · exact ⟨given,used⟩
  · rename_i backend declared
    obtain ⟨pv,_,cases⟩ := declare_cases declared
    rcases cases with ⟨_,rfl⟩ | ⟨i,_,rfl⟩
    · exact ⟨given,declareOwn_inUse used⟩
    · exact ⟨i :: given,declareWith_inUse used⟩

theorem act_objects (objects : self.OwnObjects) : (self.act step).OwnObjects := by
  obtain ⟨given,used⟩ := objects
  cases step with
  | declare call => exact attempt_objects used
  | setParameters params =>
    refine ⟨given,?_⟩
    change (self.handleSet params).2.backend.InUse given
    rw [handleSet_backend]
    exact used.schema (assignAll_schema _ _)
  | setParametersAtomically params =>
    refine ⟨given,?_⟩
    change (self.handleSetAtomic params).2.backend.InUse given
    rw [handleSetAtomic_backend]
    exact used.schema (assignAll_schema _ _)

theorem attempt_typed {call : Declaration} {given : List Nat} (used : self.backend.InUse given) (typed : TypedAsDescribed self.backend) :
    TypedAsDescribed (self.attempt call).backend ↔ Fits self (.declare call) := by
  unfold attempt
  split
  · rename_i e raised
    refine ⟨fun _ => ?_,fun _ => typed⟩
    intro i pv object read
    have fine : self.backend.declare call = .ok (self.backend.declareWith call i pv) := by
      unfold declare
      rw [read,object]
      rfl
    rw [raised] at fine
    cases fine
  · rename_i backend declared
    obtain ⟨pv,read,cases⟩ := declare_cases declared
    rcases cases with ⟨own,rfl⟩ | ⟨i,object,rfl⟩
    · refine ⟨fun _ => ?_,fun _ => declareOwn_typed used typed⟩
      intro i pv object
      rw [own] at object
      cases object
    · dsimp only
      rw [declareWith_typed typed]
      constructor
      · intro suits j other same value
        rw [object] at same
        rw [read] at value
        cases same; cases value
        exact suits
      · intro fits; exact fits i pv object read

theorem act_typed (objects : self.OwnObjects) (typed : TypedAsDescribed self.backend) :
    TypedAsDescribed (self.act step).backend ↔ Fits self step := by
  obtain ⟨given,used⟩ := objects
  cases step with
  | declare call => exact attempt_typed used typed
  | setParameters params =>
    change TypedAsDescribed (self.handleSet params).2.backend ↔ _
    rw [handleSet_backend]
    apply assignAll_typed typed (fun write member => stored_declared member)
    intro write member
    obtain ⟨p,_,accepted⟩ := List.mem_filterMap.mp member
    exact fromMsg_encodable (acceptedWrite_some accepted).2.1
  | setParametersAtomically params =>
    change TypedAsDescribed (self.handleSetAtomic params).2.backend ↔ _
    rw [handleSetAtomic_backend]
    apply assignAll_typed typed
    · intro write member
      exact accepts_declared (atomicWrites_accepts write member)
    · intro write member
      obtain ⟨p,_,read⟩ := List.mem_filterMap.mp (atomicWrites_decoded member)
      exact decoded_sendable read

-- The services agree in every state a run reaches exactly when none of its
-- steps leaves a value of another type than its descriptor says.
theorem reads_agree_iff_fit (fqn : String) (heap : DescriptorRef → ParameterDescriptor) (onSet : Option OnSet)
    (pub : Option EventPublisher) (steps : List Act) :
    Runs.Throughout actStep ReadsAgree ⟨fqn,{init heap with onSet},pub,[]⟩ steps ↔
      Runs.Along actStep Fits ⟨fqn,{init heap with onSet},pub,[]⟩ steps := by
  have start : ReadsAgree ⟨fqn,{init heap with onSet},pub,[]⟩ := by
    apply readsAgree_exact.mpr
    intro name entry found
    cases found
  have objects : OwnObjects ⟨fqn,{init heap with onSet},pub,[]⟩ := by
    refine ⟨[],?_⟩
    intro name entry found
    cases found
  have total : ∀ s step, ∃ t, actStep s step = some t := fun s step => ⟨s.act step,rfl⟩
  obtain ⟨last,ran⟩ := Runs.run_total total ⟨fqn,{init heap with onSet},pub,[]⟩ steps
  apply Runs.throughout_iff_along OwnObjects ReadsAgree Fits _ _ objects start ran
  · intro s step t valid moved
    cases moved
    exact act_objects valid
  · intro s step t valid agree moved
    cases moved
    rw [readsAgree_exact]
    exact act_typed valid (readsAgree_exact.mp agree)

end Reachable

-- A STRING descriptor with dynamic typing, as the exposure parameters have it.
def dynamicHeap : DescriptorRef → ParameterDescriptor := fun _ => {type := .string,dynamicTyping := true}

theorem dynamic_value_outgrows_type :
    ¬ Runs.Throughout (@actStep Python.bare) ReadsAgree ⟨"/camera",{init dynamicHeap with onSet := none},none,[]⟩
      [.declare {name := "iso",value := .native (.str "100"),descriptor := some 0},
        .setParameters [⟨"iso",{type := 2,integerValue := 400}⟩]] := by
  intro agree
  have last := agree _ [] _ (List.append_nil _).symm rfl
  exact absurd (last ["iso"] [4] [{type := 2,integerValue := 400}] (by decide) (by decide)) (by decide)

end ZenohDslr.Picoparams.ParameterServer
