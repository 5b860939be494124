import ZenohDslr.IndependentSets
import ZenohDslr.ParameterEvents
namespace ZenohDslr.Picoparams.ParameterServer
open Rcl DictParameterBackend

theorem decoded_small {p : ParameterMsg} (small : p.value.type.toNat ≤ 9) : ∃ pv, decoded p = some (p.name,pv) := by
  obtain ⟨pv,read⟩ := fromMsg_valid small
  exact ⟨pv,by simp [decoded,read,Except.toOption]⟩

section Agreement
variable [Python] {self : ParameterServer} {params : List ParameterMsg} {p : ParameterMsg} {write : String × ParameterValue}

def AtomicSucceeds (self : ParameterServer) (params : List ParameterMsg) : Prop :=
  ∃ result, (self.handleSetAtomic params).1 = .ok result ∧ result.successful = true

def EachSucceeds (self : ParameterServer) (params : List ParameterMsg) : Prop :=
  ∃ results, (self.handleSet params).1 = .ok results ∧ ∀ result ∈ results, result.successful = true

-- What the publisher has sent once it has been handed one more event.
def offered (pub : EventPublisher) (published : List ParameterEventMsg) (event : ParameterEventMsg) : List ParameterEventMsg :=
  if pub.raises published event then published else published ++ [event]

-- Both setters leave one store, call the callback with the entries of the request
-- in order, and hand the publisher one and the same event that lists them.
structure Agreeing (self : ParameterServer) (params : List ParameterMsg) : Prop where
  store : (self.handleSetAtomic params).2.backend = (self.handleSet params).2.backend
  calls : (self.handleSet params).2.backend.calls =
    if self.backend.onSet.isSome then self.backend.calls ++ params.filterMap decoded else self.backend.calls
  server : params ≠ [] → (self.handleSetAtomic params).2 = (self.handleSet params).2
  event : params ≠ [] → ∀ pub, self.eventPub = some pub → ∃ event, listed event = params.filterMap decoded ∧
    (self.handleSetAtomic params).2.published = offered pub self.published event ∧
    (self.handleSet params).2.published = offered pub self.published event

-- Both setters ask `set` the same question about a value that decodes.
theorem acceptedWrite_decoded (backend : DictParameterBackend) (read : decoded p = some write) :
    acceptedWrite backend p = if accepts backend write then some write else none := by
  obtain ⟨pv,present,rfl⟩ := Option.map_eq_some_iff.mp read
  have value : paramValueFromMsg (some p.value) = .ok pv := by
    cases outcome : paramValueFromMsg (some p.value) with
    | error e => simp [outcome,Except.toOption] at present
    | ok other => simpa [outcome,Except.toOption] using present
  cases found : backend.descriptorOf p.name with
  | none => simp [acceptedWrite,judge,accepts,found]
  | some desc => cases verdict : refusal desc pv <;> simp [acceptedWrite,judge,accepts,found,value,verdict]

theorem resultOf_decoded (backend : DictParameterBackend) (read : decoded p = some write) :
    (resultOf backend p).successful = accepts backend write := by
  have same := @acceptedWrite_result backend _ p
  rw [acceptedWrite_decoded backend read,read] at same
  change (judge backend p).result.1 = _
  cases verdict : (judge backend p).result.1 <;> cases accepted : accepts backend write <;> simp [verdict,accepted] at same ⊢

theorem accepted_all (small : ∀ p ∈ params, p.value.type.toNat ≤ 9) :
    (∀ write ∈ params.filterMap decoded, accepts self.backend write = true) ↔
      ∀ p ∈ params, (resultOf self.backend p).successful = true := by
  constructor
  · intro all p inside
    obtain ⟨pv,read⟩ := decoded_small (small p inside)
    rw [resultOf_decoded self.backend read]
    exact all _ (List.mem_filterMap.mpr ⟨p,inside,read⟩)
  · intro all write member
    obtain ⟨p,inside,read⟩ := List.mem_filterMap.mp member
    rw [← resultOf_decoded self.backend read]
    exact all p inside

theorem eachSucceeds_exact (small : ∀ p ∈ params, p.value.type.toNat ≤ 9) :
    EachSucceeds self params ↔ ∀ write ∈ params.filterMap decoded, accepts self.backend write = true := by
  have answered := (@handleSet_judged _ self params small).1
  rw [accepted_all small]
  constructor
  · intro each p inside
    obtain ⟨results,given,all⟩ := each
    cases answered.symm.trans given
    exact all _ (List.mem_map_of_mem inside)
  · intro all
    refine ⟨_,answered,?_⟩
    intro result member
    obtain ⟨p,inside,rfl⟩ := List.mem_map.mp member
    exact all p inside

theorem known_of_accepted (small : ∀ p ∈ params, p.value.type.toNat ≤ 9)
    (all : ∀ write ∈ params.filterMap decoded, accepts self.backend write = true) :
    ∀ p ∈ params, (self.backend.params.get? p.name).isSome = true := by
  intro p inside
  obtain ⟨pv,read⟩ := decoded_small (small p inside)
  exact accepts_declared (all _ (List.mem_filterMap.mpr ⟨p,inside,read⟩))

theorem handleSetAtomic_accepted (small : ∀ p ∈ params, p.value.type.toNat ≤ 9)
    (all : ∀ write ∈ params.filterMap decoded, accepts self.backend write = true) : self.handleSetAtomic params =
    (.ok ⟨true,""⟩,emitEvent {self with backend := self.backend.assignAll (params.filterMap decoded)} (params.filterMap decoded)) := by
  have every : self.committed params = params.filterMap decoded := List.takeWhile_eq_self_iff.mpr all
  rw [handleSetAtomic_known small (known_of_accepted small all),firstRefusal_none all,every]

theorem atomicSucceeds_exact (small : ∀ p ∈ params, p.value.type.toNat ≤ 9) :
    AtomicSucceeds self params ↔ ∀ write ∈ params.filterMap decoded, accepts self.backend write = true := by
  constructor
  · intro succeeds
    obtain ⟨result,answered,successful⟩ := succeeds
    exact (accepted_of_success answered successful).2
  · intro all
    exact ⟨⟨true,""⟩,by rw [handleSetAtomic_accepted small all],rfl⟩

theorem stored_accepted (small : ∀ p ∈ params, p.value.type.toNat ≤ 9)
    (all : ∀ write ∈ params.filterMap decoded, accepts self.backend write = true) :
    stored self.backend params = params.filterMap decoded := by
  rw [stored,reached_of_decodable (decodable_of_codes small)]
  apply List.filterMap_congr
  intro p inside
  obtain ⟨pv,read⟩ := decoded_small (small p inside)
  rw [acceptedWrite_decoded self.backend read,if_pos (all _ (List.mem_filterMap.mpr ⟨p,inside,read⟩)),read]

theorem handleSet_accepted (small : ∀ p ∈ params, p.value.type.toNat ≤ 9) (nonempty : params ≠ [])
    (all : ∀ write ∈ params.filterMap decoded, accepts self.backend write = true) : (self.handleSet params).2 =
    emitEvent {self with backend := self.backend.assignAll (params.filterMap decoded)} (params.filterMap decoded) := by
  have through := failure_of_decodable (@decodable_of_codes self.backend _ _ small)
  have something : (params.filterMap decoded).isEmpty = false := by
    obtain ⟨p,rest,rfl⟩ := List.exists_cons_of_ne_nil nonempty
    obtain ⟨pv,read⟩ := decoded_small (small p List.mem_cons_self)
    simp [read]
  rw [handleSet_state,applySets_through through,stored_accepted small all,something]
  rfl

theorem agreeing_of_accepted (small : ∀ p ∈ params, p.value.type.toNat ≤ 9)
    (all : ∀ write ∈ params.filterMap decoded, accepts self.backend write = true) : Agreeing self params := by
  have atomic := congrArg Prod.snd (handleSetAtomic_accepted small all)
  have backend : (self.handleSet params).2.backend = self.backend.assignAll (params.filterMap decoded) := by
    rw [handleSet_backend,stored_accepted small all]
  have declared : ∀ write ∈ params.filterMap decoded, (self.backend.params.get? write.1).isSome = true :=
    fun write member => accepts_declared (all write member)
  refine ⟨?_,?_,?_,?_⟩
  · rw [atomic,emitEvent_backend,backend]
  · rw [backend,assignAll_calls declared]
  · intro nonempty
    rw [atomic,handleSet_accepted small nonempty all]
  · intro nonempty pub publisher
    have encodable : ∀ write ∈ params.filterMap decoded, ∃ msg, paramValueToMsg write.2 = .ok msg := by
      rw [← stored_accepted small all]
      exact stored_encodable
    obtain ⟨event,built,lists⟩ := parameterEvent_total self.nodeFqn encodable
    have sent : (emitEvent {self with backend := self.backend.assignAll (params.filterMap decoded)}
        (params.filterMap decoded)).published = offered pub self.published event := by
      simp only [emitEvent,publisher,built,offered]
      split <;> rfl
    exact ⟨event,lists,by rw [atomic,sent],by rw [handleSet_accepted small nonempty all,sent]⟩

theorem setters_agree (small : ∀ p ∈ params, p.value.type.toNat ≤ 9) :
    (AtomicSucceeds self params ↔ EachSucceeds self params) ∧ (AtomicSucceeds self params → Agreeing self params) := by
  rw [atomicSucceeds_exact small,eachSucceeds_exact small]
  exact ⟨Iff.rfl,agreeing_of_accepted small⟩

end Agreement

-- A batch that comes back to a name, and a server whose sets are watched.
def watchedServer : ParameterServer :=
  ⟨"/camera",{shutterBackend.declareOwn {name := "iso",value := .native (.int 100)} (.integer 100) with onSet := some fun _ _ => .ok ()},
    some steadyPublisher,[]⟩

def isoTwice : List ParameterMsg :=
  [⟨"iso",{type := 2,integerValue := 200}⟩,⟨"shutter",{type := 4,stringValue := "1/125"}⟩,⟨"iso",{type := 2,integerValue := 400}⟩]

theorem setters_agree_iso : (@AtomicSucceeds Python.bare watchedServer isoTwice ↔ @EachSucceeds Python.bare watchedServer isoTwice) ∧
    @Agreeing Python.bare watchedServer isoTwice := by
  have agree := @setters_agree Python.bare watchedServer isoTwice (by decide)
  exact ⟨agree.1,agree.2 ⟨⟨true,""⟩,by decide,rfl⟩⟩

end ZenohDslr.Picoparams.ParameterServer
