import Mathlib.Data.List.TakeWhile
import ZenohDslr.Judgements
namespace ZenohDslr.Picoparams.ParameterServer
open Rcl DictParameterBackend

section Atomic
variable [Python] {self : ParameterServer} {params : List ParameterMsg}

-- Either success with every assignment applied in order, or a refusal that
-- leaves the values, the callback and the event stream untouched.
def AllOrNothing (self : ParameterServer) (params : List ParameterMsg) : Prop :=
  let answer := (self.handleSetAtomic params).1
  let next := (self.handleSetAtomic params).2
  let requested := params.filterMap decoded
  (answer = .ok ⟨true,""⟩ ∧ next.backend.valueOf = Writes.assignAll self.backend.valueOf requested ∧
    next.backend.calls = if self.backend.onSet.isSome then self.backend.calls ++ requested else self.backend.calls) ∨
  ((∃ reason, answer = .ok ⟨false,reason⟩) ∧ next.backend.valueOf = self.backend.valueOf ∧
    next.backend.calls = self.backend.calls ∧ next.published = self.published)

-- The assignments the commit phase performs before the first one it refuses.
def committed (self : ParameterServer) (params : List ParameterMsg) : List (String × ParameterValue) :=
  (params.filterMap decoded).takeWhile (accepts self.backend)

-- A name fails the validation phase, or no assignment is refused, or those in
-- front of the refused one change nothing and nobody is told of them.
def Undisturbed (self : ParameterServer) (params : List ParameterMsg) : Prop :=
  (∃ p ∈ params, self.backend.params.get? p.name = none) ∨
  (∀ write ∈ params.filterMap decoded, accepts self.backend write = true) ∨
  ((self.committed params = [] ∨ self.backend.onSet = none) ∧
    ∀ name value, Writes.last? (self.committed params) name = some value → self.backend.valueOf name = some value)

theorem firstRefusal_none {backend : DictParameterBackend} {writes : List (String × ParameterValue)}
    (all : ∀ write ∈ writes, accepts backend write = true) : firstRefusal backend writes = none := by
  apply List.findSome?_eq_none_iff.mpr
  intro write member
  have accepted := all write member
  unfold accepts at accepted
  cases found : backend.descriptorOf write.1 with
  | none => simp [found] at accepted
  | some desc => simpa [found] using accepted

theorem firstRefusal_some {backend : DictParameterBackend} {writes : List (String × ParameterValue)}
    (declared : ∀ write ∈ writes, (backend.params.get? write.1).isSome = true)
    (bad : ¬ ∀ write ∈ writes, accepts backend write = true) : ∃ reason, firstRefusal backend writes = some reason := by
  cases refused : firstRefusal backend writes with
  | some reason => exact ⟨reason,rfl⟩
  | none =>
    apply False.elim (bad _)
    intro write member
    have fine := List.findSome?_eq_none_iff.mp refused write member
    obtain ⟨entry,found⟩ := Option.isSome_iff_exists.mp (declared write member)
    have described : backend.descriptorOf write.1 = some (backend.heap entry.descriptor) := by simp [descriptorOf,found]
    rw [described,Option.bind_some] at fine
    simp [accepts,described,fine]

theorem handleSetAtomic_unknown (codes : ∀ p ∈ params, p.value.type.toNat ≤ 9)
    (unknown : ∃ p ∈ params, self.backend.params.get? p.name = none) :
    ∃ reason, self.handleSetAtomic params = (.ok ⟨false,reason⟩,self) := by
  obtain ⟨reason,rejected⟩ := previewLoop_unknown self.backend [] params codes unknown
  exact ⟨reason,by rw [handleSetAtomic,rejected]⟩

-- Once every name is known, the request commits a prefix of its assignments.
theorem handleSetAtomic_ready (valid : ready self.backend params = true) : self.handleSetAtomic params =
    match firstRefusal self.backend (params.filterMap decoded) with
    | some reason => (.ok ⟨false,reason⟩,{self with backend := self.backend.assignAll (self.committed params)})
    | none => (.ok ⟨true,""⟩,
        emitEvent {self with backend := self.backend.assignAll (self.committed params)} (params.filterMap decoded)) := by
  rw [handleSetAtomic,previewLoop_ready [] valid]
  simp only [List.nil_append]
  rw [commitLoop_eq self.backend _ fun write member => ready_declared valid member]
  cases firstRefusal self.backend (params.filterMap decoded) <;> rfl

theorem handleSetAtomic_known (codes : ∀ p ∈ params, p.value.type.toNat ≤ 9)
    (known : ∀ p ∈ params, (self.backend.params.get? p.name).isSome = true) : self.handleSetAtomic params =
    match firstRefusal self.backend (params.filterMap decoded) with
    | some reason => (.ok ⟨false,reason⟩,{self with backend := self.backend.assignAll (self.committed params)})
    | none => (.ok ⟨true,""⟩,
        emitEvent {self with backend := self.backend.assignAll (self.committed params)} (params.filterMap decoded)) :=
  handleSetAtomic_ready (ready_of_codes codes known)

-- A request answered with success has had each of its assignments accepted.
theorem accepted_of_success {result : SetParametersResultMsg} (answered : (self.handleSetAtomic params).1 = .ok result)
    (successful : result.successful = true) :
    ready self.backend params = true ∧ ∀ write ∈ params.filterMap decoded, accepts self.backend write = true := by
  have valid : ready self.backend params = true := by
    cases valid : ready self.backend params with
    | true => rfl
    | false =>
      rw [handleSetAtomic] at answered
      split at answered
      · cases answered
      · cases answered
        cases successful
      · rename_i validated
        exact absurd validated (previewLoop_stops [] valid)
  refine ⟨valid,?_⟩
  by_contra bad
  obtain ⟨reason,refused⟩ := firstRefusal_some (fun _ member => ready_declared valid member) bad
  rw [handleSetAtomic_ready valid,refused] at answered
  cases answered
  cases successful

theorem allOrNothing_accepted (codes : ∀ p ∈ params, p.value.type.toNat ≤ 9)
    (known : ∀ p ∈ params, (self.backend.params.get? p.name).isSome = true)
    (all : ∀ write ∈ params.filterMap decoded, accepts self.backend write = true) : AllOrNothing self params := by
  have declared : ∀ write ∈ params.filterMap decoded, (self.backend.params.get? write.1).isSome = true :=
    fun write member => ready_declared (ready_of_codes codes known) member
  have every : self.committed params = params.filterMap decoded := List.takeWhile_eq_self_iff.mpr all
  have whole := handleSetAtomic_known codes known
  rw [firstRefusal_none all,every] at whole
  left
  rw [whole]
  refine ⟨rfl,?_,?_⟩
  · rw [emitEvent_backend]; exact assignAll_value declared
  · rw [emitEvent_backend]; exact assignAll_calls declared

-- A refused request is the store with the committed prefix in it.
theorem allOrNothing_refused (codes : ∀ p ∈ params, p.value.type.toNat ≤ 9)
    (known : ∀ p ∈ params, (self.backend.params.get? p.name).isSome = true)
    (bad : ¬ ∀ write ∈ params.filterMap decoded, accepts self.backend write = true) :
    AllOrNothing self params ↔ (self.committed params = [] ∨ self.backend.onSet = none) ∧
      ∀ name value, Writes.last? (self.committed params) name = some value → self.backend.valueOf name = some value := by
  have declared : ∀ write ∈ params.filterMap decoded, (self.backend.params.get? write.1).isSome = true :=
    fun write member => ready_declared (ready_of_codes codes known) member
  obtain ⟨reason,refused⟩ := firstRefusal_some declared bad
  have partially : ∀ write ∈ self.committed params, (self.backend.params.get? write.1).isSome = true :=
    fun write member => declared write ((List.takeWhile_sublist _).subset member)
  have whole := handleSetAtomic_known codes known
  rw [refused] at whole
  unfold AllOrNothing
  rw [whole]
  dsimp only
  rw [assignAll_value partially,assignAll_calls partially,Writes.assignAll_eq_self]
  constructor
  · intro outcome
    rcases outcome with ⟨answered,_⟩ | ⟨_,same,quiet,_⟩
    · simp at answered
    · refine ⟨?_,same⟩
      cases callback : self.backend.onSet with
      | none => exact .inr rfl
      | some f => rw [callback] at quiet; exact .inl (by simpa using quiet)
  · intro condition
    obtain ⟨quiet,same⟩ := condition
    refine .inr ⟨⟨reason,rfl⟩,same,?_,rfl⟩
    rcases quiet with empty | absent
    · simp [empty]
    · simp [absent]

theorem all_or_nothing_iff_undisturbed (codes : ∀ p ∈ params, p.value.type.toNat ≤ 9) :
    AllOrNothing self params ↔ Undisturbed self params := by
  by_cases unknown : ∃ p ∈ params, self.backend.params.get? p.name = none
  · obtain ⟨reason,rejected⟩ := handleSetAtomic_unknown codes unknown
    refine ⟨fun _ => .inl unknown,fun _ => .inr ?_⟩
    rw [rejected]
    exact ⟨⟨reason,rfl⟩,rfl,rfl,rfl⟩
  have known : ∀ p ∈ params, (self.backend.params.get? p.name).isSome = true := by
    intro p member
    cases found : self.backend.params.get? p.name with
    | none => exact absurd ⟨p,member,found⟩ unknown
    | some entry => rfl
  by_cases all : ∀ write ∈ params.filterMap decoded, accepts self.backend write = true
  · exact ⟨fun _ => .inr (.inl all),fun _ => allOrNothing_accepted codes known all⟩
  · rw [allOrNothing_refused codes known all]
    constructor
    · intro quiet; exact .inr (.inr quiet)
    · intro condition
      rcases condition with missing | every | quiet
      · exact absurd missing unknown
      · exact absurd every all
      · exact quiet

end Atomic

-- Two declared parameters, the second one read-only, as `declare` builds them.
def cameraBackend : DictParameterBackend :=
  ((init fun _ => {}).declareOwn {name := "iso",value := .native (.int 100)} (.integer 100)).declareOwn
    {name := "lens",value := .native (.str "50mm"),readOnly := true} (.string "50mm")

def cameraServer : ParameterServer := ⟨"/camera",cameraBackend,none,[]⟩

def isoThenLens : List ParameterMsg := [⟨"iso",{type := 2,integerValue := 200}⟩,⟨"lens",{type := 4,stringValue := "85mm"}⟩]

theorem all_or_nothing_iff_undisturbed_camera :
    @AllOrNothing Python.bare cameraServer isoThenLens ↔ @Undisturbed Python.bare cameraServer isoThenLens :=
  @all_or_nothing_iff_undisturbed Python.bare cameraServer isoThenLens (by decide)

theorem refused_second_keeps_first : ¬ @AllOrNothing Python.bare cameraServer isoThenLens := by
  intro outcome
  rcases outcome with ⟨answered,_⟩ | ⟨_,same,_⟩
  · exact absurd answered (by decide)
  · exact absurd (congrFun same "iso") (by decide)

end ZenohDslr.Picoparams.ParameterServer
