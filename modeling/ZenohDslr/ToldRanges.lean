import ZenohDslr.Constraints
import ZenohDslr.Ranges
namespace ZenohDslr.Picoparams.ParameterServer
open Rcl DictParameterBackend Ranges

-- The number a value message carries, where its type tag says INTEGER or DOUBLE.
def sentNumber (msg : ParameterValueMsg) : Option (Option Extended) :=
  if msg.type = ParameterType.integer.code then some (whole msg.integerValue)
  else if msg.type = ParameterType.double.code then some msg.doubleValue.exact
  else none

def TellsTrue (value : ParameterValueMsg) (desc : ParameterDescriptorMsg) : Prop :=
  ∀ x, sentNumber value = some x →
    (∀ r ∈ desc.integerRange, Member (whole r.fromValue) (whole r.toValue) (whole r.step) x) ∧
    ∀ r ∈ desc.floatingPointRange, Member r.fromValue.exact r.toValue.exact r.step.exact x

-- Every number `get_parameters` answers is in the ranges `describe_parameters`
-- answers for the same name.
def RangesTold (self : ParameterServer) : Prop :=
  ∀ names values descriptors, self.handleGet names = .ok values → (self.handleDescribe names).1 = .ok descriptors →
    List.Forall₂ TellsTrue values descriptors

def number : ParameterValue → Option (Option Extended)
  | .integer v => some (whole v)
  | .double v => some v.exact
  | _ => none

def InRanges (desc : ParameterDescriptor) (value : ParameterValue) : Prop :=
  ∀ x, number value = some x →
    (∀ r, desc.integerRange = some r → Member (whole r.fromValue) (whole r.toValue) (whole r.step) x) ∧
    ∀ r, desc.floatingPointRange = some r → Member r.fromValue.exact r.toValue.exact r.step.exact x

def Inside (backend : DictParameterBackend) : Prop :=
  ∀ name desc value, backend.descriptorOf name = some desc → backend.valueOf name = some value → InRanges desc value

-- What `_check_range` does not look at: the step of the range of the value's own
-- type, and the range of the other type.
def Unchecked (desc : ParameterDescriptor) : ParameterValue → Prop
  | .integer v =>
    (∀ r, desc.integerRange = some r → Stepped (whole r.fromValue) (whole r.toValue) (whole r.step) (whole v)) ∧
    ∀ r, desc.floatingPointRange = some r → Member r.fromValue.exact r.toValue.exact r.step.exact (whole v)
  | .double v =>
    (∀ r, desc.integerRange = some r → Member (whole r.fromValue) (whole r.toValue) (whole r.step) v.exact) ∧
    ∀ r, desc.floatingPointRange = some r → Stepped r.fromValue.exact r.toValue.exact r.step.exact v.exact
  | _ => True

inductive SetRequest where
  | setParameters (params : List ParameterMsg)
  | setParametersAtomically (params : List ParameterMsg)

section Values
variable {self : ParameterServer} {backend after : DictParameterBackend} {desc other : ParameterDescriptor} {value : ParameterValue}
  {msg : ParameterValueMsg} {names : List String} {name : String}

theorem sentNumber_exact (sent : paramValueToMsg value = .ok msg) : sentNumber msg = number value := by
  cases value with
  | integerArray values =>
    have type := toMsg_type sent
    simp [sentNumber,type,number,ParameterValue.type,ParameterType.code]
  | _ => cases sent; rfl

theorem number_sent {x : Option Extended} (numeric : number value = some x) : ∃ msg, paramValueToMsg value = .ok msg := by
  cases value with
  | integerArray values => cases numeric
  | _ => exact ⟨_,rfl⟩

theorem tellsTrue_exact (sent : paramValueToMsg value = .ok msg) : TellsTrue msg (descriptorToMsg desc) ↔ InRanges desc value := by
  unfold TellsTrue InRanges
  rw [sentNumber_exact sent]
  cases integer : desc.integerRange <;> cases floating : desc.floatingPointRange <;> simp [descriptorToMsg,integer,floating]

-- `set` accepts by type and bounds; what is left open decides.
theorem inRanges_exact [Python] (passed : refusal desc value = none) : InRanges desc value ↔ Unchecked desc value := by
  obtain ⟨_,_,checked⟩ := refusal_none passed
  cases value with
  | integer v =>
    have bounds : ∀ r, desc.integerRange = some r → Between (whole r.fromValue) (whole r.toValue) (whole v) :=
      fun r range => between_whole.mpr (checkRange_integer checked range)
    constructor
    · intro inside
      obtain ⟨own,cross⟩ := inside _ rfl
      exact ⟨fun r range => (own r range).2,cross⟩
    · intro rest x here
      cases here
      exact ⟨fun r range => ⟨bounds r range,rest.1 r range⟩,rest.2⟩
  | double v =>
    have bounds : ∀ r, desc.floatingPointRange = some r → Between r.fromValue.exact r.toValue.exact v.exact := by
      intro r range
      obtain ⟨low,high,_⟩ := checkRange_double checked range
      exact between_exact.mpr (by simp [low,high])
    constructor
    · intro inside
      obtain ⟨cross,own⟩ := inside _ rfl
      exact ⟨cross,fun r range => (own r range).2⟩
    · intro rest x here
      cases here
      exact ⟨rest.1,fun r range => ⟨bounds r range,rest.2 r range⟩⟩
  | _ => exact ⟨fun _ => trivial,fun _ _ here => by cases here⟩

theorem inRanges_congr (integer : other.integerRange = desc.integerRange) (floating : other.floatingPointRange = desc.floatingPointRange) :
    InRanges other value ↔ InRanges desc value := by
  simp [InRanges,integer,floating]

-- Which object the loop of `_handle_describe` appends for a name.
def object (backend : DictParameterBackend) (name : String) : DescriptorRef ⊕ ParameterDescriptor :=
  match backend.params.get? name with
  | none => .inr {name}
  | some entry => .inl entry.descriptor

def SameRanges (before after : DescriptorRef → ParameterDescriptor) : Prop :=
  ∀ ref, (after ref).integerRange = (before ref).integerRange ∧ (after ref).floatingPointRange = (before ref).floatingPointRange

theorem describeLoop_objects (backend : DictParameterBackend) (descriptors : List (DescriptorRef ⊕ ParameterDescriptor)) (names : List String) :
    ∃ after, describeLoop backend descriptors names = (.ok (descriptors ++ names.map (object backend)),after) ∧
      SameRanges backend.heap after.heap := by
  induction names generalizing backend descriptors with
  | nil => exact ⟨backend,by simp [describeLoop],fun _ => ⟨rfl,rfl⟩⟩
  | cons name rest ih =>
    cases found : backend.params.get? name with
    | none =>
      obtain ⟨after,looped,same⟩ := ih backend (descriptors ++ [.inr {name}])
      exact ⟨after,by simp [describeLoop,ref,object,found,looped],same⟩
    | some entry =>
      let echo : ParameterDescriptor := {backend.heap entry.descriptor with name}
      let renamed : DictParameterBackend := {backend with heap := Function.update backend.heap entry.descriptor echo}
      obtain ⟨after,looped,same⟩ := ih renamed (descriptors ++ [.inl entry.descriptor])
      have objects : object renamed = object backend := rfl
      refine ⟨after,?_,?_⟩
      · simp only [describeLoop,ref,describe,found,Option.isSome_some,if_true]
        rw [looped,objects]
        simp [object,found]
      · intro ref
        have here := same ref
        by_cases echoed : ref = entry.descriptor
        · subst echoed
          simpa [renamed,echo] using here
        · simpa [renamed,echoed] using here

theorem handleDescribe_objects (self : ParameterServer) (names : List String) : ∃ heap, SameRanges self.backend.heap heap ∧
    (self.handleDescribe names).1 =
      .ok (names.map fun name => descriptorToMsg ((object self.backend name).elim heap id)) := by
  obtain ⟨after,looped,same⟩ := describeLoop_objects self.backend [] names
  refine ⟨after.heap,same,?_⟩
  simp [handleDescribe,looped,Except.map]

-- What is answered for one name is the stored value and the ranges it is under.
theorem answered_exact {heap : DescriptorRef → ParameterDescriptor} (same : SameRanges backend.heap heap)
    (sent : paramValueToMsg ((backend.valueOf name).getD .notSet) = .ok msg) :
    TellsTrue msg (descriptorToMsg ((object backend name).elim heap id)) ↔
      ∀ desc value, backend.descriptorOf name = some desc → backend.valueOf name = some value → InRanges desc value := by
  rw [tellsTrue_exact sent]
  cases found : backend.params.get? name with
  | none =>
    refine ⟨fun _ desc value described => ?_,fun _ x numeric => ?_⟩
    · simp [descriptorOf,found] at described
    · simp [valueOf,found,number] at numeric
  | some entry =>
    have ranges := same entry.descriptor
    simp only [object,valueOf,descriptorOf,found,Sum.elim_inl,Option.map_some,Option.getD_some,Option.some.injEq]
    rw [inRanges_congr ranges.1 ranges.2]
    exact ⟨fun inside desc value here there => here ▸ there ▸ inside,fun inside => inside _ _ rfl rfl⟩

theorem rangesTold_exact : self.RangesTold ↔ Inside self.backend := by
  constructor
  · intro told name desc value described held x numeric
    obtain ⟨msg,sent⟩ := number_sent numeric
    obtain ⟨heap,same,answered⟩ := self.handleDescribe_objects [name]
    have read : paramValueToMsg ((self.backend.valueOf name).getD .notSet) = .ok msg := by simpa [held] using sent
    have one := told [name] [msg] _ (handleGet_exact.mpr (.cons read .nil)) answered
    cases one with
    | cons here _ => exact (answered_exact same read).mp here desc value described held x numeric
  · intro inside names values descriptors read described
    obtain ⟨heap,same,answered⟩ := self.handleDescribe_objects names
    cases described.symm.trans answered
    rw [List.forall₂_map_right_iff]
    refine ((handleGet_exact.mp read).imp fun name msg sent => ?_).flip
    exact (answered_exact same sent).mpr (inside name)

end Values

section Requests
variable [Python] {self : ParameterServer} {backend : DictParameterBackend} {writes : List (String × ParameterValue)}
  {request : SetRequest}

def apply (self : ParameterServer) : SetRequest → ParameterServer
  | .setParameters params => (self.handleSet params).2
  | .setParametersAtomically params => (self.handleSetAtomic params).2

def requestStep (self : ParameterServer) (request : SetRequest) : Option ParameterServer := some (self.apply request)

-- The assignments `set` accepts on behalf of one request, in their order.
def acceptedBy (backend : DictParameterBackend) : SetRequest → List (String × ParameterValue)
  | .setParameters params => stored backend params
  | .setParametersAtomically params => atomicWrites backend params

-- The last accepted value for a name is on the grid of its own range, and in the
-- other type's range where there is one.
def Fitting (self : ParameterServer) (request : SetRequest) : Prop :=
  ∀ name desc value, Writes.last? (acceptedBy self.backend request) name = some value →
    self.backend.descriptorOf name = some desc → Unchecked desc value

theorem apply_backend : (self.apply request).backend = self.backend.assignAll (acceptedBy self.backend request) := by
  cases request with
  | setParameters params => exact handleSet_backend
  | setParametersAtomically params => exact handleSetAtomic_backend

theorem acceptedBy_accepts : ∀ write ∈ acceptedBy backend request, accepts backend write = true := by
  cases request with
  | setParameters params => exact stored_accepts
  | setParametersAtomically params => exact atomicWrites_accepts

theorem accepted_inRanges {desc : ParameterDescriptor} {write : String × ParameterValue} (accepted : accepts backend write = true)
    (described : backend.descriptorOf write.1 = some desc) : InRanges desc write.2 ↔ Unchecked desc write.2 := by
  rw [accepts,described] at accepted
  exact inRanges_exact (Option.isNone_iff_eq_none.mp accepted)

theorem assignAll_inside (inside : Inside backend) (accepted : ∀ write ∈ writes, accepts backend write = true) :
    Inside (backend.assignAll writes) ↔ ∀ name desc value, Writes.last? writes name = some value →
      backend.descriptorOf name = some desc → Unchecked desc value := by
  have described : (backend.assignAll writes).descriptorOf = backend.descriptorOf := (assignAll_schema backend writes).descriptorOf
  have judged : ∀ name desc value, Writes.last? writes name = some value → backend.descriptorOf name = some desc →
      (InRanges desc value ↔ Unchecked desc value) := by
    intro name desc value written found
    exact accepted_inRanges (accepted _ (Writes.last?_mem written)) found
  unfold Inside
  rw [described,assignAll_value fun write member => accepts_declared (accepted write member)]
  constructor
  · intro after name desc value written found
    exact (judged name desc value written found).mp (after name desc value found (by simp [Writes.assignAll_apply,written]))
  · intro fitting name desc value found held
    rw [Writes.assignAll_apply] at held
    cases written : Writes.last? writes name with
    | some latest =>
      rw [written] at held
      cases held
      exact (judged name desc _ written found).mpr (fitting name desc _ written found)
    | none =>
      rw [written] at held
      exact inside name desc value found (by simpa using held)

-- Described and stored agree throughout a run of set requests exactly when every
-- request leaves fitting values behind.
theorem ranges_told_iff_fitting (self : ParameterServer) (inside : Inside self.backend) (requests : List SetRequest) :
    Runs.Throughout requestStep RangesTold self requests ↔ Runs.Along requestStep Fitting self requests := by
  have total : ∀ s request, ∃ t, requestStep s request = some t := fun s request => ⟨s.apply request,rfl⟩
  obtain ⟨last,ran⟩ := Runs.run_total total self requests
  refine Runs.throughout_iff_along (fun _ => True) RangesTold Fitting (fun _ _ _ _ _ => trivial) ?_ trivial
    (rangesTold_exact.mpr inside) ran
  intro s request t _ told moved
  cases moved
  rw [rangesTold_exact,apply_backend]
  exact assignAll_inside (rangesTold_exact.mp told) acceptedBy_accepts

end Requests

-- A range with a step, declared at its lower end.
def steppedBackend : DictParameterBackend :=
  (init fun _ => {}).declareOwn {name := "iso",value := .native (.int 100),integerRange := some ⟨100,6400,100⟩} (.integer 100)

def steppedServer : ParameterServer := ⟨"/camera",steppedBackend,none,[]⟩

theorem steppedBackend_inside : Inside steppedBackend := by
  intro name desc value described held
  simp only [steppedBackend,descriptorOf,valueOf,declareOwn,OrderedDict.get?_insert] at described held
  split at described
  · rename_i iso
    rw [if_pos iso] at held
    cases described; cases held
    intro x here
    cases here
    refine ⟨fun r range => ?_,fun r range => by cases range⟩
    cases range
    exact ⟨between_whole.mpr (by decide),stepped_whole.mpr fun _ => .inr ⟨0,rfl⟩⟩
  · cases described

-- Beside it one that takes values of any type, declared with an integer range.
def mixedBackend : DictParameterBackend :=
  ((init fun _ => {dynamicTyping := true,integerRange := some ⟨0,24,0⟩}).declareOwn
    {name := "iso",value := .native (.int 100),integerRange := some ⟨100,6400,100⟩} (.integer 100)).declareWith
    {name := "gain",value := .native (.int 6),descriptor := some 0} 0 (.integer 6)

theorem mixedBackend_inside : Inside mixedBackend := by
  intro name desc value described held
  simp only [mixedBackend,descriptorOf,valueOf,declareOwn,declareWith,OrderedDict.get?_insert] at described held
  split at described
  · rename_i gain
    rw [if_pos gain] at held
    cases described; cases held
    intro x here
    cases here
    refine ⟨fun r range => ?_,fun r range => by cases range⟩
    cases range
    exact ⟨between_whole.mpr (by decide),stepped_whole.mpr fun positive => absurd positive (by decide)⟩
  · rename_i other
    rw [if_neg other] at held
    split at described
    · rename_i iso
      rw [if_pos iso] at held
      cases described; cases held
      intro x here
      cases here
      refine ⟨fun r range => ?_,fun r range => by cases range⟩
      cases range
      exact ⟨between_whole.mpr (by decide),stepped_whole.mpr fun _ => .inr ⟨0,rfl⟩⟩
    · cases described

-- The gain turns into a double, which no bound is asked about, and back.
def mixedRequests : List SetRequest :=
  [.setParameters [⟨"iso",{type := 2,integerValue := 300}⟩,⟨"gain",{type := 3,doubleValue := .zero}⟩],
    .setParametersAtomically [⟨"gain",{type := 2,integerValue := 12}⟩,⟨"iso",{type := 2,integerValue := 200}⟩],
    .setParameters [⟨"gain",{type := 4,stringValue := "auto"}⟩,⟨"iso",{type := 2,integerValue := 150}⟩]]

theorem ranges_told_iff_fitting_iso :
    Runs.Throughout (@requestStep Python.bare) RangesTold ⟨"/camera",mixedBackend,none,[]⟩ mixedRequests ↔
    Runs.Along (@requestStep Python.bare) (@Fitting Python.bare) ⟨"/camera",mixedBackend,none,[]⟩ mixedRequests :=
  @ranges_told_iff_fitting Python.bare ⟨"/camera",mixedBackend,none,[]⟩ mixedBackend_inside mixedRequests

-- 150 lies between the bounds and on no step.
theorem step_unenforced : ¬ ∀ self : ParameterServer, Inside self.backend → ∀ requests,
    Runs.Throughout (@requestStep Python.bare) RangesTold self requests := by
  intro always
  have told := always steppedServer steppedBackend_inside [.setParameters [⟨"iso",{type := 2,integerValue := 150}⟩]]
    _ [] _ (List.append_nil _).symm rfl
  have one := told ["iso"] [{type := 2,integerValue := 150}] _ (by decide) rfl
  cases one with
  | cons here _ =>
    have member := (here _ rfl).1 ⟨100,6400,100⟩ (by decide)
    rcases stepped_whole.mp member.2 (by decide) with top | ⟨k,grid⟩
    · cases top
    · have reached : (150 : Int) = 100 + k * 100 := grid
      omega

end ZenohDslr.Picoparams.ParameterServer
