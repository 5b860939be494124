import ZenohDslr.ParameterServer
namespace ZenohDslr.Picoparams.ParameterServer
open Rcl DictParameterBackend

-- What the server says about one entry of a set request. It reads the declared
-- names and their descriptors only, so no assignment changes it.
inductive Judgement where
  | unknown
  | undecodable (error : PyError)
  | refused (reason : String)
  | accepted (value : ParameterValue)
  deriving DecidableEq,Repr

def Judgement.result : Judgement → Bool × String
  | .unknown => (false,"parameter not found")
  | .undecodable _ => (false,"")
  | .refused reason => (false,reason)
  | .accepted _ => (true,"")

def Judgement.error? : Judgement → Option PyError
  | .undecodable error => some error
  | _ => none

variable {backend before after : DictParameterBackend} {params rest : List ParameterMsg} {p : ParameterMsg}
  {write : String × ParameterValue} {writes : List (String × ParameterValue)}

theorem declared_of_descriptor {name : String} {desc : ParameterDescriptor} (found : backend.descriptorOf name = some desc) :
    ∃ entry, backend.params.get? name = some entry ∧ backend.heap entry.descriptor = desc :=
  Option.map_eq_some_iff.mp found

-- What the validation phase turns a request into when every value decodes.
def decoded (p : ParameterMsg) : Option (String × ParameterValue) :=
  (paramValueFromMsg (some p.value)).toOption.map fun pv => (p.name,pv)

def ready (backend : DictParameterBackend) (params : List ParameterMsg) : Bool :=
  params.all fun p => (backend.params.get? p.name).isSome && (decoded p).isSome

theorem previewLoop_ready (previews : List (String × ParameterValue)) (valid : ready backend params = true) :
    previewLoop backend previews params = .ok (.ok (previews ++ params.filterMap decoded)) := by
  induction params generalizing previews with
  | nil => simp [previewLoop]
  | cons p rest ih =>
    obtain ⟨here,later⟩ := Bool.and_eq_true_iff.mp valid
    obtain ⟨known,readable⟩ := Bool.and_eq_true_iff.mp here
    have present : backend.ref p.name = some p.name := by simp [ref,known]
    cases read : paramValueFromMsg (some p.value) with
    | error e => simp [decoded,read,Except.toOption] at readable
    | ok pv =>
      rw [previewLoop,read,present]
      dsimp only
      rw [ih _ later]
      simp [decoded,read,Except.toOption]

theorem previewLoop_stops {result : List (String × ParameterValue)} (previews : List (String × ParameterValue))
    (invalid : ready backend params = false) : previewLoop backend previews params ≠ .ok (.ok result) := by
  induction params generalizing previews with
  | nil => cases invalid
  | cons p rest ih =>
    intro validated
    unfold previewLoop at validated
    split at validated
    · cases validated
    · rename_i pv read
      split at validated
      · cases validated
      · rename_i handle present
        have known : (backend.params.get? p.name).isSome = true := by
          unfold ref at present
          split at present
          · assumption
          · cases present
        apply ih _ _ validated
        simpa [ready,known,decoded,read,Except.toOption] using invalid

theorem ready_of_codes (small : ∀ p ∈ params, p.value.type.toNat ≤ 9)
    (known : ∀ p ∈ params, (backend.params.get? p.name).isSome = true) : ready backend params = true := by
  apply List.all_eq_true.mpr
  intro p member
  obtain ⟨pv,read⟩ := fromMsg_valid (small p member)
  simp [known p member,decoded,read,Except.toOption]

theorem ready_declared (valid : ready backend params = true) (member : write ∈ params.filterMap decoded) :
    (backend.params.get? write.1).isSome = true := by
  obtain ⟨p,inside,read⟩ := List.mem_filterMap.mp member
  obtain ⟨pv,_,rfl⟩ := Option.map_eq_some_iff.mp read
  exact (Bool.and_eq_true_iff.mp (List.all_eq_true.mp valid p inside)).1

theorem previewLoop_unknown (backend : DictParameterBackend) (previews : List (String × ParameterValue)) (params : List ParameterMsg)
    (small : ∀ p ∈ params, p.value.type.toNat ≤ 9) (unknown : ∃ p ∈ params, backend.params.get? p.name = none) :
    ∃ reason, previewLoop backend previews params = .ok (.error reason) := by
  induction params generalizing previews with
  | nil => obtain ⟨_,member,_⟩ := unknown; cases member
  | cons p rest ih =>
    obtain ⟨pv,read⟩ := fromMsg_valid (small p List.mem_cons_self)
    rw [previewLoop,read]
    dsimp only
    cases found : backend.params.get? p.name with
    | none => simp [ref,found]
    | some entry =>
      have present : backend.ref p.name = some p.name := by simp [ref,found]
      rw [present]
      apply ih
      · intro q member; exact small q (List.mem_cons_of_mem _ member)
      · obtain ⟨q,member,missing⟩ := unknown
        rcases List.mem_cons.mp member with rfl | tail
        · rw [found] at missing; cases missing
        · exact ⟨q,tail,missing⟩

theorem emitEvent_backend {self : ParameterServer} (changed : List (String × ParameterValue)) :
    (self.emitEvent changed).backend = self.backend := by
  unfold emitEvent
  split
  · rfl
  · split
    · rfl
    · split <;> rfl

section Judged
variable [Python]

def judge (backend : DictParameterBackend) (p : ParameterMsg) : Judgement :=
  match backend.descriptorOf p.name with
  | none => .unknown
  | some desc =>
    match paramValueFromMsg (some p.value) with
    | .error e => .undecodable e
    | .ok pv =>
      match refusal desc pv with
      | some reason => .refused reason
      | none => .accepted pv

def acceptedWrite (backend : DictParameterBackend) (p : ParameterMsg) : Option (String × ParameterValue) :=
  match judge backend p with
  | .accepted pv => some (p.name,pv)
  | _ => none

-- The entries the loop of `_apply_sets` gets to: all those before the first
-- known name whose value does not decode.
def reached (backend : DictParameterBackend) (params : List ParameterMsg) : List ParameterMsg :=
  params.takeWhile fun p => (judge backend p).error?.isNone

def failure (backend : DictParameterBackend) (params : List ParameterMsg) : Except PyError Unit :=
  match params.findSome? fun p => (judge backend p).error? with
  | some e => .error e
  | none => .ok ()

def stored (backend : DictParameterBackend) (params : List ParameterMsg) : List (String × ParameterValue) :=
  (reached backend params).filterMap (acceptedWrite backend)

theorem judge_schema (same : SameSchema before after) : judge after = judge before := by
  funext p
  simp only [judge,same.descriptorOf]

theorem acceptedWrite_schema (same : SameSchema before after) : acceptedWrite after = acceptedWrite before := by
  funext p
  simp only [acceptedWrite,judge_schema same]

theorem acceptedWrite_some (accepted : acceptedWrite backend p = some write) :
    write.1 = p.name ∧ paramValueFromMsg (some p.value) = .ok write.2 ∧
      ∃ desc, backend.descriptorOf p.name = some desc ∧ refusal desc write.2 = none := by
  unfold acceptedWrite at accepted
  split at accepted
  · rename_i pv judged
    cases accepted
    unfold judge at judged
    split at judged
    · cases judged
    · rename_i desc found
      split at judged
      · cases judged
      · rename_i value decoded
        split at judged
        · cases judged
        · rename_i passed
          cases judged
          exact ⟨rfl,decoded,desc,found,passed⟩
  · cases accepted

theorem acceptedWrite_declared (accepted : acceptedWrite backend p = some write) :
    (backend.params.get? write.1).isSome = true := by
  obtain ⟨name,_,desc,found,_⟩ := acceptedWrite_some accepted
  obtain ⟨entry,present,_⟩ := declared_of_descriptor found
  rw [name,present]; rfl

theorem stored_declared (member : write ∈ stored backend params) : (backend.params.get? write.1).isSome = true := by
  obtain ⟨p,_,accepted⟩ := List.mem_filterMap.mp member
  exact acceptedWrite_declared accepted

theorem reached_cons (readable : (judge backend p).error? = none) :
    reached backend (p :: rest) = p :: reached backend rest := by
  simp [reached,readable]

theorem failure_cons (readable : (judge backend p).error? = none) :
    failure backend (p :: rest) = failure backend rest := by
  simp [failure,readable]

theorem stored_cons (readable : (judge backend p).error? = none) :
    stored backend (p :: rest) = (acceptedWrite backend p).toList ++ stored backend rest := by
  rw [stored,reached_cons readable]
  cases accepted : acceptedWrite backend p <;> simp [stored,accepted]

theorem reached_schema (same : SameSchema before after) : reached after = reached before := by
  funext params
  simp only [reached,judge_schema same]

theorem failure_schema (same : SameSchema before after) : failure after = failure before := by
  funext params
  simp only [failure,judge_schema same]

theorem stored_schema (same : SameSchema before after) : stored after = stored before := by
  funext params
  simp only [stored,reached_schema same,acceptedWrite_schema same]

theorem reached_of_decodable (decodable : ∀ p ∈ params, (judge backend p).error? = none) :
    reached backend params = params := by
  induction params with
  | nil => rfl
  | cons p rest ih =>
    rw [reached_cons (decodable p List.mem_cons_self),ih (fun q member => decodable q (List.mem_cons_of_mem _ member))]

theorem failure_of_decodable (decodable : ∀ p ∈ params, (judge backend p).error? = none) :
    failure backend params = .ok () := by
  have none_found : params.findSome? (fun p => (judge backend p).error?) = none :=
    List.findSome?_eq_none_iff.mpr decodable
  rw [failure,none_found]

theorem decodable_of_codes (small : ∀ p ∈ params, p.value.type.toNat ≤ 9) :
    ∀ p ∈ params, (judge backend p).error? = none := by
  intro p member
  obtain ⟨pv,decoded⟩ := fromMsg_valid (small p member)
  unfold judge
  split
  · rfl
  · rw [decoded]; dsimp only; split <;> rfl

-- The whole of `_apply_sets` in one equation: judged on the backend it started
-- from, stored in order, stopped by the first value that does not decode.
theorem applySetsLoop_eq (st : Applied) (params : List ParameterMsg) : applySetsLoop st params =
    (failure st.backend params,
      ⟨st.backend.assignAll (stored st.backend params),
        st.results ++ (reached st.backend params).map fun p => (judge st.backend p).result,
        st.changed ++ stored st.backend params⟩) := by
  induction params generalizing st with
  | nil => simp [applySetsLoop,failure,stored,reached,assignAll]
  | cons p rest ih =>
    cases found : st.backend.params.get? p.name with
    | none =>
      have judged : judge st.backend p = .unknown := by simp [judge,descriptorOf,found]
      have readable : (judge st.backend p).error? = none := by rw [judged]; rfl
      have missing : st.backend.ref p.name = none := by simp [ref,found]
      rw [applySetsLoop,missing]
      dsimp only
      rw [ih,reached_cons readable,failure_cons readable,stored_cons readable]
      simp [judged,Judgement.result,acceptedWrite]
    | some entry =>
      have present : st.backend.ref p.name = some p.name := by simp [ref,found]
      have described : st.backend.descriptorOf p.name = some (st.backend.heap entry.descriptor) := by
        simp [descriptorOf,found]
      rw [applySetsLoop,present]
      dsimp only
      cases decoded : paramValueFromMsg (some p.value) with
      | error e =>
        have judged : judge st.backend p = .undecodable e := by simp [judge,described,decoded]
        simp [failure,stored,reached,judged,Judgement.error?,assignAll]
      | ok pv =>
        dsimp only
        cases verdict : refusal (st.backend.heap entry.descriptor) pv with
        | some reason =>
          have judged : judge st.backend p = .refused reason := by simp [judge,described,decoded,verdict]
          have readable : (judge st.backend p).error? = none := by rw [judged]; rfl
          rw [set_refused found verdict]
          dsimp only
          rw [ih,reached_cons readable,failure_cons readable,stored_cons readable]
          simp [judged,Judgement.result,acceptedWrite]
        | none =>
          have judged : judge st.backend p = .accepted pv := by simp [judge,described,decoded,verdict]
          have readable : (judge st.backend p).error? = none := by rw [judged]; rfl
          have same := assign_schema st.backend (p.name,pv)
          rw [set_accepted found verdict]
          dsimp only
          rw [ih]
          dsimp only
          rw [reached_schema same,failure_schema same,stored_schema same,judge_schema same,
            reached_cons readable,failure_cons readable,stored_cons readable]
          simp [judged,Judgement.result,acceptedWrite,assignAll]

theorem readable_of_failure (through : failure backend params = .ok ()) : ∀ p ∈ params, (judge backend p).error? = none := by
  unfold failure at through
  split at through
  · cases through
  · rename_i nothing; exact List.findSome?_eq_none_iff.mp nothing

theorem applySets_failed {self : ParameterServer} {e : PyError} (cut : failure self.backend params = .error e) :
    self.applySets params = (.error e,{self with backend := self.backend.assignAll (stored self.backend params)}) := by
  simp only [applySets,applySetsLoop_eq,cut]

theorem applySets_through {self : ParameterServer} (through : failure self.backend params = .ok ()) : self.applySets params =
    (.ok (params.map fun p => (judge self.backend p).result),
      if (stored self.backend params).isEmpty then {self with backend := self.backend.assignAll (stored self.backend params)}
      else emitEvent {self with backend := self.backend.assignAll (stored self.backend params)} (stored self.backend params)) := by
  simp only [applySets,applySetsLoop_eq,through,List.nil_append,reached_of_decodable (readable_of_failure through)]

-- `set` would accept this assignment.
def accepts (backend : DictParameterBackend) (write : String × ParameterValue) : Bool :=
  match backend.descriptorOf write.1 with
  | none => false
  | some desc => (refusal desc write.2).isNone

theorem accepts_declared (accepted : accepts backend write = true) : (backend.params.get? write.1).isSome = true := by
  unfold accepts at accepted
  split at accepted
  · cases accepted
  · rename_i desc found
    obtain ⟨entry,present,_⟩ := declared_of_descriptor found
    rw [present]; rfl

theorem accepts_schema (same : SameSchema before after) : accepts after = accepts before := by
  funext write
  simp only [accepts,same.descriptorOf]

def firstRefusal (backend : DictParameterBackend) (writes : List (String × ParameterValue)) : Option String :=
  writes.findSome? fun write => (backend.descriptorOf write.1).bind fun desc => refusal desc write.2

theorem firstRefusal_schema (same : SameSchema before after) : firstRefusal after = firstRefusal before := by
  funext writes
  simp only [firstRefusal,same.descriptorOf]

theorem commitLoop_eq (backend : DictParameterBackend) (writes : List (String × ParameterValue))
    (declared : ∀ write ∈ writes, (backend.params.get? write.1).isSome = true) : commitLoop backend writes =
    (.ok (firstRefusal backend writes),backend.assignAll (writes.takeWhile (accepts backend))) := by
  induction writes generalizing backend with
  | nil => rfl
  | cons write rest ih =>
    obtain ⟨name,pv⟩ := write
    obtain ⟨entry,found⟩ := Option.isSome_iff_exists.mp (declared _ List.mem_cons_self)
    have present : backend.ref name = some name := by simp [ref,found]
    have described : backend.descriptorOf name = some (backend.heap entry.descriptor) := by simp [descriptorOf,found]
    rw [commitLoop,present]
    dsimp only
    cases verdict : refusal (backend.heap entry.descriptor) pv with
    | some reason =>
      rw [set_refused found verdict]
      simp [firstRefusal,accepts,described,verdict,assignAll]
    | none =>
      have same := assign_schema backend (name,pv)
      have later : ∀ write ∈ rest, ((backend.assign (name,pv)).params.get? write.1).isSome = true := by
        intro write member
        rw [same.declared]
        exact declared write (List.mem_cons_of_mem _ member)
      rw [set_accepted found verdict]
      dsimp only
      rw [ih _ later,firstRefusal_schema same,accepts_schema same]
      simp [firstRefusal,accepts,described,verdict,assignAll]

end Judged
end ZenohDslr.Picoparams.ParameterServer
