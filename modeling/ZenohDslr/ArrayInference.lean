import ZenohDslr.Fallible
import ZenohDslr.ParameterTypes
namespace ZenohDslr.Picoparams

section Inference
variable {α : Type} {seq : List PyValue} {convert : PyValue → Except PyError α} {make : α → PyValue}
  {wrap : List α → ParameterValue}

-- The elements of an array value, each as a native value of the kind the type names.
def ParameterValue.elements : ParameterValue → Option (List PyValue)
  | .boolArray values => some (values.map .bool)
  | .integerArray values => some (values.map .int)
  | .doubleArray values => some (values.map .float)
  | .stringArray values => some (values.map .str)
  | _ => none

-- A TypeError, or an array of just the elements given.
def Unaltered (seq : List PyValue) (outcome : Except PyError ParameterValue) : Prop :=
  (∃ message, outcome = .error (.typeError message)) ∨ ∃ pv, outcome = .ok pv ∧ pv.elements = some seq

def AllOf (make : α → PyValue) (seq : List PyValue) : Prop := ∀ x ∈ seq, ∃ value, x = make value

-- The first element the conversion does not take is one it raises TypeError on.
def Refused (convert : PyValue → Except PyError α) (seq : List PyValue) : Prop :=
  ∃ front x back message, seq = front ++ x :: back ∧ (∀ y ∈ front, ∃ value, convert y = .ok value) ∧
    convert x = .error (.typeError message)

def Unmixed [Python] (seq : List PyValue) : Prop :=
  match seq with
  | .bool _ :: _ => AllOf PyValue.bool seq ∨ Refused pyBool seq
  | .int _ :: _ => AllOf PyValue.int seq ∨ Refused pyInt seq
  | .float _ :: _ => AllOf PyValue.float seq ∨ Refused pyFloat seq
  | .str _ :: _ => AllOf PyValue.str seq ∨ Refused pyStr seq
  | _ => True

theorem mapM_made {values : List α} (reads : ∀ value, convert (make value) = .ok value) :
    (values.map make).mapM convert = .ok values := by
  induction values with
  | nil => rfl
  | cons value rest ih => simp [reads,ih,bind,Except.bind,pure,Except.pure]

theorem allOf_map : AllOf make seq ↔ ∃ values : List α, seq = values.map make := by
  constructor
  · intro all
    induction seq with
    | nil => exact ⟨[],rfl⟩
    | cons x rest ih =>
      obtain ⟨value,rfl⟩ := all x List.mem_cons_self
      obtain ⟨values,rfl⟩ := ih fun y inside => all y (List.mem_cons_of_mem _ inside)
      exact ⟨value :: values,rfl⟩
  · rintro ⟨values,rfl⟩ x inside
    obtain ⟨value,_,rfl⟩ := List.mem_map.mp inside
    exact ⟨value,rfl⟩

-- One branch of the inference: the elements come back as they were only if the
-- conversion had nothing to do.
theorem unaltered_branch (reads : ∀ value, convert (make value) = .ok value)
    (shown : ∀ values, (wrap values).elements = some (values.map make)) :
    Unaltered seq (do return wrap (← seq.mapM convert)) ↔ AllOf make seq ∨ Refused convert seq := by
  cases mapped : seq.mapM convert with
  | error e =>
    have none_made : ¬ AllOf make seq := by
      intro all
      obtain ⟨values,rfl⟩ := allOf_map.mp all
      rw [mapM_made reads] at mapped
      cases mapped
    obtain ⟨front,x,back,split,fine,refused⟩ := Fallible.mapM_error.mp mapped
    constructor
    · rintro (⟨message,raised⟩ | ⟨pv,returned,_⟩)
      · cases raised
        exact .inr ⟨front,x,back,message,split,fine,refused⟩
      · cases returned
    · rintro (all | ⟨front,x,back,message,split,fine,refused⟩)
      · exact absurd all none_made
      · have raised := Fallible.mapM_error.mpr ⟨front,x,back,split,fine,refused⟩
        cases mapped.symm.trans raised
        exact .inl ⟨message,rfl⟩
  | ok values =>
    constructor
    · rintro (⟨message,raised⟩ | ⟨pv,returned,same⟩)
      · cases raised
      · cases returned
        rw [shown] at same
        exact .inl (allOf_map.mpr ⟨values,(Option.some.inj same).symm⟩)
    · rintro (all | ⟨front,x,back,message,split,fine,refused⟩)
      · obtain ⟨made,rfl⟩ := allOf_map.mp all
        rw [mapM_made reads] at mapped
        cases mapped
        exact .inr ⟨_,rfl,shown _⟩
      · have raised := Fallible.mapM_error.mpr ⟨front,x,back,split,fine,refused⟩
        cases mapped.symm.trans raised

theorem unaltered_sequence [Python] (value : PyValue) (seq : List PyValue) :
    Unaltered seq (ParameterValue.fromSequence value seq) ↔ Unmixed seq := by
  have rejected : Unaltered seq (.error (cannotInfer value)) := .inl ⟨_,rfl⟩
  cases seq with
  | nil => exact ⟨fun _ => trivial,fun _ => .inr ⟨_,rfl,rfl⟩⟩
  | cons head rest =>
    cases head with
    | bool b => exact unaltered_branch (fun _ => rfl) (fun _ => rfl)
    | int n => exact unaltered_branch (fun _ => rfl) (fun _ => rfl)
    | float d => exact unaltered_branch (fun _ => rfl) (fun _ => rfl)
    | str s => exact unaltered_branch (fun _ => rfl) (fun _ => rfl)
    | _ => exact ⟨fun _ => trivial,fun _ => rejected⟩

theorem inference_unaltered_iff [Python] (seq : List PyValue) :
    (Unaltered seq (ParameterValue.fromPython (.list seq)) ↔ Unmixed seq) ∧
      (Unaltered seq (ParameterValue.fromPython (.tuple seq)) ↔ Unmixed seq) :=
  ⟨unaltered_sequence _ seq,unaltered_sequence _ seq⟩

end Inference

-- `[True, 2]` becomes the BOOL_ARRAY `[True, True]`.
theorem integer_read_as_bool : @ParameterValue.fromPython Python.bare (.list [.bool true,.int 2]) = .ok (.boolArray [true,true]) ∧
    ¬ ∀ seq, Unaltered seq (@ParameterValue.fromPython Python.bare (.list seq)) := by
  refine ⟨rfl,?_⟩
  intro always
  rcases always [.bool true,.int 2] with ⟨message,raised⟩ | ⟨pv,returned,same⟩
  · cases raised
  · cases returned
    cases same

end ZenohDslr.Picoparams
