import ZenohDslr.Fallible
import ZenohDslr.ParameterTypes
namespace ZenohDslr.Rcl
open Picoparams

-- A message object in memory. The array fields are numpy arrays of fixed-width
-- elements; a scalar field holds whatever Python integer it was given.
structure ParameterValueMsg where
  type : UInt8
  boolValue : Bool := false
  integerValue : Int := 0
  doubleValue : Double := Double.zero
  stringValue : String := ""
  byteArrayValue : List UInt8 := []
  boolArrayValue : List Bool := []
  integerArrayValue : List Int64 := []
  doubleArrayValue : List Double := []
  stringArrayValue : List String := []
  deriving DecidableEq,Repr

-- One element of `np.array(values, dtype=np.int64)`.
def int64 (value : Int) : Except PyError Int64 :=
  if low : Int64.minValue.toInt ≤ value then
    if high : value ≤ Int64.maxValue.toInt then .ok (Int64.ofIntLE value low high)
    else .error (.overflowError "Python int too large to convert to C long")
  else .error (.overflowError "Python int too large to convert to C long")

def paramValueToMsg (pv : ParameterValue) : Except PyError ParameterValueMsg :=
  let fields : ParameterValueMsg := {type := pv.type.code}
  match pv with
  | .notSet => .ok fields
  | .bool value => .ok {fields with boolValue := value}
  | .integer value => .ok {fields with integerValue := value}
  | .double value => .ok {fields with doubleValue := value}
  | .string value => .ok {fields with stringValue := value}
  | .byteArray value => .ok {fields with byteArrayValue := value}
  | .boolArray value => .ok {fields with boolArrayValue := value}
  | .integerArray value => return {fields with integerArrayValue := ← value.mapM int64}
  | .doubleArray value => .ok {fields with doubleArrayValue := value}
  | .stringArray value => .ok {fields with stringArrayValue := value}

def paramValueFromMsg : Option ParameterValueMsg → Except PyError ParameterValue
  | none => .ok .notSet
  | some msg => do
    match ← ParameterType.ofCode msg.type with
    | .notSet => return .notSet
    | .bool => return .bool msg.boolValue
    | .integer => return .integer msg.integerValue
    | .double => return .double msg.doubleValue
    | .string => return .string msg.stringValue
    | .byteArray => return .byteArray msg.byteArrayValue
    | .boolArray => return .boolArray msg.boolArrayValue
    | .integerArray => return .integerArray (msg.integerArrayValue.map Int64.toInt)
    | .doubleArray => return .doubleArray msg.doubleArrayValue
    | .stringArray => return .stringArray msg.stringArrayValue

theorem int64_toInt {value : Int} {element : Int64} (converted : int64 value = .ok element) : element.toInt = value := by
  unfold int64 at converted
  split at converted
  · split at converted
    · cases converted; exact Int64.toInt_ofIntLE
    · cases converted
  · cases converted

theorem int64_array {values : List Int} {elements : List Int64} (converted : values.mapM int64 = .ok elements) :
    elements.map Int64.toInt = values := by
  have related := Fallible.mapM_ok.mp converted
  induction related with
  | nil => rfl
  | cons here _ ih => rw [List.map_cons,int64_toInt here,ih (Fallible.mapM_ok.mpr ‹_›)]

theorem int64_range {value : Int} (low : Int64.minValue.toInt ≤ value) (high : value ≤ Int64.maxValue.toInt) :
    ∃ element, int64 value = .ok element := ⟨_,by rw [int64,dif_pos low,dif_pos high]⟩

def InInt64 (value : Int) : Prop := Int64.minValue.toInt ≤ value ∧ value ≤ Int64.maxValue.toInt

def Int64Safe : ParameterValue → Prop
  | .integer value => InInt64 value
  | .integerArray values => ∀ value ∈ values, InInt64 value
  | _ => True

-- The fields the type code does not select hold their defaults.
structure UnselectedDefault (msg : ParameterValueMsg) : Prop where
  bool : msg.type ≠ ParameterType.bool.code → msg.boolValue = false
  integer : msg.type ≠ ParameterType.integer.code → msg.integerValue = 0
  double : msg.type ≠ ParameterType.double.code → msg.doubleValue = Double.zero
  string : msg.type ≠ ParameterType.string.code → msg.stringValue = ""
  byteArray : msg.type ≠ ParameterType.byteArray.code → msg.byteArrayValue = []
  boolArray : msg.type ≠ ParameterType.boolArray.code → msg.boolArrayValue = []
  integerArray : msg.type ≠ ParameterType.integerArray.code → msg.integerArrayValue = []
  doubleArray : msg.type ≠ ParameterType.doubleArray.code → msg.doubleArrayValue = []
  stringArray : msg.type ≠ ParameterType.stringArray.code → msg.stringArrayValue = []

theorem toMsg_type {pv : ParameterValue} {msg : ParameterValueMsg} (encoded : paramValueToMsg pv = .ok msg) :
    msg.type = pv.type.code := by
  cases pv with
  | integerArray values => obtain ⟨_,_,whole⟩ := Fallible.bind_ok.mp encoded; cases whole; rfl
  | _ => cases encoded; rfl

theorem toMsg_unselected {pv : ParameterValue} {msg : ParameterValueMsg} (encoded : paramValueToMsg pv = .ok msg) :
    UnselectedDefault msg := by
  cases pv with
  | integerArray values =>
    obtain ⟨_,_,whole⟩ := Fallible.bind_ok.mp encoded
    cases whole
    constructor <;> first | (intro _; rfl) | (intro different; exact absurd rfl different)
  | _ =>
    cases encoded
    constructor <;> first | (intro _; rfl) | (intro different; exact absurd rfl different)

-- The two codecs agree: what one writes the other reads back, tag included.
theorem fromMsg_toMsg {pv : ParameterValue} {msg : ParameterValueMsg} (encoded : paramValueToMsg pv = .ok msg) :
    paramValueFromMsg (some msg) = .ok pv := by
  cases pv with
  | integerArray values =>
    obtain ⟨elements,converted,whole⟩ := Fallible.bind_ok.mp encoded
    cases whole
    rw [← int64_array converted]
    rfl
  | _ => cases encoded; rfl

theorem toMsg_total {pv : ParameterValue} (safe : Int64Safe pv) : ∃ msg, paramValueToMsg pv = .ok msg := by
  cases pv with
  | integerArray values =>
    obtain ⟨elements,converted⟩ := Fallible.mapM_total (fun value member =>
      int64_range (safe value member).1 (safe value member).2)
    exact ⟨_,Fallible.bind_ok.mpr ⟨elements,converted,rfl⟩⟩
  | _ => exact ⟨_,rfl⟩

theorem fromMsg_valid {msg : ParameterValueMsg} (small : msg.type.toNat ≤ 9) :
    ∃ pv, paramValueFromMsg (some msg) = .ok pv := by
  obtain ⟨type,read⟩ := ParameterType.ofCode_valid small
  cases type <;> exact ⟨_,Fallible.bind_ok.mpr ⟨_,read,rfl⟩⟩

-- A decoded value can always be sent again: its arrays came out of a message.
theorem fromMsg_encodable {msg : ParameterValueMsg} {pv : ParameterValue}
    (decoded : paramValueFromMsg (some msg) = .ok pv) : ∃ again, paramValueToMsg pv = .ok again := by
  obtain ⟨type,read,rest⟩ := Fallible.bind_ok.mp decoded
  cases type with
  | integerArray =>
    cases rest
    have total : ∀ value ∈ msg.integerArrayValue.map Int64.toInt, ∃ element, int64 value = .ok element := by
      intro value member
      obtain ⟨element,_,rfl⟩ := List.mem_map.mp member
      exact int64_range element.minValue_le_toInt element.toInt_le
    obtain ⟨elements,converted⟩ := Fallible.mapM_total total
    exact ⟨_,Fallible.bind_ok.mpr ⟨elements,converted,rfl⟩⟩
  | _ => cases rest; exact ⟨_,rfl⟩

structure ParameterMsg where
  name : String
  value : ParameterValueMsg
  deriving DecidableEq,Repr

structure FloatingPointRangeMsg where
  fromValue : Double
  toValue : Double
  step : Double
  deriving DecidableEq,Repr

structure IntegerRangeMsg where
  fromValue : Int
  toValue : Int
  step : Int
  deriving DecidableEq,Repr

structure ParameterDescriptorMsg where
  name : String
  type : UInt8
  description : String
  additionalConstraints : String
  readOnly : Bool
  dynamicTyping : Bool
  floatingPointRange : List FloatingPointRangeMsg
  integerRange : List IntegerRangeMsg
  deriving DecidableEq,Repr

structure SetParametersResultMsg where
  successful : Bool
  reason : String
  deriving DecidableEq,Repr

structure ListParametersResultMsg where
  names : List String
  prefixes : List String
  deriving DecidableEq,Repr

structure TimeMsg where
  sec : Int
  nanosec : Nat
  deriving DecidableEq,Repr

structure ParameterEventMsg where
  stamp : TimeMsg
  node : String
  newParameters : List ParameterMsg
  changedParameters : List ParameterMsg
  deletedParameters : List ParameterMsg
  deriving DecidableEq,Repr

def parameterMsg (name : String) (pv : ParameterValue) : Except PyError ParameterMsg :=
  return {name,value := ← paramValueToMsg pv}

def descriptorToMsg (desc : ParameterDescriptor) : ParameterDescriptorMsg where
  name := desc.name
  type := desc.type.code
  description := desc.description
  additionalConstraints := desc.additionalConstraints
  readOnly := desc.readOnly
  dynamicTyping := desc.dynamicTyping
  floatingPointRange := desc.floatingPointRange.toList.map fun r => ⟨r.fromValue,r.toValue,r.step⟩
  integerRange := desc.integerRange.toList.map fun r => ⟨r.fromValue,r.toValue,r.step⟩

-- The message `publish_parameter_event` hands to the publisher.
def parameterEvent (nodeFqn : String) (changed : List (String × ParameterValue)) : Except PyError ParameterEventMsg := do
  let changedParameters ← changed.mapM fun pair => parameterMsg pair.1 pair.2
  return ⟨⟨0,0⟩,nodeFqn,[],changedParameters,[]⟩

end ZenohDslr.Rcl
