import ZenohDslr.Double
namespace ZenohDslr.Picoparams

inductive PyError where
  | typeError (message : String)
  | valueError (message : String)
  | overflowError (message : String)
  | keyError (key : String)
  deriving DecidableEq,Repr

-- A native Python value as far as `from_python` looks at it; `other` is an
-- object of any further class, known by the name of its class.
inductive PyValue where
  | none
  | bool (value : Bool)
  | int (value : Int)
  | float (value : Double)
  | str (value : String)
  | bytes (value : List UInt8)
  | bytearray (value : List UInt8)
  | list (items : List PyValue)
  | tuple (items : List PyValue)
  | other (className : String)

-- What the interpreter itself computes and no result below depends on: text
-- of objects, parsing of numerals, rounding of integers, user-defined methods.
class Python where
  text : PyValue → String
  intToFloat : Int → Except PyError Double
  otherBool : PyValue → Except PyError Bool
  otherInt : PyValue → Except PyError Int
  otherFloat : PyValue → Except PyError Double
  otherStr : PyValue → Except PyError String

-- An interpreter for concrete inputs that never meet such an object.
@[reducible] def Python.bare : Python where
  text _ := ""
  intToFloat _ := .error (.overflowError "int too large to convert to float")
  otherBool _ := .ok true
  otherInt _ := .error (.typeError "int() argument must be a string, a bytes-like object or a real number")
  otherFloat _ := .error (.typeError "float() argument must be a string or a real number")
  otherStr _ := .ok ""

def PyValue.className : PyValue → String
  | .none => "NoneType"
  | .bool _ => "bool"
  | .int _ => "int"
  | .float _ => "float"
  | .str _ => "str"
  | .bytes _ => "bytes"
  | .bytearray _ => "bytearray"
  | .list _ => "list"
  | .tuple _ => "tuple"
  | .other className => className

section Conversions
variable [Python]

-- The built-in `bool(x)`, `int(x)`, `float(x)` and `str(x)`.
def pyBool : PyValue → Except PyError Bool
  | .none => .ok false
  | .bool value => .ok value
  | .int value => .ok (value != 0)
  | .float value => .ok (value.magnitude != 0)
  | .str value => .ok (value != "")
  | .bytes value | .bytearray value => .ok (!value.isEmpty)
  | .list items | .tuple items => .ok (!items.isEmpty)
  | value => Python.otherBool value

def pyInt : PyValue → Except PyError Int
  | .bool value => .ok (if value then 1 else 0)
  | .int value => .ok value
  | .float value =>
    if value.isNaN then .error (.valueError "cannot convert float NaN to integer")
    else if value.isInfinite then .error (.overflowError "cannot convert float infinity to integer")
    else .ok (value.units.tdiv (2 ^ 1074))
  | value => Python.otherInt value

def pyFloat : PyValue → Except PyError Double
  | .bool value => Python.intToFloat (if value then 1 else 0)
  | .int value => Python.intToFloat value
  | .float value => .ok value
  | value => Python.otherFloat value

-- An integer may be too long for `str`, the elements of a sequence and an object of
-- another class have a `__repr__` or `__str__` of their own.
def pyStr : PyValue → Except PyError String
  | .str value => .ok value
  | .none => .ok (Python.text .none)
  | .bool value => .ok (Python.text (.bool value))
  | .float value => .ok (Python.text (.float value))
  | .bytes value => .ok (Python.text (.bytes value))
  | .bytearray value => .ok (Python.text (.bytearray value))
  | value => Python.otherStr value

end Conversions

inductive ParameterType where
  | notSet | bool | integer | double | string
  | byteArray | boolArray | integerArray | doubleArray | stringArray
  deriving DecidableEq,Repr

-- The integer values are wire-significant.
def ParameterType.code : ParameterType → UInt8
  | .notSet => 0 | .bool => 1 | .integer => 2 | .double => 3 | .string => 4
  | .byteArray => 5 | .boolArray => 6 | .integerArray => 7 | .doubleArray => 8 | .stringArray => 9

def ParameterType.name : ParameterType → String
  | .notSet => "NOT_SET" | .bool => "BOOL" | .integer => "INTEGER" | .double => "DOUBLE"
  | .string => "STRING" | .byteArray => "BYTE_ARRAY" | .boolArray => "BOOL_ARRAY"
  | .integerArray => "INTEGER_ARRAY" | .doubleArray => "DOUBLE_ARRAY" | .stringArray => "STRING_ARRAY"

-- `ParameterType(code)`.
def ParameterType.ofCode (code : UInt8) : Except PyError ParameterType :=
  match code.toNat with
  | 0 => .ok .notSet | 1 => .ok .bool | 2 => .ok .integer | 3 => .ok .double | 4 => .ok .string
  | 5 => .ok .byteArray | 6 => .ok .boolArray | 7 => .ok .integerArray | 8 => .ok .doubleArray
  | 9 => .ok .stringArray
  | n => .error (.valueError (toString n ++ " is not a valid ParameterType"))

theorem ParameterType.ofCode_code (type : ParameterType) : ofCode type.code = .ok type := by cases type <;> rfl

theorem ParameterType.code_injective {left right : ParameterType} (same : left.code = right.code) : left = right := by
  have decoded := congrArg ofCode same
  rw [ofCode_code,ofCode_code] at decoded
  exact Except.ok.inj decoded

theorem ParameterType.ofCode_valid {code : UInt8} (small : code.toNat ≤ 9) : ∃ type, ofCode code = .ok type := by
  have cases : code.toNat = 0 ∨ code.toNat = 1 ∨ code.toNat = 2 ∨ code.toNat = 3 ∨ code.toNat = 4 ∨
      code.toNat = 5 ∨ code.toNat = 6 ∨ code.toNat = 7 ∨ code.toNat = 8 ∨ code.toNat = 9 := by omega
  rcases cases with value | value | value | value | value | value | value | value | value | value
  all_goals (simp only [ofCode,value]; exact ⟨_,rfl⟩)

structure FloatingPointRange where
  fromValue : Double
  toValue : Double
  step : Double := Double.zero
  deriving DecidableEq,Repr

structure IntegerRange where
  fromValue : Int
  toValue : Int
  step : Int := 0
  deriving DecidableEq,Repr

structure ParameterDescriptor where
  name : String := ""
  type : ParameterType := .notSet
  description : String := ""
  additionalConstraints : String := ""
  readOnly : Bool := false
  dynamicTyping : Bool := false
  floatingPointRange : Option FloatingPointRange := none
  integerRange : Option IntegerRange := none
  deriving DecidableEq,Repr

-- The tag and the native value in one: no value can carry another type's tag.
inductive ParameterValue where
  | notSet
  | bool (value : Bool)
  | integer (value : Int)
  | double (value : Double)
  | string (value : String)
  | byteArray (value : List UInt8)
  | boolArray (value : List Bool)
  | integerArray (value : List Int)
  | doubleArray (value : List Double)
  | stringArray (value : List String)
  deriving DecidableEq,Repr

def ParameterValue.type : ParameterValue → ParameterType
  | .notSet => .notSet | .bool _ => .bool | .integer _ => .integer | .double _ => .double
  | .string _ => .string | .byteArray _ => .byteArray | .boolArray _ => .boolArray
  | .integerArray _ => .integerArray | .doubleArray _ => .doubleArray | .stringArray _ => .stringArray

def cannotInfer (value : PyValue) : PyError :=
  .typeError ("cannot infer ParameterType for value of type <class '" ++ value.className ++ "'>")

-- Only the head of a sequence decides the type; the other elements are converted.
def ParameterValue.fromSequence [Python] (value : PyValue) (seq : List PyValue) : Except PyError ParameterValue :=
  match seq with
  | [] => .ok (.integerArray [])
  | .bool _ :: _ => return .boolArray (← seq.mapM pyBool)
  | .int _ :: _ => return .integerArray (← seq.mapM pyInt)
  | .float _ :: _ => return .doubleArray (← seq.mapM pyFloat)
  | .str _ :: _ => return .stringArray (← seq.mapM pyStr)
  | _ => .error (cannotInfer value)

def ParameterValue.fromPython [Python] (value : PyValue) : Except PyError ParameterValue :=
  match value with
  | .none => .ok .notSet
  | .bool value => .ok (.bool value)
  | .int value => .ok (.integer value)
  | .float value => .ok (.double value)
  | .str value => .ok (.string value)
  | .bytes value | .bytearray value => .ok (.byteArray value)
  | .list seq | .tuple seq => fromSequence value seq
  | .other _ => .error (cannotInfer value)

end ZenohDslr.Picoparams
