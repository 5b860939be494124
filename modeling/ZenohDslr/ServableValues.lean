import ZenohDslr.RequestEffects
namespace ZenohDslr.Picoparams
open Rcl DictParameterBackend

-- A value that goes out as a message of the wire's integers and comes back as it
-- was. The elements of the integer array are 64 bits wide in any message.
def Served (pv : ParameterValue) : Prop :=
  ∃ msg, paramValueToMsg pv = .ok msg ∧ InInt64 msg.integerValue ∧ paramValueFromMsg (some msg) = .ok pv

theorem int64_inInt64 {value : Int} {element : Int64} (converted : int64 value = .ok element) : InInt64 value := by
  rw [← int64_toInt converted]
  exact ⟨element.minValue_le_toInt,element.toInt_le⟩

theorem toMsg_integerValue {pv : ParameterValue} {msg : ParameterValueMsg} (encoded : paramValueToMsg pv = .ok msg)
    (other : pv.type ≠ .integer) : msg.integerValue = 0 := by
  apply (toMsg_unselected encoded).integer
  rw [toMsg_type encoded]
  exact fun same => other (ParameterType.code_injective same)

theorem served_iff_safe (pv : ParameterValue) : Served pv ↔ Int64Safe pv := by
  constructor
  · rintro ⟨msg,encoded,fits,_⟩
    cases pv with
    | integer value => cases encoded; exact fits
    | integerArray values =>
      obtain ⟨elements,converted,_⟩ := Fallible.bind_ok.mp encoded
      intro value inside
      obtain ⟨element,here,_⟩ := Fallible.mapM_member converted inside
      exact int64_inInt64 here
    | _ => trivial
  · intro safe
    obtain ⟨msg,encoded⟩ := toMsg_total safe
    refine ⟨msg,encoded,?_,fromMsg_toMsg encoded⟩
    cases pv with
    | integer value => cases encoded; exact safe
    | _ =>
      rw [toMsg_integerValue encoded (by simp [ParameterValue.type])]
      exact ⟨by decide,by decide⟩

section Declared
variable [Python]

-- The integers of the value, as `int` reads them where the head makes it an
-- integer array, are integers of the wire.
def Fits : PyValue → Prop
  | .int value => InInt64 value
  | .list seq | .tuple seq => ∀ n rest, seq = .int n :: rest → ∀ x ∈ seq, ∀ value, pyInt x = .ok value → InInt64 value
  | _ => True

theorem safe_sequence {value : PyValue} {seq : List PyValue} {pv : ParameterValue}
    (inferred : ParameterValue.fromSequence value seq = .ok pv) : Int64Safe pv ↔
      ∀ n rest, seq = .int n :: rest → ∀ x ∈ seq, ∀ value, pyInt x = .ok value → InInt64 value := by
  cases seq with
  | nil =>
    cases inferred
    simp [Int64Safe]
  | cons head rest =>
    cases head with
    | int n =>
      obtain ⟨values,converted,whole⟩ := Fallible.bind_ok.mp inferred
      cases whole
      constructor
      · intro safe _ _ _ x inside value read
        obtain ⟨other,also,member⟩ := Fallible.mapM_member converted inside
        cases read.symm.trans also
        exact safe value member
      · intro fits value member
        obtain ⟨x,inside,read⟩ := Fallible.mapM_source converted member
        exact fits n rest rfl x inside value read
    | bool b => obtain ⟨_,_,whole⟩ := Fallible.bind_ok.mp inferred; cases whole; simp [Int64Safe]
    | float d => obtain ⟨_,_,whole⟩ := Fallible.bind_ok.mp inferred; cases whole; simp [Int64Safe]
    | str s => obtain ⟨_,_,whole⟩ := Fallible.bind_ok.mp inferred; cases whole; simp [Int64Safe]
    | _ => cases inferred

theorem safe_iff_fits {value : PyValue} {pv : ParameterValue} (inferred : ParameterValue.fromPython value = .ok pv) :
    Int64Safe pv ↔ Fits value := by
  cases value with
  | list seq => exact safe_sequence inferred
  | tuple seq => exact safe_sequence inferred
  | other className => cases inferred
  | _ => cases inferred; exact Iff.rfl

-- What a store can hold: values as declared and values as set by a message.
theorem served_iff_fits :
    (∀ value pv, ParameterValue.fromPython value = .ok pv → (Served pv ↔ Fits value)) ∧
    ∀ (server : ParameterServer) (names : List String),
      (∀ name ∈ names, ∀ pv, server.backend.valueOf name = some pv →
        (∃ value, ParameterValue.fromPython value = .ok pv ∧ Fits value) ∨ ∃ msg, paramValueFromMsg (some msg) = .ok pv) →
      ∃ values, server.handleGet names = .ok values := by
  constructor
  · intro value pv inferred
    rw [served_iff_safe,safe_iff_fits inferred]
  · intro server names declared
    have sendable : ∀ pv ∈ names.map (fun name => (server.backend.valueOf name).getD .notSet), ∃ msg, paramValueToMsg pv = .ok msg := by
      intro pv member
      obtain ⟨name,inside,rfl⟩ := List.mem_map.mp member
      cases held : server.backend.valueOf name with
      | none => exact ⟨_,rfl⟩
      | some pv =>
        rcases declared name inside pv held with ⟨value,inferred,fits⟩ | ⟨msg,read⟩
        · exact toMsg_total ((safe_iff_fits inferred).mpr fits)
        · exact fromMsg_encodable read
    obtain ⟨values,encoded⟩ := Fallible.mapM_total sendable
    exact ⟨values,ParameterServer.handleGet_exact.mpr (List.forall₂_map_left_iff.mp (Fallible.mapM_ok.mp encoded))⟩

end Declared

-- One integer beyond int64 as `declare` takes it, alone and in a list.
def wideBackend : DictParameterBackend :=
  ((init fun _ => {}).declareOwn {name := "serial",value := .native (.int (2 ^ 63))} (.integer (2 ^ 63))).declareOwn
    {name := "offsets",value := .native (.list [.int (2 ^ 63)])} (.integerArray [2 ^ 63])

theorem wide_integer_unserved :
    @declareAll Python.bare (init fun _ => {}) [{name := "serial",value := .native (.int (2 ^ 63))},
      {name := "offsets",value := .native (.list [.int (2 ^ 63)])}] = .ok wideBackend ∧
    ¬ Served (.integer (2 ^ 63)) ∧
    (⟨"/camera",wideBackend,none,[]⟩ : ParameterServer).handleGet ["offsets"] =
      .error (.overflowError "Python int too large to convert to C long") := by
  refine ⟨rfl,?_,by rfl⟩
  rw [served_iff_safe]
  exact fun safe => absurd safe.2 (by decide)

end ZenohDslr.Picoparams
