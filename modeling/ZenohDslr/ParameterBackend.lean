import Mathlib.Data.List.Basic
import ZenohDslr.OrderedDict
import ZenohDslr.Writes
import ZenohDslr.ParameterTypes
namespace ZenohDslr.Picoparams

-- Descriptors are mutable objects and an application may hand one object to
-- several `declare` calls, so entries refer to them: `application i` is an
-- object the application made, `own i` the i-th one `declare` made itself.
inductive DescriptorRef where
  | application (i : Nat)
  | own (i : Nat)
  deriving DecidableEq,Repr

structure Entry where
  descriptor : DescriptorRef
  value : ParameterValue
  deriving DecidableEq,Repr

-- A callback that leaves the backend alone: whether it raises may depend on
-- everything it was called with before.
abbrev OnSet := List (String × ParameterValue) → String × ParameterValue → Except PyError Unit

structure DictParameterBackend where
  params : OrderedDict String Entry
  heap : DescriptorRef → ParameterDescriptor
  built : Nat
  onSet : Option OnSet
  -- every call of `on_set` so far, and the log lines of those that raised
  calls : List (String × ParameterValue)
  logged : List String

namespace DictParameterBackend

def init (heap : DescriptorRef → ParameterDescriptor) : DictParameterBackend := ⟨.empty,heap,0,none,[],[]⟩

inductive Declared where
  | native (value : PyValue)
  | wrapped (value : ParameterValue)

-- The arguments of one `declare` call.
structure Declaration where
  name : String
  value : Declared
  descriptor : Option Nat := none
  description : String := ""
  readOnly : Bool := false
  integerRange : Option IntegerRange := none
  floatingPointRange : Option FloatingPointRange := none

def Declared.pv [Python] : Declared → Except PyError ParameterValue
  | .native value => ParameterValue.fromPython value
  | .wrapped value => .ok value

def declareOwn (self : DictParameterBackend) (call : Declaration) (pv : ParameterValue) : DictParameterBackend :=
  let descriptor : ParameterDescriptor := {
    name := call.name,type := pv.type,description := call.description,readOnly := call.readOnly,
    integerRange := call.integerRange,floatingPointRange := call.floatingPointRange}
  {self with
    heap := Function.update self.heap (.own self.built) descriptor
    built := self.built + 1
    params := self.params.insert call.name ⟨.own self.built,pv⟩}

-- The given object is renamed, and typed after the value where it has no type.
def adopted (descriptor : ParameterDescriptor) (name : String) (pv : ParameterValue) : ParameterDescriptor :=
  {descriptor with name,type := if descriptor.type = .notSet then pv.type else descriptor.type}

def declareWith (self : DictParameterBackend) (call : Declaration) (i : Nat) (pv : ParameterValue) : DictParameterBackend :=
  {self with
    heap := Function.update self.heap (.application i) (adopted (self.heap (.application i)) call.name pv)
    params := self.params.insert call.name ⟨.application i,pv⟩}

def declare [Python] (self : DictParameterBackend) (call : Declaration) : Except PyError DictParameterBackend := do
  let pv ← call.value.pv
  match call.descriptor with
  | none => return self.declareOwn call pv
  | some i => return self.declareWith call i pv

def declareAll [Python] (self : DictParameterBackend) (calls : List Declaration) : Except PyError DictParameterBackend :=
  calls.foldlM declare self

def ref (self : DictParameterBackend) (name : String) : Option String :=
  if (self.params.get? name).isSome then some name else none

def get (self : DictParameterBackend) (handle : String) : Except PyError ParameterValue :=
  match self.params.get? handle with
  | none => .error (.keyError handle)
  | some entry => .ok entry.value

def type (self : DictParameterBackend) (handle : String) : Except PyError ParameterType :=
  match self.params.get? handle with
  | none => .error (.keyError handle)
  | some entry => .ok (self.heap entry.descriptor).type

def describe (self : DictParameterBackend) (handle : String) : Except PyError DescriptorRef :=
  match self.params.get? handle with
  | none => .error (.keyError handle)
  | some entry => .ok entry.descriptor

def outOfRange (low high : String) : String := "value out of range [" ++ low ++ ", " ++ high ++ "]"

def checkRange [Python] (desc : ParameterDescriptor) (value : ParameterValue) : Bool × String :=
  match value with
  | .integer v =>
    match desc.integerRange with
    | some r => if r.fromValue ≤ v ∧ v ≤ r.toValue then (true,"")
        else (false,outOfRange (toString r.fromValue) (toString r.toValue))
    | none => (true,"")
  | .double v =>
    match desc.floatingPointRange with
    | some r => if r.fromValue.le v && v.le r.toValue then (true,"")
        else (false,outOfRange (Python.text (.float r.fromValue)) (Python.text (.float r.toValue)))
    | none => (true,"")
  | _ => (true,"")

def notify (self : DictParameterBackend) (handle : String) (value : ParameterValue) : DictParameterBackend :=
  match self.onSet with
  | none => self
  | some callback =>
    let called := {self with calls := self.calls ++ [(handle,value)]}
    match callback self.calls (handle,value) with
    | .ok () => called
    | .error _ => {called with logged := self.logged ++ ["on_set callback failed for " ++ handle]}

def store (self : DictParameterBackend) (handle : String) (entry : Entry) (value : ParameterValue) : DictParameterBackend :=
  {self with params := self.params.insert handle {entry with value}}

def set [Python] (self : DictParameterBackend) (handle : String) (value : ParameterValue) :
    Except PyError (Bool × String) × DictParameterBackend :=
  match self.params.get? handle with
  | none => (.error (.keyError handle),self)
  | some entry =>
    let desc := self.heap entry.descriptor
    if desc.readOnly then (.ok (false,"parameter is read-only"),self)
    else if desc.dynamicTyping = false ∧ value.type ≠ desc.type then
      (.ok (false,"wrong type: expected " ++ desc.type.name ++ ", got " ++ value.type.name),self)
    else
      let (ok,reason) := checkRange desc value
      if ok then (.ok (true,""),(self.store handle entry value).notify handle value)
      else (.ok (false,reason),self)

-- Python's `name.split(".")`, `".".join(parts)` and `name.startswith(prefix)`.
def splitDots (name : String) : List String := (name.toList.splitOn '.').map String.ofList
def joinDots (parts : List String) : String := String.ofList (['.'].intercalate (parts.map String.toList))
def startswith (name start : String) : Bool := start.toList.isPrefixOf name.toList

def namesUnder (self : DictParameterBackend) : Option String → List String
  | none => self.params.keys
  | some start =>
    if start = "" then self.params.keys
    else self.params.keys.filter fun name => name == start || startswith name (start ++ ".")

def list (self : DictParameterBackend) (start : Option String) : List String := self.namesUnder start

-- One round of the inner loop of `prefixes`; the list of names already output
-- is also the set of those already seen.
def addPrefix (out : List String) (pfx : String) : List String := if pfx ∈ out then out else out ++ [pfx]

def properPrefixes (name : String) : List String :=
  let parts := splitDots name
  (List.range' 1 (parts.length - 1)).map fun i => joinDots (parts.take i)

def prefixes (self : DictParameterBackend) (start : Option String) : List String :=
  ((self.namesUnder start).flatMap properPrefixes).foldl addPrefix []

-- What the observer of a backend sees under each name.
def valueOf (self : DictParameterBackend) (name : String) : Option ParameterValue :=
  (self.params.get? name).map Entry.value

def descriptorOf (self : DictParameterBackend) (name : String) : Option ParameterDescriptor :=
  (self.params.get? name).map fun entry => self.heap entry.descriptor

-- The reason `set` refuses a value with, read off the descriptor alone.
def refusal [Python] (desc : ParameterDescriptor) (value : ParameterValue) : Option String :=
  if desc.readOnly then some "parameter is read-only"
  else if desc.dynamicTyping = false ∧ value.type ≠ desc.type then
    some ("wrong type: expected " ++ desc.type.name ++ ", got " ++ value.type.name)
  else if (checkRange desc value).1 then none else some (checkRange desc value).2

-- One accepted assignment: the value is stored and the callback is called.
def assign (self : DictParameterBackend) (write : String × ParameterValue) : DictParameterBackend :=
  match self.params.get? write.1 with
  | none => self
  | some entry => (self.store write.1 entry write.2).notify write.1 write.2

def assignAll (self : DictParameterBackend) (writes : List (String × ParameterValue)) : DictParameterBackend :=
  writes.foldl assign self

-- What no assignment can change: the declared names in their order, which
-- descriptor object each has, and what the objects say.
structure SameSchema (before after : DictParameterBackend) : Prop where
  keys : after.params.keys = before.params.keys
  refs : ∀ name, (after.params.get? name).map Entry.descriptor = (before.params.get? name).map Entry.descriptor
  heap : after.heap = before.heap
  built : after.built = before.built
  onSet : after.onSet = before.onSet

variable {self before middle after : DictParameterBackend} {name handle : String} {entry : Entry}
  {value : ParameterValue} {write : String × ParameterValue}

theorem SameSchema.refl (self : DictParameterBackend) : SameSchema self self := ⟨rfl,fun _ => rfl,rfl,rfl,rfl⟩

theorem SameSchema.trans (first : SameSchema before middle) (second : SameSchema middle after) : SameSchema before after :=
  ⟨second.keys.trans first.keys,fun name => (second.refs name).trans (first.refs name),
    second.heap.trans first.heap,second.built.trans first.built,second.onSet.trans first.onSet⟩

theorem SameSchema.descriptorOf (same : SameSchema before after) : after.descriptorOf = before.descriptorOf := by
  funext name
  have refs := same.refs name
  cases old : before.params.get? name <;> cases new : after.params.get? name <;>
    simp_all [DictParameterBackend.descriptorOf,same.heap]

theorem SameSchema.declared (same : SameSchema before after) : (after.params.get? name).isSome = (before.params.get? name).isSome := by
  have refs := congrArg Option.isSome (same.refs name)
  simpa using refs

theorem notify_frame : (self.notify handle value).params = self.params ∧ (self.notify handle value).heap = self.heap ∧
    (self.notify handle value).built = self.built ∧ (self.notify handle value).onSet = self.onSet := by
  unfold notify; split
  · exact ⟨rfl,rfl,rfl,rfl⟩
  · dsimp only; split <;> exact ⟨rfl,rfl,rfl,rfl⟩

theorem notify_params : (self.notify handle value).params = self.params := notify_frame.1

-- Raising or not, the callback was called exactly once.
theorem notify_calls : (self.notify handle value).calls =
    if self.onSet.isSome then self.calls ++ [(handle,value)] else self.calls := by
  unfold notify; split
  · rename_i absent; simp [absent]
  · rename_i callback present
    dsimp only; split <;> simp [present]

theorem assign_schema (self : DictParameterBackend) (write : String × ParameterValue) : SameSchema self (self.assign write) := by
  cases found : self.params.get? write.1 with
  | none => simp only [assign,found]; exact .refl self
  | some entry =>
    simp only [assign,found]
    refine ⟨?_,?_,notify_frame.2.1,notify_frame.2.2.1,notify_frame.2.2.2⟩
    · rw [notify_params]; exact OrderedDict.keys_insert_present found
    · intro name
      rw [notify_params]
      by_cases same : name = write.1
      · subst same; simp [store,found]
      · simp [store,OrderedDict.get?_insert_other _ same]

theorem assign_value (declared : self.params.get? write.1 = some entry) :
    (self.assign write).valueOf = Writes.assign self.valueOf write := by
  funext name
  simp only [assign,declared,valueOf,Writes.assign_apply,notify_params,store,OrderedDict.get?_insert]
  split <;> simp

theorem assign_calls (declared : self.params.get? write.1 = some entry) :
    (self.assign write).calls = if self.onSet.isSome then self.calls ++ [write] else self.calls := by
  simp only [assign,declared,notify_calls]
  rfl

theorem assignAll_schema (self : DictParameterBackend) (writes : List (String × ParameterValue)) :
    SameSchema self (self.assignAll writes) := by
  induction writes generalizing self with
  | nil => exact .refl self
  | cons write rest ih => exact (assign_schema self write).trans (ih _)

theorem assignAll_append (self : DictParameterBackend) (earlier later : List (String × ParameterValue)) :
    self.assignAll (earlier ++ later) = (self.assignAll earlier).assignAll later := List.foldl_append

theorem assignAll_value {writes : List (String × ParameterValue)}
    (declared : ∀ write ∈ writes, (self.params.get? write.1).isSome = true) :
    (self.assignAll writes).valueOf = Writes.assignAll self.valueOf writes := by
  induction writes generalizing self with
  | nil => rfl
  | cons write rest ih =>
    obtain ⟨entry,found⟩ := Option.isSome_iff_exists.mp (declared write List.mem_cons_self)
    have later : ∀ other ∈ rest, ((self.assign write).params.get? other.1).isSome = true := by
      intro other member
      rw [(assign_schema self write).declared]
      exact declared other (List.mem_cons_of_mem _ member)
    rw [Writes.assignAll_cons,← assign_value found]
    exact ih later

theorem assignAll_calls {writes : List (String × ParameterValue)}
    (declared : ∀ write ∈ writes, (self.params.get? write.1).isSome = true) :
    (self.assignAll writes).calls = if self.onSet.isSome then self.calls ++ writes else self.calls := by
  induction writes generalizing self with
  | nil => simp [assignAll]
  | cons write rest ih =>
    obtain ⟨entry,found⟩ := Option.isSome_iff_exists.mp (declared write List.mem_cons_self)
    have later : ∀ other ∈ rest, ((self.assign write).params.get? other.1).isSome = true := by
      intro other member
      rw [(assign_schema self write).declared]
      exact declared other (List.mem_cons_of_mem _ member)
    change ((self.assign write).assignAll rest).calls = _
    rw [ih later,assign_calls found,(assign_schema self write).onSet]
    split <;> simp

theorem set_refused [Python] {reason : String} (declared : self.params.get? handle = some entry)
    (refused : refusal (self.heap entry.descriptor) value = some reason) :
    self.set handle value = (.ok (false,reason),self) := by
  unfold refusal at refused
  simp only [set,declared]
  split at refused
  · rename_i readOnly; simp_all
  · rename_i writable
    split at refused
    · rename_i mistyped; simp_all
    · rename_i typed
      split at refused
      · cases refused
      · rename_i outside
        cases refused
        rw [if_neg writable,if_neg typed,if_neg outside]

theorem set_accepted [Python] (declared : self.params.get? handle = some entry)
    (accepted : refusal (self.heap entry.descriptor) value = none) :
    self.set handle value = (.ok (true,""),self.assign (handle,value)) := by
  unfold refusal at accepted
  simp only [set,declared,assign]
  split at accepted
  · cases accepted
  · rename_i writable
    split at accepted
    · cases accepted
    · rename_i typed
      split at accepted
      · rename_i inside
        rw [if_neg writable,if_neg typed,if_pos inside]
      · cases accepted

end DictParameterBackend
end ZenohDslr.Picoparams
