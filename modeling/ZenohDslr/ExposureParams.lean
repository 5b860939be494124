import ZenohDslr.PyText
import ZenohDslr.ParameterServer
namespace ZenohDslr.PiRuntime
open Picoparams Picoparams.ParameterServer DictParameterBackend PyText

-- `value.value`
def nativeValue : ParameterValue → PyValue
  | .notSet => .none
  | .bool value => .bool value
  | .integer value => .int value
  | .double value => .float value
  | .string value => .str value
  | .byteArray value => .bytes value
  | .boolArray value => .list (value.map .bool)
  | .integerArray value => .list (value.map .int)
  | .doubleArray value => .list (value.map .float)
  | .stringArray value => .list (value.map .str)

structure ExposureParameterServer where
  -- `config.params`, whose keys are `_param_names`
  params : OrderedDict String String
  backend : Option DictParameterBackend

namespace ExposureParameterServer

def descriptor (name : String) : ParameterDescriptor :=
  {type := .string,description := "gphoto2 " ++ name ++ " (empty = leave camera as-is)",dynamicTyping := true}

-- Each name is declared with a descriptor object of its own.
def descriptors (items : List (String × String)) : DescriptorRef → ParameterDescriptor
  | .application i => ((items[i]?).map fun item => descriptor item.1).getD {}
  | .own _ => {}

def declarations (items : List (String × String)) : List Declaration :=
  items.zipIdx.map fun item => {name := item.1.1,value := .native (.str item.1.2),descriptor := some item.2}

-- `_report` only logs.
def report : OnSet := fun _ _ => .ok ()

def declared [Python] (params : OrderedDict String String) : Except PyError DictParameterBackend := do
  let backend ← (DictParameterBackend.init (descriptors params.items)).declareAll (declarations params.items)
  return {backend with onSet := some report}

section Reading
variable [Python]

def str : PyValue → String
  | .str value => value
  | raw => Python.text raw

-- What `current` makes of one value: nothing of `None` and of blank text.
def textOf (value : ParameterValue) : Option String :=
  match nativeValue value with
  | .none => none
  | raw =>
    let text := strip (str raw)
    if text = "" then none else some text

-- One round of the loop of `current`; a name that is not declared is skipped.
def note (backend : DictParameterBackend) (out : OrderedDict String String) (name : String) : OrderedDict String String :=
  match backend.params.get? name with
  | none => out
  | some entry =>
    match textOf entry.value with
    | none => out
    | some text => out.insert name text

def current (self : ExposureParameterServer) : OrderedDict String String :=
  match self.backend with
  | none => .empty
  | some backend => self.params.keys.foldl (note backend) .empty

end Reading
end ExposureParameterServer

-- A capture thread inside `current` while a service thread commits a request that
-- `_handle_set_atomic` has validated; validation and the event store nothing.
structure Overlap where
  backend : DictParameterBackend
  previews : List (String × ParameterValue)
  names : List String
  out : OrderedDict String String

inductive Thread where
  | capture
  | service
  deriving DecidableEq,Repr

namespace Overlap
variable [Python]

def advance (self : Overlap) : Thread → Option Overlap
  | .capture =>
    match self.names with
    | [] => none
    | name :: names => some {self with names,out := ExposureParameterServer.note self.backend self.out name}
  | .service =>
    match self.previews with
    | [] => none
    | (name,pv) :: previews => some {self with backend := (self.backend.set name pv).2,previews}

end Overlap
end ZenohDslr.PiRuntime
