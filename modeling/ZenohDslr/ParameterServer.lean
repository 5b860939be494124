import ZenohDslr.ParameterBackend
import ZenohDslr.RclMessages
import ZenohDslr.Runs
namespace ZenohDslr.Picoparams
open Rcl

-- The SDK publisher of /parameter_events: whether a publish raises may depend on
-- everything published before.
structure EventPublisher where
  raises : List ParameterEventMsg → ParameterEventMsg → Bool

-- A started server: its six services exist, so every response class is found.
structure ParameterServer where
  nodeFqn : String
  backend : DictParameterBackend
  eventPub : Option EventPublisher
  published : List ParameterEventMsg

inductive Request where
  | listParameters (prefixes : List String)
  | getParameters (names : List String)
  | getParameterTypes (names : List String)
  | setParameters (parameters : List ParameterMsg)
  | setParametersAtomically (parameters : List ParameterMsg)
  | describeParameters (names : List String)
  deriving Repr

inductive Response where
  | listParameters (result : ListParametersResultMsg)
  | getParameters (values : List ParameterValueMsg)
  | getParameterTypes (types : List UInt8)
  | setParameters (results : List SetParametersResultMsg)
  | setParametersAtomically (result : SetParametersResultMsg)
  | describeParameters (descriptors : List ParameterDescriptorMsg)
  deriving Repr

namespace ParameterServer

def emitEvent (self : ParameterServer) (changed : List (String × ParameterValue)) : ParameterServer :=
  match self.eventPub with
  | none => self
  | some pub =>
    match parameterEvent self.nodeFqn changed with
    | .error _ => self
    | .ok event =>
      if pub.raises self.published event then self
      else {self with published := self.published ++ [event]}

def handleList (self : ParameterServer) (requested : List String) : ListParametersResultMsg :=
  let targets := if requested.isEmpty then [none] else requested.map some
  let names := targets.flatMap self.backend.list
  let subPrefixes := targets.flatMap self.backend.prefixes
  ⟨(OrderedDict.fromKeys names).keys,(OrderedDict.fromKeys subPrefixes).keys⟩

def getOne (backend : DictParameterBackend) (name : String) : Except PyError ParameterValue :=
  match backend.ref name with
  | some handle => backend.get handle
  | none => .ok .notSet

def handleGet (self : ParameterServer) (names : List String) : Except PyError (List ParameterValueMsg) := do
  let values ← names.mapM (getOne self.backend)
  values.mapM paramValueToMsg

def getTypeOne (backend : DictParameterBackend) (name : String) : Except PyError UInt8 :=
  match backend.ref name with
  | some handle => return (← backend.type handle).code
  | none => .ok 0

def handleGetTypes (self : ParameterServer) (names : List String) : Except PyError (List UInt8) :=
  names.mapM (getTypeOne self.backend)

-- The name is echoed into the descriptor object itself; messages are built
-- after the loop, so an object met twice is sent as it is in the end.
def describeLoop : DictParameterBackend → List (DescriptorRef ⊕ ParameterDescriptor) → List String →
    Except PyError (List (DescriptorRef ⊕ ParameterDescriptor)) × DictParameterBackend
  | backend,descriptors,[] => (.ok descriptors,backend)
  | backend,descriptors,name :: rest =>
    match backend.ref name with
    | none => describeLoop backend (descriptors ++ [.inr {name}]) rest
    | some handle =>
      match backend.describe handle with
      | .error e => (.error e,backend)
      | .ok ref =>
        let renamed := {backend with heap := Function.update backend.heap ref {backend.heap ref with name}}
        describeLoop renamed (descriptors ++ [.inl ref]) rest

def handleDescribe (self : ParameterServer) (names : List String) :
    Except PyError (List ParameterDescriptorMsg) × ParameterServer :=
  let (looped,backend) := describeLoop self.backend [] names
  (looped.map fun descriptors => descriptors.map fun desc => descriptorToMsg (desc.elim backend.heap id),
    {self with backend})

structure Applied where
  backend : DictParameterBackend
  results : List (Bool × String)
  changed : List (String × ParameterValue)

section Setting
variable [Python]

-- The loop of `_apply_sets`; a value that does not decode leaves it by an
-- exception, with what was stored before that staying stored.
def applySetsLoop : Applied → List ParameterMsg → Except PyError Unit × Applied
  | st,[] => (.ok (),st)
  | st,p :: rest =>
    match st.backend.ref p.name with
    | none => applySetsLoop {st with results := st.results ++ [(false,"parameter not found")]} rest
    | some handle =>
      match paramValueFromMsg (some p.value) with
      | .error e => (.error e,st)
      | .ok pv =>
        match st.backend.set handle pv with
        | (.error e,backend) => (.error e,{st with backend})
        | (.ok (ok,reason),backend) =>
          applySetsLoop ⟨backend,st.results ++ [(ok,reason)],if ok then st.changed ++ [(p.name,pv)] else st.changed⟩ rest

def applySets (self : ParameterServer) (params : List ParameterMsg) :
    Except PyError (List (Bool × String)) × ParameterServer :=
  match applySetsLoop ⟨self.backend,[],[]⟩ params with
  | (.error e,st) => (.error e,{self with backend := st.backend})
  | (.ok (),st) =>
    let stored := {self with backend := st.backend}
    (.ok st.results,if st.changed.isEmpty then stored else stored.emitEvent st.changed)

def handleSet (self : ParameterServer) (params : List ParameterMsg) :
    Except PyError (List SetParametersResultMsg) × ParameterServer :=
  let (applied,next) := self.applySets params
  (applied.map fun results => results.map fun result => ⟨result.1,result.2⟩,next)

-- The validation phase: the inner error is a rejection, the outer one an exception.
def previewLoop (backend : DictParameterBackend) : List (String × ParameterValue) → List ParameterMsg →
    Except PyError (Except String (List (String × ParameterValue)))
  | previews,[] => .ok (.ok previews)
  | previews,p :: rest =>
    match paramValueFromMsg (some p.value) with
    | .error e => .error e
    | .ok pv =>
      match backend.ref p.name with
      | none => .ok (.error ("parameter not found: " ++ p.name))
      | some _ => previewLoop backend (previews ++ [(p.name,pv)]) rest

-- The commit phase: the reason of the first refusal, and the backend it leaves.
def commitLoop : DictParameterBackend → List (String × ParameterValue) →
    Except PyError (Option String) × DictParameterBackend
  | backend,[] => (.ok none,backend)
  | backend,(name,pv) :: rest =>
    match backend.ref name with
    | none => (.error (.keyError "None"),backend)
    | some handle =>
      match backend.set handle pv with
      | (.error e,next) => (.error e,next)
      | (.ok (true,_),next) => commitLoop next rest
      | (.ok (false,reason),next) => (.ok (some reason),next)

def handleSetAtomic (self : ParameterServer) (params : List ParameterMsg) :
    Except PyError SetParametersResultMsg × ParameterServer :=
  match previewLoop self.backend [] params with
  | .error e => (.error e,self)
  | .ok (.error reason) => (.ok ⟨false,reason⟩,self)
  | .ok (.ok previews) =>
    match commitLoop self.backend previews with
    | (.error e,backend) => (.error e,{self with backend})
    | (.ok (some reason),backend) => (.ok ⟨false,reason⟩,{self with backend})
    | (.ok none,backend) => (.ok ⟨true,""⟩,emitEvent {self with backend} previews)

def handle (self : ParameterServer) : Request → Except PyError Response × ParameterServer
  | .listParameters requested => (.ok (.listParameters (self.handleList requested)),self)
  | .getParameters names => ((self.handleGet names).map .getParameters,self)
  | .getParameterTypes names => ((self.handleGetTypes names).map .getParameterTypes,self)
  | .setParameters params => ((self.handleSet params).1.map .setParameters,(self.handleSet params).2)
  | .setParametersAtomically params =>
    ((self.handleSetAtomic params).1.map .setParametersAtomically,(self.handleSetAtomic params).2)
  | .describeParameters names => ((self.handleDescribe names).1.map .describeParameters,(self.handleDescribe names).2)

end Setting
end ParameterServer
end ZenohDslr.Picoparams
