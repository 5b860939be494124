import ZenohDslr.Attempts
import Mathlib.Data.List.Nodup
namespace ZenohDslr.Picoparams
open Attempts

-- A row of `_PARAM_SERVICES`; the handler it names is the server's own.
structure ParamService where
  name : String
  srvType : String
  handler : String
  deriving DecidableEq,Repr

def paramServices : List ParamService :=
  [⟨"list_parameters","rcl_interfaces/srv/ListParameters","_handle_list"⟩,
    ⟨"get_parameters","rcl_interfaces/srv/GetParameters","_handle_get"⟩,
    ⟨"get_parameter_types","rcl_interfaces/srv/GetParameterTypes","_handle_get_types"⟩,
    ⟨"set_parameters","rcl_interfaces/srv/SetParameters","_handle_set"⟩,
    ⟨"set_parameters_atomically","rcl_interfaces/srv/SetParametersAtomically","_handle_set_atomic"⟩,
    ⟨"describe_parameters","rcl_interfaces/srv/DescribeParameters","_handle_describe"⟩]

-- What the server creates on its node, numbered in the order of creation.
inductive EndpointKind where
  | service (row : ParamService)
  | parameterEvents
  deriving DecidableEq,Repr

structure Endpoint where
  serial : Nat
  kind : EndpointKind
  deriving DecidableEq,Repr

-- `response_class` of a service endpoint is the class of the type it was created
-- with; a publisher has none.
def Endpoint.responseClass? (endpoint : Endpoint) : Option String :=
  match endpoint.kind with
  | .service row => some (row.srvType ++ "_Response")
  | .parameterEvents => none

-- `Node.create_service` raises before the SDK has its endpoint, or behind it, in
-- `_repair_service_types`.
structure StartCall where
  imports : Except String Unit
  serviceServer : ParamService → Except String Unit
  repairTypes : ParamService → Except String Unit
  createPublisher : Except String Unit

-- Where the last call of `start` or `stop` has left the server: `failed` after a
-- start that raised.
inductive Phase where
  | fresh
  | running
  | failed
  | stopped
  deriving DecidableEq,Repr

structure ParameterServices where
  publishEvents : Bool
  services : List Endpoint
  eventPub : Option Endpoint
  started : Bool
  -- history: endpoints created so far, of these the ones never asked to close, and
  -- the ones whose `create_service` raised, which neither list of the code holds
  created : List Endpoint
  live : List Endpoint
  strays : List Endpoint
  phase : Phase
  deriving DecidableEq,Repr

namespace ParameterServices

def initial (publishEvents : Bool) : ParameterServices := ⟨publishEvents,[],none,false,[],[],[],.fresh⟩

def createEndpoint (kind : EndpointKind) : EStateM String ParameterServices Endpoint := do
  let self ← get
  let endpoint : Endpoint := ⟨self.created.length,kind⟩
  modify fun self => {self with created := self.created ++ [endpoint],live := self.live ++ [endpoint]}
  return endpoint

def createService (call : StartCall) (row : ParamService) : EStateM String ParameterServices Endpoint := do
  perform (call.serviceServer row)
  let impl ← createEndpoint (.service row)
  match call.repairTypes row with
  | .ok _ => return impl
  | .error exc =>
    modify fun self => {self with strays := self.strays ++ [impl]}
    throw exc

-- The loop over `_PARAM_SERVICES`: an exception leaves it, and `start`, with the
-- endpoints of the rows before still in the list.
def createServices (call : StartCall) : List ParamService → EStateM String ParameterServices Unit
  | [] => return ()
  | row :: rest => do
    let srv ← createService call row
    modify fun self => {self with services := self.services ++ [srv]}
    createServices call rest

def createEventPub (call : StartCall) : EStateM String ParameterServices Unit := do
  let self ← get
  if self.publishEvents then
    guarded (do
      perform call.createPublisher
      let publisher ← createEndpoint .parameterEvents
      modify fun self => {self with eventPub := some publisher})
      fun _ => return ()
  else return ()

def start (call : StartCall) : EStateM String ParameterServices Unit := do
  let self ← get
  if self.started then return ()
  else
    perform call.imports
    createServices call paramServices
    createEventPub call
    modify fun self => {self with started := true}

-- Closing may raise; either way the endpoint has been asked to close.
def closeServices (close : Endpoint → Except String Unit) : List Endpoint → EStateM String ParameterServices Unit
  | [] => return ()
  | srv :: rest => do
    modify fun self => {self with live := self.live.erase srv}
    guarded (perform (close srv)) fun _ => return ()
    closeServices close rest

def closeEventPub (close : Endpoint → Except String Unit) : EStateM String ParameterServices Unit := do
  let self ← get
  match self.eventPub with
  | none => return ()
  | some publisher =>
    modify fun self => {self with live := self.live.erase publisher}
    guarded (perform (close publisher)) fun _ => return ()
    modify fun self => {self with eventPub := none}

def stop (close : Endpoint → Except String Unit) : EStateM String ParameterServices Unit := do
  let self ← get
  closeServices close self.services
  modify fun self => {self with services := []}
  closeEventPub close
  modify fun self => {self with started := false}

-- The endpoint at the place of the first row of that name; `KeyError` else.
def responseClass (self : ParameterServices) (serviceName : String) : Except String (Option String) :=
  match (self.services.zip paramServices).find? fun pair => pair.2.name = serviceName with
  | some pair => .ok pair.1.responseClass?
  | none => .error serviceName

inductive Call where
  | start (call : StartCall)
  | stop (close : Endpoint → Except String Unit)

def advance (self : ParameterServices) : Call → Option ParameterServices
  | .start call =>
    match start call self with
    | .ok _ next => some {next with phase := .running}
    | .error _ next => some {next with phase := .failed}
  | .stop close => some {after (stop close self) with phase := .stopped}

end ParameterServices
end ZenohDslr.Picoparams
