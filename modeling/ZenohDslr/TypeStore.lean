import ZenohDslr.OrderedDict
import ZenohDslr.ParameterTypes
import ZenohDslr.PyText
namespace ZenohDslr.Picoserdes
open Picoparams

-- A rosbags field descriptor: `(Nodetype.BASE, (type, bound))`, `(Nodetype.NAME,
-- type)`, or an array or a sequence of a descriptor.
inductive FieldDesc where
  | base (type : String) (bound : Nat)
  | name (type : String)
  | array (element : FieldDesc) (length : Nat)
  | sequence (element : FieldDesc) (bound : Nat)
  deriving DecidableEq,Repr

structure Fielddef (κ : Type) where
  constants : κ
  fields : List (String × FieldDesc)

-- `session.store`, over whatever constants and message classes are.
structure Typestore (κ μ : Type) where
  fielddefs : OrderedDict String (Fielddef κ)
  types : OrderedDict String μ

structure ZenohSession (κ μ : Type) where
  store : Typestore κ μ
  registeredTypes : OrderedDict String String

-- `session.register_message_type(None, name)`
abbrev Register (κ μ : Type) := ZenohSession κ μ → String → Except PyError Unit × ZenohSession κ μ

def refNames : FieldDesc → List String
  | .base _ _ => []
  | .name type => [type]
  | .array element _ => refNames element
  | .sequence element _ => refNames element

def Fielddef.refs {κ : Type} (fd : Fielddef κ) : List String := fd.fields.flatMap fun field => refNames field.2

def canonical (ref : String) : String := PyText.replace "/srv/msg/" "/msg/" ref

structure Repair (κ μ : Type) where
  session : ZenohSession κ μ
  -- history: the names given an alias, and the registrations that raised
  aliased : List String
  refused : List String

section Repairing
variable {κ μ : Type}

def Repair.fielddef (self : Repair κ μ) (name : String) : Option (Fielddef κ) := self.session.store.fielddefs.get? name

-- The second half of `_register_alias`, behind the attempt to register.
def assignAlias (self : Repair κ μ) (ref : String) : Repair κ μ :=
  match self.fielddef (canonical ref) with
  | none => self
  | some fd =>
    let store := self.session.store
    let types := match store.types.get? (canonical ref) with
      | some messageClass => store.types.insert ref messageClass
      | none => store.types
    {self with
      session := ⟨⟨store.fielddefs.insert ref fd,types⟩,self.session.registeredTypes.insert ref ref⟩
      aliased := self.aliased ++ [ref]}

def registerAlias (register : Register κ μ) (self : Repair κ μ) (ref : String) : Repair κ μ :=
  if (self.fielddef ref).isSome then self
  else if (self.fielddef (canonical ref)).isSome then assignAlias self ref
  else
    match register self.session (canonical ref) with
    | (.error _,session) => {self with session,refused := self.refused ++ [canonical ref]}
    | (.ok (),session) => assignAlias {self with session} ref

-- The loop over the references of one definition, `recurse` being the call of
-- `ensure_nested_types` in it.
def repairRefs (register : Register κ μ) (recurse : Repair κ μ → String → Option (Repair κ μ)) :
    Repair κ μ → List String → Option (Repair κ μ)
  | self,[] => some self
  | self,ref :: rest =>
    if (self.fielddef ref).isSome then repairRefs register recurse self rest
    else (recurse (registerAlias register self ref) ref).bind (repairRefs register recurse · rest)

-- `none` when the recursion goes deeper than the fuel.
def ensureNestedTypes (register : Register κ μ) : Nat → Repair κ μ → String → Option (Repair κ μ)
  | 0,_,_ => none
  | fuel + 1,self,storeType =>
    match self.fielddef storeType with
    | none => some self
    | some fd => repairRefs register (ensureNestedTypes register fuel) self fd.refs

-- The names `_repair_service_types` goes on with; an empty one is left out.
def storeTypes (request response : Option String) : List String := ([request,response].filterMap id).filter (· ≠ "")

def repairServiceTypes (register : Register κ μ) (fuel : Nat) (self : Repair κ μ) (request response : Option String) :
    Option (Repair κ μ) :=
  (storeTypes request response).foldlM (ensureNestedTypes register fuel) self

end Repairing
end ZenohDslr.Picoserdes
