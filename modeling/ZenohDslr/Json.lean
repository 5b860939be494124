import ZenohDslr.DecimalText
import ZenohDslr.OrderedDict
import ZenohDslr.Quoting
namespace ZenohDslr

universe u

-- The three floats that JSON as defined has no numeral for.
inductive Odd where
  | nan
  | infinity
  | minusInfinity
  deriving DecidableEq,Repr

-- The floats of a JSON library, by how one is written and what is read back. The
-- law keeps a float from being written as an integer.
class Floats (φ : Type u) where
  spell : φ → Odd ⊕ Decimal
  ofDecimal : Decimal → φ
  ofOdd : Odd → φ
  spelled : ∀ {x d}, spell x = .inr d → d.Proper ∧ d.isInteger = false

inductive Json (φ : Type u) where
  | null
  | bool (b : Bool)
  | int (n : Int)
  | float (x : φ)
  | string (s : String)
  | list (items : List (Json φ))
  | object (members : List (String × Json φ))

namespace Json
variable {φ : Type u}

-- A key that comes again takes the place of the first.
def dict (pairs : List (String × Json φ)) : List (String × Json φ) := (OrderedDict.empty.insertAll pairs).items

theorem dict_distinct {pairs : List (String × Json φ)} (distinct : (pairs.map Prod.fst).Nodup) : dict pairs = pairs :=
  OrderedDict.insertAll_items distinct fun _ _ => rfl

variable [Floats φ]

def oddText : Odd → List Char
  | .nan => ['N','a','N']
  | .infinity => ['I','n','f','i','n','i','t','y']
  | .minusInfinity => ['-','I','n','f','i','n','i','t','y']

def ofInt (n : Int) : Decimal := ⟨decide (n < 0),Nat.toDigits 10 n.natAbs,none,none⟩

def toInt (d : Decimal) : Int :=
  if d.negative then -(Nat.ofDigitChars 10 d.whole 0 : Int) else Nat.ofDigitChars 10 d.whole 0

def spelled : Odd ⊕ Decimal → List Char
  | .inl odd => oddText odd
  | .inr d => d.text

-- `json.dumps` with its defaults.
mutual
def write : Json φ → List Char
  | .null => ['n','u','l','l']
  | .bool true => ['t','r','u','e']
  | .bool false => ['f','a','l','s','e']
  | .int n => (ofInt n).text
  | .float x => spelled (Floats.spell x)
  | .string s => Quoting.quote s.toList
  | .list items => '[' :: writeItems items
  | .object members => '{' :: writeMembers members

def writeItems : List (Json φ) → List Char
  | [] => [']']
  | [item] => write item ++ [']']
  | item :: next :: rest => write item ++ ',' :: ' ' :: writeItems (next :: rest)

def writeMembers : List (String × Json φ) → List Char
  | [] => ['}']
  | [(key,value)] => Quoting.quote key.toList ++ ':' :: ' ' :: (write value ++ ['}'])
  | (key,value) :: next :: rest =>
    Quoting.quote key.toList ++ ':' :: ' ' :: (write value ++ ',' :: ' ' :: writeMembers (next :: rest))
end

def dumps (value : Json φ) : String := String.ofList (write value)

def blank (c : Char) : Bool := c == ' ' || c == '\t' || c == '\n' || c == '\r'

def skip (text : List Char) : List Char := text.dropWhile blank

-- What stands behind a word the text begins with.
def after (word text : List Char) : Option (List Char) := if word.isPrefixOf text then some (text.drop word.length) else none

def constants : List (List Char × Json φ) :=
  [(['n','u','l','l'],.null),(['t','r','u','e'],.bool true),(['f','a','l','s','e'],.bool false),
    (oddText .nan,.float (Floats.ofOdd .nan)),(oddText .infinity,.float (Floats.ofOdd .infinity)),
    (oddText .minusInfinity,.float (Floats.ofOdd .minusInfinity))]

def number (d : Decimal) : Json φ := if d.isInteger then .int (toInt d) else .float (Floats.ofDecimal d)

def scanAtom (text : List Char) : Option (Json φ × List Char) :=
  match constants.findSome? fun constant => (after constant.1 text).map fun rest => (constant.2,rest) with
  | some found => some found
  | none => (Decimal.scan text).map fun r => (number r.1,r.2)

-- Two rounds of fuel for a character are enough: no call but that of the first
-- item is on a text as long as the one before.
mutual
def scanValue : Nat → List Char → Option (Json φ × List Char)
  | 0,_ => none
  | _ + 1,[] => none
  | fuel + 1,c :: rest =>
    if c = '"' then (Quoting.scanText rest).map fun r => (.string (String.ofList r.1),r.2)
    else if c = '[' then
      if (skip rest).head? = some ']' then some (.list [],(skip rest).tail)
      else (scanItems fuel (skip rest)).map fun r => (.list r.1,r.2)
    else if c = '{' then
      if (skip rest).head? = some '}' then some (.object [],(skip rest).tail)
      else (scanMembers fuel (skip rest)).map fun r => (.object (dict r.1),r.2)
    else scanAtom (c :: rest)

def scanItems : Nat → List Char → Option (List (Json φ) × List Char)
  | 0,_ => none
  | fuel + 1,text =>
    (scanValue fuel text).bind fun first =>
      match skip first.2 with
      | ']' :: rest => some ([first.1],rest)
      | ',' :: rest => (scanItems fuel (skip rest)).map fun r => (first.1 :: r.1,r.2)
      | _ => none

def scanMembers : Nat → List Char → Option (List (String × Json φ) × List Char)
  | fuel + 1,'"' :: text =>
    (Quoting.scanText text).bind fun key =>
      match skip key.2 with
      | ':' :: rest =>
        (scanValue fuel (skip rest)).bind fun value =>
          match skip value.2 with
          | '}' :: rest => some ([(String.ofList key.1,value.1)],rest)
          | ',' :: rest => (scanMembers fuel (skip rest)).map fun r => ((String.ofList key.1,value.1) :: r.1,r.2)
          | _ => none
      | _ => none
  | _,_ => none
end

-- `json.loads`; the fuel is two rounds for a character and one.
def loads (text : String) : Option (Json φ) :=
  (scanValue (2 * text.toList.length + 1) (skip text.toList)).bind fun r => if skip r.2 = [] then some r.1 else none

end Json
end ZenohDslr
