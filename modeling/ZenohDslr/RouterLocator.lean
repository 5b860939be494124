import ZenohDslr.Numerals
import ZenohDslr.PyText
namespace ZenohDslr.Picoros
open PyText Numerals

variable {decimal : Char → Option Nat} {text : String}

inductive LocatorError where
  | invalidLiteral (text : String)
  deriving DecidableEq,Repr

-- `int(text)`. Which characters beyond ASCII are decimal digits, and of what
-- value, is a parameter.
def figure (decimal : Char → Option Nat) (c : Char) : Option Nat :=
  if c.toNat < 128 then (if c.isDigit then some (c.toNat - '0'.toNat) else none) else decimal c

-- Unlike `str.strip`, `int` takes the four separators U+001C to U+001F for no blanks.
def blank (c : Char) : Bool := isSpace c && !(28 ≤ c.toNat && c.toNat ≤ 31)

def readSigned (decimal : Char → Option Nat) : List Char → Option Int
  | '-' :: figures => (readDigits (figure decimal) '_' false 0 figures).map fun n : Nat => -(n : Int)
  | '+' :: figures => (readDigits (figure decimal) '_' false 0 figures).map fun n : Nat => (n : Int)
  | figures => (readDigits (figure decimal) '_' false 0 figures).map fun n : Nat => (n : Int)

def int (decimal : Char → Option Nat) (text : String) : Except LocatorError Int :=
  match readSigned decimal (Pieces.strip blank text.toList) with
  | some value => .ok value
  | none => .error (.invalidLiteral text)

def parseLocator (decimal : Char → Option Nat) (locator : String) : Except LocatorError (String × Int) :=
  let text := strip locator
  let text := if '/' ∈ text.toList then (partition '/' text).2 else text
  let (host,port) := partition ':' text
  do
    let number ← if port = "" then .ok 7447 else int decimal port
    return (if host = "" then "127.0.0.1" else host,number)

structure Interface where
  mode : String := "client"
  locator : String := "tcp/127.0.0.1:7447"

namespace Interface

def routerIp (decimal : Char → Option Nat) (self : Interface) : Except LocatorError String :=
  (parseLocator decimal self.locator).map Prod.fst

def routerPort (decimal : Char → Option Nat) (self : Interface) : Except LocatorError Int :=
  (parseLocator decimal self.locator).map Prod.snd

end Interface

-- What `Node.__init__` asks `ZenohSession.get_instance` for.
def nodeRouter (decimal : Char → Option Nat) (iface : Interface) (routerIp : Option String) (routerPort : Option Int) :
    Except LocatorError (String × Int) := do
  let ip ← routerIp.elim (iface.routerIp decimal) .ok
  let port ← routerPort.elim (iface.routerPort decimal) .ok
  return (ip,port)

theorem digit_range {c : Char} (digit : c.isDigit = true) : 48 ≤ c.toNat ∧ c.toNat ≤ 57 := Char.isDigit_iff_toNat.mp digit

theorem figure_digit {c : Char} (digit : c.isDigit = true) : figure decimal c = some (c.toNat - '0'.toNat) := by
  have small : c.toNat < 128 := by
    have range := digit_range digit
    omega
  rw [figure,if_pos small,if_pos digit]

theorem digit_solid {c : Char} (digit : c.isDigit = true) : isSpace c = false := by
  have range := digit_range digit
  simp only [isSpace,Bool.or_eq_false_iff,Bool.and_eq_false_iff,decide_eq_false_iff_not,beq_eq_false_iff_ne]
  omega

theorem repr_digits {n : Nat} {c : Char} (inside : c ∈ n.repr.toList) : c.isDigit = true := by
  rw [Nat.toList_repr] at inside
  exact Nat.isDigit_of_mem_toDigits (by decide) (by decide) inside

theorem repr_nonempty (n : Nat) : n.repr.toList ≠ [] := by
  rw [Nat.toList_repr]
  exact Nat.toDigits_ne_nil

theorem read_repr (n : Nat) : readDigits (figure decimal) '_' false 0 n.repr.toList = some n := by
  have digits : ∀ c ∈ n.repr.toList, c ≠ '_' ∧ figure decimal c = some (c.toNat - '0'.toNat) := by
    intro c inside
    refine ⟨?_,figure_digit (repr_digits inside)⟩
    rintro rfl
    exact absurd (repr_digits inside) (by decide)
  have counted : readDigits (figure decimal) '_' false 0 n.repr.toList =
      some (n.repr.toList.foldl (fun sofar c => 10 * sofar + (c.toNat - '0'.toNat)) 0) :=
    readDigits_figures _ digits (Or.inr (repr_nonempty n))
  have back : Nat.ofDigitChars 10 n.repr.toList 0 = n := by
    rw [Nat.toList_repr]
    exact Nat.ofDigitChars_ten_toDigits
  rw [Nat.ofDigitChars_eq_foldl] at back
  rw [counted,back]

theorem readSigned_unsigned {figures : List Char} (digits : ∀ c ∈ figures, c.isDigit = true) :
    readSigned decimal figures = (readDigits (figure decimal) '_' false 0 figures).map fun n : Nat => (n : Int) := by
  unfold readSigned
  split
  · exact absurd (digits '-' List.mem_cons_self) (by decide)
  · exact absurd (digits '+' List.mem_cons_self) (by decide)
  · rfl

theorem readSigned_toString (port : Int) : readSigned decimal (toString port).toList = some port := by
  rw [Int.toString_eq_repr,Int.repr_eq_if]
  by_cases positive : 0 ≤ port
  · rw [if_pos positive,readSigned_unsigned (fun c => repr_digits),read_repr,Option.map_some]
    congr 1
    omega
  · have written : ("-" ++ (-port).toNat.repr).toList = '-' :: (-port).toNat.repr.toList := by simp
    rw [if_neg positive,written,readSigned,read_repr,Option.map_some]
    congr 1
    omega

theorem toString_solid {port : Int} : ∀ c ∈ (toString port).toList, isSpace c = false := by
  intro c inside
  rw [Int.toString_eq_repr,Int.repr_eq_if] at inside
  split at inside
  · exact digit_solid (repr_digits inside)
  · rw [String.toList_append] at inside
    rcases List.mem_append.mp inside with minus | figures
    · have same : c = '-' := by simpa using minus
      rw [same]
      decide
    · exact digit_solid (repr_digits figures)

theorem toString_nonempty (port : Int) : (toString port).toList ≠ [] := by
  rw [Int.toString_eq_repr,Int.repr_eq_if]
  split
  · exact repr_nonempty _
  · simp

theorem int_toString (port : Int) : int decimal (toString port) = .ok port := by
  have bare : Pieces.Stripped blank (toString port).toList := by
    apply Pieces.stripped_of_solid
    intro c inside
    simp [blank,toString_solid c inside]
  rw [int,Pieces.strip_of_stripped bare,readSigned_toString]

theorem read_colon {figures : List Char} (there : ':' ∈ figures) : readDigits (figure decimal) '_' false 0 figures = none := by
  have strange : figure decimal ':' = none := by
    rw [figure,if_pos (by decide),if_neg (by decide)]
  exact readDigits_strange there (by decide) strange

-- A colon is no part of a number, wherever it stands.
theorem int_colon (inside : ':' ∈ text.toList) : int decimal text = .error (.invalidLiteral text) := by
  have there : ':' ∈ Pieces.strip blank text.toList := Pieces.mem_strip inside (by decide)
  have none : readSigned decimal (Pieces.strip blank text.toList) = none := by
    unfold readSigned
    split
    · rename_i figures cut
      rw [cut] at there
      rw [read_colon ((List.mem_cons.mp there).resolve_left (by decide))]
      rfl
    · rename_i figures cut
      rw [cut] at there
      rw [read_colon ((List.mem_cons.mp there).resolve_left (by decide))]
      rfl
    · rw [read_colon there]
      rfl
  rw [int,none]

-- `f"tcp/{router_ip}:{router_port}"`
def locatorText (routerIp : String) (routerPort : Int) : String := "tcp/" ++ routerIp ++ ":" ++ toString routerPort

theorem locator_stripped (ip : String) (port : Int) : strip (locatorText ip port) = locatorText ip port := by
  have written : (locatorText ip port).toList = 't' :: ("cp/".toList ++ ip.toList ++ [':']) ++ (toString port).toList := by
    simp [locatorText]
  have bare : Pieces.Stripped isSpace (locatorText ip port).toList := by
    rw [written]
    exact Pieces.stripped_between (by decide) (toString_nonempty port) toString_solid
  rw [strip,Pieces.strip_of_stripped bare,String.ofList_toList]

theorem locator_partition (ip : String) (port : Int) :
    (partition '/' (locatorText ip port)).2 = ip ++ String.singleton ':' ++ toString port := by
  have written : locatorText ip port = "tcp" ++ String.singleton '/' ++ (ip ++ String.singleton ':' ++ toString port) := by
    apply String.toList_injective
    simp [locatorText]
  rw [written,partition_joined (by decide)]

theorem locator_slash (ip : String) (port : Int) : '/' ∈ (locatorText ip port).toList := by simp [locatorText]

theorem parseLocator_whole {ip : String} (whole : ':' ∉ ip.toList) (port : Int) :
    parseLocator decimal (locatorText ip port) = .ok (if ip = "" then "127.0.0.1" else ip,port) := by
  have number : toString port ≠ "" := fun empty => toString_nonempty port (by rw [empty]; rfl)
  simp only [parseLocator,locator_stripped,locator_slash,if_true,locator_partition,partition_joined whole,number,if_false,int_toString]
  rfl

-- The port is then taken to begin inside the address.
theorem parseLocator_colon {ip : String} (inside : ':' ∈ ip.toList) (port : Int) :
    ∃ rest, parseLocator decimal (locatorText ip port) = .error (.invalidLiteral (rest ++ String.singleton ':' ++ toString port)) := by
  obtain ⟨front,rest,_,_,cut⟩ := @partition_early ':' ip (toString port) inside
  have colon : ':' ∈ (rest ++ String.singleton ':' ++ toString port).toList := by simp
  have number : rest ++ String.singleton ':' ++ toString port ≠ "" := by
    intro empty
    rw [empty] at colon
    exact absurd colon (by decide)
  refine ⟨rest,?_⟩
  simp only [parseLocator,locator_stripped,locator_slash,if_true,locator_partition,cut,number,if_false,int_colon colon]
  rfl

theorem parseLocator_iff (ip : String) (port : Int) :
    parseLocator decimal (locatorText ip port) = .ok (ip,port) ↔ ip ≠ "" ∧ ':' ∉ ip.toList := by
  by_cases inside : ':' ∈ ip.toList
  · obtain ⟨rest,refused⟩ := @parseLocator_colon decimal ip inside port
    simp [refused,inside]
  · rw [parseLocator_whole inside]
    by_cases empty : ip = ""
    · simp [empty]
    · simp [empty,inside]

end ZenohDslr.Picoros
