import Mathlib.Data.List.Basic
namespace ZenohDslr.Quoting

-- Strings in JSON, as written with nothing but ASCII: what is outside it is
-- escaped by its UTF-16 code units.
def hexDigit (n : Nat) : Char := if n < 10 then Char.ofNat (48 + n) else Char.ofNat (87 + n)

def hexValue (c : Char) : Option Nat :=
  if 48 ≤ c.toNat ∧ c.toNat ≤ 57 then some (c.toNat - 48)
  else if 97 ≤ c.toNat ∧ c.toNat ≤ 102 then some (c.toNat - 87)
  else if 65 ≤ c.toNat ∧ c.toNat ≤ 70 then some (c.toNat - 55)
  else none

def hexFour (n : Nat) : List Char := [hexDigit (n / 4096 % 16),hexDigit (n / 256 % 16),hexDigit (n / 16 % 16),hexDigit (n % 16)]

def unit (n : Nat) : List Char := '\\' :: 'u' :: hexFour n

def leading (n : Nat) : Nat := 0xd800 + (n - 0x10000) / 1024
def trailing (n : Nat) : Nat := 0xdc00 + (n - 0x10000) % 1024

def escape (c : Char) : List Char :=
  if c = '"' then ['\\','"']
  else if c = '\\' then ['\\','\\']
  else if c = '\n' then ['\\','n']
  else if c = '\r' then ['\\','r']
  else if c = '\t' then ['\\','t']
  else if c = '\x0c' then ['\\','f']
  else if c = '\x08' then ['\\','b']
  else if 32 ≤ c.toNat ∧ c.toNat ≤ 126 then [c]
  else if c.toNat < 0x10000 then unit c.toNat
  else unit (leading c.toNat) ++ unit (trailing c.toNat)

def quote (text : List Char) : List Char := '"' :: text.flatMap escape ++ ['"']

def backslashed (c : Char) : Option Nat :=
  if c = '"' then some 34
  else if c = '\\' then some 92
  else if c = '/' then some 47
  else if c = 'b' then some 8
  else if c = 'f' then some 12
  else if c = 'n' then some 10
  else if c = 'r' then some 13
  else if c = 't' then some 9
  else none

def readUnit (a b c d : Char) : Option Nat :=
  match hexValue a,hexValue b,hexValue c,hexValue d with
  | some a,some b,some c,some d => some (4096 * a + 256 * b + 16 * c + d)
  | _,_,_,_ => none

-- The code points up to the closing quote, and what stands behind it. A control
-- character may stand in a string only as an escape.
def points : List Char → Option (List Nat × List Char)
  | [] => none
  | '"' :: rest => some ([],rest)
  | '\\' :: 'u' :: a :: b :: c :: d :: rest =>
    (readUnit a b c d).bind fun n => (points rest).map fun r => (n :: r.1,r.2)
  | '\\' :: c :: rest => (backslashed c).bind fun n => (points rest).map fun r => (n :: r.1,r.2)
  | c :: rest => if c = '\\' ∨ c.toNat < 32 then none else (points rest).map fun r => (c.toNat :: r.1,r.2)

def Leading (n : Nat) : Prop := 0xd800 ≤ n ∧ n ≤ 0xdbff
def Trailing (n : Nat) : Prop := 0xdc00 ≤ n ∧ n ≤ 0xdfff
instance (n : Nat) : Decidable (Leading n) := inferInstanceAs (Decidable (_ ∧ _))
instance (n : Nat) : Decidable (Trailing n) := inferInstanceAs (Decidable (_ ∧ _))

def scalar (n : Nat) : Option Char := if n.isValidChar then some (Char.ofNat n) else none

-- Two surrogates in a row are one character; one alone has no place in a text.
def characters : List Nat → Option (List Char)
  | [] => some []
  | n :: m :: rest =>
    if Leading n ∧ Trailing m then
      (scalar (0x10000 + (n - 0xd800) * 1024 + (m - 0xdc00))).bind fun c => (characters rest).map fun cs => c :: cs
    else (scalar n).bind fun c => (characters (m :: rest)).map fun cs => c :: cs
  | [n] => (scalar n).map fun c => [c]

-- Behind the opening quote.
def scanText (text : List Char) : Option (List Char × List Char) :=
  (points text).bind fun r => (characters r.1).map fun cs => (cs,r.2)

variable {n : Nat} {c : Char} {text rest : List Char}

theorem scalar_value (c : Char) : c.toNat < 0xd800 ∨ 0xdfff < c.toNat ∧ c.toNat < 0x110000 := c.valid

theorem hexValue_hexDigit : n < 16 → hexValue (hexDigit n) = some n :=
  (by decide : ∀ n < 16, hexValue (hexDigit n) = some n) n

theorem points_unit (fits : n < 0x10000) : points (unit n ++ rest) = (points rest).map fun r => (n :: r.1,r.2) := by
  have figures : readUnit (hexDigit (n / 4096 % 16)) (hexDigit (n / 256 % 16)) (hexDigit (n / 16 % 16)) (hexDigit (n % 16)) =
      some (4096 * (n / 4096 % 16) + 256 * (n / 256 % 16) + 16 * (n / 16 % 16) + n % 16) := by
    simp [readUnit,hexValue_hexDigit (Nat.mod_lt _ (by omega : 0 < 16))]
  have whole : 4096 * (n / 4096 % 16) + 256 * (n / 256 % 16) + 16 * (n / 16 % 16) + n % 16 = n := by omega
  simp [unit,hexFour,points,figures,whole]

-- The code units by which a character is written.
def codeUnits (c : Char) : List Nat := if c.toNat < 0x10000 then [c.toNat] else [leading c.toNat,trailing c.toNat]

theorem points_short {c e : Char} (known : backslashed e = some c.toNat) (plain : e ≠ 'u') (small : c.toNat < 0x10000) :
    points ('\\' :: e :: rest) = (points rest).map fun r => (codeUnits c ++ r.1,r.2) := by
  rw [points]
  · simp [known,codeUnits,small]
  · rintro a b c d rest rfl
    exact absurd rfl plain

theorem points_plain (quoted : c ≠ '"') (escaped : c ≠ '\\') (printable : 32 ≤ c.toNat) (small : c.toNat < 0x10000) :
    points (c :: rest) = (points rest).map fun r => (codeUnits c ++ r.1,r.2) := by
  rw [points]
  · simp [codeUnits,small,escaped,Nat.not_lt.mpr printable]
  · exact quoted
  · intro a b e d tail same; exact absurd same escaped
  · intro e tail same; exact absurd same escaped

theorem points_escape : points (escape c ++ rest) = (points rest).map fun r => (codeUnits c ++ r.1,r.2) := by
  unfold escape
  split_ifs with quoted escaped newline carriage tab feed backspace printable small
  · rw [quoted]; exact points_short (by decide) (by decide) (by decide)
  · rw [escaped]; exact points_short (by decide) (by decide) (by decide)
  · rw [newline]; exact points_short (by decide) (by decide) (by decide)
  · rw [carriage]; exact points_short (by decide) (by decide) (by decide)
  · rw [tab]; exact points_short (by decide) (by decide) (by decide)
  · rw [feed]; exact points_short (by decide) (by decide) (by decide)
  · rw [backspace]; exact points_short (by decide) (by decide) (by decide)
  · exact points_plain quoted escaped printable.1 (by omega)
  · simp [points_unit small,codeUnits,small]
  · have range := scalar_value c
    have first : leading c.toNat < 0x10000 := by unfold leading; omega
    have second : trailing c.toNat < 0x10000 := by unfold trailing; omega
    rw [List.append_assoc,points_unit first,points_unit second]
    simp [codeUnits,small,Function.comp_def]

theorem points_text : points (text.flatMap escape ++ '"' :: rest) = some (text.flatMap codeUnits,rest) := by
  induction text with
  | nil => simp [points]
  | cons c text ih => simp [points_escape,ih]

theorem scalar_self : scalar c.toNat = some c := by
  have valid : c.toNat.isValidChar := c.valid
  simp [scalar,valid]

theorem not_surrogate (n : Nat) (surrogate : Leading n ∨ Trailing n) : n ≠ c.toNat := by
  have range := scalar_value c
  unfold Leading Trailing at surrogate
  omega

-- A character of one unit is no leading surrogate, whatever comes next.
theorem characters_single {ns : List Nat} : characters (c.toNat :: ns) = (characters ns).map fun cs => c :: cs := by
  cases ns with
  | nil => simp [characters,scalar_self]
  | cons m ns =>
    have apart : ¬ (Leading c.toNat ∧ Trailing m) := fun both => not_surrogate c.toNat (.inl both.1) rfl
    simp [characters,apart,scalar_self]

theorem characters_pair {ns : List Nat} (large : 0x10000 ≤ c.toNat) :
    characters (leading c.toNat :: trailing c.toNat :: ns) = (characters ns).map fun cs => c :: cs := by
  have range := scalar_value c
  have both : Leading (leading c.toNat) ∧ Trailing (trailing c.toNat) := by
    unfold Leading Trailing leading trailing
    omega
  have whole : 0x10000 + (leading c.toNat - 0xd800) * 1024 + (trailing c.toNat - 0xdc00) = c.toNat := by
    unfold leading trailing
    omega
  rw [characters,if_pos both,whole,scalar_self]
  rfl

theorem characters_text : characters (text.flatMap codeUnits) = some text := by
  induction text with
  | nil => rfl
  | cons c text ih =>
    rw [List.flatMap_cons,codeUnits]
    split
    · rw [List.singleton_append,characters_single,ih]; rfl
    · rename_i large
      rw [List.cons_append,List.singleton_append,characters_pair (Nat.not_lt.mp large),ih]
      rfl

theorem scanText_quoted : scanText (text.flatMap escape ++ '"' :: rest) = some (text,rest) := by
  simp [scanText,points_text,characters_text]

end ZenohDslr.Quoting
