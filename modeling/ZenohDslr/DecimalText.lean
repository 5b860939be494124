import Mathlib.Data.List.TakeWhile
namespace ZenohDslr

-- A decimal numeral by its parts, the exponent as its sign and its figures.
structure Decimal where
  negative : Bool
  whole : List Char
  fraction : Option (List Char)
  exponent : Option (List Char × List Char)
  deriving DecidableEq,Repr

namespace Decimal

variable {d : Decimal} {figures rest : List Char}

def isInteger (d : Decimal) : Bool := d.fraction.isNone && d.exponent.isNone

def point : Option (List Char) → List Char
  | none => []
  | some figures => '.' :: figures

def power : Option (List Char × List Char) → List Char
  | none => []
  | some (sign,figures) => 'e' :: (sign ++ figures)

def unsigned (d : Decimal) : List Char := d.whole ++ (point d.fraction ++ power d.exponent)

def text (d : Decimal) : List Char := if d.negative then '-' :: d.unsigned else d.unsigned

-- No figure follows a leading zero.
def scanWhole : List Char → Option (List Char × List Char)
  | [] => none
  | c :: rest =>
    if c = '0' then some (['0'],rest)
    else if c.isDigit then some (c :: rest.takeWhile Char.isDigit,rest.dropWhile Char.isDigit)
    else none

-- A point or an `e` without a figure behind it does not belong to the numeral.
def scanFigures : List Char → Option (List Char × List Char)
  | [] => none
  | c :: rest => if c.isDigit then some (c :: rest.takeWhile Char.isDigit,rest.dropWhile Char.isDigit) else none

def scanFraction : List Char → Option (List Char) × List Char
  | [] => (none,[])
  | c :: rest =>
    if c = '.' then
      match scanFigures rest with
      | some (figures,rest) => (some figures,rest)
      | none => (none,c :: rest)
    else (none,c :: rest)

def scanSign : List Char → List Char × List Char
  | '+' :: rest => (['+'],rest)
  | '-' :: rest => (['-'],rest)
  | rest => ([],rest)

def scanExponent : List Char → Option (List Char × List Char) × List Char
  | [] => (none,[])
  | c :: rest =>
    if c = 'e' ∨ c = 'E' then
      match scanFigures (scanSign rest).2 with
      | some (figures,after) => (some ((scanSign rest).1,figures),after)
      | none => (none,c :: rest)
    else (none,c :: rest)

def scanUnsigned (negative : Bool) (text : List Char) : Option (Decimal × List Char) :=
  (scanWhole text).map fun r =>
    let fraction := scanFraction r.2
    let exponent := scanExponent fraction.2
    (⟨negative,r.1,fraction.1,exponent.1⟩,exponent.2)

def scan : List Char → Option (Decimal × List Char)
  | '-' :: rest => scanUnsigned true rest
  | text => scanUnsigned false text

def Figures (figures : List Char) : Prop := figures ≠ [] ∧ ∀ c ∈ figures, c.isDigit = true

structure Proper (d : Decimal) : Prop where
  whole : d.whole = ['0'] ∨ Figures d.whole ∧ d.whole.head? ≠ some '0'
  fraction : ∀ figures ∈ d.fraction, Figures figures
  exponent : ∀ e ∈ d.exponent, (e.1 = ['+'] ∨ e.1 = ['-'] ∨ e.1 = []) ∧ Figures e.2

-- What cannot be read as one more part of a numeral.
def Closed (rest : List Char) : Prop := ∀ c ∈ rest.head?, c.isDigit = false ∧ c ≠ '.' ∧ c ≠ 'e' ∧ c ≠ 'E'

def Ended (rest : List Char) : Prop := ∀ c ∈ rest.head?, c.isDigit = false

theorem toDigits_head {n : Nat} (positive : 0 < n) : (Nat.toDigits 10 n).head? ≠ some '0' := by
  induction n using Nat.strongRecOn with
  | ind n ih =>
    by_cases small : n < 10
    · rw [Nat.toDigits_of_lt_base small]
      have digit : ∀ m < 10, 0 < m → [Nat.digitChar m].head? ≠ some '0' := by decide
      exact digit n small positive
    · have large : 10 ≤ n := by omega
      obtain ⟨c,rest,split⟩ := List.exists_cons_of_ne_nil (@Nat.toDigits_ne_nil (n / 10) 10)
      have front := ih (n / 10) (by omega) (by omega)
      rw [split] at front
      rw [Nat.toDigits_of_base_le (by omega) large,split]
      exact front

theorem toDigits_figures (n : Nat) : Figures (Nat.toDigits 10 n) :=
  ⟨Nat.toDigits_ne_nil,fun _ inside => Nat.isDigit_of_mem_toDigits (by omega) (by omega) inside⟩

theorem toDigits_whole (n : Nat) : Nat.toDigits 10 n = ['0'] ∨ Figures (Nat.toDigits 10 n) ∧ (Nat.toDigits 10 n).head? ≠ some '0' := by
  rcases Nat.eq_zero_or_pos n with rfl | positive
  · exact .inl (Nat.toDigits_zero 10)
  · exact .inr ⟨toDigits_figures n,toDigits_head positive⟩

theorem span_figures (digits : ∀ c ∈ figures, c.isDigit = true) (ended : Ended rest) :
    (figures ++ rest).takeWhile Char.isDigit = figures ∧ (figures ++ rest).dropWhile Char.isDigit = rest := by
  have stop : rest.takeWhile Char.isDigit = [] ∧ rest.dropWhile Char.isDigit = rest := by
    cases rest with
    | nil => exact ⟨rfl,rfl⟩
    | cons c rest =>
      have other := ended c rfl
      simp [other]
  simp [List.takeWhile_append_of_pos digits,List.dropWhile_append_of_pos digits,stop.1,stop.2]

theorem scanFigures_figures (proper : Figures figures) (ended : Ended rest) :
    scanFigures (figures ++ rest) = some (figures,rest) := by
  obtain ⟨nonempty,digits⟩ := proper
  cases figures with
  | nil => exact absurd rfl nonempty
  | cons c figures =>
    obtain ⟨taken,left⟩ := span_figures (fun x inside => digits x (List.mem_cons_of_mem c inside)) ended
    simp [scanFigures,digits c List.mem_cons_self,taken,left]

theorem scanWhole_whole (proper : figures = ['0'] ∨ Figures figures ∧ figures.head? ≠ some '0') (ended : Ended rest) :
    scanWhole (figures ++ rest) = some (figures,rest) := by
  rcases proper with rfl | ⟨⟨nonempty,digits⟩,front⟩
  · rfl
  · cases figures with
    | nil => exact absurd rfl nonempty
    | cons c figures =>
      have nonzero : c ≠ '0' := fun same => front (by rw [same]; rfl)
      obtain ⟨taken,left⟩ := span_figures (fun x inside => digits x (List.mem_cons_of_mem c inside)) ended
      simp [scanWhole,nonzero,digits c List.mem_cons_self,taken,left]

theorem scanFraction_point {fraction : Option (List Char)} (proper : ∀ figures ∈ fraction, Figures figures)
    (ended : Ended rest) (apart : rest.head? ≠ some '.') : scanFraction (point fraction ++ rest) = (fraction,rest) := by
  cases fraction with
  | none =>
    cases rest with
    | nil => rfl
    | cons c rest =>
      have other : c ≠ '.' := fun same => apart (by rw [same]; rfl)
      simp [point,scanFraction,other]
  | some figures => simp [point,scanFraction,scanFigures_figures (proper figures rfl) ended]

theorem scanSign_sign {sign : List Char} (spelled : sign = ['+'] ∨ sign = ['-'] ∨ sign = []) (proper : Figures figures) :
    scanSign (sign ++ (figures ++ rest)) = (sign,figures ++ rest) := by
  obtain ⟨nonempty,digits⟩ := proper
  rcases spelled with rfl | rfl | rfl
  · rfl
  · rfl
  · cases figures with
    | nil => exact absurd rfl nonempty
    | cons c figures =>
      have digit := digits c List.mem_cons_self
      rw [List.nil_append,List.cons_append,scanSign]
      · intro tail same; rw [(List.cons.inj same).1] at digit; cases digit
      · intro tail same; rw [(List.cons.inj same).1] at digit; cases digit

theorem scanExponent_power {exponent : Option (List Char × List Char)}
    (proper : ∀ e ∈ exponent, (e.1 = ['+'] ∨ e.1 = ['-'] ∨ e.1 = []) ∧ Figures e.2) (closed : Closed rest) :
    scanExponent (power exponent ++ rest) = (exponent,rest) := by
  cases exponent with
  | none =>
    cases rest with
    | nil => rfl
    | cons c rest =>
      obtain ⟨_,_,small,large⟩ := closed c rfl
      simp [power,scanExponent,small,large]
  | some e =>
    obtain ⟨sign,figures⟩ := e
    obtain ⟨spelled,digits⟩ := proper _ rfl
    have ended : Ended rest := fun c first => (closed c first).1
    simp [power,scanExponent,scanSign_sign spelled digits,scanFigures_figures digits ended]

theorem power_head (closed : Closed rest) (exponent : Option (List Char × List Char)) :
    Ended (power exponent ++ rest) ∧ (power exponent ++ rest).head? ≠ some '.' := by
  cases exponent with
  | none => exact ⟨fun c first => (closed c first).1,fun dot => (closed '.' dot).2.1 rfl⟩
  | some e => exact ⟨fun c first => by cases first; decide,by simp [power]⟩

theorem point_head (fraction : Option (List Char)) (ended : Ended rest) : Ended (point fraction ++ rest) := by
  cases fraction with
  | none => exact ended
  | some figures => exact fun c first => by cases first; decide

theorem scanUnsigned_text (proper : d.Proper) (closed : Closed rest) :
    scanUnsigned d.negative (d.unsigned ++ rest) = some (d,rest) := by
  obtain ⟨ended,apart⟩ := power_head closed d.exponent
  have first := scanWhole_whole proper.whole (point_head d.fraction ended)
  have second := scanFraction_point proper.fraction ended apart
  simp [scanUnsigned,unsigned,first,second,scanExponent_power proper.exponent closed]

theorem whole_head (proper : d.Proper) : ∃ c rest, d.whole = c :: rest ∧ c.isDigit = true := by
  rcases proper.whole with zero | ⟨⟨nonempty,digits⟩,_⟩
  · exact ⟨'0',[],zero,rfl⟩
  · obtain ⟨c,rest,split⟩ := List.exists_cons_of_ne_nil nonempty
    exact ⟨c,rest,split,digits c (by simp [split])⟩

theorem scan_text (proper : d.Proper) (closed : Closed rest) : scan (d.text ++ rest) = some (d,rest) := by
  have read := scanUnsigned_text proper closed
  unfold text
  cases sign : d.negative with
  | true => simpa [scan,sign] using read
  | false =>
    obtain ⟨c,figures,split,digit⟩ := whole_head proper
    rw [if_neg (by simp)]
    have front : d.unsigned ++ rest = c :: (figures ++ (point d.fraction ++ power d.exponent) ++ rest) := by simp [unsigned,split]
    rw [sign] at read
    rw [front] at read ⊢
    rw [scan]
    · exact read
    · intro tail same; rw [(List.cons.inj same).1] at digit; cases digit

end Decimal
end ZenohDslr
