import Mathlib.Tactic.Ring
import ZenohDslr.Binary32
import ZenohDslr.JsonRoundTrip
namespace ZenohDslr

-- Decimal text of a binary64 value: the shortest figures that are read back as the
-- value, of those the nearest.
namespace Double

variable {n d c : Nat}

-- The unit of a magnitude is this negative power of two.
def grid : Nat := 1074

-- The quotient rounded to the nearest, of two to the even one.
def nearestQuotient (n d : Nat) : Nat :=
  if d < 2 * (n % d) ∨ d = 2 * (n % d) ∧ n / d % 2 = 1 then n / d + 1 else n / d

def dropped (n d : Nat) : Nat := (n / d).log2 - 52

-- The bits below the sign of the value nearest to a ratio, in units of 2^-1074.
-- Rounding up to the next power of two carries into the exponent.
def ofRatio (n d : Nat) : Nat := min (2047 * 2 ^ 52) (dropped n d * 2 ^ 52 + nearestQuotient n (d * 2 ^ dropped n d))

def unpack (negative : Bool) (bits : Nat) : Double := pack negative (bits / 2 ^ 52) (bits % 2 ^ 52)

def magnitudeBits (x : Double) : Nat := x.exponent * 2 ^ 52 + x.fraction

-- `float(text)`
def significand (d : Decimal) : Nat := Nat.ofDigitChars 10 (d.whole ++ d.fraction.getD []) 0

def power : Option (List Char × List Char) → Int
  | none => 0
  | some (sign,figures) => if sign = ['-'] then -(Nat.ofDigitChars 10 figures 0 : Int) else Nat.ofDigitChars 10 figures 0

def scale (d : Decimal) : Int := power d.exponent - (d.fraction.getD []).length

def ofDecimal (d : Decimal) : Double :=
  unpack d.negative (ofRatio (significand d * 10 ^ (scale d).toNat * 2 ^ grid) (10 ^ (-scale d).toNat))

-- The two multiples of a power of ten around a number, the nearer one first.
def around (e drop : Nat) : List Nat :=
  let q := nearestQuotient e (10 ^ drop)
  [q,if q = e / 10 ^ drop then q + 1 else q - 1]

def shortest (fits : Nat → Bool) (e : Nat) : Nat → Nat × Nat
  | 0 => (e,0)
  | drop + 1 =>
    match (around e (drop + 1)).find? fun c => fits (c * 10 ^ (drop + 1)) with
    | some c => (c,drop + 1)
    | none => shortest fits e drop

def stripZeros (figures : List Char) : List Char := (figures.reverse.dropWhile (· = '0')).reverse

def exponentText (point : Int) : List Char × List Char :=
  let figures := Nat.toDigits 10 (point - 1).natAbs
  (if point ≤ 0 then ['-'] else ['+'],if figures.length = 1 then '0' :: figures else figures)

-- `repr`: the point stands behind so many figures, and far off an exponent does.
def layout (negative : Bool) (figures : List Char) (point : Int) : Decimal :=
  if -4 < point ∧ point ≤ 16 then
    if point ≤ 0 then ⟨negative,['0'],some (List.replicate (-point).toNat '0' ++ figures),none⟩
    else if figures.length ≤ point then ⟨negative,figures ++ List.replicate (point.toNat - figures.length) '0',some ['0'],none⟩
    else ⟨negative,figures.take point.toNat,some (figures.drop point.toNat),none⟩
  else ⟨negative,figures.take 1,if figures.length = 1 then none else some (figures.drop 1),some (exponentText point)⟩

-- The shortest figures, as an integer and how many it lacks.
def decimals (x : Double) : Nat × Nat :=
  shortest (fun c => ofRatio c (5 ^ grid) == x.magnitudeBits) (x.magnitude * 5 ^ grid)
    ((Nat.toDigits 10 (x.magnitude * 5 ^ grid)).length - 1)

def repr (x : Double) : Decimal :=
  if x.magnitude = 0 then layout x.sign ['0'] 1
  else
    let figures := Nat.toDigits 10 x.decimals.1
    layout x.sign (stripZeros figures) (figures.length + x.decimals.2 - grid)

def spell (x : Double) : Odd ⊕ Decimal :=
  if x.isNaN then .inl .nan
  else if x.isInfinite then .inl (if x.sign then .minusInfinity else .infinity)
  else .inr (repr x)

def ofOdd : Odd → Double
  | .nan => ⟨0x7ff8000000000000⟩
  | .infinity => ⟨0x7ff0000000000000⟩
  | .minusInfinity => ⟨0xfff0000000000000⟩


theorem nearestQuotient_exact (positive : 0 < d) : nearestQuotient (c * d) d = c := by
  simp [nearestQuotient,Nat.mul_div_cancel _ positive]
  omega

theorem nearestQuotient_scaled (positive : 0 < c) : nearestQuotient (n * c) (d * c) = nearestQuotient n d := by
  have above : d * c < 2 * (n % d * c) ↔ d < 2 * (n % d) := by
    rw [← Nat.mul_assoc]
    exact Nat.mul_lt_mul_right positive
  have tie : d * c = 2 * (n % d * c) ↔ d = 2 * (n % d) := by
    rw [← Nat.mul_assoc]
    exact Nat.mul_left_inj (by omega)
  simp only [nearestQuotient,Nat.mul_mod_mul_right,Nat.mul_div_mul_right n d positive,above,tie]

theorem ofRatio_scaled (positive : 0 < c) : ofRatio (n * c) (d * c) = ofRatio n d := by
  have same : dropped (n * c) (d * c) = dropped n d := by rw [dropped,dropped,Nat.mul_div_mul_right n d positive]
  have reordered : d * c * 2 ^ dropped n d = d * 2 ^ dropped n d * c := by ring
  rw [ofRatio,ofRatio,same,reordered,nearestQuotient_scaled positive]

-- What is read depends on the ratio alone.
theorem ofRatio_cross {p q : Nat} (cross : n * q = p * d) (left : 0 < d) (right : 0 < q) : ofRatio n d = ofRatio p q := by
  rw [← ofRatio_scaled (n := n) (d := d) right,cross,Nat.mul_comm d q,ofRatio_scaled left]

theorem exponent_lt (x : Double) : x.exponent < 2 ^ 11 := Nat.mod_lt _ (Nat.two_pow_pos 11)

theorem fraction_lt (x : Double) : x.fraction < 2 ^ 52 := Nat.mod_lt _ (Nat.two_pow_pos 52)

theorem ofRatio_subnormal {f : Nat} (small : f < 2 ^ 52) (positive : 0 < c) : ofRatio (f * c) c = f := by
  have short : f.log2 < 52 ∨ f = 0 := by
    rcases Nat.eq_zero_or_pos f with zero | nonzero
    · exact .inr zero
    · exact .inl ((Nat.log2_lt (by omega)).mpr small)
  have none_dropped : dropped (f * c) c = 0 := by
    rw [dropped,Nat.mul_div_cancel _ positive]
    rcases short with short | rfl
    · omega
    · rfl
  rw [ofRatio,none_dropped,pow_zero,Nat.mul_one,nearestQuotient_exact positive]
  omega

theorem ofRatio_normal {f e : Nat} (small : f < 2 ^ 52) (finite : e + 1 < 2047) (positive : 0 < c) :
    ofRatio ((2 ^ 52 + f) * 2 ^ e * c) c = (e + 1) * 2 ^ 52 + f := by
  have log : ((2 ^ 52 + f) * 2 ^ e).log2 = 52 + e := by
    refine (Nat.log2_eq_iff (by positivity)).mpr ⟨?_,?_⟩
    · rw [Nat.pow_add]
      exact Nat.mul_le_mul_right _ (by omega)
    · calc (2 ^ 52 + f) * 2 ^ e < 2 ^ 53 * 2 ^ e := Nat.mul_lt_mul_of_pos_right (by omega) (Nat.two_pow_pos e)
        _ = 2 ^ (52 + e + 1) := by rw [← Nat.pow_add]; congr 1; omega
  have lost : dropped ((2 ^ 52 + f) * 2 ^ e * c) c = e := by
    rw [dropped,Nat.mul_div_cancel _ positive,log]
    omega
  have reordered : (2 ^ 52 + f) * 2 ^ e * c = (2 ^ 52 + f) * (c * 2 ^ e) := by ring
  rw [ofRatio,lost,reordered,nearestQuotient_exact (Nat.mul_pos positive (Nat.two_pow_pos e))]
  omega

-- The exact value is read as the value itself.
theorem ofRatio_magnitude (x : Double) (finite : x.exponent ≠ 2047) (positive : 0 < c) :
    ofRatio (x.magnitude * c) c = x.magnitudeBits := by
  have large := exponent_lt x
  rw [magnitude,magnitudeBits]
  split
  · rename_i zero
    rw [zero,ofRatio_subnormal (fraction_lt x) positive]
    omega
  · rename_i nonzero
    obtain ⟨e,exponent⟩ := Nat.exists_eq_add_one.mpr (Nat.pos_of_ne_zero nonzero)
    rw [exponent,Nat.add_sub_cancel,ofRatio_normal (fraction_lt x) (by omega) positive]

theorem unpack_magnitudeBits (x : Double) : unpack x.sign x.magnitudeBits = x := by
  have exponent := exponent_lt x
  have fraction := fraction_lt x
  have whole : x.bits.toNat < 2 ^ 64 := x.bits.toNat_lt
  have bits : (if x.sign then 2 ^ 63 else 0) + x.exponent * 2 ^ 52 + x.fraction = x.bits.toNat := by
    unfold Double.sign Double.exponent Double.fraction
    simp only [beq_iff_eq]
    split <;> omega
  have first : x.magnitudeBits / 2 ^ 52 = x.exponent := by unfold magnitudeBits; omega
  have last : x.magnitudeBits % 2 ^ 52 = x.fraction := by unfold magnitudeBits; omega
  rw [unpack,first,last,pack,bits]
  exact congrArg Double.mk UInt64.ofNat_toNat

theorem shortest_fits {fits : Nat → Bool} {e : Nat} (exact : fits e = true) (drop : Nat) :
    fits ((shortest fits e drop).1 * 10 ^ (shortest fits e drop).2) = true := by
  induction drop with
  | zero => simpa [shortest] using exact
  | succ drop ih =>
    unfold shortest
    split
    · rename_i c found; exact @List.find?_some _ (fun c => fits (c * 10 ^ (drop + 1))) _ _ found
    · exact ih

-- What stands before the zeros at the end.
theorem stripZeros_split (figures : List Char) : ∃ z, figures = stripZeros figures ++ List.replicate z '0' := by
  have zeros : ∀ c ∈ figures.reverse.takeWhile (· = '0'), c = '0' := fun c inside => by simpa using List.mem_takeWhile_imp inside
  have whole : figures.reverse.takeWhile (· = '0') ++ figures.reverse.dropWhile (· = '0') = figures.reverse := List.takeWhile_append_dropWhile
  rw [List.eq_replicate_of_mem zeros] at whole
  refine ⟨(figures.reverse.takeWhile (· = '0')).length,?_⟩
  have turned := congrArg List.reverse whole
  rw [List.reverse_append,List.reverse_replicate,List.reverse_reverse] at turned
  exact turned.symm

-- Figures that begin a number.
def Leading (figures : List Char) : Prop := Decimal.Figures figures ∧ figures.head? ≠ some '0'

theorem Leading.append {front back : List Char} (leading : Leading front) (digits : ∀ c ∈ back, c.isDigit = true) :
    Leading (front ++ back) := by
  obtain ⟨⟨nonempty,figures⟩,head⟩ := leading
  obtain ⟨c,rest,split⟩ := List.exists_cons_of_ne_nil nonempty
  refine ⟨⟨by simp [nonempty],fun c inside => (List.mem_append.mp inside).elim (figures c) (digits c)⟩,?_⟩
  simpa [split] using head

theorem Leading.front {front back : List Char} (leading : Leading (front ++ back)) (nonempty : front ≠ []) : Leading front := by
  obtain ⟨⟨_,figures⟩,head⟩ := leading
  obtain ⟨c,rest,split⟩ := List.exists_cons_of_ne_nil nonempty
  exact ⟨⟨nonempty,fun c inside => figures c (List.mem_append_left back inside)⟩,by simpa [split] using head⟩

theorem stripZeros_leading {figures : List Char} (leading : Leading figures) : Leading (stripZeros figures) := by
  obtain ⟨z,split⟩ := stripZeros_split figures
  rw [split] at leading
  refine leading.front ?_
  intro nothing
  rw [nothing,List.nil_append] at leading
  cases z with
  | zero => exact leading.1.1 rfl
  | succ z => exact leading.2 rfl

structure LaidOut (negative : Bool) (figures : List Char) (point : Int) (d : Decimal) : Prop where
  sign : d.negative = negative
  proper : d.Proper
  fractional : d.isInteger = false
  worth : ∃ z : Nat, significand d = Nat.ofDigitChars 10 figures 0 * 10 ^ z ∧ scale d = point - figures.length - z

theorem zeros_digits (z : Nat) : ∀ c ∈ List.replicate z '0', c.isDigit = true := by
  intro c inside
  rw [List.eq_of_mem_replicate inside]
  rfl

theorem figures_append {front back : List Char} (digits : ∀ c ∈ front, c.isDigit = true) (figures : Decimal.Figures back) :
    Decimal.Figures (front ++ back) :=
  ⟨by simp [figures.1],fun c inside => (List.mem_append.mp inside).elim (digits c) (figures.2 c)⟩

variable {negative : Bool} {figures : List Char} {point : Int}

-- Behind the point, zeros come first.
theorem layout_small (leading : Leading figures) (low : point ≤ 0) :
    LaidOut negative figures point ⟨negative,['0'],some (List.replicate (-point).toNat '0' ++ figures),none⟩ where
  sign := rfl
  proper := ⟨.inl rfl,by simpa using figures_append (zeros_digits _) leading.1,by simp⟩
  fractional := rfl
  worth := by
    refine ⟨0,?_,?_⟩
    · simp [significand,Nat.ofDigitChars_append,Nat.ofDigitChars_cons,Nat.ofDigitChars_replicate_zero]
    · simp only [scale,power,Option.getD_some,List.length_append,List.length_replicate]
      omega

theorem layout_large (leading : Leading figures) (reaches : (figures.length : Int) ≤ point) :
    LaidOut negative figures point
      ⟨negative,figures ++ List.replicate (point.toNat - figures.length) '0',some ['0'],none⟩ where
  sign := rfl
  proper := ⟨.inr (leading.append (zeros_digits _)),by simp [Decimal.Figures],by simp⟩
  fractional := rfl
  worth := by
    refine ⟨point.toNat - figures.length + 1,?_,?_⟩
    · simp [significand,Nat.ofDigitChars_append,Nat.ofDigitChars_cons,Nat.ofDigitChars_replicate_zero]
      ring
    · simp only [scale,power,Option.getD_some,List.length_singleton]
      omega

theorem layout_between (leading : Leading figures) (positive : 0 < point) (inside : point < figures.length) :
    LaidOut negative figures point ⟨negative,figures.take point.toNat,some (figures.drop point.toNat),none⟩ where
  sign := rfl
  proper := by
    have split := List.take_append_drop point.toNat figures
    refine ⟨.inr (Leading.front (by rw [split]; exact leading) ?_),?_,by simp⟩
    · intro nothing
      have length := congrArg List.length nothing
      simp only [List.length_take,List.length_nil] at length
      omega
    · intro back there
      obtain rfl := Option.some.inj there
      refine ⟨?_,fun c there => leading.1.2 c (List.mem_of_mem_drop there)⟩
      intro nothing
      have length := congrArg List.length nothing
      simp only [List.length_drop,List.length_nil] at length
      omega
  fractional := rfl
  worth := by
    refine ⟨0,?_,?_⟩
    · simp [significand]
    · simp only [scale,power,Option.getD_some,List.length_drop]
      omega

theorem exponentText_proper : ((exponentText point).1 = ['+'] ∨ (exponentText point).1 = ['-'] ∨ (exponentText point).1 = []) ∧
    Decimal.Figures (exponentText point).2 := by
  have figures := Decimal.toDigits_figures (point - 1).natAbs
  unfold exponentText
  refine ⟨?_,?_⟩
  · dsimp only
    split
    · exact .inr (.inl rfl)
    · exact .inl rfl
  · dsimp only
    split
    · exact @figures_append ['0'] _ (by simp) figures
    · exact figures

theorem power_exponentText : power (some (exponentText point)) = point - 1 := by
  have value : Nat.ofDigitChars 10 (exponentText point).2 0 = (point - 1).natAbs := by
    unfold exponentText
    dsimp only
    split <;> simp [Nat.ofDigitChars_cons]
  have shape : power (some (exponentText point)) = if (exponentText point).1 = ['-']
      then -(Nat.ofDigitChars 10 (exponentText point).2 0 : Int) else Nat.ofDigitChars 10 (exponentText point).2 0 := rfl
  rw [shape,value]
  by_cases low : point ≤ 0
  · have minus : (exponentText point).1 = ['-'] := if_pos low
    rw [if_pos minus]
    omega
  · have plus : (exponentText point).1 = ['+'] := if_neg low
    rw [plus,if_neg (by decide)]
    omega

theorem layout_far (leading : Leading figures) : LaidOut negative figures point
    ⟨negative,figures.take 1,if figures.length = 1 then none else some (figures.drop 1),some (exponentText point)⟩ := by
  obtain ⟨c,rest,rfl⟩ := List.exists_cons_of_ne_nil leading.1.1
  have first : Leading [c] := @Leading.front [c] rest leading (by simp)
  refine ⟨rfl,⟨.inr first,?_,?_⟩,by simp [Decimal.isInteger],⟨0,?_,?_⟩⟩
  · intro back there
    cases rest with
    | nil => simp at there
    | cons d rest =>
      simp at there
      subst there
      exact ⟨by simp,fun x inside => leading.1.2 x (List.mem_cons_of_mem c inside)⟩
  · intro e there
    obtain rfl := Option.some.inj there
    exact exponentText_proper
  · cases rest <;> simp [significand]
  · cases rest
    · simp [scale,power_exponentText]
    · simp [scale,power_exponentText]
      omega

theorem layout_leading (leading : Leading figures) : LaidOut negative figures point (layout negative figures point) := by
  unfold layout
  split
  · split
    · exact layout_small leading ‹_›
    · split
      · exact layout_large leading ‹_›
      · exact layout_between leading (by omega) (by omega)
  · exact layout_far leading

-- Figures laid out are read as the ratio they stand for.
theorem ofDecimal_laidOut {d : Decimal} {e drop : Nat}
    (laid : LaidOut negative (stripZeros (Nat.toDigits 10 e)) ((Nat.toDigits 10 e).length + drop - grid) d) :
    ofDecimal d = unpack negative (ofRatio (e * 10 ^ drop) (5 ^ grid)) := by
  obtain ⟨more,significant,scaled⟩ := laid.worth
  obtain ⟨z,split⟩ := stripZeros_split (Nat.toDigits 10 e)
  have length := congrArg List.length split
  rw [List.length_append,List.length_replicate] at length
  have value := @Nat.ofDigitChars_ten_toDigits e
  rw [split,Nat.ofDigitChars_append,Nat.ofDigitChars_replicate_zero] at value
  have powers : more + (scale d).toNat + grid = z + drop + (-scale d).toNat := by omega
  have units : (2 : Nat) ^ grid * 5 ^ grid = 10 ^ grid := by rw [← Nat.mul_pow]
  have cross : significand d * 10 ^ (scale d).toNat * 2 ^ grid * 5 ^ grid = e * 10 ^ drop * 10 ^ (-scale d).toNat := by
    calc significand d * 10 ^ (scale d).toNat * 2 ^ grid * 5 ^ grid
        = Nat.ofDigitChars 10 (stripZeros (Nat.toDigits 10 e)) 0 * 10 ^ (more + (scale d).toNat + grid) := by
          rw [significant,Nat.mul_assoc _ (2 ^ grid),units,Nat.pow_add,Nat.pow_add]
          ring
      _ = 10 ^ z * Nat.ofDigitChars 10 (stripZeros (Nat.toDigits 10 e)) 0 * 10 ^ drop * 10 ^ (-scale d).toNat := by
          rw [powers,Nat.pow_add,Nat.pow_add]
          ring
      _ = e * 10 ^ drop * 10 ^ (-scale d).toNat := by rw [value]
  rw [ofDecimal,laid.sign,ofRatio_cross cross (Nat.pow_pos (by omega)) (Nat.pow_pos (by omega))]

theorem magnitudeBits_zero (x : Double) (zero : x.magnitudeBits = 0) : x.magnitude = 0 := by
  unfold magnitudeBits at zero
  rw [magnitude,if_pos (by omega)]
  omega

-- The figures found are those of a positive number that is read as the value.
theorem decimals_fit (x : Double) (finite : x.exponent ≠ 2047) : ofRatio (x.decimals.1 * 10 ^ x.decimals.2) (5 ^ grid) = x.magnitudeBits := by
  have exact := ofRatio_magnitude x finite (c := 5 ^ grid) (Nat.pow_pos (by omega))
  have kept := @shortest_fits (fun c => ofRatio c (5 ^ grid) == x.magnitudeBits) (x.magnitude * 5 ^ grid) (by simp [exact])
    ((Nat.toDigits 10 (x.magnitude * 5 ^ grid)).length - 1)
  rw [decimals]
  simpa using kept

theorem decimals_pos (x : Double) (finite : x.exponent ≠ 2047) (nonzero : x.magnitude ≠ 0) : 0 < x.decimals.1 := by
  apply Nat.pos_of_ne_zero
  intro nothing
  have fits := decimals_fit x finite
  have zero := ofRatio_subnormal (f := 0) (c := 5 ^ grid) (by omega) (Nat.pow_pos (by omega))
  rw [nothing,Nat.zero_mul] at fits
  rw [Nat.zero_mul] at zero
  exact nonzero (magnitudeBits_zero x (fits.symm.trans zero))

theorem repr_laidOut (x : Double) (finite : x.exponent ≠ 2047) (nonzero : x.magnitude ≠ 0) :
    LaidOut x.sign (stripZeros (Nat.toDigits 10 x.decimals.1)) ((Nat.toDigits 10 x.decimals.1).length + x.decimals.2 - grid) x.repr := by
  rw [repr,if_neg nonzero]
  exact layout_leading (stripZeros_leading ⟨Decimal.toDigits_figures _,Decimal.toDigits_head (decimals_pos x finite nonzero)⟩)

theorem repr_zero (x : Double) (zero : x.magnitude = 0) : x.repr = ⟨x.sign,['0'],some ['0'],none⟩ := by
  rw [repr,if_pos zero]
  rfl

theorem repr_spelled (x : Double) (finite : x.exponent ≠ 2047) : x.repr.Proper ∧ x.repr.isInteger = false := by
  by_cases zero : x.magnitude = 0
  · rw [repr_zero x zero]
    exact ⟨⟨.inl rfl,by simp [Decimal.Figures],by simp⟩,rfl⟩
  · have laid := repr_laidOut x finite zero
    exact ⟨laid.proper,laid.fractional⟩

theorem ofDecimal_repr (x : Double) (finite : x.exponent ≠ 2047) : ofDecimal x.repr = x := by
  by_cases zero : x.magnitude = 0
  · have nothing : significand x.repr = 0 := by rw [repr_zero x zero]; rfl
    have sign : x.repr.negative = x.sign := by rw [repr_zero x zero]
    have exact := ofRatio_magnitude x finite (c := 10 ^ (-scale x.repr).toNat) (Nat.pow_pos (by omega))
    rw [zero,Nat.zero_mul] at exact
    rw [ofDecimal,nothing,Nat.zero_mul,Nat.zero_mul,exact,sign,unpack_magnitudeBits]
  · rw [ofDecimal_laidOut (repr_laidOut x finite zero),decimals_fit x finite,unpack_magnitudeBits]

theorem not_special {x : Double} (number : x.isNaN = false) (bounded : x.isInfinite = false) : x.exponent ≠ 2047 := by
  intro special
  simp only [isNaN,isInfinite,special,beq_self_eq_true,Bool.true_and] at number bounded
  simp_all

instance : Floats Double where
  spell := spell
  ofDecimal := ofDecimal
  ofOdd := ofOdd
  spelled {x d} spelling := by
    unfold spell at spelling
    split at spelling
    · cases spelling
    · split at spelling
      · cases spelling
      · cases spelling
        exact repr_spelled x (not_special (by simpa using ‹¬ x.isNaN = true›) (by simpa using ‹¬ x.isInfinite = true›))

-- Every value but a NaN is read back bit for bit.
theorem settle_number {x : Double} (number : x.isNaN = false) : Json.settle x = x := by
  by_cases bounded : x.isInfinite = false
  · have spelling : Floats.spell x = .inr (repr x) := by
      change spell x = _
      simp [spell,number,bounded]
    simp only [Json.settle,spelling]
    exact ofDecimal_repr x (not_special number bounded)
  · have infinite : x.isInfinite = true := by simpa using bounded
    have spelling : Floats.spell x = .inl (if x.sign then .minusInfinity else .infinity) := by
      change spell x = _
      simp [spell,number,infinite]
    have whole := unpack_magnitudeBits x
    simp only [isInfinite,Bool.and_eq_true,beq_iff_eq] at infinite
    rw [magnitudeBits,infinite.1,infinite.2] at whole
    simp only [Json.settle,spelling]
    cases sign : x.sign
    · rw [sign] at whole
      exact (by decide : ofOdd .infinity = unpack false (2047 * 2 ^ 52 + 0)).trans whole
    · rw [sign] at whole
      exact (by decide : ofOdd .minusInfinity = unpack true (2047 * 2 ^ 52 + 0)).trans whole

end Double
end ZenohDslr
