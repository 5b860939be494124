import ZenohDslr.Json
namespace ZenohDslr.Json

universe u
variable {φ : Type u} {fuel : Nat} {rest word : List Char} {c : Char}

-- No object in it has a key twice.
mutual
def Distinct : Json φ → Prop
  | .list items => DistinctItems items
  | .object members => (members.map Prod.fst).Nodup ∧ DistinctMembers members
  | _ => True

def DistinctItems : List (Json φ) → Prop
  | [] => True
  | item :: rest => Distinct item ∧ DistinctItems rest

def DistinctMembers : List (String × Json φ) → Prop
  | [] => True
  | (_,value) :: rest => Distinct value ∧ DistinctMembers rest
end

theorem distinctMembers_of {members : List (String × Json φ)} (each : ∀ member ∈ members, Distinct member.2) : DistinctMembers members := by
  induction members with
  | nil => trivial
  | cons pair rest ih => exact ⟨each pair List.mem_cons_self,ih fun member inside => each member (List.mem_cons_of_mem pair inside)⟩

theorem distinctItems_of {items : List (Json φ)} (each : ∀ item ∈ items, Distinct item) : DistinctItems items := by
  induction items with
  | nil => trivial
  | cons first rest ih => exact ⟨each first List.mem_cons_self,ih fun item inside => each item (List.mem_cons_of_mem first inside)⟩

variable [Floats φ]

-- What is read where a float was written.
def settle (x : φ) : φ :=
  match Floats.spell x with
  | .inl odd => Floats.ofOdd odd
  | .inr d => Floats.ofDecimal d

mutual
def settled : Json φ → Json φ
  | .float x => .float (settle x)
  | .list items => .list (settledItems items)
  | .object members => .object (settledMembers members)
  | value => value

def settledItems : List (Json φ) → List (Json φ)
  | [] => []
  | item :: rest => settled item :: settledItems rest

def settledMembers : List (String × Json φ) → List (String × Json φ)
  | [] => []
  | (key,value) :: rest => (key,settled value) :: settledMembers rest
end

theorem settledMembers_keys (members : List (String × Json φ)) : (settledMembers members).map Prod.fst = members.map Prod.fst := by
  induction members with
  | nil => rfl
  | cons pair rest ih => obtain ⟨key,value⟩ := pair; simp [settledMembers,ih]

theorem find_settledMembers (key : String) (members : List (String × Json φ)) :
    OrderedDict.find key (settledMembers members) = (OrderedDict.find key members).map settled := by
  induction members with
  | nil => rfl
  | cons pair rest ih =>
    obtain ⟨name,value⟩ := pair
    by_cases here : name = key <;> simp [settledMembers,OrderedDict.find,here,ih]

theorem ofInt_proper (n : Int) : (ofInt n).Proper :=
  ⟨Decimal.toDigits_whole n.natAbs,by simp [ofInt],by simp [ofInt]⟩

theorem toInt_ofInt (n : Int) : toInt (ofInt n) = n := by
  simp only [toInt,ofInt,Nat.ofDigitChars_ten_toDigits,decide_eq_true_eq]
  split <;> omega

theorem text_head {d : Decimal} (proper : d.Proper) :
    ∃ c rest, d.text = c :: rest ∧ (c.isDigit = true ∨ c = '-' ∧ ∃ digit tail, rest = digit :: tail ∧ digit.isDigit = true) := by
  obtain ⟨c,figures,split,digit⟩ := Decimal.whole_head proper
  have front : d.unsigned = c :: (figures ++ (Decimal.point d.fraction ++ Decimal.power d.exponent)) := by simp [Decimal.unsigned,split]
  rw [Decimal.text,front]
  cases d.negative
  · exact ⟨_,_,rfl,.inl digit⟩
  · exact ⟨_,_,rfl,.inr ⟨rfl,_,_,rfl,digit⟩⟩

theorem constants_numeral {d : Decimal} (proper : d.Proper) :
    (constants : List (List Char × Json φ)).findSome? (fun constant => (after constant.1 (d.text ++ rest)).map fun rest => (constant.2,rest)) = none := by
  obtain ⟨c,tail,front,start⟩ := text_head proper
  rw [front]
  rcases start with digit | ⟨rfl,digit,figures,rfl,one⟩
  · have n : c ≠ 'n' := by rintro rfl; cases digit
    have t : c ≠ 't' := by rintro rfl; cases digit
    have f : c ≠ 'f' := by rintro rfl; cases digit
    have N : c ≠ 'N' := by rintro rfl; cases digit
    have I : c ≠ 'I' := by rintro rfl; cases digit
    have minus : c ≠ '-' := by rintro rfl; cases digit
    simp [constants,after,oddText,n.symm,t.symm,f.symm,N.symm,I.symm,minus.symm]
  · have I : digit ≠ 'I' := by rintro rfl; cases one
    simp [constants,after,oddText,I.symm]

theorem scanAtom_numeral {d : Decimal} (proper : d.Proper) (closed : Decimal.Closed rest) :
    (scanAtom (d.text ++ rest) : Option (Json φ × List Char)) = some (number d,rest) := by
  rw [scanAtom,constants_numeral proper,Decimal.scan_text proper closed]
  rfl

theorem scanAtom_odd (odd : Odd) : (scanAtom (oddText odd ++ rest) : Option (Json φ × List Char)) = some (.float (Floats.ofOdd odd),rest) := by
  cases odd <;> simp [scanAtom,constants,after,oddText]

-- What opens no string, list or object.
def Atomic (text : List Char) : Prop := ∃ c rest, text = c :: rest ∧ c ≠ '"' ∧ c ≠ '[' ∧ c ≠ '{' ∧ c ≠ ']' ∧ blank c = false

theorem atomic_text {d : Decimal} (proper : d.Proper) : Atomic d.text := by
  obtain ⟨c,rest,front,start⟩ := text_head proper
  refine ⟨c,rest,front,?_⟩
  rcases start with digit | ⟨rfl,_⟩
  · refine ⟨?_,?_,?_,?_,?_⟩
    all_goals first | (rintro rfl; cases digit) | skip
    simp only [blank,Bool.or_eq_false_iff,beq_eq_false_iff_ne]
    refine ⟨⟨⟨?_,?_⟩,?_⟩,?_⟩ <;> (rintro rfl; cases digit)
  · decide

theorem atomic_odd (odd : Odd) : Atomic (oddText odd) := by
  cases odd <;> exact ⟨_,_,rfl,by decide⟩

theorem scanValue_atomic {text : List Char} (atomic : Atomic text) : (scanValue (fuel + 1) (text ++ rest) : Option (Json φ × List Char)) = scanAtom (text ++ rest) := by
  obtain ⟨c,tail,rfl,quoted,list,object,_⟩ := atomic
  simp [scanValue,quoted,list,object]

theorem scanAtom_null : (scanAtom ('n' :: 'u' :: 'l' :: 'l' :: rest) : Option (Json φ × List Char)) = some (.null,rest) := by
  simp [scanAtom,constants,after]

theorem scanAtom_true : (scanAtom ('t' :: 'r' :: 'u' :: 'e' :: rest) : Option (Json φ × List Char)) = some (.bool true,rest) := by
  simp [scanAtom,constants,after]

theorem scanAtom_false : (scanAtom ('f' :: 'a' :: 'l' :: 's' :: 'e' :: rest) : Option (Json φ × List Char)) = some (.bool false,rest) := by
  simp [scanAtom,constants,after]

theorem skip_solid (solid : blank c = false) : skip (c :: rest) = c :: rest := by simp [skip,solid]

theorem skip_blank : skip (' ' :: rest) = skip rest := by simp [skip,blank]

-- What a written value begins with: neither a blank nor a closing bracket.
theorem write_head (value : Json φ) : ∃ c tail, write value = c :: tail ∧ blank c = false ∧ c ≠ ']' := by
  have ofAtomic : ∀ {text : List Char}, Atomic text → ∃ c tail, text = c :: tail ∧ blank c = false ∧ c ≠ ']' :=
    fun ⟨c,tail,front,_,_,_,close,solid⟩ => ⟨c,tail,front,solid,close⟩
  cases value with
  | null => exact ⟨_,_,rfl,by decide⟩
  | bool b => cases b <;> exact ⟨_,_,rfl,by decide⟩
  | int n => exact ofAtomic (atomic_text (ofInt_proper n))
  | float x =>
    rw [write]
    cases spelling : Floats.spell x with
    | inl odd => exact ofAtomic (atomic_odd odd)
    | inr d => exact ofAtomic (atomic_text (Floats.spelled spelling).1)
  | string s => exact ⟨_,_,rfl,by decide⟩
  | list items => exact ⟨_,_,rfl,by decide⟩
  | object members => exact ⟨_,_,rfl,by decide⟩

theorem skip_write (value : Json φ) : skip (write value ++ rest) = write value ++ rest := by
  obtain ⟨c,tail,front,solid,_⟩ := write_head value
  rw [front,List.cons_append,skip_solid solid]

theorem writeItems_head (item : Json φ) (items : List (Json φ)) :
    ∃ c tail, writeItems (item :: items) = c :: tail ∧ blank c = false ∧ c ≠ ']' := by
  obtain ⟨c,tail,front,solid⟩ := write_head item
  cases items <;> exact ⟨c,_,by rw [writeItems,front,List.cons_append],solid⟩

theorem writeMembers_head (key : String) (value : Json φ) (members : List (String × Json φ)) :
    ∃ tail, writeMembers ((key,value) :: members) = '"' :: tail := by
  cases members <;> exact ⟨_,by rw [writeMembers,Quoting.quote]; rfl⟩

theorem closed_comma : Decimal.Closed (',' :: rest) := fun c first => by cases first; decide
theorem closed_bracket : Decimal.Closed (']' :: rest) := fun c first => by cases first; decide
theorem closed_brace : Decimal.Closed ('}' :: rest) := fun c first => by cases first; decide

-- By induction on the fuel: a value is read to its end whenever nothing behind it
-- continues a numeral, a row of items or members including its closing bracket.
mutual
theorem scanValue_write (value : Json φ) (distinct : Distinct value) (fuel : Nat) (enough : 2 * (write value).length ≤ fuel)
    (rest : List Char) (closed : Decimal.Closed rest) : scanValue fuel (write value ++ rest) = some (settled value,rest) := by
  obtain ⟨c,tail,front,_⟩ := write_head value
  have room : 0 < fuel := by rw [front,List.length_cons] at enough; omega
  obtain ⟨fuel,rfl⟩ := Nat.exists_eq_add_one.mpr room
  match value with
  | .null => exact scanAtom_null
  | .bool true => exact scanAtom_true
  | .bool false => exact scanAtom_false
  | .int n =>
    have proper := ofInt_proper n
    rw [write,scanValue_atomic (atomic_text proper),scanAtom_numeral proper closed,number,toInt_ofInt]
    rfl
  | .float x =>
    rw [write,settled,settle]
    cases spelling : Floats.spell x with
    | inl odd => rw [spelled,scanValue_atomic (atomic_odd odd),scanAtom_odd]
    | inr d =>
      obtain ⟨proper,fractional⟩ := Floats.spelled spelling
      rw [spelled,scanValue_atomic (atomic_text proper),scanAtom_numeral proper closed,number,fractional]
      rfl
  | .string s => simp [write,Quoting.quote,scanValue,Quoting.scanText_quoted,settled]
  | .list [] => simp [write,writeItems,scanValue,skip,blank,settled,settledItems]
  | .list (item :: items) =>
    simp only [write,List.length_cons] at enough
    have read := scanItems_write item items distinct fuel (by omega) rest
    obtain ⟨c,tail,front,solid,close⟩ := writeItems_head item items
    have stay : skip (writeItems (item :: items) ++ rest) = writeItems (item :: items) ++ rest := by
      rw [front,List.cons_append,skip_solid solid]
    simp [write,scanValue,stay,read,settled]
    simp [front,close]
  | .object [] => simp [write,writeMembers,scanValue,skip,blank,settled,settledMembers]
  | .object ((key,value) :: members) =>
    simp only [write,List.length_cons] at enough
    have read := scanMembers_write key value members distinct.2 fuel (by omega) rest
    obtain ⟨tail,front⟩ := writeMembers_head key value members
    have stay : skip (writeMembers ((key,value) :: members) ++ rest) = writeMembers ((key,value) :: members) ++ rest := by
      rw [front,List.cons_append,skip_solid (by decide)]
    have same : dict (settledMembers ((key,value) :: members)) = settledMembers ((key,value) :: members) :=
      dict_distinct (by rw [settledMembers_keys]; exact distinct.1)
    simp [write,scanValue,stay,read,same,settled]
    simp [front]
termination_by fuel

theorem scanItems_write (item : Json φ) (items : List (Json φ)) (distinct : DistinctItems (item :: items)) (fuel : Nat)
    (enough : 2 * (writeItems (item :: items)).length + 1 ≤ fuel) (rest : List Char) :
    scanItems fuel (writeItems (item :: items) ++ rest) = some (settledItems (item :: items),rest) := by
  obtain ⟨fuel,rfl⟩ := Nat.exists_eq_add_one.mpr (by omega : 0 < fuel)
  match items with
  | [] =>
    simp only [writeItems,List.length_append,List.length_singleton] at enough
    have first := scanValue_write item distinct.1 fuel (by omega) (']' :: rest) closed_bracket
    rw [writeItems,List.append_assoc,List.singleton_append,scanItems,first,Option.bind_some,skip_solid (by decide)]
    rfl
  | next :: later =>
    simp only [writeItems,List.length_append,List.length_cons] at enough
    have first := scanValue_write item distinct.1 fuel (by omega) (',' :: ' ' :: (writeItems (next :: later) ++ rest)) closed_comma
    have others := scanItems_write next later distinct.2 fuel (by omega) rest
    obtain ⟨c,tail,front,solid,_⟩ := writeItems_head next later
    have stay : skip (' ' :: (writeItems (next :: later) ++ rest)) = writeItems (next :: later) ++ rest := by
      rw [skip_blank,front,List.cons_append,skip_solid solid]
    rw [writeItems,List.append_assoc,List.cons_append,List.cons_append,scanItems,first,Option.bind_some,skip_solid (by decide)]
    simp only [stay,others,Option.map_some,settledItems]
termination_by fuel

theorem scanMembers_write (key : String) (value : Json φ) (members : List (String × Json φ)) (distinct : DistinctMembers ((key,value) :: members))
    (fuel : Nat) (enough : 2 * (writeMembers ((key,value) :: members)).length + 1 ≤ fuel) (rest : List Char) :
    scanMembers fuel (writeMembers ((key,value) :: members) ++ rest) = some (settledMembers ((key,value) :: members),rest) := by
  obtain ⟨fuel,rfl⟩ := Nat.exists_eq_add_one.mpr (by omega : 0 < fuel)
  have start : ∀ text, skip (' ' :: (write value ++ text)) = write value ++ text := fun text => by rw [skip_blank,skip_write value]
  match members with
  | [] =>
    simp only [writeMembers,List.length_append,List.length_cons,List.length_nil] at enough
    have first := scanValue_write value distinct.1 fuel (by omega) ('}' :: rest) closed_brace
    simp [writeMembers,Quoting.quote,scanMembers,Quoting.scanText_quoted,skip_solid (show blank ':' = false by decide),start,first,
      skip_solid (show blank '}' = false by decide),settledMembers]
  | (next,other) :: later =>
    simp only [writeMembers,List.length_append,List.length_cons] at enough
    have first := scanValue_write value distinct.1 fuel (by omega) (',' :: ' ' :: (writeMembers ((next,other) :: later) ++ rest)) closed_comma
    have others := scanMembers_write next other later distinct.2 fuel (by omega) rest
    obtain ⟨tail,front⟩ := writeMembers_head next other later
    have stay : skip (' ' :: (writeMembers ((next,other) :: later) ++ rest)) = writeMembers ((next,other) :: later) ++ rest := by
      rw [skip_blank,front,List.cons_append,skip_solid (by decide)]
    simp [writeMembers,Quoting.quote,scanMembers,Quoting.scanText_quoted,skip_solid (show blank ':' = false by decide),start,first,
      skip_solid (show blank ',' = false by decide),stay,others,settledMembers]
termination_by fuel
end

-- What is written is read back, each float as its text has it.
theorem loads_dumps (value : Json φ) (distinct : Distinct value) : loads (dumps value) = some (settled value) := by
  have read := scanValue_write value distinct (2 * (write value).length + 1) (by omega) [] (fun c first => by cases first)
  have stay : skip (write value ++ []) = write value ++ [] := skip_write value
  rw [List.append_nil] at read stay
  rw [loads,dumps,String.toList_ofList,stay,read]
  rfl

end ZenohDslr.Json
