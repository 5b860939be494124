import ZenohDslr.Attempts
import ZenohDslr.ImageFields
namespace ZenohDslr.Verifier.Recorded
open AlignedBytes Attempts

inductive Platform
  | bits32
  | bits64
  deriving DecidableEq,Repr

-- `sys.maxsize`: the largest length of an object, and the largest offset that
-- `struct.unpack_from` takes.
def maxsize : Platform → Nat
  | .bits32 => 2 ^ 31 - 1
  | .bits64 => 2 ^ 63 - 1

structure Bytes (platform : Platform) where
  bytes : List UInt8
  sized : bytes.length ≤ maxsize platform

-- An exception the handler of the walk names, one it does not name, or `fail`.
inductive Leaves
  | exception (exc : CdrError)
  | overflowError
  | exit (failure : Failure)
  deriving DecidableEq,Repr

-- The bytes of the body that an expression has taken.
structure Span where
  start : Nat
  length : Nat
  deriving DecidableEq,Repr

abbrev Reading := EStateM Leaves (List Span)

def taken (start length : Nat) : Reading Unit := modify fun spans => spans ++ [⟨start,length⟩]

def unpackFrom (platform : Platform) (width : Nat) (body : List UInt8) (pos : Nat) : Reading Nat :=
  if maxsize platform < pos then throw .overflowError
  else if body.length < pos + width then throw (.exception .structError)
  else do
    taken pos width
    return fromLittleEndian (slice body pos width)

def decodeUtf8 (raw : List UInt8) : Reading String :=
  match String.fromUTF8? raw.toByteArray with
  | some text => return text
  | none => throw (.exception .unicodeDecodeError)

-- A slice is clipped to the body, its length is looked at afterwards.
def readCdrString (platform : Platform) (body : List UInt8) (pos : Nat) : Reading (String × Nat) := do
  let pos := align pos 4
  let length ← unpackFrom platform 4 body pos
  let pos := pos + 4
  let raw := slice body pos length
  taken pos raw.length
  if raw.length ≠ length then throw (.exit (.shortString length raw.length)) else
    let pos := pos + length
    let text ← if length ≠ 0 ∧ raw.getLast? = some 0 then decodeUtf8 raw.dropLast else decodeUtf8 raw
    return (text,pos)

def walk (platform : Platform) (body : List UInt8) : Reading Walked := do
  let pos := 0
  let pos := align pos 4 + 4
  let pos := align pos 4 + 4
  let (frameId,pos) ← readCdrString platform body pos
  let pos := align pos 4
  let height ← unpackFrom platform 4 body pos
  let pos := pos + 4
  let pos := align pos 4
  let width ← unpackFrom platform 4 body pos
  let pos := pos + 4
  let (encoding,pos) ← readCdrString platform body pos
  let isBigendian ← unpackFrom platform 1 body pos
  let pos := pos + 1
  let pos := align pos 4
  let step ← unpackFrom platform 4 body pos
  let pos := pos + 4
  let pos := align pos 4
  let dataLen ← unpackFrom platform 4 body pos
  let pos := pos + 4
  return ⟨frameId,height,width,encoding,isBigendian,step,dataLen,pos⟩

-- `except (struct.error, IndexError, UnicodeDecodeError)`
def handler : Leaves → Reading Walked
  | .exception exc => throw (.exit (.malformed exc))
  | other => throw other

def assertImage {platform : Platform} (expected : Expected) (buf : Bytes platform) : Reading Unit :=
  if slice buf.bytes 0 4 ≠ cdrLeHeader then throw (.exit (.badHeader (slice buf.bytes 0 4))) else do
    let body := buf.bytes.drop 4
    let seen ← guarded (walk platform body) handler
    if (body.length : Int) - seen.pos < seen.dataLen then
      throw (.exit (.truncated seen.dataLen (body.length - seen.pos)))
    else if seen.width ≠ expected.width then throw (.exit (.width seen.width expected.width))
    else if seen.height ≠ expected.height then throw (.exit (.height seen.height expected.height))
    else if seen.encoding ≠ expected.encoding then throw (.exit (.encoding seen.encoding expected.encoding))
    else if seen.step ≠ expected.step then throw (.exit (.step seen.step expected.step))
    else if seen.dataLen ≠ seen.step * seen.height then
      throw (.exit (.dataLength seen.dataLen (seen.step * seen.height)))
    else return ()

variable {platform : Platform} {body : List UInt8} {α β : Type} {width pos : Nat} {expected : Expected} {buf : Bytes platform}

def Inside (body : List UInt8) (spans : List Span) : Prop := ∀ span ∈ spans, span.start + span.length ≤ body.length

def told : Except Raised α → List Span → EStateM.Result Leaves (List Span) α
  | .ok value,spans => .ok value spans
  | .error (.exception exc),spans => .error (.exception exc) spans
  | .error (.exit failure),spans => .error (.exit failure) spans

-- The recording reader ends as the plain one does and takes no byte outside the body.
def Mirrors (body : List UInt8) (action : Reading α) (plain : Except Raised α) : Prop :=
  ∀ spans, Inside body spans → ∃ later, Inside body later ∧ action spans = told plain later

theorem mirrors_pure (value : α) : Mirrors body (pure value) (pure value) := fun spans inside => ⟨spans,inside,rfl⟩

theorem mirrors_bind {action : Reading α} {plain : Except Raised α} {next : α → Reading β} {plainNext : α → Except Raised β}
    (first : Mirrors body action plain) (rest : ∀ value, plain = .ok value → Mirrors body (next value) (plainNext value)) :
    Mirrors body (action >>= next) (plain >>= plainNext) := by
  intro spans inside
  obtain ⟨later,kept,ran⟩ := first spans inside
  cases plain with
  | ok value =>
    obtain ⟨last,whole,done⟩ := rest value rfl later kept
    exact ⟨last,whole,by rw [bind_apply,ran]; exact done⟩
  | error raised => cases raised <;> exact ⟨later,kept,by rw [bind_apply,ran]; rfl⟩

theorem inside_taken {spans : List Span} {start length : Nat} (inside : Inside body spans) (room : start + length ≤ body.length) :
    Inside body (spans ++ [⟨start,length⟩]) := by
  intro span member
  rcases List.mem_append.mp member with before | new
  · exact inside span before
  · cases List.mem_singleton.mp new
    exact room

theorem mirrors_unpackFrom (small : pos ≤ maxsize platform) :
    Mirrors body (unpackFrom platform width body pos) (Verifier.unpackFrom width body pos) := by
  intro spans inside
  unfold unpackFrom Verifier.unpackFrom
  rw [if_neg (Nat.not_lt.mpr small)]
  by_cases short : body.length < pos + width
  · rw [if_pos short,if_pos short]
    exact ⟨spans,inside,rfl⟩
  · rw [if_neg short,if_neg short]
    exact ⟨spans ++ [⟨pos,width⟩],inside_taken inside (by omega),rfl⟩

theorem mirrors_decodeUtf8 (raw : List UInt8) : Mirrors body (decodeUtf8 raw) (Verifier.decodeUtf8 raw) := by
  intro spans inside
  unfold decodeUtf8 Verifier.decodeUtf8
  cases String.fromUTF8? raw.toByteArray <;> exact ⟨spans,inside,rfl⟩

theorem mirrors_taken {start length : Nat} {rest : Reading α} {plain : Except Raised α} (room : start + length ≤ body.length)
    (next : Mirrors body rest plain) : Mirrors body (taken start length >>= fun _ => rest) plain := by
  intro spans inside
  obtain ⟨later,kept,ran⟩ := next _ (inside_taken inside room)
  exact ⟨later,kept,by rw [bind_apply]; exact ran⟩

theorem mirrors_readCdrString (small : align pos 4 ≤ maxsize platform) :
    Mirrors body (readCdrString platform body pos) (Verifier.readCdrString body pos) := by
  refine mirrors_bind (mirrors_unpackFrom small) fun length prefixed => ?_
  obtain ⟨counted,_⟩ := unpackFrom_ok.mp prefixed
  have room : align pos 4 + 4 + (slice body (align pos 4 + 4) length).length ≤ body.length := by
    rw [slice_length]
    omega
  refine mirrors_taken room ?_
  dsimp only
  split
  · exact fun spans inside => ⟨spans,inside,rfl⟩
  · split
    · exact mirrors_bind (mirrors_decodeUtf8 _) fun _ _ => mirrors_pure _
    · exact mirrors_bind (mirrors_decodeUtf8 _) fun _ _ => mirrors_pure _

theorem align_small (counted : pos ≤ body.length) (room : body.length + 4 ≤ maxsize platform) : align pos 4 ≤ maxsize platform := by
  simp only [align]
  omega

-- Every offset is at most three fillers behind a byte that is there, so none overflows.
theorem mirrors_walk (room : body.length + 4 ≤ maxsize platform) : Mirrors body (walk platform body) (Verifier.walk body) := by
  have start : align (align (align 0 4 + 4) 4 + 4) 4 ≤ maxsize platform := by cases platform <;> decide
  refine mirrors_bind (mirrors_readCdrString start) fun frame frameRead => ?_
  have framed := (readCdrString_ok.mp frameRead).room
  refine mirrors_bind (mirrors_unpackFrom (align_small framed room)) fun height heightRead => ?_
  have heightRoom := (unpackFrom_ok.mp heightRead).1
  refine mirrors_bind (mirrors_unpackFrom (align_small heightRoom room)) fun width widthRead => ?_
  have widthRoom := (unpackFrom_ok.mp widthRead).1
  refine mirrors_bind (mirrors_readCdrString (align_small widthRoom room)) fun encoding codeRead => ?_
  have coded := (readCdrString_ok.mp codeRead).room
  refine mirrors_bind (mirrors_unpackFrom (by omega)) fun isBigendian bigendianRead => ?_
  have bigendianRoom := (unpackFrom_ok.mp bigendianRead).1
  refine mirrors_bind (mirrors_unpackFrom (align_small bigendianRoom room)) fun step stepRead => ?_
  have stepRoom := (unpackFrom_ok.mp stepRead).1
  exact mirrors_bind (mirrors_unpackFrom (align_small stepRoom room)) fun _ _ => mirrors_pure _

-- How the gate ends: what `fail` was called with, if it was.
def ended : Except Failure Unit → List Span → EStateM.Result Leaves (List Span) Unit
  | .ok _,spans => .ok () spans
  | .error failure,spans => .error (.exit failure) spans

theorem assertImage_mirrors : ∃ spans, Inside (buf.bytes.drop 4) spans ∧
    assertImage expected buf [] = ended (Verifier.assertImage expected buf.bytes) spans := by
  unfold assertImage Verifier.assertImage
  by_cases header : slice buf.bytes 0 4 = cdrLeHeader
  · have whole : 4 ≤ buf.bytes.length := by
      have length := congrArg List.length header
      simp only [slice_length,cdrLeHeader,List.length_cons,List.length_nil] at length
      omega
    have room : (buf.bytes.drop 4).length + 4 ≤ maxsize platform := by
      have sized := buf.sized
      simp only [List.length_drop]
      omega
    obtain ⟨spans,kept,ran⟩ := mirrors_walk room [] (by simp [Inside])
    refine ⟨spans,kept,?_⟩
    rw [if_neg (not_not.mpr header),if_neg (not_not.mpr header)]
    dsimp only
    rw [bind_apply,guarded,ran]
    cases Verifier.walk (buf.bytes.drop 4) with
    | error raised => cases raised <;> rfl
    | ok seen =>
      dsimp only [told]
      split_ifs <;> rfl
  · refine ⟨[],by simp [Inside],?_⟩
    rw [if_pos header,if_pos header]
    rfl

def Passes (run : EStateM.Result Leaves (List Span) Unit) : Prop := ∃ spans, run = .ok () spans

def Fails (run : EStateM.Result Leaves (List Span) Unit) : Prop := ∃ failure spans, run = .error (.exit failure) spans

theorem passes_iff : Passes (assertImage expected buf []) ↔ Verifier.assertImage expected buf.bytes = .ok () := by
  obtain ⟨spans,_,ran⟩ := @assertImage_mirrors platform expected buf
  rw [ran]
  cases Verifier.assertImage expected buf.bytes <;> simp [Passes,ended]

theorem fails_iff : Fails (assertImage expected buf []) ↔ ¬ Verifier.assertImage expected buf.bytes = .ok () := by
  obtain ⟨spans,_,ran⟩ := @assertImage_mirrors platform expected buf
  rw [ran]
  cases Verifier.assertImage expected buf.bytes <;> simp [Fails,ended]

end ZenohDslr.Verifier.Recorded
