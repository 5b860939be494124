import ZenohDslr.AlignedBytes
import ZenohDslr.Fallible
namespace ZenohDslr.Verifier
open AlignedBytes

structure Image where
  sec : Int32
  nanosec : UInt32
  frameId : String
  height : UInt32
  width : UInt32
  encoding : String
  isBigendian : UInt8
  step : UInt32
  data : List UInt8

-- IMAGE_W, IMAGE_H, IMAGE_STEP and IMAGE_ENCODING of the environment.
structure Expected where
  width : Int := 640
  height : Int := 480
  step : Int := 1920
  encoding : String := "rgb8"

inductive CdrError
  | structError
  | unicodeDecodeError
  deriving DecidableEq,Repr

-- The exits of `fail`, with the values its texts show.
inductive Failure
  | badHeader (got : List UInt8)
  | shortString (declared present : Nat)
  | malformed (exc : CdrError)
  | truncated (declared : Nat) (remaining : Int)
  | width (got : Nat) (expected : Int)
  | height (got : Nat) (expected : Int)
  | encoding (got expected : String)
  | step (got : Nat) (expected : Int)
  | dataLength (got expected : Nat)
  deriving DecidableEq,Repr

-- What leaves the guarded walk: an exception the handler names, or the exit.
inductive Raised
  | exception (exc : CdrError)
  | exit (failure : Failure)
  deriving DecidableEq,Repr

structure Walked where
  frameId : String
  height : Nat
  width : Nat
  encoding : String
  isBigendian : Nat
  step : Nat
  dataLen : Nat
  pos : Nat
  deriving DecidableEq,Repr

def cdrLeHeader : List UInt8 := [0x00,0x01,0x00,0x00]

def align (pos size : Nat) : Nat :=
  let rem := pos % size
  pos + (size - rem) % size

-- `struct.unpack_from` of one little-endian unsigned field.
def unpackFrom (width : Nat) (body : List UInt8) (pos : Nat) : Except Raised Nat :=
  if body.length < pos + width then .error (.exception .structError)
  else .ok (fromLittleEndian (slice body pos width))

def decodeUtf8 (raw : List UInt8) : Except Raised String :=
  match String.fromUTF8? raw.toByteArray with
  | some text => .ok text
  | none => .error (.exception .unicodeDecodeError)

def readCdrString (body : List UInt8) (pos : Nat) : Except Raised (String × Nat) := do
  let pos := align pos 4
  let length ← unpackFrom 4 body pos
  let pos := pos + 4
  let raw := slice body pos length
  if raw.length ≠ length then .error (.exit (.shortString length raw.length)) else
    let pos := pos + length
    let text ← if length ≠ 0 ∧ raw.getLast? = some 0 then decodeUtf8 raw.dropLast else decodeUtf8 raw
    return (text,pos)

def walk (body : List UInt8) : Except Raised Walked := do
  let pos := 0
  let pos := align pos 4 + 4
  let pos := align pos 4 + 4
  let (frameId,pos) ← readCdrString body pos
  let pos := align pos 4
  let height ← unpackFrom 4 body pos
  let pos := pos + 4
  let pos := align pos 4
  let width ← unpackFrom 4 body pos
  let pos := pos + 4
  let (encoding,pos) ← readCdrString body pos
  let isBigendian ← unpackFrom 1 body pos
  let pos := pos + 1
  let pos := align pos 4
  let step ← unpackFrom 4 body pos
  let pos := pos + 4
  let pos := align pos 4
  let dataLen ← unpackFrom 4 body pos
  let pos := pos + 4
  return ⟨frameId,height,width,encoding,isBigendian,step,dataLen,pos⟩

def assertImage (expected : Expected) (buf : List UInt8) : Except Failure Unit :=
  if slice buf 0 4 ≠ cdrLeHeader then .error (.badHeader (slice buf 0 4)) else
    let body := buf.drop 4
    match walk body with
    | .error (.exception exc) => .error (.malformed exc)
    | .error (.exit failure) => .error failure
    | .ok seen =>
      if (body.length : Int) - seen.pos < seen.dataLen then
        .error (.truncated seen.dataLen (body.length - seen.pos))
      else if seen.width ≠ expected.width then .error (.width seen.width expected.width)
      else if seen.height ≠ expected.height then .error (.height seen.height expected.height)
      else if seen.encoding ≠ expected.encoding then .error (.encoding seen.encoding expected.encoding)
      else if seen.step ≠ expected.step then .error (.step seen.step expected.step)
      else if seen.dataLen ≠ seen.step * seen.height then
        .error (.dataLength seen.dataLen (seen.step * seen.height))
      else .ok ()

-- The reference encoder. Each piece goes behind what is already written, on its
-- own alignment; a length that does not fit its prefix has no encoding.
def putPrimitive (padding : Nat → UInt8) (size value : Nat) (out : List UInt8) : List UInt8 :=
  fill padding size out ++ littleEndian size value

def putLength (padding : Nat → UInt8) (length : Nat) (out : List UInt8) : Option (List UInt8) :=
  if length < 256 ^ 4 then some (putPrimitive padding 4 length out) else none

def utf8 (text : String) : List UInt8 := text.toByteArray.data.toList

def putString (padding : Nat → UInt8) (text : String) (out : List UInt8) : Option (List UInt8) := do
  let out ← putLength padding ((utf8 text).length + 1) out
  return out ++ (utf8 text ++ [0])

def encodeBody (padding : Nat → UInt8) (message : Image) : Option (List UInt8) := do
  let out := putPrimitive padding 4 message.sec.toUInt32.toNat []
  let out := putPrimitive padding 4 message.nanosec.toNat out
  let out ← putString padding message.frameId out
  let out := putPrimitive padding 4 message.height.toNat out
  let out := putPrimitive padding 4 message.width.toNat out
  let out ← putString padding message.encoding out
  let out := putPrimitive padding 1 message.isBigendian.toNat out
  let out := putPrimitive padding 4 message.step.toNat out
  let out ← putLength padding message.data.length out
  return out ++ message.data

def encode (padding : Nat → UInt8) (message : Image) : Option (List UInt8) :=
  (encodeBody padding message).map (cdrLeHeader ++ ·)

end ZenohDslr.Verifier
