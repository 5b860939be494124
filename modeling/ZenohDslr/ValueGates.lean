import ZenohDslr.Differences
import ZenohDslr.ImageCdr
import ZenohDslr.Binary32
namespace ZenohDslr.Verifier
open AlignedBytes

-- TEMP_EXPECT, TEMP_TOL and CHATTER_EXPECT of the environment; the numbers are
-- those nearest to 48.3 and 0.2.
structure ExpectedValues where
  temperature : Double := ⟨0x4048266666666666⟩
  tolerance : Double := ⟨0x3fc999999999999a⟩
  chatter : String := "hello from pico-ros-py"

-- The exits of `fail` in the two gates, with the values its texts show.
inductive ValueFailure
  | badHeader (got : List UInt8)
  | float32Length (got : Nat)
  | outside (value : Double)
  | shortBuffer (got : Nat)
  | shortBody (declared present : Nat)
  | unterminated (last : List UInt8)
  | unexpected (text : String)
  deriving DecidableEq,Repr

-- `assert_string` has no handler, so its decode raises past it.
inductive ValueRaised
  | exit (failure : ValueFailure)
  | unicodeDecodeError
  deriving DecidableEq,Repr

-- `struct.unpack("<f", ..)[0]`
def unpackFloat (bytes : List UInt8) : Double := (Binary32.mk (UInt32.ofNat (fromLittleEndian bytes))).widen

def assertFloat32 (expected : ExpectedValues) (buf : List UInt8) : Except ValueRaised Unit :=
  if slice buf 0 4 ≠ cdrLeHeader then .error (.exit (.badHeader (slice buf 0 4)))
  else if buf.length ≠ 8 then .error (.exit (.float32Length buf.length))
  else
    let value := unpackFloat (slice buf 4 4)
    if Double.exceeds (Double.minus value expected.temperature) expected.tolerance then .error (.exit (.outside value))
    else .ok ()

def startsWith (text front : String) : Bool := front.toList.isPrefixOf text.toList

def assertString (expected : ExpectedValues) (buf : List UInt8) : Except ValueRaised Unit :=
  if slice buf 0 4 ≠ cdrLeHeader then .error (.exit (.badHeader (slice buf 0 4)))
  else if buf.length < 8 then .error (.exit (.shortBuffer buf.length))
  else
    let length := fromLittleEndian (slice buf 4 4)
    let body := slice buf 8 length
    if body.length ≠ length then .error (.exit (.shortBody length body.length))
    else if length = 0 ∨ body.getLast? ≠ some 0 then .error (.exit (.unterminated body.getLast?.toList))
    else
      match String.fromUTF8? body.dropLast.toByteArray with
      | none => .error .unicodeDecodeError
      | some text => if startsWith text expected.chatter then .ok () else .error (.exit (.unexpected text))

-- The reference encodings of std_msgs/msg/Float32 and std_msgs/msg/String.
def encodeFloat32 (padding : Nat → UInt8) (data : Binary32) : List UInt8 := cdrLeHeader ++ putPrimitive padding 4 data.bits.toNat []

def encodeString (padding : Nat → UInt8) (data : String) : Option (List UInt8) := (putString padding data []).map (cdrLeHeader ++ ·)

end ZenohDslr.Verifier
