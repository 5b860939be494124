import ZenohDslr.ImageRestored
import ZenohDslr.ValueGates
namespace ZenohDslr.Verifier
open AlignedBytes

variable {padding : Nat → UInt8} {values : ExpectedValues} {buf : List UInt8} {value : Nat} {data : Binary32}

-- What the two gates are to tell of a buffer: the encoding of a number within the
-- tolerance, and of a text with the greeting in front.
def EncodesFloat32 (values : ExpectedValues) (buf : List UInt8) : Prop :=
  ∃ padding data, buf = encodeFloat32 padding data ∧
    Within data.exact values.temperature.exact values.tolerance.exact

def EncodesString (values : ExpectedValues) (buf : List UInt8) : Prop :=
  ∃ padding data encoding, encodeString padding data = some encoding ∧ encoding <+: buf ∧
    startsWith data values.chatter = true

theorem putPrimitive_first : putPrimitive padding 4 value [] = littleEndian 4 value := rfl

theorem unpackFloat_encoded (data : Binary32) : unpackFloat (littleEndian 4 data.bits.toNat) = data.widen := by
  rw [unpackFloat,from_littleEndian 4 _ data.bits.toNat_lt,UInt32.ofNat_toNat]

theorem assertFloat32_ok : assertFloat32 values buf = .ok () ↔ slice buf 0 4 = cdrLeHeader ∧ buf.length = 8 ∧
    Double.exceeds (Double.minus (unpackFloat (slice buf 4 4)) values.temperature) values.tolerance = false := by
  unfold assertFloat32
  dsimp only
  split_ifs with header length outside <;> simp_all

-- Eight bytes behind the header are the encoding of the number read from them.
theorem float32_restored (header : slice buf 0 4 = cdrLeHeader) (length : buf.length = 8) :
    buf = encodeFloat32 padding ⟨UInt32.ofNat (fromLittleEndian (slice buf 4 4))⟩ := by
  have four : (slice buf 4 4).length = 4 := by simp [slice,length]
  have bound := fromLittleEndian_lt (slice buf 4 4)
  have bytes := littleEndian_from (slice buf 4 4)
  rw [four] at bound bytes
  have word : (UInt32.ofNat (fromLittleEndian (slice buf 4 4))).toNat = fromLittleEndian (slice buf 4 4) := by
    simp only [UInt32.toNat_ofNat']
    omega
  have behind : slice buf 4 4 = buf.drop 4 := List.take_of_length_le (by simp [length])
  rw [encodeFloat32,putPrimitive_first,word,bytes,behind]
  exact header_there header

theorem float32_sound_iff (accepted : assertFloat32 values buf = .ok ()) : EncodesFloat32 values buf ↔
    Double.Comparable (unpackFloat (slice buf 4 4)) values.temperature values.tolerance := by
  obtain ⟨header,length,passes⟩ := assertFloat32_ok.mp accepted
  rw [← Double.within_iff passes]
  constructor
  · rintro ⟨padding,data,rfl,within⟩
    have read : slice (encodeFloat32 padding data) 4 4 = littleEndian 4 data.bits.toNat := rfl
    rwa [read,unpackFloat_encoded,Binary32.widen_exact]
  · intro within
    rw [unpackFloat,Binary32.widen_exact] at within
    exact ⟨fun _ => 0,_,float32_restored header length,within⟩

theorem assertString_ok (accepted : assertString values buf = .ok ()) : slice buf 0 4 = cdrLeHeader ∧ 8 ≤ buf.length ∧
    (field (buf.drop 4) 0).length = declared (buf.drop 4) 0 ∧ terminated (buf.drop 4) 0 = true ∧
    ∃ text, utf8 text = (field (buf.drop 4) 0).dropLast ∧ startsWith text values.chatter = true := by
  have prefixed : slice buf 4 4 = slice (buf.drop 4) 0 4 := rfl
  have body : slice buf 8 (fromLittleEndian (slice buf 4 4)) = field (buf.drop 4) 0 := by
    simp [field,declared,slice,List.drop_drop]
  unfold assertString at accepted
  dsimp only at accepted
  rw [body] at accepted
  split_ifs at accepted with header short present open_
  have last : (field (buf.drop 4) 0).getLast? = some 0 := by
    by_contra other
    exact open_ (.inr other)
  cases found : String.fromUTF8? (field (buf.drop 4) 0).dropLast.toByteArray with
  | none => simp [found] at accepted
  | some text =>
    have decoded : decodeUtf8 (field (buf.drop 4) 0).dropLast = .ok text := by simp [decodeUtf8,found]
    have starts : startsWith text values.chatter = true := by
      by_contra other
      simp [found,other] at accepted
    exact ⟨not_not.mp header,Nat.not_lt.mp short,not_not.mp present,by simp [terminated,last],text,decodeUtf8_ok.mp decoded,starts⟩

-- The string gate reads as the reader of the Image gate does, and asks for the NUL.
theorem string_sound (accepted : assertString values buf = .ok ()) : EncodesString values buf := by
  obtain ⟨header,length,present,nul,text,decoded,starts⟩ := assertString_ok accepted
  have last : (field (buf.drop 4) 0).getLast? = some 0 := by simpa [terminated] using nul
  have counted : 4 ≤ (buf.drop 4).length := by
    simp only [List.length_drop]
    omega
  have read : StringAt (buf.drop 4) 0 text (4 + declared (buf.drop 4) 0) := by
    refine ⟨counted,rfl,?_,?_⟩
    · rw [field,slice_length] at present
      omega
    · change utf8 text = content (field (buf.drop 4) 0)
      rw [decoded,content,if_pos last]
  have written := putString_copied read nul
  refine ⟨copied (buf.drop 4),text,_,by rw [encodeString]; exact congrArg _ written,?_,starts⟩
  have front := (List.prefix_append_right_inj cdrLeHeader).mpr (List.take_prefix (4 + declared (buf.drop 4) 0) (buf.drop 4))
  rwa [← header_there header] at front

-- A buffer a gate lets pass is the encoding it looks for: of a String always, of a
-- Float32 when no NaN and no rounding was in the comparison, and of an Image when
-- its two strings end in NUL.
theorem gates_sound_iff (values : ExpectedValues) (expected : Expected) (buf : List UInt8) :
    (assertFloat32 values buf = .ok () → (EncodesFloat32 values buf ↔
      Double.Comparable (unpackFloat (slice buf 4 4)) values.temperature values.tolerance)) ∧
    (assertString values buf = .ok () → EncodesString values buf) ∧
    (assertImage expected buf = .ok () → (Encodes expected buf ↔ Terminated buf)) :=
  ⟨float32_sound_iff,string_sound,fun accepted => ⟨terminated_of_encodes,encodes_of_terminated accepted⟩⟩

-- The quiet NaN.
def nanBuffer : List UInt8 := [0,1,0,0,0,0,0xc0,0x7f]

-- One rgb8 pixel; the frame_id is of length 0 and the encoding of length 4.
def openImage : List UInt8 :=
  [0,1,0,0] ++ [0,0,0,0] ++ [0,0,0,0] ++ [0,0,0,0] ++ [1,0,0,0] ++ [1,0,0,0] ++ [4,0,0,0] ++ [114,103,98,56] ++ [0,0,0,0] ++
    [3,0,0,0] ++ [3,0,0,0] ++ [7,7,7]

theorem nan_and_open_strings_pass :
    (assertFloat32 {} nanBuffer = .ok () ∧ ¬ EncodesFloat32 {} nanBuffer) ∧
    assertImage {width := 1, height := 1, step := 3} openImage = .ok () ∧
      ¬ Encodes {width := 1, height := 1, step := 3} openImage := by
  have passes : assertFloat32 {} nanBuffer = .ok () := by decide +kernel
  refine ⟨⟨passes,fun encodes => ?_⟩,by decide +kernel,fun encodes => ?_⟩
  · have number := ((float32_sound_iff passes).mp encodes).left
    have nan : (unpackFloat (slice nanBuffer 4 4)).isNaN = true := by decide +kernel
    simp [nan] at number
  · have nul := (terminated_of_encodes encodes).frameId
    have open_ : terminated (openImage.drop 4) 8 = false := by decide +kernel
    simp [open_] at nul

end ZenohDslr.Verifier
