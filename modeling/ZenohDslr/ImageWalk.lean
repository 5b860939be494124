import ZenohDslr.ImageCdr
namespace ZenohDslr.Verifier
open AlignedBytes

variable {padding : Nat → UInt8} {out next whole body buf : List UInt8} {size value : Nat} {text : String} {expected : Expected}

theorem align_length (padding : Nat → UInt8) : align out.length size = (fill padding size out).length := by
  rw [fill_length]
  rfl

theorem align_one (pos : Nat) : align pos 1 = pos := by simp [align,Nat.mod_one]

@[simp] theorem putPrimitive_length : (putPrimitive padding size value out).length = align out.length size + size := by
  simp [putPrimitive,align,gap]

theorem putPrimitive_extends : out <+: putPrimitive padding size value out :=
  prefix_fill.trans (List.prefix_append _ _)

theorem unpackFrom_primitive (fits : value < 256 ^ size) (there : putPrimitive padding size value out <+: whole) :
    unpackFrom size whole (align out.length size) = .ok value := by
  have room := room_after there
  have found := slice_after there
  simp only [littleEndian_length] at room found
  rw [align_length padding,unpackFrom,if_neg (by omega),found,from_littleEndian size value fits]

theorem putLength_written (written : putLength padding value out = some next) :
    value < 256 ^ 4 ∧ next = putPrimitive padding 4 value out := by
  unfold putLength at written
  split at written
  · rename_i fits
    exact ⟨fits,(Option.some.inj written).symm⟩
  · cases written

theorem decodeUtf8_utf8 (text : String) : decodeUtf8 (utf8 text) = .ok text := by
  have same : (utf8 text).toByteArray = text.toByteArray := ByteArray.ext (by simp [utf8])
  have valid : text.toByteArray.IsValidUTF8 := text.isValidUTF8
  simp [decodeUtf8,same,String.fromUTF8?,valid,String.fromUTF8]

theorem putString_extends (written : putString padding text out = some next) : out <+: next := by
  obtain ⟨sized,first,rest⟩ := Option.bind_eq_some_iff.mp written
  obtain ⟨_,rfl⟩ := putLength_written first
  cases rest
  exact putPrimitive_extends.trans (List.prefix_append _ _)

-- The terminator goes on writing and is stripped on reading, once: a text that
-- itself ends in a NUL keeps it.
theorem readCdrString_written (written : putString padding text out = some next) (there : next <+: whole) :
    readCdrString whole out.length = .ok (text,next.length) := by
  obtain ⟨sized,first,rest⟩ := Option.bind_eq_some_iff.mp written
  obtain ⟨fits,rfl⟩ := putLength_written first
  cases rest
  have prefixed := unpackFrom_primitive fits ((List.prefix_append _ _).trans there)
  have found := slice_after there
  simp only [List.length_append,List.length_singleton,putPrimitive_length] at found
  simp [readCdrString,prefixed,found,decodeUtf8_utf8,bind,Except.bind,pure,Except.pure,Nat.add_assoc]

-- What the encoder had written behind each of its two strings, and in the end.
theorem encodeBody_stages {message : Image} (written : encodeBody padding message = some body) : ∃ framed coded,
    putString padding message.frameId (putPrimitive padding 4 message.nanosec.toNat
      (putPrimitive padding 4 message.sec.toUInt32.toNat [])) = some framed ∧
    putString padding message.encoding (putPrimitive padding 4 message.width.toNat
      (putPrimitive padding 4 message.height.toNat framed)) = some coded ∧
    message.data.length < 256 ^ 4 ∧
    body = putPrimitive padding 4 message.data.length (putPrimitive padding 4 message.step.toNat
      (putPrimitive padding 1 message.isBigendian.toNat coded)) ++ message.data := by
  obtain ⟨framed,frameWritten,afterFrame⟩ := Option.bind_eq_some_iff.mp written
  obtain ⟨coded,codeWritten,afterCode⟩ := Option.bind_eq_some_iff.mp afterFrame
  obtain ⟨sized,sizeWritten,finished⟩ := Option.bind_eq_some_iff.mp afterCode
  obtain ⟨dataFits,rfl⟩ := putLength_written sizeWritten
  cases finished
  exact ⟨framed,coded,frameWritten,codeWritten,dataFits,rfl⟩

-- The nine fields in their order, each read where the one before it ends. Every
-- stage of the encoder is a prefix of the body, so each read finds its field.
theorem walk_encoded {message : Image} (written : encodeBody padding message = some body) :
    ∃ pos, body.length = pos + message.data.length ∧
      walk body = .ok ⟨message.frameId,message.height.toNat,message.width.toNat,message.encoding,
        message.isBigendian.toNat,message.step.toNat,message.data.length,pos⟩ := by
  obtain ⟨framed,coded,frameWritten,codeWritten,dataFits,rfl⟩ := encodeBody_stages written
  have dataThere := List.prefix_append (putPrimitive padding 4 message.data.length (putPrimitive padding 4 message.step.toNat
    (putPrimitive padding 1 message.isBigendian.toNat coded))) message.data
  have stepThere := putPrimitive_extends.trans dataThere
  have bigendianThere := putPrimitive_extends.trans stepThere
  have codeThere := putPrimitive_extends.trans bigendianThere
  have widthThere := (putString_extends codeWritten).trans codeThere
  have heightThere := putPrimitive_extends.trans widthThere
  have frameThere := putPrimitive_extends.trans heightThere
  have frameRead := readCdrString_written frameWritten frameThere
  have heightRead := unpackFrom_primitive message.height.toNat_lt heightThere
  have widthRead := unpackFrom_primitive message.width.toNat_lt widthThere
  have codeRead := readCdrString_written codeWritten codeThere
  have bigendianRead := unpackFrom_primitive message.isBigendian.toNat_lt bigendianThere
  have stepRead := unpackFrom_primitive message.step.toNat_lt stepThere
  have dataRead := unpackFrom_primitive dataFits dataThere
  refine ⟨_,List.length_append,?_⟩
  simp only [putPrimitive_length,align_one,List.length_nil] at frameRead heightRead widthRead codeRead bigendianRead stepRead dataRead ⊢
  simp [walk,frameRead,heightRead,widthRead,codeRead,bigendianRead,stepRead,dataRead,bind,Except.bind,pure,Except.pure]

-- What the checks behind the walk leave.
structure Judged (expected : Expected) (body : List UInt8) (seen : Walked) : Prop where
  present : seen.pos + seen.dataLen ≤ body.length
  width : (seen.width : Int) = expected.width
  height : (seen.height : Int) = expected.height
  encoding : seen.encoding = expected.encoding
  step : (seen.step : Int) = expected.step
  filled : seen.dataLen = seen.step * seen.height

theorem assertImage_ok : assertImage expected buf = .ok () ↔
    slice buf 0 4 = cdrLeHeader ∧ ∃ seen, walk (buf.drop 4) = .ok seen ∧ Judged expected (buf.drop 4) seen := by
  unfold assertImage
  by_cases header : slice buf 0 4 = cdrLeHeader
  · rw [if_neg (not_not.mpr header)]
    dsimp only
    cases walked : walk (buf.drop 4) with
    | error raised => cases raised <;> simp
    | ok seen =>
      constructor
      · intro passed
        refine ⟨header,seen,rfl,?_⟩
        dsimp only at passed
        split_ifs at passed with short width height encoding step filled
        exact ⟨by omega,not_not.mp width,not_not.mp height,not_not.mp encoding,not_not.mp step,not_not.mp filled⟩
      · rintro ⟨_,_,same,judged⟩
        cases same
        have present := judged.present
        have enough : ¬ ((buf.drop 4).length : Int) - seen.pos < seen.dataLen := by omega
        have filled : ¬ seen.dataLen ≠ seen.step * seen.height := not_not.mpr judged.filled
        simp only [enough,filled,if_false,judged.width,judged.height,judged.encoding,judged.step,ne_eq,not_true_eq_false]
  · simp [header]

structure Accepted (expected : Expected) (message : Image) : Prop where
  width : (message.width.toNat : Int) = expected.width
  height : (message.height.toNat : Int) = expected.height
  encoding : message.encoding = expected.encoding
  step : (message.step.toNat : Int) = expected.step
  filled : message.data.length = message.step.toNat * message.height.toNat

theorem assertImage_encoded {message : Image} (expected : Expected) (written : encodeBody padding message = some body) :
    assertImage expected (cdrLeHeader ++ body) = .ok () ↔ Accepted expected message := by
  obtain ⟨pos,length,walked⟩ := walk_encoded written
  have behind : (cdrLeHeader ++ body).drop 4 = body := rfl
  rw [assertImage_ok,behind]
  constructor
  · rintro ⟨_,seen,same,judged⟩
    cases walked.symm.trans same
    exact ⟨judged.width,judged.height,judged.encoding,judged.step,judged.filled⟩
  · intro accepted
    exact ⟨rfl,_,walked,Nat.le_of_eq length.symm,accepted.width,accepted.height,accepted.encoding,accepted.step,accepted.filled⟩

theorem putString_defined (padding : Nat → UInt8) (text : String) (out : List UInt8) :
    (putString padding text out).isSome = true ↔ (utf8 text).length + 1 < 256 ^ 4 := by
  by_cases fits : (utf8 text).length + 1 < 256 ^ 4
  · simp only [putString,putLength,fits]
    simp
  · simp only [putString,putLength,fits]
    simp

-- The format itself bounds what can be sent: three uint32 length prefixes.
theorem encodeBody_defined (message : Image) : (encodeBody padding message).isSome = true ↔
    (utf8 message.frameId).length + 1 < 256 ^ 4 ∧ (utf8 message.encoding).length + 1 < 256 ^ 4 ∧
      message.data.length < 256 ^ 4 := by
  constructor
  · intro defined
    obtain ⟨body,written⟩ := Option.isSome_iff_exists.mp defined
    obtain ⟨framed,coded,frameWritten,codeWritten,dataFits,_⟩ := encodeBody_stages written
    exact ⟨(putString_defined _ _ _).mp (Option.isSome_iff_exists.mpr ⟨framed,frameWritten⟩),
      (putString_defined _ _ _).mp (Option.isSome_iff_exists.mpr ⟨coded,codeWritten⟩),dataFits⟩
  · intro sizes
    obtain ⟨frameFits,codeFits,dataFits⟩ := sizes
    obtain ⟨framed,frameWritten⟩ := Option.isSome_iff_exists.mp
      ((putString_defined padding _ (putPrimitive padding 4 message.nanosec.toNat
        (putPrimitive padding 4 message.sec.toUInt32.toNat []))).mpr frameFits)
    obtain ⟨coded,codeWritten⟩ := Option.isSome_iff_exists.mp
      ((putString_defined padding _ (putPrimitive padding 4 message.width.toNat
        (putPrimitive padding 4 message.height.toNat framed))).mpr codeFits)
    simp only [encodeBody,frameWritten,codeWritten,Option.bind_eq_bind,Option.bind_some,putLength,if_pos dataFits]
    rfl

theorem walk_inverts_encode (padding : Nat → UInt8) (message : Image) :
    ((encode padding message).isSome = true ↔ (utf8 message.frameId).length + 1 < 256 ^ 4 ∧
      (utf8 message.encoding).length + 1 < 256 ^ 4 ∧ message.data.length < 256 ^ 4) ∧
    ∀ buf, encode padding message = some buf →
      (∃ pos, walk (buf.drop 4) = .ok ⟨message.frameId,message.height.toNat,message.width.toNat,message.encoding,
        message.isBigendian.toNat,message.step.toNat,message.data.length,pos⟩) ∧
      ∀ expected, assertImage expected buf = .ok () ↔
        (message.width.toNat : Int) = expected.width ∧ (message.height.toNat : Int) = expected.height ∧
          message.encoding = expected.encoding ∧ (message.step.toNat : Int) = expected.step ∧
          message.data.length = message.step.toNat * message.height.toNat := by
  constructor
  · simpa [encode] using encodeBody_defined message
  · intro buf encoded
    obtain ⟨body,written,rfl⟩ := Option.map_eq_some_iff.mp encoded
    obtain ⟨pos,_,walked⟩ := walk_encoded written
    refine ⟨⟨pos,walked⟩,?_⟩
    intro expected
    rw [assertImage_encoded expected written]
    constructor
    · intro accepted
      exact ⟨accepted.width,accepted.height,accepted.encoding,accepted.step,accepted.filled⟩
    · intro given
      obtain ⟨width,height,encoding,step,filled⟩ := given
      exact ⟨width,height,encoding,step,filled⟩

end ZenohDslr.Verifier
