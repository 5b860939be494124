import ZenohDslr.ImageFields
namespace ZenohDslr.Verifier
open AlignedBytes

variable {padding : Nat → UInt8} {message : Image} {expected : Expected} {buf body : List UInt8} {size pos stop framed coded value : Nat}
  {text : String} {seen : Walked}

-- Writing what was read, with the fillers that were there, gives the body back.
theorem putPrimitive_copied (read : unpackFrom size body (align pos size) = .ok value) :
    putPrimitive (copied body) size value (body.take pos) = body.take (align pos size + size) := by
  obtain ⟨room,rfl⟩ := unpackFrom_ok.mp read
  have filled : fill (copied body) size (body.take pos) = body.take (align pos size) :=
    fill_copied (by change align pos size ≤ body.length; omega)
  have length : (slice body (align pos size) size).length = size := by
    rw [slice_length]
    omega
  have bytes := littleEndian_from (slice body (align pos size) size)
  rw [length] at bytes
  rw [putPrimitive,filled,bytes,slice,← List.take_add]

theorem unpackFrom_lt (read : unpackFrom size body pos = .ok value) : value < 256 ^ size := by
  obtain ⟨room,rfl⟩ := unpackFrom_ok.mp read
  have bound := fromLittleEndian_lt (slice body pos size)
  rwa [slice_length,Nat.min_eq_left (by omega)] at bound

theorem putLength_copied (read : unpackFrom 4 body (align pos 4) = .ok value) :
    putLength (copied body) value (body.take pos) = some (body.take (align pos 4 + 4)) := by
  rw [putLength,if_pos (unpackFrom_lt read),putPrimitive_copied read]

-- A string field ends in its NUL, which is within its declared length.
def terminated (body : List UInt8) (pos : Nat) : Bool := (field body pos).getLast? == some 0

theorem putString_copied (read : StringAt body pos text stop) (nul : terminated body (align pos 4) = true) :
    putString (copied body) text (body.take pos) = some (body.take stop) := by
  have ends := read.ends
  have room := read.room
  have last : (field body (align pos 4)).getLast? = some 0 := by simpa [terminated] using nul
  have bytes : utf8 text ++ [0] = field body (align pos 4) := by
    rw [read.decoded,content,if_pos last]
    exact List.dropLast_append_getLast? 0 last
  have length : (utf8 text).length + 1 = declared body (align pos 4) := by
    have whole := congrArg List.length bytes
    rw [field_length (by omega)] at whole
    simpa using whole
  have sized := @putLength_copied body pos _ (unpackFrom_ok.mpr ⟨read.counted,rfl⟩)
  rw [putString,length,declared,sized]
  simp only [Option.bind_eq_bind,Option.bind_some,pure]
  rw [bytes,field,slice,← List.take_add,ends]

-- The message a walked body holds; what the walk does not look at is read here.
def restored (body : List UInt8) (seen : Walked) : Image where
  sec := (UInt32.ofNat (fromLittleEndian (slice body 0 4))).toInt32
  nanosec := UInt32.ofNat (fromLittleEndian (slice body 4 4))
  frameId := seen.frameId
  height := UInt32.ofNat seen.height
  width := UInt32.ofNat seen.width
  encoding := seen.encoding
  isBigendian := UInt8.ofNat seen.isBigendian
  step := UInt32.ofNat seen.step
  data := slice body seen.pos seen.dataLen

theorem word_toNat (read : unpackFrom 4 body pos = .ok value) : (UInt32.ofNat value).toNat = value := by
  have bound := unpackFrom_lt read
  simp only [UInt32.toNat_ofNat']
  omega

theorem align_idle_next : align (align pos 4 + 8) 4 = align pos 4 + 8 := by
  simp only [align]
  omega

theorem encodeBody_restored (fields : Fields body seen framed coded) (present : seen.pos + seen.dataLen ≤ body.length)
    (frameNul : terminated body 8 = true) (codeNul : terminated body (align framed 4 + 8) = true) :
    encodeBody (copied body) (restored body seen) = some (body.take (seen.pos + seen.dataLen)) := by
  have counted : 12 ≤ body.length := fields.frameId.counted
  have sec : unpackFrom 4 body (align 0 4) = .ok (fromLittleEndian (slice body 0 4)) :=
    unpackFrom_ok.mpr ⟨by change 4 ≤ body.length; omega,rfl⟩
  have nanosec : unpackFrom 4 body (align 4 4) = .ok (fromLittleEndian (slice body 4 4)) :=
    unpackFrom_ok.mpr ⟨by change 8 ≤ body.length; omega,rfl⟩
  have secPut : putPrimitive (copied body) 4 (fromLittleEndian (slice body 0 4)) [] = body.take 4 := putPrimitive_copied sec
  have nanosecPut : putPrimitive (copied body) 4 (fromLittleEndian (slice body 4 4)) (body.take 4) = body.take 8 :=
    putPrimitive_copied nanosec
  have framePut := putString_copied fields.frameId frameNul
  have heightPut := putPrimitive_copied fields.height
  have widthPut := @putPrimitive_copied body 4 (align framed 4 + 4) _ (by rw [align_idle]; exact fields.width)
  have codePut := putString_copied fields.encoding (by rw [align_idle_next]; exact codeNul)
  have bigendianPut := @putPrimitive_copied body 1 coded _ (by rw [align_one]; exact fields.isBigendian)
  have stepPut := putPrimitive_copied fields.step
  have dataPut := @putLength_copied body (align (coded + 1) 4 + 4) _ (by rw [align_idle]; exact fields.dataLen)
  have bigendianFits : seen.isBigendian < 256 := unpackFrom_lt fields.isBigendian
  have bigendian : (UInt8.ofNat seen.isBigendian).toNat = seen.isBigendian := by
    simp only [UInt8.toNat_ofNat']
    omega
  have length : (slice body seen.pos seen.dataLen).length = seen.dataLen := by
    rw [slice_length]
    omega
  have pos := fields.pos
  rw [align_one] at bigendianPut
  rw [align_idle] at widthPut dataPut
  simp only [encodeBody,restored,UInt32.toUInt32_toInt32,word_toNat sec,word_toNat nanosec,word_toNat fields.height,
    word_toNat fields.width,word_toNat fields.step,bigendian,length,
    secPut,nanosecPut,framePut,heightPut,widthPut,codePut,bigendianPut,stepPut,dataPut,Option.bind_eq_bind,Option.bind_some]
  have behind : align (coded + 1) 4 + 4 + 4 = seen.pos := by omega
  rw [behind,slice,← List.take_add]
  rfl

-- Both string fields of the buffer end in a NUL; where the second begins is up
-- to the declared length of the first.
def frameEnd (body : List UInt8) : Nat := 12 + declared body 8

structure Terminated (buf : List UInt8) : Prop where
  frameId : terminated (buf.drop 4) 8 = true
  encoding : terminated (buf.drop 4) (align (frameEnd (buf.drop 4)) 4 + 8) = true

-- The buffer is a reference encoding with bytes behind it, and of a message that
-- meets the expectation.
def Encodes (expected : Expected) (buf : List UInt8) : Prop :=
  ∃ padding message encoding, encode padding message = some encoding ∧ encoding <+: buf ∧ Accepted expected message

theorem string_written {out next whole : List UInt8} (written : putString padding text out = some next) (there : next <+: whole) :
    declared whole (align out.length 4) = (utf8 text).length + 1 ∧ terminated whole (align out.length 4) = true ∧
      next.length = align out.length 4 + 4 + ((utf8 text).length + 1) := by
  obtain ⟨sized,first,rest⟩ := Option.bind_eq_some_iff.mp written
  obtain ⟨fits,rfl⟩ := putLength_written first
  cases rest
  have prefixed := (unpackFrom_ok.mp (unpackFrom_primitive fits ((List.prefix_append _ _).trans there))).2
  have found := slice_after there
  simp only [List.length_append,List.length_singleton,putPrimitive_length] at found
  refine ⟨prefixed,?_,by simp⟩
  rw [terminated,field,declared,prefixed,found]
  simp

theorem terminated_of_encodes (encodes : Encodes expected buf) : Terminated buf := by
  obtain ⟨padding,message,encoding,written,⟨rest,rfl⟩,_⟩ := encodes
  obtain ⟨body,encoded,rfl⟩ := Option.map_eq_some_iff.mp written
  obtain ⟨framed,coded,frameWritten,codeWritten,_,whole⟩ := encodeBody_stages encoded
  have codeInside : coded <+: body := by
    rw [whole]
    exact ((putPrimitive_extends.trans putPrimitive_extends).trans putPrimitive_extends).trans (List.prefix_append _ _)
  have codeThere : coded <+: body ++ rest := codeInside.trans (List.prefix_append _ _)
  have frameThere : framed <+: body ++ rest :=
    ((putPrimitive_extends.trans putPrimitive_extends).trans (putString_extends codeWritten)).trans codeThere
  obtain ⟨frameDeclared,frameNul,frameLength⟩ := string_written frameWritten frameThere
  obtain ⟨_,codeNul,_⟩ := string_written codeWritten codeThere
  simp only [putPrimitive_length,List.length_nil] at frameDeclared frameNul frameLength codeNul
  have ends : frameEnd (body ++ rest) = framed.length := by
    rw [frameLength,← frameDeclared]
    rfl
  rw [align_idle,align_idle,← ends] at codeNul
  exact ⟨frameNul,codeNul⟩

theorem encodes_of_terminated (accepted : assertImage expected buf = .ok ()) (nul : Terminated buf) : Encodes expected buf := by
  obtain ⟨header,seen,walked,judged⟩ := assertImage_ok.mp accepted
  obtain ⟨framed,coded,fields⟩ := walk_ok.mp walked
  have framedEnd : frameEnd (buf.drop 4) = framed := fields.frameId.ends
  have written := encodeBody_restored fields judged.present nul.frameId (by rw [← framedEnd]; exact nul.encoding)
  refine ⟨copied (buf.drop 4),restored (buf.drop 4) seen,_,by rw [encode,written]; rfl,?_,?_⟩
  · have split := header_there header
    have front := (List.prefix_append_right_inj cdrLeHeader).mpr (List.take_prefix (seen.pos + seen.dataLen) (buf.drop 4))
    rwa [← split] at front
  · have present := judged.present
    have filled : (restored (buf.drop 4) seen).data.length = seen.dataLen := by
      rw [restored,slice_length]
      omega
    have height : (restored (buf.drop 4) seen).height.toNat = seen.height := word_toNat fields.height
    have width : (restored (buf.drop 4) seen).width.toNat = seen.width := word_toNat fields.width
    have step : (restored (buf.drop 4) seen).step.toNat = seen.step := word_toNat fields.step
    exact ⟨by rw [width]; exact judged.width,by rw [height]; exact judged.height,judged.encoding,
      by rw [step]; exact judged.step,by rw [filled,step,height]; exact judged.filled⟩

end ZenohDslr.Verifier
