import ZenohDslr.ImageWalk
namespace ZenohDslr.Verifier
open AlignedBytes Fallible

variable {buf body whole raw : List UInt8} {width pos stop value length : Nat} {text : String} {seen : Walked} {expected : Expected}

theorem slice_length : (slice body pos length).length = min length (body.length - pos) := by simp [slice]

theorem unpackFrom_ok : unpackFrom width body pos = .ok value ↔
    pos + width ≤ body.length ∧ fromLittleEndian (slice body pos width) = value := by
  unfold unpackFrom
  split
  · next short => simp [short]
  · next room => simp [Nat.not_lt.mp room]

theorem decodeUtf8_ok : decodeUtf8 raw = .ok text ↔ utf8 text = raw := by
  constructor
  · intro decoded
    unfold decodeUtf8 String.fromUTF8? at decoded
    split at decoded
    · next found =>
      cases decoded
      split at found
      · cases found
        simp [utf8,String.fromUTF8]
      · cases found
    · cases decoded
  · intro same
    rw [← same]
    exact decodeUtf8_utf8 text

-- The declared length of a string field, its bytes and what is decoded of them,
-- by the offset of the length prefix.
def declared (body : List UInt8) (pos : Nat) : Nat := fromLittleEndian (slice body pos 4)

def field (body : List UInt8) (pos : Nat) : List UInt8 := slice body (pos + 4) (declared body pos)

def content (raw : List UInt8) : List UInt8 := if raw.getLast? = some 0 then raw.dropLast else raw

-- What the string reader has seen where it returns.
structure StringAt (body : List UInt8) (pos : Nat) (text : String) (stop : Nat) : Prop where
  counted : align pos 4 + 4 ≤ body.length
  ends : align pos 4 + 4 + declared body (align pos 4) = stop
  room : stop ≤ body.length
  decoded : utf8 text = content (field body (align pos 4))

theorem field_length (ends : pos + 4 + declared body pos ≤ body.length) : (field body pos).length = declared body pos := by
  rw [field,slice_length]
  omega

theorem decode_content {γ : Type} (next : String → Except Raised γ) :
    (if raw.length ≠ 0 ∧ raw.getLast? = some 0 then decodeUtf8 raw.dropLast >>= next else decodeUtf8 raw >>= next) =
      decodeUtf8 (content raw) >>= next := by
  unfold content
  by_cases last : raw.getLast? = some 0
  · have some : raw.length ≠ 0 := by
      intro none
      simp [List.length_eq_zero_iff.mp none] at last
    rw [if_pos ⟨some,last⟩,if_pos last]
  · rw [if_neg fun both => last both.2,if_neg last]

theorem readCdrString_present (ends : align pos 4 + 4 + declared body (align pos 4) ≤ body.length) :
    readCdrString body pos = decodeUtf8 (content (field body (align pos 4))) >>= fun text =>
      .ok (text,align pos 4 + 4 + declared body (align pos 4)) := by
  have prefixed : unpackFrom 4 body (align pos 4) = .ok (declared body (align pos 4)) := unpackFrom_ok.mpr ⟨by omega,rfl⟩
  have present : (field body (align pos 4)).length = declared body (align pos 4) := field_length ends
  rw [← decode_content,present]
  simp only [readCdrString,prefixed,bind,Except.bind]
  exact if_neg (not_not.mpr present)

theorem readCdrString_ok : readCdrString body pos = .ok (text,stop) ↔ StringAt body pos text stop := by
  constructor
  · intro read
    have room : align pos 4 + 4 + declared body (align pos 4) ≤ body.length := by
      obtain ⟨length,prefixed,rest⟩ := bind_ok.mp read
      obtain ⟨counted,rfl⟩ := unpackFrom_ok.mp prefixed
      by_contra short
      have absent : (slice body (align pos 4 + 4) (declared body (align pos 4))).length ≠ declared body (align pos 4) := by
        rw [slice_length]
        omega
      cases (if_pos absent).symm.trans rest
    rw [readCdrString_present room] at read
    obtain ⟨decoded,here,done⟩ := bind_ok.mp read
    cases done
    exact ⟨by omega,rfl,room,decodeUtf8_ok.mp here⟩
  · intro seen
    have ends := seen.ends
    have room := seen.room
    rw [readCdrString_present (by omega),decodeUtf8_ok.mpr seen.decoded]
    simp [bind,Except.bind,ends]

-- The walk field by field, each offset where the source has it.
structure Fields (body : List UInt8) (seen : Walked) (framed coded : Nat) : Prop where
  frameId : StringAt body 8 seen.frameId framed
  height : unpackFrom 4 body (align framed 4) = .ok seen.height
  width : unpackFrom 4 body (align framed 4 + 4) = .ok seen.width
  encoding : StringAt body (align framed 4 + 8) seen.encoding coded
  isBigendian : unpackFrom 1 body coded = .ok seen.isBigendian
  step : unpackFrom 4 body (align (coded + 1) 4) = .ok seen.step
  dataLen : unpackFrom 4 body (align (coded + 1) 4 + 4) = .ok seen.dataLen
  pos : align (coded + 1) 4 + 8 = seen.pos

theorem align_idle : align (align pos 4 + 4) 4 = align pos 4 + 4 := by
  simp only [align]
  omega

theorem walk_ok : walk body = .ok seen ↔ ∃ framed coded, Fields body seen framed coded := by
  constructor
  · intro walked
    have start : align (align 0 4 + 4) 4 + 4 = 8 := rfl
    obtain ⟨⟨frameId,framed⟩,frameRead,walked⟩ := bind_ok.mp walked
    obtain ⟨height,heightRead,walked⟩ := bind_ok.mp walked
    obtain ⟨width,widthRead,walked⟩ := bind_ok.mp walked
    obtain ⟨⟨encoding,coded⟩,codeRead,walked⟩ := bind_ok.mp walked
    obtain ⟨isBigendian,bigendianRead,walked⟩ := bind_ok.mp walked
    obtain ⟨step,stepRead,walked⟩ := bind_ok.mp walked
    obtain ⟨dataLen,dataRead,walked⟩ := bind_ok.mp walked
    cases walked
    rw [start] at frameRead
    rw [align_idle] at widthRead codeRead dataRead
    exact ⟨framed,coded,readCdrString_ok.mp frameRead,heightRead,widthRead,readCdrString_ok.mp codeRead,bigendianRead,
      stepRead,dataRead,by rw [align_idle]⟩
  · rintro ⟨framed,coded,fields⟩
    have frameRead := readCdrString_ok.mpr fields.frameId
    have codeRead := readCdrString_ok.mpr fields.encoding
    have sec : align 0 4 = 0 := rfl
    have nanosec : align 4 4 = 4 := rfl
    simp [walk,sec,nanosec,align_idle,Nat.add_assoc,frameRead,fields.height,fields.width,codeRead,fields.isBigendian,fields.step,
      fields.dataLen,fields.pos,bind,Except.bind,pure,Except.pure]

theorem header_there (there : slice buf 0 4 = cdrLeHeader) : buf = cdrLeHeader ++ buf.drop 4 := by
  rw [← there]
  exact (List.take_append_drop 4 buf).symm

-- More bytes behind what a read has seen change nothing.
theorem slice_grows (longer : body <+: whole) (room : pos + length ≤ body.length) : slice whole pos length = slice body pos length := by
  obtain ⟨rest,rfl⟩ := longer
  have behind : length ≤ (body.drop pos).length := by simp; omega
  rw [slice,List.drop_append_of_le_length (by omega),List.take_append_of_le_length behind]
  rfl

theorem unpackFrom_grows (longer : body <+: whole) (read : unpackFrom width body pos = .ok value) :
    unpackFrom width whole pos = .ok value := by
  obtain ⟨room,same⟩ := unpackFrom_ok.mp read
  have length := longer.length_le
  exact unpackFrom_ok.mpr ⟨by omega,by rw [slice_grows longer room]; exact same⟩

theorem stringAt_grows (longer : body <+: whole) (read : StringAt body pos text stop) : StringAt whole pos text stop := by
  have counted := read.counted
  have ends := read.ends
  have room := read.room
  have length := longer.length_le
  have same : declared whole (align pos 4) = declared body (align pos 4) := by rw [declared,slice_grows longer counted]; rfl
  have bytes : field whole (align pos 4) = field body (align pos 4) := by
    rw [field,same,slice_grows longer (by omega)]
    rfl
  exact ⟨by omega,by rw [same]; exact ends,by omega,by rw [bytes]; exact read.decoded⟩

theorem walk_grows (longer : body <+: whole) (walked : walk body = .ok seen) : walk whole = .ok seen := by
  obtain ⟨framed,coded,fields⟩ := walk_ok.mp walked
  exact walk_ok.mpr ⟨framed,coded,stringAt_grows longer fields.frameId,unpackFrom_grows longer fields.height,
    unpackFrom_grows longer fields.width,stringAt_grows longer fields.encoding,unpackFrom_grows longer fields.isBigendian,
    unpackFrom_grows longer fields.step,unpackFrom_grows longer fields.dataLen,fields.pos⟩

theorem judged_grows (longer : body <+: whole) (judged : Judged expected body seen) : Judged expected whole seen :=
  {judged with present := judged.present.trans longer.length_le}

end ZenohDslr.Verifier
