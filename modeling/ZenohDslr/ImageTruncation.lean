import ZenohDslr.ImageReads
namespace ZenohDslr.Verifier
open AlignedBytes

variable {padding : Nat → UInt8} {message : Image} {expected : Expected} {buf cut whole : List UInt8}

-- Bytes behind an accepted message are not looked at.
theorem assertImage_grows (longer : buf <+: whole) (accepted : assertImage expected buf = .ok ()) :
    assertImage expected whole = .ok () := by
  obtain ⟨header,seen,walked,judged⟩ := assertImage_ok.mp accepted
  obtain ⟨rest,rfl⟩ := longer
  have split := header_there header
  have behind : (buf ++ rest).drop 4 = buf.drop 4 ++ rest := by
    rw [split]
    rfl
  have first : slice (buf ++ rest) 0 4 = cdrLeHeader := by
    rw [split]
    rfl
  have more : buf.drop 4 <+: (buf ++ rest).drop 4 := by
    rw [behind]
    exact List.prefix_append _ _
  exact assertImage_ok.mpr ⟨first,seen,walk_grows more walked,judged_grows more judged⟩

-- A walk that comes through on a cut encoding has read what the whole one has,
-- and then the data is short.
theorem cut_rejected (written : encode padding message = some buf) (shorter : cut <+: buf) (proper : cut ≠ buf) :
    ¬ assertImage expected cut = .ok () := by
  intro accepted
  obtain ⟨header,seen,walked,judged⟩ := assertImage_ok.mp accepted
  obtain ⟨body,encoded,rfl⟩ := Option.map_eq_some_iff.mp written
  obtain ⟨pos,length,whole⟩ := walk_encoded encoded
  have split := header_there header
  rw [split] at shorter proper
  have inside : cut.drop 4 <+: body := (List.prefix_append_right_inj _).mp shorter
  have same := Except.ok.inj ((walk_grows inside walked).symm.trans whole)
  have present := judged.present
  have missing : (cut.drop 4).length < body.length := by
    refine Nat.lt_of_le_of_ne inside.length_le fun full => proper ?_
    rw [inside.eq_of_length full]
  rw [same] at present
  dsimp only at present
  omega

namespace Recorded
open Attempts

-- The gate on any bytes object: it passes or goes through `fail`, takes no byte
-- outside the body, and a reference encoding that passes does so only whole.
theorem assertImage_total (platform : Platform) (expected : Expected) (buf : Bytes platform) :
    (Passes (assertImage expected buf []) ∨ Fails (assertImage expected buf [])) ∧
    (∀ span ∈ after (assertImage expected buf []), span.start + span.length ≤ (buf.bytes.drop 4).length) ∧
    ∀ padding message, encode padding message = some buf.bytes → Passes (assertImage expected buf []) →
      (∀ cut : Bytes platform, cut.bytes <+: buf.bytes → cut.bytes ≠ buf.bytes → Fails (assertImage expected cut [])) ∧
      ∀ longer : Bytes platform, buf.bytes <+: longer.bytes → Passes (assertImage expected longer []) := by
  refine ⟨?_,?_,?_⟩
  · rw [passes_iff,fails_iff]
    exact Classical.em _
  · obtain ⟨spans,inside,ran⟩ := @assertImage_mirrors platform expected buf
    rw [ran]
    cases Verifier.assertImage expected buf.bytes <;> exact inside
  · intro padding message written passes
    refine ⟨fun cut shorter proper => ?_,fun longer more => ?_⟩
    · exact fails_iff.mpr (cut_rejected written shorter proper)
    · exact passes_iff.mpr (assertImage_grows more (passes_iff.mp passes))

end Recorded
end ZenohDslr.Verifier
