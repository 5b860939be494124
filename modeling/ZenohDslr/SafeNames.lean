import ZenohDslr.Collapsing
import ZenohDslr.PyText
namespace ZenohDslr.SafeNames

variable {c : Char}

-- `[0-9]`, `[A-Za-z0-9]` and `[A-Za-z0-9_]`.
def digit (c : Char) : Bool := '0' ≤ c && c ≤ '9'

def alphanumeric (c : Char) : Bool := ('A' ≤ c && c ≤ 'Z') || ('a' ≤ c && c ≤ 'z') || digit c

def wordChar (c : Char) : Bool := alphanumeric c || c == '_'

-- `re.sub(r"[^...]+", "_", value.strip()).strip("_") or fallback`
def cleaned (keep : Char → Bool) (fallback value : String) : String :=
  String.ofList (Collapsing.sanitized PyText.isSpace keep '_' fallback.toList value.toList)

def slugifyCameraName (value : String) : String := cleaned alphanumeric "dslr" value

def ros2SafeName (value : String) : String := cleaned wordChar "device" value

inductive Sanitizer where
  | slugifyCameraName
  | ros2SafeName
deriving DecidableEq

def Sanitizer.run : Sanitizer → String → String
  | .slugifyCameraName => SafeNames.slugifyCameraName
  | .ros2SafeName => SafeNames.ros2SafeName

theorem alphanumeric_wordChar (plain : alphanumeric c = true) : wordChar c = true := by simp [wordChar,plain]

theorem wordChar_solid (word : wordChar c = true) : PyText.isSpace c = false := by
  have low : ∀ d e : Char, d ≤ e ↔ d.toNat ≤ e.toNat := fun d e => Iff.rfl
  have range : 48 ≤ c.toNat ∧ c.toNat ≤ 122 := by
    simp only [wordChar,alphanumeric,digit,Bool.or_eq_true,Bool.and_eq_true,decide_eq_true_eq,beq_iff_eq,low] at word
    rcases word with ((upper | lower) | number) | rfl
    · simpa using ⟨Nat.le_trans (by decide) upper.1,Nat.le_trans upper.2 (by decide)⟩
    · simpa using ⟨Nat.le_trans (by decide) lower.1,Nat.le_trans lower.2 (by decide)⟩
    · simpa using ⟨Nat.le_trans (by decide) number.1,Nat.le_trans number.2 (by decide)⟩
    · decide
  simp only [PyText.isSpace,Bool.or_eq_false_iff,Bool.and_eq_false_iff,decide_eq_false_iff_not,beq_eq_false_iff_ne]
  omega

theorem solid_of_drawn {keep : Char → Bool} (narrow : ∀ c, keep c = true → wordChar c = true)
    (drawn : keep c = true ∨ c = '_') : PyText.isSpace c = false := by
  rcases drawn with kept | rfl
  · exact wordChar_solid (narrow c kept)
  · decide

theorem slug_clean (s : String) : Collapsing.Clean alphanumeric '_' (slugifyCameraName s).toList := by
  rw [slugifyCameraName,cleaned,String.toList_ofList]
  exact Collapsing.sanitized_clean (Collapsing.clean_of_kept (by decide) (by decide) (by decide)) _

theorem safe_clean (s : String) : Collapsing.Clean wordChar '_' (ros2SafeName s).toList := by
  rw [ros2SafeName,cleaned,String.toList_ofList]
  exact Collapsing.sanitized_clean (Collapsing.clean_of_kept (by decide) (by decide) (by decide)) _

theorem cleaned_of_clean {keep : Char → Bool} {fallback s : String} (narrow : ∀ c, keep c = true → wordChar c = true)
    (clean : Collapsing.Clean keep '_' s.toList) : cleaned keep fallback s = s := by
  rw [cleaned,Collapsing.sanitized_of_clean (fun c => solid_of_drawn narrow) clean,String.ofList_toList]

theorem slug_slug (s : String) : slugifyCameraName (slugifyCameraName s) = slugifyCameraName s :=
  cleaned_of_clean (fun _ => alphanumeric_wordChar) (slug_clean s)

theorem safe_safe (s : String) : ros2SafeName (ros2SafeName s) = ros2SafeName s :=
  cleaned_of_clean (fun _ word => word) (safe_clean s)

-- What one of them keeps the other keeps too.
theorem safe_slug (s : String) : ros2SafeName (slugifyCameraName s) = slugifyCameraName s :=
  cleaned_of_clean (fun _ word => word) ((slug_clean s).mono (fun _ => alphanumeric_wordChar))

theorem runs_slug (again : List Sanitizer) (s : String) :
    again.foldl (fun name sanitizer => sanitizer.run name) (slugifyCameraName s) = slugifyCameraName s := by
  induction again with
  | nil => rfl
  | cons first rest ih =>
    have once : first.run (slugifyCameraName s) = slugifyCameraName s := by
      cases first with
      | slugifyCameraName => exact slug_slug s
      | ros2SafeName => exact safe_slug s
    rw [List.foldl_cons,once,ih]

theorem sanitizers_stable (s : String) :
    ros2SafeName (ros2SafeName s) = ros2SafeName s ∧ slugifyCameraName (slugifyCameraName s) = slugifyCameraName s ∧
      ros2SafeName (slugifyCameraName s) = slugifyCameraName s ∧ (slugifyCameraName s).toList.head? ≠ some '_' ∧
      (slugifyCameraName s).toList.getLast? ≠ some '_' ∧ ¬['_','_'] <:+: (slugifyCameraName s).toList ∧
      ∀ again : List Sanitizer,
        again.foldl (fun name sanitizer => sanitizer.run name) (slugifyCameraName s) = slugifyCameraName s := by
  have clean := slug_clean s
  exact ⟨safe_safe s,slug_slug s,safe_slug s,clean.head,clean.last,clean.toSettled.single (by decide),fun again => runs_slug again s⟩

end ZenohDslr.SafeNames
