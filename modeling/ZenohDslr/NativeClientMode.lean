import ZenohDslr.PyText
import ZenohDslr.OrderedDict
import ZenohDslr.Writes
namespace ZenohDslr.PiRuntime
open PyText

def overrideVariable : String := "ZENOH_CONFIG_OVERRIDE"

def modeSegment : String := "mode=\"client\""
def gossipSegment : String := "scouting/gossip/enabled=false"
def multicastSegment : String := "scouting/multicast/enabled=false"

def ownedPaths : List String := ["mode","scouting/gossip/enabled","scouting/multicast/enabled"]
def ownedSegments : List String := [modeSegment,gossipSegment,multicastSegment]

-- `part.split("=", 1)[0].strip()`
def pathOf (part : String) : String := strip (String.ofList (part.toList.takeWhile (· ≠ '=')))

def keptParts : List String → List String
  | [] => []
  | raw :: rest =>
    let part := strip raw
    if part = "" then keptParts rest
    else if pathOf part ∈ ownedPaths then keptParts rest
    else part :: keptParts rest

def mergedOverride (existing : String) : String :=
  join ';' (keptParts (split ';' (strip existing)) ++ ownedSegments)

def override (env : OrderedDict String String) : String := (env.get? overrideVariable).getD ""

def forceNativeClientMode (env : OrderedDict String String) : String × OrderedDict String String :=
  let merged := mergedOverride (override env)
  (merged,env.insert overrideVariable merged)

-- The grammar an override is read under: each part is cut at its first '=', and
-- for each path the last part wins. A part without '=' has no value.
def valueOf (part : String) : Option String :=
  if '=' ∈ part.toList then some (String.ofList (part.toList.dropWhile (· ≠ '=')).tail) else none

def reading (s : String) (path : String) : Option (Option String) :=
  Writes.last? ((parts ';' s).map fun part => (pathOf part,valueOf part)) path

theorem keptParts_filter (raws : List String) : keptParts raws =
    ((raws.map strip).filter (· ≠ "")).filter fun part => pathOf part ∉ ownedPaths := by
  induction raws with
  | nil => rfl
  | cons raw rest ih =>
    by_cases empty : strip raw = ""
    · simpa [keptParts,empty] using ih
    · by_cases owned : pathOf (strip raw) ∈ ownedPaths
      · simpa [keptParts,empty,owned] using ih
      · simpa [keptParts,empty,owned] using ih

theorem mergedOverride_join (existing : String) : mergedOverride existing =
    join ';' (((parts ';' existing).filter fun part => pathOf part ∉ ownedPaths) ++ ownedSegments) := by
  have solid : isSpace ';' = false := by decide
  have same := parts_strip solid existing
  unfold parts at same
  rw [mergedOverride,keptParts_filter,same,parts]

theorem owned_segment {part : String} (inside : part ∈ ownedSegments) : Part ';' part ∧ pathOf part ∈ ownedPaths := by
  simp only [ownedSegments,List.mem_cons,List.not_mem_nil,or_false] at inside
  rcases inside with rfl | rfl | rfl
  · exact ⟨⟨by decide,by decide,by decide⟩,by decide⟩
  · exact ⟨⟨by decide,by decide,by decide⟩,by decide⟩
  · exact ⟨⟨by decide,by decide,by decide⟩,by decide⟩

-- Every part joined is a stripped part without separator, so reading the result
-- cuts it back into exactly these parts.
theorem merged_parts (existing : String) : parts ';' (mergedOverride existing) =
    ((parts ';' existing).filter fun part => pathOf part ∉ ownedPaths) ++ ownedSegments := by
  rw [mergedOverride_join]
  apply parts_join
  · simp [ownedSegments]
  · intro part inside
    rcases List.mem_append.mp inside with kept | owned
    · exact part_of_mem (List.mem_filter.mp kept).1
    · exact (owned_segment owned).1

theorem mergedOverride_again (existing : String) : mergedOverride (mergedOverride existing) = mergedOverride existing := by
  have dropped : (ownedSegments.filter fun part => decide (pathOf part ∉ ownedPaths)) = [] := by
    rw [List.filter_eq_nil_iff]
    intro part inside
    simpa using (owned_segment inside).2
  rw [mergedOverride_join (mergedOverride existing),merged_parts,List.filter_append,List.filter_filter,dropped]
  simp [mergedOverride_join]

theorem reading_other (existing : String) {path : String} (free : path ∉ ownedPaths) :
    reading (mergedOverride existing) path = reading existing path := by
  have forced : Writes.last? (ownedSegments.map fun part => (pathOf part,valueOf part)) path = none := by
    apply Writes.last?_absent
    intro write inside same
    obtain ⟨part,there,rfl⟩ := List.mem_map.mp inside
    exact free (same ▸ (owned_segment there).2)
  have kept : Writes.last? (((parts ';' existing).map fun part => (pathOf part,valueOf part)).filter
      fun write => decide (write.1 ∉ ownedPaths)) path = reading existing path := by
    apply Writes.last?_filter
    intro write _ same
    simpa [same] using free
  rw [List.filter_map] at kept
  simpa [reading,merged_parts,Writes.last?_append,forced,Function.comp_def] using kept

-- The owned parts come last, so they win whatever stood before them.
theorem reading_owned (existing : String) {path value : String}
    (forced : Writes.last? (ownedSegments.map fun part => (pathOf part,valueOf part)) path = some (some value)) :
    reading (mergedOverride existing) path = some (some value) := by
  simp [reading,merged_parts,Writes.last?_append,forced]

@[simp] theorem forceNativeClientMode_result (env : OrderedDict String String) :
    (forceNativeClientMode env).1 = mergedOverride (override env) := by
  simp only [forceNativeClientMode]

@[simp] theorem forceNativeClientMode_env (env : OrderedDict String String) :
    (forceNativeClientMode env).2 = env.insert overrideVariable (mergedOverride (override env)) := by
  simp only [forceNativeClientMode]

theorem native_client_mode (env : OrderedDict String String) :
    (reading (forceNativeClientMode env).1 "mode" = some (some "\"client\"") ∧
      reading (forceNativeClientMode env).1 "scouting/gossip/enabled" = some (some "false") ∧
      reading (forceNativeClientMode env).1 "scouting/multicast/enabled" = some (some "false")) ∧
    (∀ path, path ∉ ownedPaths → reading (forceNativeClientMode env).1 path = reading (override env) path) ∧
    parts ';' (forceNativeClientMode env).1 =
      ((parts ';' (override env)).filter fun part => pathOf part ∉ ownedPaths) ++ ownedSegments ∧
    (∀ again, override again = (forceNativeClientMode env).1 →
      (forceNativeClientMode again).1 = (forceNativeClientMode env).1) ∧
    (forceNativeClientMode env).2 = env.insert overrideVariable (forceNativeClientMode env).1 ∧
    override (forceNativeClientMode env).2 = (forceNativeClientMode env).1 := by
  simp only [forceNativeClientMode_result,forceNativeClientMode_env]
  refine ⟨⟨?_,?_,?_⟩,?_,merged_parts _,?_,trivial,?_⟩
  · exact reading_owned _ (by decide)
  · exact reading_owned _ (by decide)
  · exact reading_owned _ (by decide)
  · intro path free
    exact reading_other _ free
  · intro again same
    rw [same]
    exact mergedOverride_again _
  · simp [override]

end ZenohDslr.PiRuntime
