import ZenohDslr.Pieces
namespace ZenohDslr.PyText

variable {s part : String} {sep : Char}

-- `str.isspace` of one character, and what `str.strip`, `str.split(sep)` and
-- `sep.join` do with it.
def isSpace (c : Char) : Bool :=
  let n := c.toNat
  (9 ≤ n && n ≤ 13) || (28 ≤ n && n ≤ 32) || n == 0x85 || n == 0xa0 || n == 0x1680 || (0x2000 ≤ n && n ≤ 0x200a) ||
    n == 0x2028 || n == 0x2029 || n == 0x202f || n == 0x205f || n == 0x3000

def strip (s : String) : String := String.ofList (Pieces.strip isSpace s.toList)

def split (sep : Char) (s : String) : List String := (s.toList.splitOn sep).map String.ofList

-- `text.partition(sep)`, without the separator.
def partition (sep : Char) (s : String) : String × String :=
  (String.ofList (s.toList.takeWhile (· ≠ sep)),String.ofList (s.toList.dropWhile (· ≠ sep)).tail)

def join (sep : Char) (parts : List String) : String := (String.singleton sep).intercalate parts

-- `str.replace`: from the left, what is put in is not looked at again. The count
-- is of characters of a match still to be skipped.
def replaceIn (old new : List Char) : Nat → List Char → List Char
  | _,[] => []
  | skip + 1,_ :: rest => replaceIn old new skip rest
  | 0,c :: rest => if old.isPrefixOf (c :: rest) then new ++ replaceIn old new (old.length - 1) rest else c :: replaceIn old new 0 rest

def replace (old new s : String) : String := String.ofList (replaceIn old.toList new.toList 0 s.toList)

-- The stripped, non-empty parts of a separated text.
def parts (sep : Char) (s : String) : List String := ((split sep s).map strip).filter (· ≠ "")

structure Part (sep : Char) (part : String) : Prop where
  nonempty : part ≠ ""
  stripped : strip part = part
  whole : sep ∉ part.toList

theorem toList_strip (s : String) : (strip s).toList = Pieces.strip isSpace s.toList := by simp [strip]

theorem strip_strip (s : String) : strip (strip s) = strip s := by
  rw [strip,toList_strip,Pieces.strip_of_stripped (Pieces.strip_stripped isSpace _),← toList_strip,String.ofList_toList]

theorem partition_joined {before after : String} (whole : sep ∉ before.toList) :
    partition sep (before ++ String.singleton sep ++ after) = (before,after) := by
  have plain : ∀ c ∈ before.toList, (!decide (c = sep)) = true := by
    intro c inside
    simpa using fun same : c = sep => whole (same ▸ inside)
  simp [partition,List.takeWhile_append_of_pos plain,List.dropWhile_append_of_pos plain]

-- A separator before the one that is meant: then the text is cut there.
theorem partition_early {before after : String} (inside : sep ∈ before.toList) :
    ∃ front back, sep ∉ front.toList ∧ before = front ++ String.singleton sep ++ back ∧
      partition sep (before ++ String.singleton sep ++ after) = (front,back ++ String.singleton sep ++ after) := by
  obtain ⟨front,back,cut,first⟩ := List.eq_append_cons_of_mem inside
  have opened : before = String.ofList front ++ String.singleton sep ++ String.ofList back := by
    apply String.toList_injective
    simp [cut]
  refine ⟨String.ofList front,String.ofList back,by simpa using first,opened,?_⟩
  rw [← partition_joined (by simpa using first),opened]
  simp only [String.append_assoc]

-- Joined by the separator, texts without it are split again where they were joined.
theorem split_join {texts : List String} (nonempty : texts ≠ []) (whole : ∀ text ∈ texts, sep ∉ text.toList) :
    split sep (join sep texts) = texts := by
  have each : ∀ piece ∈ texts.map String.toList, sep ∉ piece := by
    intro piece inside
    obtain ⟨text,there,rfl⟩ := List.mem_map.mp inside
    exact whole text there
  have cut := List.splitOn_intercalate sep each (by simpa using nonempty)
  simp [split,join,cut,Function.comp_def]

theorem parts_pieces (s : String) : parts sep s = (Pieces.pieces isSpace sep s.toList).map String.ofList := by
  have stripped : ∀ cut : List Char, strip (String.ofList cut) = String.ofList (Pieces.strip isSpace cut) := by
    intro cut
    simp [strip]
  have kept : ∀ cut : List Char, decide (String.ofList cut ≠ "") = decide (cut ≠ []) := by
    intro cut
    simp
  simp only [parts,split,Pieces.pieces,List.map_map,List.filter_map,Function.comp_def,stripped,kept]

theorem part_of_mem (inside : part ∈ parts sep s) : Part sep part := by
  rw [parts_pieces] at inside
  obtain ⟨piece,there,rfl⟩ := List.mem_map.mp inside
  obtain ⟨nonempty,stripped,whole⟩ := Pieces.mem_pieces there
  refine ⟨by simpa using nonempty,?_,by simpa using whole⟩
  simp [strip,Pieces.strip_of_stripped stripped]

-- Text around the whole is text around its first and last part.
theorem parts_strip (solid : isSpace sep = false) (s : String) : parts sep (strip s) = parts sep s := by
  simp [parts_pieces,toList_strip,Pieces.pieces_strip solid]

theorem parts_join {ps : List String} (nonempty : ps ≠ []) (whole : ∀ part ∈ ps, Part sep part) :
    parts sep (join sep ps) = ps := by
  have each : ∀ piece ∈ ps.map String.toList, piece ≠ [] ∧ Pieces.Stripped isSpace piece ∧ sep ∉ piece := by
    intro piece inside
    obtain ⟨part,there,rfl⟩ := List.mem_map.mp inside
    have good := whole part there
    refine ⟨by simpa using good.nonempty,?_,good.whole⟩
    rw [← good.stripped,toList_strip]
    exact Pieces.strip_stripped isSpace _
  have cut := Pieces.pieces_join (by simpa using nonempty) each
  simp [parts_pieces,join,cut,Function.comp_def]

end ZenohDslr.PyText
