import CrsExport.Proofs.InitFile.Table
/-! The kinds of lines in an init file. A line is of one kind only, and the malformed lines are
those that are left; they are numbered by their places among all lines. -/

namespace CrsExport.InitFile

inductive Kind where
  | blank
  | comment
  | entry
  | malformed
  deriving DecidableEq, Repr

/-- What makes a line one of a kind. The first three kinds need nothing of each other. -/
def Kind.Describes (line : Text) : Kind → Prop
  | blank => Text.trim line = []
  | comment => ∃ rest, Text.trim line = '#' :: rest
  | entry => ∃ code d, IsEntry line code d
  | malformed => Text.trim line ≠ [] ∧ (∀ rest, Text.trim line ≠ '#' :: rest) ∧
      ∀ code d, ¬ IsEntry line code d

def Line.kind : Line → Kind
  | blank => .blank
  | comment => .comment
  | entry _ _ => .entry
  | malformed _ => .malformed

def Line.malformed? : Line → Option Text
  | malformed content => some content
  | _ => none

variable {line content contents : Text} {number n : Nat} {ls : List Line}

theorem readBlank : readLine line = .blank ↔ Text.trim line = [] := by
  unfold readLine
  split
  · rename_i empty
    simp [empty]
  · rename_i hash
    simp [hash]
  · rename_i some _
    split <;> simpa using some

theorem readComment : readLine line = .comment ↔ ∃ rest, Text.trim line = '#' :: rest := by
  unfold readLine
  split
  · rename_i empty
    simp [empty]
  · rename_i hash
    simp [hash]
  · rename_i unmarked
    split <;> simpa using unmarked

theorem readMalformed (h : readLine line = .malformed content) : content = Text.trim line := by
  unfold readLine at h
  split at h
  · cases h
  · cases h
  · split at h
    · cases h
    · cases h
      rfl

theorem kindDescribes (line : Text) : (readLine line).kind.Describes line := by
  cases read : readLine line with
  | blank => exact readBlank.mp read
  | comment => exact readComment.mp read
  | entry code d => exact ⟨code, d, readLineIff.mp read⟩
  | malformed content =>
    refine ⟨fun empty => ?_, fun rest hash => ?_, fun code d entry => ?_⟩
    · cases read.symm.trans (readBlank.mpr empty)
    · cases read.symm.trans (readComment.mpr ⟨rest, hash⟩)
    · cases read.symm.trans (readLineIff.mpr entry)

theorem describesIff {kind : Kind} : kind.Describes line ↔ (readLine line).kind = kind := by
  constructor
  · intro described
    cases kind with
    | blank => rw [readBlank.mpr described, Line.kind]
    | comment => rw [readComment.mpr described, Line.kind]
    | entry =>
      obtain ⟨code, d, entry⟩ := described
      rw [readLineIff.mpr entry, Line.kind]
    | malformed =>
      obtain ⟨filled, unmarked, noEntry⟩ := described
      cases read : readLine line with
      | blank => exact absurd (readBlank.mp read) filled
      | comment =>
        obtain ⟨rest, hash⟩ := readComment.mp read
        exact absurd hash (unmarked rest)
      | entry code d => exact absurd (readLineIff.mp read) (noEntry code d)
      | malformed content => rfl
  · rintro rfl
    exact kindDescribes line

theorem kindUnique (line : Text) : ∃! kind : Kind, kind.Describes line :=
  ⟨(readLine line).kind, kindDescribes line, fun _ described => (describesIff.mp described).symm⟩

theorem malformedIff : (readLine line).malformed? = some content ↔
    Kind.malformed.Describes line ∧ content = Text.trim line := by
  rw [describesIff]
  cases read : readLine line with
  | blank | comment | entry code d => simp [Line.malformed?, Line.kind]
  | malformed found => simp [Line.malformed?, Line.kind, readMalformed read, eq_comm]

theorem malformedNumbered (number : Nat) (ls : List Line) :
    malformedFrom number ls =
      (ls.zipIdx number).filterMap fun l => l.1.malformed?.map (l.2, ·) := by
  induction ls generalizing number with
  | nil => rfl
  | cons l rest ih => cases l <;> simp [malformedFrom, Line.malformed?, ih]

theorem malformedMem : (n, content) ∈ malformedLines contents ↔
    1 ≤ n ∧ ∃ line, (textLines contents)[n - 1]? = some line ∧
      Kind.malformed.Describes line ∧ content = Text.trim line := by
  have lines : readLines contents = (textLines contents).map readLine := rfl
  rw [malformedLines, malformedNumbered, lines, List.zipIdx_map, List.filterMap_map,
    List.mem_filterMap]
  constructor
  · rintro ⟨⟨line, number⟩, member, found⟩
    obtain ⟨content, malformed, same⟩ := Option.map_eq_some_iff.mp found
    cases same
    obtain ⟨least, place⟩ := List.mk_mem_zipIdx_iff_le_and_getElem?_sub.mp member
    exact ⟨least, line, place, malformedIff.mp malformed⟩
  · rintro ⟨least, line, place, described⟩
    have member := List.mk_mem_zipIdx_iff_le_and_getElem?_sub.mpr ⟨least, place⟩
    exact ⟨(line, n), member, Option.map_eq_some_iff.mpr ⟨content, malformedIff.mpr described, rfl⟩⟩

theorem malformedAscending (contents : Text) :
    (malformedLines contents).Pairwise fun l l' => l.1 < l'.1 := by
  have numbers : ((readLines contents).zipIdx 1).Pairwise fun l l' => l.2 < l'.2 := by
    rw [← List.pairwise_map, List.zipIdx_map_snd]
    exact List.pairwise_lt_range'
  rw [malformedLines, malformedNumbered]
  refine numbers.filterMap _ fun l l' less m found m' found' => ?_
  obtain ⟨_, _, rfl⟩ := Option.map_eq_some_iff.mp found
  obtain ⟨_, _, rfl⟩ := Option.map_eq_some_iff.mp found'
  exact less

end CrsExport.InitFile
