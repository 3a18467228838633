import CrsExport.Proofs.Text.Numeral
import CrsExport.Proofs.Text.Trim
import CrsExport.Resolver.InitFile
/-! The entries of init files, as a grammar of lines. Blanks may stand around a line and around
each of its parts; a definition is read as it was written, whatever brackets it has in it. -/

namespace CrsExport

namespace InitFile

/-- A line that gives a definition for a code: a numeral in angle brackets, up to the first
closing one, and the definition, behind which there may be an empty pair of brackets. -/
def IsEntry (line : Text) (code : Code) (definition : Text) : Prop :=
  ∃ header body, Text.trim line = '<' :: (header ++ '>' :: body) ∧ '>' ∉ header ∧
    Text.IsNumeral (Text.trim header) code.toNat ∧ 1 ≤ code ∧
    definition = Text.trim (dropTerminator (Text.trim body))

variable {line : Text} {code c : Code} {definition d : Text}

theorem readEntryIff : readEntry line = some (code, definition) ↔
    ∃ header body, line = '<' :: (header ++ '>' :: body) ∧ '>' ∉ header ∧
      Text.IsNumeral (Text.trim header) code.toNat ∧ 1 ≤ code ∧
      definition = Text.trim (dropTerminator (Text.trim body)) := by
  have positive : ∀ c : Code, ¬ c = 0 ↔ 1 ≤ c := by
    intro c
    rw [UInt32.le_iff_toNat_le, ← UInt32.toNat_inj]
    exact Nat.pos_iff_ne_zero.symm
  constructor
  · intro h
    unfold readEntry at h
    split at h
    · rename_i rest
      split at h
      · cases h
      · rename_i header body cut
        split at h
        · cases h
        · rename_i c read
          split at h
          · cases h
          · rename_i nonzero
            cases h
            obtain ⟨rfl, absent⟩ := Text.splitFirstIff.mp cut
            exact ⟨header, body, rfl, absent, Code.readIff.mp read, (positive code).mp nonzero,
              rfl⟩
    · cases h
  · rintro ⟨header, body, rfl, absent, numeral, least, rfl⟩
    have cut : Text.splitFirst '>' (header ++ '>' :: body) = some (header, body) :=
      Text.splitFirstIff.mpr ⟨rfl, absent⟩
    have nonzero := (positive code).mpr least
    simp only [readEntry, cut, Code.readIff.mpr numeral, if_neg nonzero]

theorem readLineIff : readLine line = .entry code definition ↔ IsEntry line code definition := by
  constructor
  · intro h
    unfold readLine at h
    split at h
    · cases h
    · cases h
    · split at h
      · rename_i read
        cases h
        exact readEntryIff.mp read
      · cases h
  · intro entry
    have read : readEntry (Text.trim line) = some (code, definition) := readEntryIff.mpr entry
    obtain ⟨header, body, content, _⟩ := entry
    rw [content] at read
    simp [readLine, content, read]

/- A line is an entry for one code at most, and with one definition. -/
theorem entryUnique (h : IsEntry line code definition) (h' : IsEntry line c d) :
    code = c ∧ definition = d := by
  have same := (readLineIff.mpr h).symm.trans (readLineIff.mpr h')
  exact Line.entry.inj same

/- Blanks around a line are no part of what it says. -/
theorem entrySame {other : Text} (h : Text.trim line = Text.trim other) :
    IsEntry line code definition ↔ IsEntry other code definition := by
  unfold IsEntry
  rw [h]

theorem trimReturn (line : Text) : Text.trim (line ++ ['\r']) = Text.trim line :=
  Text.trimBehind (by simp [Text.IsPadding, Text.isBlank]) line

variable {before behind front back gap gap' numeral : Text}

def layout (front before numeral behind gap definition gap' back : Text) : Text :=
  front ++ ('<' :: (before ++ numeral ++ behind ++ '>' :: (gap ++ definition ++ gap' ++
    terminator))) ++ back

theorem numeralEdges {n : Nat} (h : Text.IsNumeral numeral n) :
    Text.Trimmed numeral ∧ '>' ∉ numeral :=
  ⟨Text.numeralTrimmed h, Text.numeralFree h (by decide)⟩

theorem terminatorSplit (body : Text) : body ++ terminator = (body ++ ['<']) ++ ['>'] := by
  rw [List.append_assoc]
  rfl

theorem dropTerminatorBehind (body : Text) : dropTerminator (body ++ terminator) = body := by
  have ends : terminator.isSuffixOf (body ++ terminator) = true :=
    List.isSuffixOf_iff_suffix.mpr (List.suffix_append body terminator)
  rw [dropTerminator, if_pos ends, terminatorSplit, List.dropLast_concat, List.dropLast_concat]

theorem trimTerminated (body : Text) :
    Text.trim (body ++ terminator) = Text.trimStart body ++ terminator := by
  have start : Text.trimStart (body ++ terminator) = Text.trimStart body ++ terminator :=
    Text.trimStartUpTo (c := '<') (by decide) body ['>']
  rw [Text.trim, start, terminatorSplit]
  exact Text.trimEndFirm (by decide) _

theorem layoutIsEntry (padding : ∀ p ∈ [front, before, behind, gap, gap', back], Text.IsPadding p)
    (isNumeral : Text.IsNumeral numeral code.toNat) (least : 1 ≤ code)
    (trimmed : Text.Trimmed definition) :
    IsEntry (layout front before numeral behind gap definition gap' back) code definition := by
  simp only [List.forall_mem_cons, List.not_mem_nil, false_implies, implies_true,
    and_true] at padding
  obtain ⟨isFront, isBefore, isBehind, isGap, isGap', isBack⟩ := padding
  obtain ⟨edges, free⟩ := numeralEdges isNumeral
  have closing : ∀ {p : Text}, Text.IsPadding p → '>' ∉ p :=
    fun blank member => absurd (blank _ member) (by decide)
  refine ⟨before ++ numeral ++ behind, gap ++ definition ++ gap' ++ terminator, ?_, ?_, ?_, least,
    ?_⟩
  · have shape : ∀ header inner : Text, '<' :: (header ++ '>' :: (inner ++ terminator)) =
        ('<' :: (header ++ '>' :: inner)) ++ terminator := by simp
    rw [layout, Text.trimPadded isFront isBack, shape, trimTerminated]
    rfl
  · simp [closing isBefore, closing isBehind, free]
  · rwa [Text.trimPadded isBefore isBehind, Text.trimTrimmed edges]
  · rw [trimTerminated, dropTerminatorBehind, Text.trimAgain, Text.trimPadded isGap isGap',
      Text.trimTrimmed trimmed]

end InitFile
end CrsExport
