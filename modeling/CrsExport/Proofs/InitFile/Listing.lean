import CrsExport.Proofs.InitFile.Lines
/-! Init files written by hand. A table can be listed in any order, with blanks where a writer
likes them, and with comments and other text on lines of their own; what is loaded is the table. -/

namespace CrsExport.InitFile

structure Fits (code : Code) (definition : Text) : Prop where
  least : 1 ≤ code
  trimmed : Text.Trimmed definition
  unbroken : '\n' ∉ definition

inductive Tells : Text → Option (Code × Text) → Prop where
  | entry {front before numeral behind gap definition gap' back code}
      (padding : ∀ p ∈ [front, before, behind, gap, gap', back], Text.IsPadding p ∧ '\n' ∉ p)
      (isNumeral : Text.IsNumeral numeral code.toNat) :
      Tells (layout front before numeral behind gap definition gap' back) (some (code, definition))
  | other {line kind} (described : Kind.Describes line kind) (noEntry : kind ≠ .entry)
      (unbroken : '\n' ∉ line) : Tells line none

/-- Files that list pairs, line by line. What follows the last line end is a line as well: a blank
one if nothing is there. -/
inductive Lists : Text → List (Code × Text) → Prop where
  | last {line said} (tells : Tells line said) : Lists line said.toList
  | line {line said ending rest pairs} (tells : Tells line said)
      (ended : ending = ['\n'] ∨ ending = ['\r', '\n']) (next : Lists rest pairs) :
      Lists (line ++ ending ++ rest) (said.toList ++ pairs)

variable {line ending rest contents d : Text} {code : Code} {said : Option (Code × Text)}
  {pairs : List (Code × Text)} {table : InitFile}

theorem tellsEntry (h : Tells line said) (fits : ∀ p ∈ said.toList, Fits p.1 p.2) :
    IsEntry line code d ↔ said = some (code, d) := by
  cases h with
  | @entry _ _ _ _ _ definition _ _ own padding isNumeral =>
    have fits : Fits own definition := fits _ (List.mem_singleton_self _)
    have entry := layoutIsEntry (fun p hp => (padding p hp).1) isNumeral fits.least fits.trimmed
    constructor
    · intro other
      obtain ⟨rfl, rfl⟩ := entryUnique entry other
      rfl
    · intro same
      cases same
      exact entry
  | other described noEntry =>
    have kind := describesIff.mp described
    constructor
    · intro entry
      rw [readLineIff.mpr entry] at kind
      exact absurd kind.symm noEntry
    · intro same
      cases same

theorem tellsUnbroken (h : Tells line said) (fits : ∀ p ∈ said.toList, Fits p.1 p.2) :
    '\n' ∉ line := by
  cases h with
  | @entry _ _ numeral _ _ definition _ _ own padding isNumeral =>
    have fits : Fits own definition := fits _ (List.mem_singleton_self _)
    have digits : '\n' ∉ numeral := Text.numeralFree isNumeral (by decide)
    have closed : '\n' ∉ terminator := by decide
    simp only [List.forall_mem_cons] at padding
    simp [layout, padding, digits, fits.unbroken, closed]
  | other _ _ unbroken => exact unbroken

/- A carriage return before the line feed is a blank at the end of the line. -/
theorem endedLines (unbroken : '\n' ∉ line) (ended : ending = ['\n'] ∨ ending = ['\r', '\n'])
    (rest : Text) : ∃ l, textLines (line ++ ending ++ rest) = l :: textLines rest ∧
      Text.trim l = Text.trim line := by
  rcases ended with rfl | rfl
  · refine ⟨line, ?_, rfl⟩
    rw [List.append_assoc, List.singleton_append, textLinesJoined, textLinesUnbroken unbroken]
    rfl
  · have whole : '\n' ∉ line ++ ['\r'] := by simp [unbroken]
    refine ⟨line ++ ['\r'], ?_, trimReturn line⟩
    have split : line ++ ['\r', '\n'] ++ rest = (line ++ ['\r']) ++ '\n' :: rest := by simp
    rw [split, textLinesJoined, textLinesUnbroken whole]
    rfl

theorem listsEntries (h : Lists contents pairs) (fits : ∀ p ∈ pairs, Fits p.1 p.2) :
    (∃ l ∈ textLines contents, IsEntry l code d) ↔ (code, d) ∈ pairs := by
  induction h with
  | last tells =>
    rw [textLinesUnbroken (tellsUnbroken tells fits)]
    simp [tellsEntry tells fits]
  | line tells ended next ih =>
    obtain ⟨own, others⟩ := List.forall_mem_append.mp fits
    obtain ⟨l, lines, trimmed⟩ := endedLines (tellsUnbroken tells own) ended _
    rw [lines, List.exists_mem_cons_iff, entrySame trimmed, tellsEntry tells own, ih others]
    simp

/- The order of the lines does not matter, nor does it if a pair is listed twice. -/
theorem listedTableLoads (fits : ∀ code d, table.find? code = some d → Fits code d)
    (lists : Lists contents pairs)
    (each : ∀ code d, (code, d) ∈ pairs ↔ table.find? code = some d) :
    (∀ code, (parse contents).find? code = table.find? code) ∧
      (parse contents).size = table.size ∧ (parse contents).resolver = table.resolver := by
  have listed : ∀ code d, (∃ l ∈ textLines contents, IsEntry l code d) ↔
      table.find? code = some d := by
    intro code d
    rw [← each]
    exact listsEntries lists fun p hp => fits _ _ ((each _ _).mp hp)
  have found : ∀ code, (parse contents).find? code = table.find? code :=
    fun code => findExactly (listed code)
  have same := sameIff.mpr found
  exact ⟨found, sameSize same, sameResolver same⟩

/- One definition ends in brackets, one is empty, and one has a carriage return in it. The last
line has no end. -/
def untidyTable : InitFile :=
  (((⟨∅⟩ : InitFile).insert 1 (text "<>")).insert 7 (text "#<a>\r b>")).insert 4294967295 []

def untidyFile : Text :=
  text "\t<7 > #<a>\r b> <>\r\n# <7> x\n<0> y <>\n\n<+04294967295>\t<>\n<1><> <>"

theorem untidyFileLoads :
    let pairs : List (Code × Text) :=
      [(7, text "#<a>\r b>"), (4294967295, []), (1, text "<>")]
    (∀ code d, untidyTable.find? code = some d → Fits code d) ∧ Lists untidyFile pairs ∧
      (∀ code, (parse untidyFile).find? code = untidyTable.find? code) ∧
      (parse untidyFile).resolver = untidyTable.resolver := by
  intro pairs
  have each : ∀ code d, (code, d) ∈ pairs ↔ untidyTable.find? code = some d := by
    intro code d
    have bare : (⟨∅⟩ : InitFile).find? code = none := by simp [find?]
    simp only [untidyTable, findInserted, bare, pairs, List.mem_cons, Prod.mk.injEq,
      List.not_mem_nil, or_false]
    generalize text "#<a>\r b>" = second
    generalize text "<>" = first
    grind
  have fits : ∀ code d, untidyTable.find? code = some d → Fits code d := by
    intro code d found
    have member := (each code d).mpr found
    simp only [pairs, List.mem_cons, List.not_mem_nil, or_false, Prod.mk.injEq] at member
    rcases member with ⟨rfl, rfl⟩ | ⟨rfl, rfl⟩ | ⟨rfl, rfl⟩ <;>
      exact ⟨by decide, Text.trimmedIff.mpr (by decide), by decide⟩
  have lists : Lists untidyFile pairs := by
    have seven := @Tells.entry ['\t'] [] (text "7") [' '] [' '] (text "#<a>\r b>") [' '] [] 7
      (by simp [Text.IsPadding, Text.isBlank]) (Code.readIff.mp (by decide))
    have greatest := @Tells.entry [] [] (text "+04294967295") [] ['\t'] [] [] [] 4294967295
      (by simp [Text.IsPadding, Text.isBlank]) (Code.readIff.mp (by decide))
    have one := @Tells.entry [] [] (text "1") [] [] (text "<>") [' '] [] 1
      (by simp [Text.IsPadding, Text.isBlank]) (Code.readIff.mp (by decide))
    have comment := @Tells.other (text "# <7> x") .comment ⟨_, rfl⟩ (by decide) (by decide)
    have malformed := @Tells.other (text "<0> y <>") .malformed (describesIff.mpr (by decide))
      (by decide) (by decide)
    have blank := @Tells.other [] .blank rfl (by decide) (by decide)
    exact .line seven (.inr rfl) (.line comment (.inl rfl) (.line malformed (.inl rfl)
      (.line blank (.inl rfl) (.line greatest (.inl rfl) (.last one)))))
  obtain ⟨found, _, resolver⟩ := listedTableLoads fits lists each
  exact ⟨fits, lists, found, resolver⟩

end CrsExport.InitFile
