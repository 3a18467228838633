import CrsExport.Csv.Reader
import CrsExport.Proofs.Text.Utf8
/-! Documents read back. A field between quotes may hold any bytes; a field without quotes
holds none that the reader would act on. Each record leaves the reader at the start of the
next one, so a field never moves the border between two records. -/

namespace CrsExport.Csv

def isSpecial (b : UInt8) : Prop :=
  b = comma ∨ b = quote ∨ b = lineFeed ∨ b = carriageReturn

theorem unquotedField {field : List UInt8} :
    needsQuotes field = false ↔ ∀ b ∈ field, ¬ isSpecial b := by
  simp [needsQuotes, isSpecial, or_assoc]

/- The bytes of a field, without regard to the pieces in which they are stored. -/
theorem fieldBytes (field : List UInt8) :
    (fieldPieces field).flatten =
      if needsQuotes field then quote :: field.flatMap escape ++ [quote] else field := by
  unfold fieldPieces
  split
  · simp [List.flatMap_def]
  · rw [← List.flatMap_def, List.flatMap_singleton']

theorem recordBytes (first second : List UInt8) :
    record first second = (fieldPieces first).flatten ++ comma ::
      ((fieldPieces second).flatten ++ [lineFeed]) := by
  simp [record, recordPieces]

namespace Reading

theorem readPlain {field : List UInt8} (safe : ∀ b ∈ field, ¬ isSpecial b)
    (before : List UInt8) (fields : List (List UInt8)) (records : List (List (List UInt8))) :
    field.foldl byte ⟨.plain, before, fields, records⟩ =
      ⟨.plain, field.reverse ++ before, fields, records⟩ := by
  induction field generalizing before with
  | nil => rfl
  | cons b rest ih =>
    have head := safe b List.mem_cons_self
    simp only [isSpecial, not_or] at head
    have step : byte ⟨.plain, before, fields, records⟩ b =
        ⟨.plain, b :: before, fields, records⟩ := by
      simp [byte, plainByte, head]
    rw [List.foldl_cons, step, ih fun a ha => safe a (List.mem_cons_of_mem _ ha)]
    simp

theorem readQuoted (field before : List UInt8) (fields : List (List UInt8))
    (records : List (List (List UInt8))) :
    (field.flatMap escape).foldl byte ⟨.quoted, before, fields, records⟩ =
      ⟨.quoted, field.reverse ++ before, fields, records⟩ := by
  induction field generalizing before with
  | nil => rfl
  | cons b rest ih =>
    have step : (escape b).foldl byte ⟨.quoted, before, fields, records⟩ =
        ⟨.quoted, b :: before, fields, records⟩ := by
      unfold escape
      by_cases special : b = quote
      · simp [special, byte]
      · simp [special, byte]
    rw [List.flatMap_cons, List.foldl_append, step, ih]
    simp

/- After a field the reader is outside quotes, or at a quote that may have ended them. -/
theorem readField (field : List UInt8) (fields : List (List UInt8))
    (records : List (List (List UInt8))) :
    ∃ state, state ≠ .quoted ∧
      (fieldPieces field).flatten.foldl byte ⟨.start, [], fields, records⟩ =
        ⟨state, field.reverse, fields, records⟩ := by
  rw [fieldBytes]
  by_cases special : needsQuotes field = true
  · have opened : byte ⟨.start, [], fields, records⟩ quote = ⟨.quoted, [], fields, records⟩ := rfl
    have inside := readQuoted field [] fields records
    refine ⟨.quoteInQuoted, by simp, ?_⟩
    rw [if_pos special, List.cons_append, List.foldl_cons, opened, List.foldl_append, inside]
    simp [byte]
  · rw [if_neg special]
    have safe := unquotedField.mp (Bool.not_eq_true _ ▸ special)
    cases field with
    | nil => exact ⟨.start, by simp, rfl⟩
    | cons b rest =>
      have head := safe b List.mem_cons_self
      simp only [isSpecial, not_or] at head
      have step : byte ⟨.start, [], fields, records⟩ b = ⟨.plain, [b], fields, records⟩ := by
        simp [byte, plainByte, head]
      have tail := readPlain (fun a ha => safe a (List.mem_cons_of_mem _ ha)) [b] fields records
      refine ⟨.plain, by simp, ?_⟩
      rw [List.foldl_cons, step, tail, List.reverse_cons]

theorem readComma {state : FieldState} (outside : state ≠ .quoted) (field : List UInt8)
    (fields : List (List UInt8)) (records : List (List (List UInt8))) :
    byte ⟨state, field, fields, records⟩ comma =
      ⟨.start, [], field.reverse :: fields, records⟩ := by
  cases state with
  | quoted => contradiction
  | start | plain | quoteInQuoted => rfl

theorem readLineFeed {state : FieldState} (outside : state ≠ .quoted) (field first : List UInt8)
    (fields : List (List UInt8)) (records : List (List (List UInt8))) :
    byte ⟨state, field, first :: fields, records⟩ lineFeed =
      ⟨.start, [], [], (field.reverse :: first :: fields).reverse :: records⟩ := by
  cases state with
  | quoted => contradiction
  | start | plain | quoteInQuoted => rfl

theorem readRecord (first second : List UInt8) (records : List (List (List UInt8))) :
    (record first second).foldl byte ⟨.start, [], [], records⟩ =
      ⟨.start, [], [], [first, second] :: records⟩ := by
  obtain ⟨afterFirst, outside, one⟩ := readField first [] records
  obtain ⟨afterSecond, still, two⟩ := readField second [first] records
  rw [recordBytes, List.foldl_append, one, List.foldl_cons, readComma outside,
    List.reverse_reverse, List.foldl_append, two, List.foldl_cons, readLineFeed still]
  simp

theorem readDocument (rows : List (List UInt8 × List UInt8))
    (records : List (List (List UInt8))) :
    (document rows).foldl byte ⟨.start, [], [], records⟩ =
      ⟨.start, [], [], (rows.map fun r => [r.1, r.2]).reverse ++ records⟩ := by
  induction rows generalizing records with
  | nil => rfl
  | cons row rest ih =>
    have rows : document (row :: rest) = record row.1 row.2 ++ document rest := rfl
    rw [rows, List.foldl_append, readRecord, ih]
    simp

end Reading

theorem readRecordsDocument (rows : List (List UInt8 × List UInt8)) :
    readRecords (document rows) = rows.map fun r => [r.1, r.2] := by
  have read := Reading.readDocument rows []
  have start : ({} : Reading) = ⟨.start, [], [], []⟩ := rfl
  unfold readRecords
  rw [start, read]
  simp [Reading.endRecord]

theorem evenPairs {α : Type} (rows : List (α × α)) :
    evenRecords (rows.map fun r => [r.1, r.2]) = true := by
  cases rows with
  | nil => rfl
  | cons row rest => simp [evenRecords]

theorem readTextsDocument (rows : List (Text × Text)) :
    readTexts? (document (rows.map fun r => (Text.utf8 r.1, Text.utf8 r.2))) =
      some (rows.map fun r => [r.1, r.2]) := by
  have decoded : ∀ rows : List (Text × Text),
      (rows.map fun r => [Text.utf8 r.1, Text.utf8 r.2]).mapM (·.mapM Text.ofUtf8?) =
        some (rows.map fun r => [r.1, r.2]) := by
    intro rows
    induction rows with
    | nil => rfl
    | cons row rest ih => simp [Text.ofUtf8Encoded, ih]
  have even := evenPairs (rows.map fun r => (Text.utf8 r.1, Text.utf8 r.2))
  simp only [readTexts?, readRecordsDocument]
  rw [if_pos even, List.map_map]
  exact decoded rows

end CrsExport.Csv
