import CrsExport.Proofs.Csv.ReadBack
import CrsExport.Proofs.Export.Delivery
import CrsExport.Proofs.Export.Rows
import CrsExport.Proofs.Text.Numeral
/-! One line for each row. A record ends in a line feed, and no line end gets into a document
but at the end of a record or from a field; definitions in normal form contain none. -/

namespace CrsExport

namespace Csv

def OneLine (field : List UInt8) : Prop := lineFeed ∉ field ∧ carriageReturn ∉ field

theorem blankAbsent {t : Text} (h : ∀ c ∈ t, Text.isBlank c = true → c = ' ') {b : UInt8}
    {c : Char} (value : c.toNat = b.toNat) (small : b.toNat < 128)
    (blank : Text.isBlank c = true) (other : c ≠ ' ') : b ∉ Text.utf8 t := by
  intro member
  obtain ⟨found, hf, eq⟩ := Text.utf8Small member small
  have same : found = c := Char.toNat_inj.mp (eq.trans value.symm)
  rw [same] at hf
  exact other (h c hf blank)

theorem oneLineText {t : Text} (h : ∀ c ∈ t, Text.isBlank c = true → c = ' ') :
    OneLine (Text.utf8 t) :=
  ⟨blankAbsent h (c := '\n') rfl (by decide) (by decide) (by decide),
    blankAbsent h (c := '\r') rfl (by decide) (by decide) (by decide)⟩

/- Quotes are all that is put into a field. -/
theorem fieldBytesFrom {field : List UInt8} {b : UInt8} (h : b ∈ (fieldPieces field).flatten) :
    b = quote ∨ b ∈ field := by
  rw [fieldBytes] at h
  split at h
  · simp only [List.cons_append, List.mem_cons, List.mem_append, List.mem_flatMap,
      List.not_mem_nil, or_false] at h
    rcases h with first | ⟨a, ha, byte⟩ | last
    · exact .inl first
    · unfold escape at byte
      split at byte
      · simp only [List.mem_cons, List.not_mem_nil, or_false, or_self] at byte
        exact .inl byte
      · exact .inr (List.mem_singleton.mp byte ▸ ha)
    · exact .inl last
  · exact .inr h

theorem fieldFree {field : List UInt8} {b : UInt8} (h : b ∉ field) (other : b ≠ quote) :
    b ∉ (fieldPieces field).flatten := by
  intro member
  rcases fieldBytesFrom member with isQuote | inside
  · exact other isQuote
  · exact h inside

theorem fieldOneLine {field : List UInt8} (h : OneLine field) :
    OneLine (fieldPieces field).flatten :=
  ⟨fieldFree h.1 (by decide), fieldFree h.2 (by decide)⟩

theorem recordLine {first second : List UInt8} (h : OneLine first) (h' : OneLine second) :
    (record first second).count lineFeed = 1 ∧ carriageReturn ∉ record first second := by
  obtain ⟨feed, none⟩ := fieldOneLine h
  obtain ⟨feed', none'⟩ := fieldOneLine h'
  have isComma : comma ≠ lineFeed ∧ carriageReturn ≠ comma := by decide
  have isFeed : carriageReturn ≠ lineFeed := by decide
  rw [recordBytes]
  refine ⟨?_, ?_⟩
  · rw [List.count_append, List.count_eq_zero_of_not_mem feed, List.count_cons_of_ne isComma.1,
      List.count_append, List.count_eq_zero_of_not_mem feed', List.count_singleton_self]
  · simp [none, none', isComma, isFeed]

theorem documentLines {rows : List (List UInt8 × List UInt8)}
    (h : ∀ r ∈ rows, OneLine r.1 ∧ OneLine r.2) :
    (document rows).count lineFeed = rows.length ∧ carriageReturn ∉ document rows := by
  induction rows with
  | nil => exact ⟨rfl, List.not_mem_nil⟩
  | cons row rest ih =>
    obtain ⟨feeds, none⟩ := ih fun r hr => h r (List.mem_cons_of_mem _ hr)
    obtain ⟨first, second⟩ := h row List.mem_cons_self
    obtain ⟨feed, none'⟩ := recordLine first second
    have split : document (row :: rest) = record row.1 row.2 ++ document rest := rfl
    rw [split]
    refine ⟨?_, ?_⟩
    · rw [List.count_append, feed, feeds, List.length_cons, Nat.add_comm]
    · simp [none, none']

end Csv

namespace Export

theorem totalsWritten (x : Exporter) (range : CodeRange) :
    (totals x range).written = (rows x range).length := by
  have general : ∀ (codes : List Code) (s : ExportStats),
      (codes.foldl (fun s c => s.after (x.record c)) s).written =
        s.written + (codes.filterMap fun c => (x.record c).toOption).length := by
    intro codes
    induction codes with
    | nil => exact fun s => rfl
    | cons code rest ih =>
      intro s
      rw [List.foldl_cons, ih, List.filterMap_cons]
      cases x.record code with
      | error e => rfl
      | ok r =>
        simp only [ExportStats.after, Except.toOption, List.length_cons]
        omega
  have counted := general range.codes {}
  rwa [Nat.zero_add] at counted

theorem rowsNormal {x : Exporter} {range : CodeRange} {r : ExportRecord}
    (checked : x.resolver.Standard ∨ x.refiner.isSome) (h : r ∈ rows x range) :
    Definition.IsNormal r.definition :=
  Exporter.recordIsNormal checked (rowsMem.mp h).2

theorem rowOneLine {r : ExportRecord} (h : Definition.IsNormal r.definition) :
    Csv.OneLine (rowFields r).1 ∧ Csv.OneLine (rowFields r).2 := by
  refine ⟨Csv.oneLineText ?_, Csv.oneLineText h.blanks⟩
  intro c hc blank
  rw [Text.numeralUnblank (Text.ofNatIsNumeral _) hc] at blank
  contradiction

theorem headerOneLine : Csv.OneLine headerFields.1 ∧ Csv.OneLine headerFields.2 :=
  ⟨⟨by decide, by decide⟩, ⟨by decide, by decide⟩⟩

theorem exportLines {x : Exporter} (checked : x.resolver.Standard ∨ x.refiner.isSome)
    (range : CodeRange) :
    (document x range).count Csv.lineFeed = (totals x range).written + 1 ∧
      Csv.carriageReturn ∉ document x range := by
  have fields : ∀ r ∈ headerFields :: (rows x range).map rowFields,
      Csv.OneLine r.1 ∧ Csv.OneLine r.2 := by
    intro r hr
    rcases List.mem_cons.mp hr with rfl | row
    · exact headerOneLine
    · obtain ⟨row, member, rfl⟩ := List.mem_map.mp row
      exact rowOneLine (rowsNormal checked member)
  have lines := Csv.documentLines fields
  rwa [List.length_cons, List.length_map, ← totalsWritten] at lines

/- The shipped resolvers leave the check as it is. A refiner may be any: its substitutions are
arbitrary functions on text. -/
theorem definitionsOnOneLine :
    (∀ table : InitFile, table.resolver.Standard) ∧
    (∀ db : Database, db.resolver.Standard) ∧
    ∀ x : Exporter, x.resolver.Standard ∨ x.refiner.isSome →
      (∀ code r, x.record code = .ok r → Definition.IsNormal r.definition ∧
        ∀ refiner, x.refiner = some refiner → ∃ crs p, x.resolver.resolve code = .ok crs ∧
          x.resolver.toProjString crs = .ok p ∧ r.definition = refiner.refine p code) ∧
      (∀ range, (document x range).count Csv.lineFeed = (totals x range).written + 1 ∧
        Csv.carriageReturn ∉ document x range) ∧
      ∀ sink range stats, (toSink x sink range).result = .ok stats →
        (toSink x sink range).outlet.accepted.toList.count Csv.lineFeed = stats.written + 1 ∧
        Csv.carriageReturn ∉ (toSink x sink range).outlet.accepted.toList := by
  refine ⟨InitFile.resolverStandard, Database.resolverStandard, fun x checked => ⟨?_, ?_, ?_⟩⟩
  · intro code r found
    exact ⟨Exporter.recordIsNormal checked found,
      fun refiner kept => Exporter.recordRefined kept found⟩
  · exact exportLines checked
  · intro sink range stats ok
    obtain ⟨rfl, accepted, _⟩ := succeededWhole ok
    rw [accepted]
    exact exportLines checked range

/- An untidy definition, and a substitution that breaks lines. -/
def breaking : Exporter where
  resolver := Database.resolver fun c =>
    if c = 1 then some { proj4 := " +proj=longlat\t+b=0 \n" } else none
  refiner := some { order := [text "b"], additions := text "+no_defs",
                    unitSubstitutions := [fun t => t ++ text "\r\n\n+a"] }

theorem breakingOnOneLine : (breaking.resolver.Standard ∨ breaking.refiner.isSome) ∧
    breaking.record 1 = .ok ⟨1, text "+b=0 +proj=longlat +no_defs +a"⟩ ∧
    Definition.IsNormal (text "+b=0 +proj=longlat +no_defs +a") ∧
    (document breaking ⟨1, 3, by decide, by decide⟩).count Csv.lineFeed = 2 := by
  have checked : breaking.resolver.Standard ∨ breaking.refiner.isSome := .inr rfl
  obtain ⟨records, documents, _⟩ := definitionsOnOneLine.2.2 breaking checked
  have found : breaking.record 1 = .ok ⟨1, text "+b=0 +proj=longlat +no_defs +a"⟩ := rfl
  have lines := (documents ⟨1, 3, by decide, by decide⟩).1
  have written : (totals breaking ⟨1, 3, by decide, by decide⟩).written = 1 := rfl
  rw [written] at lines
  exact ⟨checked, found, (records 1 _ found).1, lines⟩

end Export
end CrsExport
