import CrsExport.Proofs.Export.Lines
import CrsExport.Proofs.Export.ReadBack
import CrsExport.Proofs.InitFile.Record
/-! Exports written as init files. The rows of an export, each on a line of its own, are an init
file from which the same export is made: what is written around a definition is taken away
again, and no more. -/

namespace CrsExport

namespace InitFile

def line (r : Text × Text) : Text := '<' :: (r.1 ++ text "> " ++ r.2 ++ text " <>")

def written (rows : List (Text × Text)) : Text := rows.flatMap fun r => line r ++ ['\n']

variable {code : Code} {d : Text} {pairs : List (Code × Text)} {listing : List (Text × Text)}

theorem lineIsEntry (least : 1 ≤ code) (trimmed : Text.Trimmed d) :
    IsEntry (line (code.toText, d)) code d := by
  have opened : text "> " = ['>', ' '] := rfl
  have closed : text " <>" = ' ' :: terminator := rfl
  have laidOut : line (code.toText, d) = layout [] [] code.toText [] [' '] d [' '] [] := by
    simp [line, layout, opened, closed]
  have padding : ∀ p ∈ [[], [], [], [' '], [' '], []], Text.IsPadding p := by
    simp [Text.IsPadding, Text.isBlank]
  rw [laidOut]
  exact layoutIsEntry padding (Text.ofNatIsNumeral _) least trimmed

theorem lineUnbroken {r : Text × Text} (code : '\n' ∉ r.1) (definition : '\n' ∉ r.2) :
    '\n' ∉ line r := by
  have opened : '\n' ∉ text "> " := by decide
  have closed : '\n' ∉ text " <>" := by decide
  simp [line, code, definition, opened, closed]

def texts (p : Code × Text) : Text × Text := (p.1.toText, p.2)

structure Writable (pairs : List (Code × Text)) : Prop where
  least : ∀ p ∈ pairs, 1 ≤ p.1
  trimmed : ∀ p ∈ pairs, Text.Trimmed p.2
  unbroken : ∀ p ∈ pairs, '\n' ∉ p.2
  single : ∀ c d e, (c, d) ∈ pairs → (c, e) ∈ pairs → d = e

theorem writtenLines (h : Writable pairs) (order : listing.Perm (pairs.map texts)) :
    textLines (written listing) = listing.map line ++ [[]] := by
  have joined : written listing = (listing.map line).flatMap (· ++ ['\n']) := by
    rw [List.flatMap_map]
    rfl
  rw [textLines, joined]
  refine Text.splitWhenEnded (by decide) fun l hl c hc => ?_
  obtain ⟨r, hr, rfl⟩ := List.mem_map.mp hl
  obtain ⟨p, hp, rfl⟩ := List.mem_map.mp (order.mem_iff.mp hr)
  have code : '\n' ∉ (texts p).1 := Text.numeralFree (Text.ofNatIsNumeral _) (by decide)
  have whole := lineUnbroken code (h.unbroken p hp)
  exact beq_false_of_ne fun same => whole (same ▸ hc)

theorem writtenEntries (h : Writable pairs) (order : listing.Perm (pairs.map texts)) :
    (∃ l ∈ textLines (written listing), IsEntry l code d) ↔ (code, d) ∈ pairs := by
  rw [writtenLines h order]
  constructor
  · rintro ⟨l, member, entry⟩
    rcases List.mem_append.mp member with row | last
    · obtain ⟨r, hr, rfl⟩ := List.mem_map.mp row
      obtain ⟨p, hp, rfl⟩ := List.mem_map.mp (order.mem_iff.mp hr)
      obtain ⟨rfl, rfl⟩ := entryUnique entry (lineIsEntry (h.least p hp) (h.trimmed p hp))
      exact hp
    · obtain ⟨header, body, content, _⟩ := entry
      rw [List.mem_singleton.mp last] at content
      cases content
  · intro member
    have row : texts (code, d) ∈ listing := order.mem_iff.mpr (List.mem_map_of_mem member)
    exact ⟨line (texts (code, d)), List.mem_append_left _ (List.mem_map_of_mem row),
      lineIsEntry (h.least _ member) (h.trimmed _ member)⟩

theorem writtenFound (h : Writable pairs) (order : listing.Perm (pairs.map texts)) :
    (parse (written listing)).find? code = some d ↔ (code, d) ∈ pairs := by
  rw [findAgreed, writtenEntries h order]
  intro l hl l' hl' d d' entry entry'
  exact h.single code d d' ((writtenEntries h order).mp ⟨l, hl, entry⟩)
    ((writtenEntries h order).mp ⟨l', hl', entry'⟩)

end InitFile

namespace Export

variable {x : Exporter} {range : CodeRange}

def pairs (x : Exporter) (range : CodeRange) : List (Code × Text) :=
  (rows x range).map fun r => (r.code, r.definition)

theorem pairsMem {code : Code} {d : Text} : (code, d) ∈ pairs x range ↔
    code ∈ range.codes ∧ x.record code = .ok ⟨code, d⟩ := by
  rw [pairs, List.mem_map]
  constructor
  · rintro ⟨r, member, same⟩
    cases same
    exact rowsMem.mp member
  · intro kept
    exact ⟨⟨code, d⟩, rowsMem.mpr kept, rfl⟩

theorem pairsWritable (checked : x.resolver.Standard ∨ x.refiner.isSome) (range : CodeRange) :
    InitFile.Writable (pairs x range) := by
  have normal : ∀ p ∈ pairs x range, Definition.IsNormal p.2 :=
    fun p hp => Exporter.recordIsNormal checked (pairsMem.mp hp).2
  refine ⟨fun p hp => ?_, fun p hp => (normal p hp).trimmed, fun p hp feed => ?_,
    fun c d e hd he => ?_⟩
  · exact UInt32.le_trans range.positive (CodeRange.codesMem.mp (pairsMem.mp hp).1).1
  · exact absurd ((normal p hp).blanks '\n' feed (by decide)) (by decide)
  · have same := (pairsMem.mp hd).2.symm.trans (pairsMem.mp he).2
    cases same
    rfl

/- A definition that has been accepted once passes the check of the second export unchanged. -/
theorem reloadedRecord (checked : x.resolver.Standard ∨ x.refiner.isSome)
    {listing : List (Text × Text)} (order : listing.Perm ((pairs x range).map InitFile.texts))
    {code : Code} (member : code ∈ range.codes) :
    ((InitFile.exporter (InitFile.written listing)).record code).toOption =
      (x.record code).toOption := by
  have found : ∀ d, (InitFile.parse (InitFile.written listing)).find? code = some d ↔
      (code, d) ∈ pairs x range :=
    fun d => InitFile.writtenFound (pairsWritable checked range) order
  rw [InitFile.recordFound]
  cases kept : x.record code with
  | ok r =>
    obtain ⟨c, d, accepted⟩ := Exporter.recordChecked checked kept
    obtain ⟨same, _⟩ := Exporter.recordFrom kept
    obtain ⟨own, definition⟩ := r
    have same : own = code := same
    subst own
    rw [(found definition).mpr (pairsMem.mpr ⟨member, kept⟩)]
    dsimp only
    rw [Definition.normalizeAgain accepted code]
    rfl
  | error e =>
    have absent : (InitFile.parse (InitFile.written listing)).find? code = none := by
      refine Option.eq_none_iff_forall_ne_some.mpr fun d listed => ?_
      have kept' := (pairsMem.mp ((found d).mp listed)).2
      rw [kept] at kept'
      cases kept'
    rw [absent]
    rfl

theorem reloadedDocument (checked : x.resolver.Standard ∨ x.refiner.isSome)
    {listing : List (Text × Text)} (order : listing.Perm ((pairs x range).map InitFile.texts)) :
    document (InitFile.exporter (InitFile.written listing)) range = document x range := by
  have same : rows (InitFile.exporter (InitFile.written listing)) range = rows x range :=
    List.filterMap_congr fun code member => reloadedRecord checked order member
  rw [document, same, document]

theorem pairsReadBack (x : Exporter) (range : CodeRange) :
    Csv.readTexts? (document x range) =
      some ([text "EPSG Code", text "PROJ Definition"] ::
        ((pairs x range).map InitFile.texts).map fun r => [r.1, r.2]) := by
  rw [documentReadsBack, ← rowTexts, pairs, List.map_map, List.map_map]
  rfl

/- The rows are taken from the bytes of the first export, with the codes as they are written
there. -/
theorem reloadedExport (x : Exporter) (checked : x.resolver.Standard ∨ x.refiner.isSome)
    (range : CodeRange) (sink : Sink) (stats : ExportStats)
    (ok : (toSink x sink range).result = .ok stats) :
    ∃ rows : List (Text × Text),
      Csv.readTexts? (toSink x sink range).outlet.accepted.toList =
        some ([text "EPSG Code", text "PROJ Definition"] :: rows.map fun r => [r.1, r.2]) ∧
      ∀ listing : List (Text × Text), listing.Perm rows →
        let again : Exporter := InitFile.exporter (InitFile.written listing)
        (∀ sink' : Sink, sink'.Obliging →
          ∃ stats', (toSink again sink' range).result = .ok stats') ∧
        ∀ (sink' : Sink) (stats' : ExportStats), (toSink again sink' range).result = .ok stats' →
          (toSink again sink' range).outlet.accepted.toList =
            (toSink x sink range).outlet.accepted.toList := by
  obtain ⟨_, accepted, _⟩ := succeededWhole ok
  refine ⟨(pairs x range).map InitFile.texts, ?_, fun listing order => ?_⟩
  · rw [accepted, pairsReadBack]
  · intro again
    refine ⟨fun sink' obliging => obligingSucceeds obliging again range, fun sink' stats' ok' => ?_⟩
    obtain ⟨_, accepted', _⟩ := succeededWhole ok'
    rw [accepted', accepted, reloadedDocument checked order]

/- The first definition has brackets at its end, and a field that has to stand between
quotes. -/
def bracketed : Exporter where
  resolver := Database.resolver fun c =>
    if c = 1 then some { proj4 := " +proj=utm\t+a=<1>,\"2\" <> " }
    else if c = 3 then some { proj4 := "+proj=longlat" } else none

theorem bracketedReloads :
    let range : CodeRange := ⟨1, 4, by decide, by decide⟩
    let listing : List (Text × Text) :=
      [(text "3", text "+proj=longlat"), (text "1", text "+proj=utm +a=<1>,\"2\" <>")]
    let again : Exporter := InitFile.exporter (InitFile.written listing)
    bracketed.resolver.Standard ∧
      (toSink bracketed .perfect range).result = .ok (totals bracketed range) ∧
      listing.Perm ((pairs bracketed range).map InitFile.texts) ∧
      ∃ stats, (toSink again .perfect range).result = .ok stats ∧
        (toSink again .perfect range).outlet.accepted.toList =
          (toSink bracketed .perfect range).outlet.accepted.toList := by
  intro range listing again
  have standard : bracketed.resolver.Standard := Database.resolverStandard _
  have ok := obligingTotals Sink.perfectObliging bracketed range
  obtain ⟨rows, read, reload⟩ := reloadedExport bracketed (.inl standard) range .perfect _ ok
  have order : listing.Perm ((pairs bracketed range).map InitFile.texts) := by
    have same : (pairs bracketed range).map InitFile.texts = listing.reverse := by decide +kernel
    rw [same]
    exact (List.reverse_perm listing).symm
  have taken : rows = (pairs bracketed range).map InitFile.texts := by
    rw [(succeededWhole ok).2.1, pairsReadBack] at read
    have same := (List.cons.inj (Option.some.inj read)).2
    refine List.map_injective_iff.mpr (fun r r' same => ?_) same.symm
    simp only [List.cons.injEq, and_true] at same
    exact Prod.ext same.1 same.2
  obtain ⟨succeeds, reloads⟩ := reload listing (taken ▸ order)
  obtain ⟨stats, ok'⟩ := succeeds .perfect Sink.perfectObliging
  exact ⟨standard, ok, order, stats, ok', reloads .perfect stats ok'⟩

end Export
end CrsExport
