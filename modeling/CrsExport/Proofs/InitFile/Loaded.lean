import CrsExport.Initialization
import CrsExport.Proofs.Export.Record
import CrsExport.Proofs.InitFile.Lines
import CrsExport.Proofs.Log.Shown
/-! What is loaded from an init file, and what is reported of it. The entries of the file and
nothing else decide what a code resolves to, and the log tells the malformed lines and no other. -/

namespace CrsExport

namespace InitFile

variable {line body rest contents : Text} {code : Code} {d : Text} {crs : ReferenceSystem}
  {e : ResolveError}

theorem dropTerminatorIff : dropTerminator body = rest ↔
    body = rest ++ terminator ∨ ¬ terminator <:+ body ∧ rest = body := by
  by_cases ends : terminator <:+ body
  · obtain ⟨front, rfl⟩ := ends
    rw [dropTerminatorBehind]
    constructor
    · rintro rfl
      exact .inl rfl
    · rintro (same | ⟨open_, _⟩)
      · exact List.append_cancel_right same
      · exact absurd (List.suffix_append front terminator) open_
  · have kept : dropTerminator body = body := if_neg (mt List.isSuffixOf_iff_suffix.mp ends)
    rw [kept]
    constructor
    · rintro rfl
      exact .inr ⟨ends, rfl⟩
    · rintro (rfl | ⟨_, rfl⟩)
      · exact absurd (List.suffix_append rest terminator) ends
      · rfl

theorem entryIff : IsEntry line code d ↔
    ∃ header body rest, Text.trim line = '<' :: (header ++ '>' :: body) ∧ '>' ∉ header ∧
      Text.IsNumeral (Text.trim header) code.toNat ∧ 1 ≤ code ∧
      (Text.trim body = rest ++ terminator ∨
        ¬ terminator <:+ Text.trim body ∧ rest = Text.trim body) ∧ d = Text.trim rest := by
  constructor
  · rintro ⟨header, body, split, free, numeral, least, rfl⟩
    exact ⟨header, body, _, split, free, numeral, least, dropTerminatorIff.mp rfl, rfl⟩
  · rintro ⟨header, body, rest, split, free, numeral, least, dropped, rfl⟩
    rw [← dropTerminatorIff] at dropped
    exact ⟨header, body, split, free, numeral, least, by rw [dropped]⟩

theorem resolvedIff : (parse contents).resolver.resolve code = .ok crs ↔
    crs.code = code ∧ crs.wkt = none ∧ LastEntry contents code crs.proj4 := by
  rw [resolverResolve, ← findIff]
  cases (parse contents).find? code with
  | none => simp
  | some found =>
    constructor
    · rintro same
      cases same
      exact ⟨rfl, rfl, rfl⟩
    · rintro ⟨rfl, none, same⟩
      cases same
      rw [← none]

theorem unresolvedIff : (parse contents).resolver.resolve code = .error e ↔
    e = .unknownCode code ∧ ∀ line ∈ textLines contents, ∀ d, ¬ IsEntry line code d := by
  rw [resolverResolve, ← findNone]
  cases (parse contents).find? code with
  | none => simp [eq_comm]
  | some found => simp

/- The codes that the table has are those of the entries, each of them once. -/
theorem sizeOfCodes (contents : Text) : ∃ codes : List Code, codes.Nodup ∧
    (∀ code, code ∈ codes ↔ ∃ line ∈ textLines contents, ∃ d, IsEntry line code d) ∧
    (parse contents).size = codes.length := by
  refine ⟨(parse contents).definitions.keys, Std.HashMap.nodup_keys, fun code => ?_,
    Std.HashMap.length_keys.symm⟩
  have absent : (parse contents).find? code = none ↔
      ∀ line ∈ textLines contents, ∀ d, ¬ IsEntry line code d := findNone
  rw [Std.HashMap.mem_keys, Std.HashMap.mem_iff_isSome_getElem?, ← not_iff_not]
  simpa [find?] using absent

def report (l : Nat × Text) : Log.Record :=
  ⟨.debug, .initFile, text "Skipping init file line " ++ Text.ofNat l.1 ++ text ": " ++ l.2⟩

theorem loadDebug : ∀ e ∈ loadEvents contents, e.level.rank ≤ Log.Level.debug.rank := by
  intro e member
  obtain ⟨l, _, rfl⟩ := List.mem_map.mp member
  exact Nat.le_refl _

theorem loadShown (times : Log.Times) (contents : Text) :
    Log.shown .debug times (loadEvents contents) = (malformedLines contents).map report := by
  rw [Log.shownUpTo times loadDebug, loadEvents, List.map_map]
  rfl

theorem malformedReported (contents : Text) :
    (loadEvents contents).filterMap Log.Event.malformed? = malformedLines contents := by
  rw [loadEvents, List.filterMap_map]
  exact List.filterMap_some

section
variable {db : Database} {files : FileStore} {config : Config} {path : Text}
  (source : config.source = .initFile) (named : config.definitions = some path)
  (read : files.readText path = .ok contents)
include source named read

theorem setupEvents :
    (Initialization.resolver db files config).1 = loadEvents contents ++
      [.initFileLoaded (parse contents).size path,
        .definitionsLoaded (parse contents).size path] := by
  simp only [Initialization.resolver, source, named, read]

theorem setupShown (times : Log.Times) :
    ((Log.shown .debug times (Initialization.resolver db files config).1).map (·.message)).filter
      Log.malformedMark.isPrefixOf = (malformedLines contents).map fun l => (report l).message := by
  have debug : ∀ e ∈ (Initialization.resolver db files config).1,
      e.level.rank ≤ Log.Level.debug.rank := by
    rw [setupEvents source named read]
    intro e member
    rcases List.mem_append.mp member with line | after
    · exact loadDebug e line
    · rcases List.mem_pair.mp after with rfl | rfl
      · exact Nat.le_refl _
      · exact Nat.le_succ _
  have loaded : ([.initFileLoaded (parse contents).size path,
      .definitionsLoaded (parse contents).size path] : List Log.Event).filterMap
        Log.Event.malformed? = [] := rfl
  rw [Log.shownMessages times debug, Log.malformedMessages, setupEvents source named read,
    List.filterMap_append, malformedReported, loaded, List.append_nil]
  exact List.map_congr_left fun l _ => rfl

end

/- Blank lines and comments are passed over without a word. -/
theorem entriesLoaded (contents : Text) :
    (∀ line code d, IsEntry line code d ↔ ∃ header body rest,
      Text.trim line = '<' :: (header ++ '>' :: body) ∧ '>' ∉ header ∧
        Text.IsNumeral (Text.trim header) code.toNat ∧ 1 ≤ code ∧
        (Text.trim body = rest ++ terminator ∨
          ¬ terminator <:+ Text.trim body ∧ rest = Text.trim body) ∧ d = Text.trim rest) ∧
    (∀ code crs, (parse contents).resolver.resolve code = .ok crs ↔
      crs.code = code ∧ crs.wkt = none ∧ LastEntry contents code crs.proj4) ∧
    (∀ code e, (parse contents).resolver.resolve code = .error e ↔
      e = .unknownCode code ∧ ∀ line ∈ textLines contents, ∀ d, ¬ IsEntry line code d) ∧
    (∃ codes : List Code, codes.Nodup ∧
      (∀ code, code ∈ codes ↔ ∃ line ∈ textLines contents, ∃ d, IsEntry line code d) ∧
      (parse contents).size = codes.length) ∧
    (∀ line, ∃! kind : Kind, kind.Describes line) ∧
    (∀ n content, (n, content) ∈ malformedLines contents ↔
      1 ≤ n ∧ ∃ line, (textLines contents)[n - 1]? = some line ∧
        Kind.malformed.Describes line ∧ content = Text.trim line) ∧
    ((malformedLines contents).Pairwise fun l l' => l.1 < l'.1) ∧
    ∀ times : Log.Times,
      Log.shown .debug times (loadEvents contents) = (malformedLines contents).map report ∧
      ∀ (db : Database) (files : FileStore) (config : Config) (path : Text),
        config.source = .initFile → config.definitions = some path →
        files.readText path = .ok contents →
        ((Log.shown .debug times (Initialization.resolver db files config).1).map
          (·.message)).filter Log.malformedMark.isPrefixOf =
            (malformedLines contents).map fun l => (report l).message :=
  ⟨fun _ _ _ => entryIff, fun _ _ => resolvedIff, fun _ _ => unresolvedIff, sizeOfCodes contents,
    kindUnique, fun _ _ => malformedMem, malformedAscending contents, fun times =>
      ⟨loadShown times contents, fun _ _ _ _ source named read =>
        setupShown source named read times⟩⟩

/- The last entry for code 1 is of no use but counts, and code 0 is malformed. -/
def mixed : Text :=
  text "<1> +proj=utm <>\n<1> <> <>\n# <2> x\n<0> a\n\t\n< +003 >+k=<> b<>\r\n x"

def mixedFiles : FileStore where
  entries := [([text "defs"], .file (Text.utf8 mixed))]

def fromMixed : Config where
  source := .initFile
  definitions := some (text "defs")

theorem mixedLoaded :
    mixedFiles.readText (text "defs") = .ok mixed ∧
    (parse mixed).resolver.resolve 1 = .ok ⟨1, text "<>", none⟩ ∧
    (parse mixed).resolver.resolve 2 = .error (.unknownCode 2) ∧
    (parse mixed).resolver.resolve 3 = .ok ⟨3, text "+k=<> b", none⟩ ∧
    ∀ (db : Database) (times : Log.Times),
      ((Log.shown .debug times (Initialization.resolver db mixedFiles fromMixed).1).map
        (·.message)).filter Log.malformedMark.isPrefixOf =
          [text "Skipping init file line 4: <0> a", text "Skipping init file line 7: x"] := by
  obtain ⟨-, resolved, unresolved, -, -, -, -, reported⟩ := entriesLoaded mixed
  have read : mixedFiles.readText (text "defs") = .ok mixed := by decide +kernel
  have first : (parse mixed).find? 1 = some (text "<>") := by
    rw [findLast]
    decide +kernel
  have second : (parse mixed).find? 2 = none := by
    rw [findLast]
    decide +kernel
  have third : (parse mixed).find? 3 = some (text "+k=<> b") := by
    rw [findLast]
    decide +kernel
  refine ⟨read, ?_, ?_, ?_, fun db times => ?_⟩
  · exact (resolved 1 _).mpr ⟨rfl, rfl, findIff.mp first⟩
  · exact (unresolved 2 _).mpr ⟨rfl, findNone.mp second⟩
  · exact (resolved 3 _).mpr ⟨rfl, rfl, findIff.mp third⟩
  · rw [(reported times).2 db mixedFiles fromMixed _ rfl rfl read]
    decide +kernel

end InitFile
end CrsExport
