import CrsExport.Log.Format
import CrsExport.Proofs.Json.Values
import CrsExport.Proofs.Text.Words
/-! Log records as JSON lines. Whatever a message holds, its line has no control character but the
line feed behind it, and by the grammar it is one object that has the message in it as it was; so
the lines of a log are its records. -/

namespace CrsExport.Log

theorem hexRead : ∀ n < 16, Unicode.hexDigit? (hexDigit n) = some n := by decide

variable {v : Text} {a : Json}

/- The escapes by number are for characters that have no other. -/
theorem charEscaped (c : Char) : Json.SpellsChar (escapeChar c) c := by
  unfold escapeChar
  split_ifs with quote backslash back feed line ret tab low
  · exact .short (congrArg some quote.symm)
  · exact .short (congrArg some backslash.symm)
  · exact .short (congrArg some back.symm)
  · exact .short (congrArg some feed.symm)
  · exact .short (congrArg some line.symm)
  · exact .short (congrArg some ret.symm)
  · exact .short (congrArg some tab.symm)
  · have unit : Json.SpellsUnit ['0', '0', hexDigit (c.toNat / 16), hexDigit (c.toNat % 16)]
        (0x1000 * 0 + 0x100 * 0 + 0x10 * (c.toNat / 16) + c.toNat % 16) :=
      .digits rfl rfl (hexRead _ (by omega)) (hexRead _ (by omega))
    have value : 0x1000 * 0 + 0x100 * 0 + 0x10 * (c.toNat / 16) + c.toNat % 16 = c.toNat := by
      omega
    rw [value] at unit
    have spelled := Json.SpellsChar.unit unit (by omega)
    rwa [Char.ofNat_toNat] at spelled
  · exact .plain (Nat.le_of_not_lt low) quote backslash

theorem textEscaped (s : Text) : Json.SpellsString (s.flatMap escapeChar) s := by
  induction s with
  | nil => exact .nil
  | cons c s ih =>
    rw [List.flatMap_cons]
    exact .cons (charEscaped c) ih

theorem stringSpelled (s : Text) : Json.SpellsValue (jsonString s) (.string s) :=
  .string (textEscaped s)

def member (name : String) (value : Text) : Text := jsonString (text name) ++ ':' :: value

theorem unspaced : Json.IsSpaces [] := fun _ none => nomatch none

theorem memberSpelled (name : String) (spelled : Json.SpellsValue v a) :
    Json.SpellsMember Json.SpellsValue (member name v) (text name, a) := by
  have parts := Json.SpellsMember.parts (textEscaped (text name)) unspaced unspaced spelled
  have whole : member name v =
      '"' :: ((text name).flatMap escapeChar ++ '"' :: ([] ++ ':' :: ([] ++ v))) := by
    simp [member, jsonString]
  exact whole ▸ parts

/- Neither labels nor paths have anything in them to escape. -/
theorem labelString (l : Level) : jsonString (text l.label) = '"' :: text l.label ++ ['"'] := by
  cases l <;> rfl

theorem pathString (t : Target) : jsonString (text t.path) = '"' :: text t.path ++ ['"'] := by
  cases t <;> decide +kernel

theorem lineMembers (stamp : Stamp) (r : Record) : jsonLine stamp r =
    '{' :: (member "ts" (Text.ofNat stamp.millis) ++
      ',' :: (member "level" (jsonString (text r.level.label)) ++
      ',' :: (member "target" (jsonString (text r.target.path)) ++
      ',' :: (member "msg" (jsonString r.message) ++ ['}'])))) := by
  have ts : text "\x7b\"ts\":" = '{' :: jsonString (text "ts") ++ [':'] := rfl
  have level : text ",\"level\":\"" = ',' :: jsonString (text "level") ++ [':', '"'] := rfl
  have target : text "\",\"target\":\"" =
      '"' :: ',' :: jsonString (text "target") ++ [':', '"'] := rfl
  have msg : text "\",\"msg\":" = '"' :: ',' :: jsonString (text "msg") ++ [':'] := rfl
  have close : text "\x7d" = ['}'] := rfl
  unfold jsonLine
  rw [ts, level, target, msg, close]
  simp only [member]
  rw [labelString, pathString]
  simp only [List.append_assoc, List.cons_append, List.nil_append]

theorem lineSpelled (stamp : Stamp) (r : Record) : Json.Spells (jsonLine stamp r) (.object
    [(text "ts", .number (Text.ofNat stamp.millis)), (text "level", .string (text r.level.label)),
      (text "target", .string (text r.target.path)), (text "msg", .string r.message)]) := by
  have members := Json.SpellsSequence.more unspaced
    (memberSpelled "ts" (.number (Json.ofNatNumber stamp.millis))) unspaced
    (.more unspaced (memberSpelled "level" (stringSpelled (text r.level.label))) unspaced
      (.more unspaced (memberSpelled "target" (stringSpelled (text r.target.path))) unspaced
        (.last unspaced (memberSpelled "msg" (stringSpelled r.message)) unspaced)))
  have spelled := Json.Spells.text unspaced (.object members) unspaced
  rw [lineMembers]
  simpa only [List.nil_append, List.append_nil, List.append_assoc, List.cons_append] using spelled

/- What a line holds besides its values is known, and none of it needs more than a look. -/
theorem visibleIff {t : Text} :
    t.all (fun c => decide (0x20 ≤ c.toNat)) = true ↔ ∀ c ∈ t, 0x20 ≤ c.toNat := by
  simp only [List.all_eq_true, decide_eq_true_eq]

theorem lineVisible (stamp : Stamp) (r : Record) :
    ∀ c ∈ jsonLine stamp r, 0x20 ≤ c.toNat := by
  have digits : ∀ c ∈ Text.ofNat stamp.millis, 0x20 ≤ c.toNat := fun c hc =>
    Nat.le_trans (by decide) (Char.isDigit_iff_toNat.mp (Text.ofNatDigits _ c hc)).1
  have label : ∀ c ∈ text r.level.label, 0x20 ≤ c.toNat := by
    rw [← visibleIff]
    cases r.level <;> rfl
  have path : ∀ c ∈ text r.target.path, 0x20 ≤ c.toNat := by
    rw [← visibleIff]
    cases r.target <;> decide +kernel
  have message : ∀ c ∈ jsonString r.message, 0x20 ≤ c.toNat := by
    have inside := Json.stringVisible (textEscaped r.message)
    refine List.forall_mem_append.mpr ⟨List.forall_mem_cons.mpr ⟨by decide, inside⟩, ?_⟩
    exact List.forall_mem_singleton.mpr (by decide)
  unfold jsonLine
  simp only [List.forall_mem_append]
  refine ⟨⟨⟨⟨⟨⟨⟨⟨?_, digits⟩, ?_⟩, label⟩, ?_⟩, path⟩, ?_⟩, message⟩, ?_⟩
  all_goals
    rw [← visibleIff]
    rfl

theorem recordsOnLines (colors : Bool) :
    (∀ stamp r,
      let object : Json := .object
        [(text "ts", .number (Text.ofNat stamp.millis)),
          (text "level", .string (text r.level.label)),
          (text "target", .string (text r.target.path)), (text "msg", .string r.message)]
      line .json colors stamp r = jsonLine stamp r ++ ['\n'] ∧
        (∀ c ∈ jsonLine stamp r, 0x20 ≤ c.toNat) ∧
        (∀ v, Json.Spells (jsonLine stamp r) v ↔ v = object) ∧
        Json.read (jsonLine stamp r) = some object) ∧
    ∀ entries : List (Stamp × Record),
      Text.lines (entries.flatMap fun e => line .json colors e.1 e.2) =
        entries.map fun e => jsonLine e.1 e.2 := by
  refine ⟨fun stamp r => ?_, fun entries => ?_⟩
  · have spelled := lineSpelled stamp r
    refine ⟨rfl, lineVisible stamp r, fun v => ⟨fun other => Json.spelledOnce other spelled, ?_⟩,
      Json.readIff.mpr spelled⟩
    rintro rfl
    exact spelled
  · have unbroken : ∀ l ∈ entries.map fun e => jsonLine e.1 e.2, '\n' ∉ l ∧ '\r' ∉ l := by
      intro l hl
      obtain ⟨e, _, rfl⟩ := List.mem_map.mp hl
      exact ⟨fun feed => absurd (lineVisible _ _ _ feed) (by decide),
        fun ret => absurd (lineVisible _ _ _ ret) (by decide)⟩
    have ended := Text.linesEnded unbroken
    rwa [List.flatMap_map] at ended

/- A message that ends its string and its line and goes on with a record of its own. -/
theorem forgeryContained :
    let stamp : Stamp := ⟨text "12:00:00", 1024⟩
    let r : Record := ⟨.debug, .initFile,
      text "Skipping init file line 2: é\\\x01\"\x7d\r\n\x7b\"ts\":0,\"msg\":\"x\"\x7d"⟩
    Text.lines (line .json true stamp r) = [jsonLine stamp r] ∧
      Json.read (jsonLine stamp r) = some (.object
        [(text "ts", .number (text "1024")), (text "level", .string (text "DEBUG")),
          (text "target", .string (text "epsg_export::resolver::init_file")),
          (text "msg", .string r.message)]) := by
  intro stamp r
  obtain ⟨each, all⟩ := recordsOnLines true
  obtain ⟨_, _, _, read⟩ := each stamp r
  refine ⟨?_, ?_⟩
  · have one := all [(stamp, r)]
    rwa [List.flatMap_singleton] at one
  · have path : text r.target.path = text "epsg_export::resolver::init_file" := by decide +kernel
    have millis : Text.ofNat stamp.millis = text "1024" := by decide +kernel
    rw [path, millis] at read
    exact read

end CrsExport.Log
