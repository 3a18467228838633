import Mathlib.Data.List.Nodup
import CrsExport.Export.Scan
import CrsExport.Initialization
import CrsExport.Proofs.InitFile.Table
/-! Init files put together and taken apart. A file behind another one overrides it, code by code.
Where every code has one entry at most, nothing depends on the order of the lines; and no file
says anything else for the carriage returns in it. -/

namespace CrsExport.InitFile

def SingleEntries (contents : Text) : Prop := ((entries (readLines contents)).map Prod.fst).Nodup

/-- Files of the same lines in some order, where a carriage return at the end of a line is a part
of it in both of the files or in neither. -/
def Rearranged (contents contents' : Text) : Prop :=
  (textLines contents').Perm (textLines contents) ∨
    (Text.lines contents').Perm (Text.lines contents)

def withReturns (contents : Text) : Text :=
  contents.flatMap fun c => if c = '\n' then ['\r', '\n'] else [c]

variable {contents contents' : Text} {code : Code} {d : Text}

theorem joinedFind (a b : Text) (code : Code) : (parse (a ++ '\n' :: b)).find? code =
    ((parse b).find? code).or ((parse a).find? code) := by
  simp only [findLast, textLinesJoined, List.reverse_append, List.findSome?_append]

theorem entriesMem : (code, d) ∈ entries (readLines contents) ↔
    ∃ l ∈ textLines contents, IsEntry l code d := by
  have lines : readLines contents = (textLines contents).map readLine := rfl
  simp only [lines, entries, List.filterMap_map, List.mem_filterMap, ← readLineIff,
    Function.comp_apply]
  refine exists_congr fun l => and_congr_right fun _ => ?_
  cases readLine l <;> simp

theorem agreedSingle (single : SingleEntries contents) :
    ∀ l ∈ textLines contents, ∀ l' ∈ textLines contents, ∀ d d',
      IsEntry l code d → IsEntry l' code d' → d = d' := by
  intro l hl l' hl' d d' entry entry'
  have first := entriesMem.mpr ⟨l, hl, entry⟩
  have second := entriesMem.mpr ⟨l', hl', entry'⟩
  have same := List.inj_on_of_nodup_map single first second rfl
  exact congrArg Prod.snd same

theorem emptyNoEntry : ¬ IsEntry [] code d := by
  rintro ⟨header, body, content, _⟩
  cases content

theorem trimEnded (line : Text) :
    Text.trim (if line.getLast? = some '\r' then line.dropLast else line) = Text.trim line := by
  split
  · rename_i ended
    obtain ⟨front, rfl⟩ := List.getLast?_eq_some_iff.mp ended
    rw [List.dropLast_concat, trimReturn]
  · rfl

/- Cutting carriage returns off, and the empty line behind the last line feed, takes no entry
away. -/
theorem linesEntry : (∃ l ∈ Text.lines contents, IsEntry l code d) ↔
    ∃ l ∈ textLines contents, IsEntry l code d := by
  obtain ⟨front, last, split⟩ : ∃ front last, textLines contents = front ++ [last] := by
    have some := Text.splitWhenInhabited (· == '\n') contents
    exact ⟨_, _, (List.dropLast_append_getLast some).symm⟩
  have pieces : Text.splitWhen (· == '\n') contents = front ++ [last] := split
  simp only [Text.lines, split, pieces, List.dropLast_concat, List.getLast?_concat]
  cases last with
  | nil => simp [entrySame (trimEnded _), emptyNoEntry]
  | cons c rest => simp [entrySame (trimEnded _), or_and_right, exists_or]

theorem rearrangedEntries (h : Rearranged contents contents') :
    (∃ l ∈ textLines contents', IsEntry l code d) ↔ ∃ l ∈ textLines contents, IsEntry l code d := by
  rcases h with whole | stripped
  · simp only [whole.mem_iff]
  · rw [← linesEntry, ← linesEntry]
    simp only [stripped.mem_iff]

theorem rearrangedFind (single : SingleEntries contents) (h : Rearranged contents contents')
    (code : Code) : (parse contents').find? code = (parse contents).find? code := by
  refine findExactly fun d => ?_
  rw [rearrangedEntries h, findAgreed (agreedSingle single)]

theorem returnedLines (contents : Text) :
    List.Forall₂ (fun l' l => l' = l ∨ l' = l ++ ['\r']) (textLines (withReturns contents))
      (textLines contents) := by
  induction contents with
  | nil => exact .cons (.inl rfl) .nil
  | cons c rest ih =>
    by_cases feed : c = '\n'
    · subst feed
      exact .cons (.inr rfl) ih
    · have cut : (c == '\n') = false := beq_false_of_ne feed
      have returned : withReturns (c :: rest) = c :: withReturns rest := by
        simp [withReturns, feed]
      unfold textLines at ih ⊢
      rw [returned, Text.splitWhenCons, Text.splitWhenCons, cut]
      generalize Text.splitWhen (· == '\n') (withReturns rest) = ls' at ih ⊢
      generalize Text.splitWhen (· == '\n') rest = ls at ih ⊢
      cases ih with
      | nil => exact .nil
      | cons head tail => exact .cons (head.imp (congrArg _) (congrArg _)) tail

theorem returnedRead (contents : Text) : readLines (withReturns contents) = readLines contents := by
  have same : ∀ {l' l : Text}, l' = l ∨ l' = l ++ ['\r'] → readLine l' = readLine l := by
    rintro l' l (rfl | rfl)
    · rfl
    · simp only [readLine, trimReturn]
  have lines : ∀ {ls' ls : List Text}, List.Forall₂ (fun l' l => l' = l ∨ l' = l ++ ['\r']) ls' ls →
      ls'.map readLine = ls.map readLine := by
    intro ls' ls returned
    induction returned with
    | nil => rfl
    | cons head _ ih => simp only [List.map_cons, same head, ih]
  exact lines (returnedLines contents)

/- An export sees of a file what its resolver hands out, so it is the same to the last byte, to any
sink, with any refiner. -/
theorem joinedFilesOverride :
    (∀ a b, Same (parse (a ++ '\n' :: b)) ((parse a).override (parse b)) ∧
      ∀ code, (parse (a ++ '\n' :: b)).find? code =
        ((parse b).find? code).or ((parse a).find? code)) ∧
    (∀ contents contents', SingleEntries contents → Rearranged contents contents' →
      (parse contents').size = (parse contents).size ∧
      (parse contents').resolver = (parse contents).resolver ∧
      ∀ (refiner : Option Refiner) (sink : Sink) (range : CodeRange),
        Export.toSink { resolver := (parse contents').resolver, refiner } sink range =
          Export.toSink { resolver := (parse contents).resolver, refiner } sink range) ∧
    ∀ contents, parse (withReturns contents) = parse contents ∧
      loadEvents (withReturns contents) = loadEvents contents := by
  refine ⟨fun a b => ⟨?_, joinedFind a b⟩, fun contents contents' single h => ?_,
    fun contents => ?_⟩
  · refine sameIff.mpr fun code => ?_
    rw [joinedFind, overrideFind]
  · have same := sameIff.mpr (rearrangedFind single h)
    have resolver := sameResolver same
    refine ⟨sameSize same, resolver, fun refiner sink range => ?_⟩
    rw [resolver]
  · constructor
    · rw [parse, returnedRead, parse]
    · rw [loadEvents, malformedLines, returnedRead, loadEvents, malformedLines]

/- The second file has its lines in another order, and neither carriage returns nor a last line
end. -/
def returning : Text := text "<1> +proj=utm <>\r\n# <1> x\r\n<2> +a=\r\n"

def unending : Text := text "<2> +a=\n# <1> x\n<1> +proj=utm <>"

theorem unendingSame :
    SingleEntries returning ∧ Rearranged returning unending ∧
      (parse unending).resolver = (parse returning).resolver ∧
      (parse (returning ++ '\n' :: text "<1> <>")).find? 1 = some [] ∧
      (parse (returning ++ '\n' :: text "<1> <>")).find? 2 = some (text "+a=") := by
  have single : SingleEntries returning := by
    unfold SingleEntries
    decide +kernel
  have rearranged : Rearranged returning unending := .inr (by decide +kernel)
  obtain ⟨joined, same, -⟩ := joinedFilesOverride
  obtain ⟨-, resolver, -⟩ := same returning unending single rearranged
  obtain ⟨-, found⟩ := joined returning (text "<1> <>")
  refine ⟨single, rearranged, resolver, ?_, ?_⟩
  · rw [found, findLast, findLast]
    decide +kernel
  · rw [found, findLast, findLast]
    decide +kernel

end CrsExport.InitFile
