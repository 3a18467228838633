import Mathlib.Data.List.DropRight
import CrsExport.Proofs.Text.Words
/-! Text without the blanks around it. Blanks that are put around a text are taken away again,
and a text that neither begins nor ends with a blank stays as it is. The words of a text do not
depend on the blanks around it. -/

namespace CrsExport.Text

def IsPadding (p : Text) : Prop := ∀ c ∈ p, isBlank c = true

structure Trimmed (t : Text) : Prop where
  first : ∀ c y, t = c :: y → isBlank c = false
  last : ∀ c x, t = x ++ [c] → isBlank c = false

variable {p q t : Text} {c : Char}

theorem paddingNil : IsPadding [] := fun _ hc => absurd hc List.not_mem_nil

theorem trimStartPadded (h : IsPadding p) (t : Text) : trimStart (p ++ t) = trimStart t :=
  List.dropWhile_append_of_pos h

theorem trimEndPadded (h : IsPadding p) (t : Text) : trimEnd (t ++ p) = trimEnd t := by
  have padding : IsPadding p.reverse := fun c hc => h c (List.mem_reverse.mp hc)
  have dropped := trimStartPadded padding t.reverse
  rw [trimStart, trimStart] at dropped
  rw [trimEnd, List.reverse_append, dropped, trimEnd]

theorem trimStartPadding (h : IsPadding p) : trimStart p = [] := by
  have dropped := trimStartPadded h []
  rwa [List.append_nil] at dropped

/- What stands before a character that is no blank is trimmed on its own. -/
theorem trimStartUpTo (h : isBlank c = false) (x y : Text) :
    trimStart (x ++ c :: y) = trimStart x ++ c :: y := by
  have firm : trimStart (c :: y) = c :: y := by simp [trimStart, h]
  rw [trimStart, List.dropWhile_append]
  split
  · rename_i empty
    have empty : trimStart x = [] := List.isEmpty_iff.mp empty
    rw [empty]
    exact firm
  · rfl

theorem trimEndFirm (h : isBlank c = false) (x : Text) : trimEnd (x ++ [c]) = x ++ [c] := by
  simp [trimEnd, h]

theorem trimPadded (before : IsPadding p) (behind : IsPadding q) (t : Text) :
    trim (p ++ t ++ q) = trim t := by
  rw [List.append_assoc, trim, trimStartPadded before, trimStart, List.dropWhile_append, trim]
  split
  · rename_i empty
    have empty : trimStart t = [] := List.isEmpty_iff.mp empty
    have nothing : q.dropWhile isBlank = [] := trimStartPadding behind
    rw [nothing, empty]
  · exact trimEndPadded behind _

theorem trimBehind (h : IsPadding p) (t : Text) : trim (t ++ p) = trim t :=
  trimPadded paddingNil h t

theorem trimBefore (h : IsPadding p) (t : Text) : trim (p ++ t) = trim t := by
  simpa using trimPadded h paddingNil t

theorem trimPadding (h : IsPadding p) : trim p = [] := by
  rw [trim, trimStartPadding h]
  rfl

theorem paddingFree (h : IsPadding p) (c : Char) (unblank : isBlank c = false) : c ∉ p :=
  fun member => absurd (h c member) (by simp [unblank])

theorem trimAgain (t : Text) : trim (trimStart t) = trim t := by
  rw [trim, trimStart, trimStart, List.dropWhile_idempotent, trim, trimStart]

theorem trimTrimmed (h : Trimmed t) : trim t = t := by
  cases t with
  | nil => rfl
  | cons c y =>
    have start : trimStart (c :: y) = c :: y := by
      have firm := trimStartUpTo (h.first c y rfl) [] y
      exact firm
    have split := (List.dropLast_append_getLast (List.cons_ne_nil c y)).symm
    rw [trim, start, split]
    exact trimEndFirm (h.last _ _ split) _

theorem trimmedTrim (t : Text) : Trimmed (trim t) := by
  have edge : ∀ (x : Text) c y, x.dropWhile isBlank = c :: y → isBlank c = false := by
    intro x c y dropped
    have stopped := List.head?_dropWhile_not isBlank x
    rw [dropped] at stopped
    simpa using stopped
  constructor
  · intro c y split
    have behind := List.takeWhile_append_dropWhile (p := isBlank) (l := (trimStart t).reverse)
    have kept := congrArg List.reverse behind
    rw [List.reverse_append, List.reverse_reverse] at kept
    have front : trim t ++ ((trimStart t).reverse.takeWhile isBlank).reverse = trimStart t := kept
    rw [split, List.cons_append] at front
    exact edge t c _ front.symm
  · intro c x split
    refine edge (trimStart t).reverse c x.reverse ?_
    have turned := congrArg List.reverse split
    rwa [trim, trimEnd, List.reverse_reverse, List.reverse_append] at turned

theorem trimmedIff : Trimmed t ↔ trim t = t :=
  ⟨trimTrimmed, fun same => same ▸ trimmedTrim t⟩

theorem unblankTrimmed (h : ∀ c ∈ t, isBlank c = false) : Trimmed t :=
  ⟨fun c y split => h c (by simp [split]), fun c x split => h c (by simp [split])⟩

theorem trimmedBetween {x y : Text} (first : Trimmed x) (some : x ≠ []) (last : Trimmed y)
    (some' : y ≠ []) (middle : Text) : Trimmed (x ++ middle ++ y) := by
  constructor
  · intro c rest split
    obtain ⟨c', x', rfl⟩ := List.exists_cons_of_ne_nil some
    cases (List.cons.inj split).1
    exact first.first c x' rfl
  · intro c front split
    rw [← List.dropLast_append_getLast some', ← List.append_assoc] at split
    cases (List.append_inj' split rfl).2
    exact last.last _ _ (List.dropLast_append_getLast some').symm

theorem wordsPadded (h : IsPadding p) (t : Text) : words (p ++ t) = words t := by
  induction p with
  | nil => rfl
  | cons c rest ih =>
    have blank := h c List.mem_cons_self
    have cut := wordsCut blank [] (rest ++ t)
    exact cut.trans (ih fun c hc => h c (List.mem_cons_of_mem _ hc))

theorem wordsPadding (h : IsPadding p) : words p = [] := by
  have padded := wordsPadded h []
  rwa [List.append_nil] at padded

theorem wordsPaddedBehind (h : IsPadding p) (t : Text) : words (t ++ p) = words t := by
  cases p with
  | nil => rw [List.append_nil]
  | cons c rest =>
    have none : words rest = [] := wordsPadding fun c hc => h c (List.mem_cons_of_mem _ hc)
    rw [wordsCut (h c List.mem_cons_self), none, List.append_nil]

theorem takenPadding (t : Text) : IsPadding (t.takeWhile isBlank) :=
  fun _ hc => List.mem_takeWhile_imp hc

theorem trimStartWords (t : Text) : words (trimStart t) = words t := by
  have split := List.takeWhile_append_dropWhile (p := isBlank) (l := t)
  rw [trimStart, ← wordsPadded (takenPadding t), split]

theorem trimEndWords (t : Text) : words (trimEnd t) = words t := by
  have padding : IsPadding (t.reverse.takeWhile isBlank).reverse :=
    fun c hc => takenPadding t.reverse c (List.mem_reverse.mp hc)
  have split := List.takeWhile_append_dropWhile (p := isBlank) (l := t.reverse)
  rw [trimEnd, ← wordsPaddedBehind padding, ← List.reverse_append, split, List.reverse_reverse]

theorem trimWords (t : Text) : words (trim t) = words t := by
  rw [trim, trimEndWords, trimStartWords]

theorem Tidy.trimmed (h : Tidy t) : Trimmed t := ⟨h.first, h.last⟩

end CrsExport.Text
