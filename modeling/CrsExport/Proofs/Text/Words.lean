import Mathlib.Data.List.TakeWhile
import CrsExport.Text.Blank
/-! Words and the text that they are written as. Cutting at blanks and cutting at single
spaces give the same words back, so a text that is made of words is read in one way only. -/

namespace CrsExport.Text

theorem splitWhenOnP (cut : Char → Bool) (t : Text) : splitWhen cut t = t.splitOnP cut := by
  induction t with
  | nil => rfl
  | cons c t ih => rw [splitWhenCons, List.splitOnP_cons_eq_if_modifyHead, ih]

theorem splitWhenCut {cut : Char → Bool} {c : Char} (h : cut c = true) (x y : Text) :
    splitWhen cut (x ++ c :: y) = splitWhen cut x ++ splitWhen cut y := by
  simp only [splitWhenOnP, List.splitOnP_append_cons x y h]

theorem pieceUncut {cut : Char → Bool} {t w : Text} (h : w ∈ splitWhen cut t) :
    ∀ c ∈ w, cut c = false := by
  induction t generalizing w with
  | nil =>
    rw [splitWhenEmpty, List.mem_singleton] at h
    subst w
    simp
  | cons c t ih =>
    rw [splitWhenCons] at h
    split at h
    · rcases List.mem_cons.mp h with rfl | old
      · simp
      · exact ih old
    · rename_i uncut
      obtain ⟨head, tail, eq⟩ := List.exists_cons_of_ne_nil (splitWhenInhabited cut t)
      rw [eq, List.modifyHead_cons] at h
      rcases List.mem_cons.mp h with rfl | old
      · intro a ha
        rcases List.mem_cons.mp ha with rfl | ha
        · simpa using uncut
        · exact ih (by rw [eq]; exact List.mem_cons_self) a ha
      · exact ih (by rw [eq]; exact List.mem_cons_of_mem _ old)

theorem splitWhenUncut {cut : Char → Bool} {t : Text} (h : ∀ c ∈ t, cut c = false) :
    splitWhen cut t = [t] := by
  rw [splitWhenOnP, List.splitOnP_eq_singleton h]

/- Cut at one character, as most texts are. -/
theorem splitAt (sep : Char) (x y : Text) : splitWhen (· == sep) (x ++ sep :: y) =
    splitWhen (· == sep) x ++ splitWhen (· == sep) y :=
  splitWhenCut (by simp) x y

theorem splitNowhere {sep : Char} {t : Text} (h : sep ∉ t) : splitWhen (· == sep) t = [t] :=
  splitWhenUncut fun _ hc => beq_false_of_ne fun same => h (same ▸ hc)

/- Behind the last line there is an empty piece. -/
theorem splitWhenEnded {cut : Char → Bool} {c : Char} (h : cut c = true) {ls : List Text}
    (uncut : ∀ l ∈ ls, ∀ a ∈ l, cut a = false) :
    splitWhen cut (ls.flatMap (· ++ [c])) = ls ++ [[]] := by
  induction ls with
  | nil => rfl
  | cons l rest ih =>
    have tail := ih fun l hl => uncut l (List.mem_cons_of_mem _ hl)
    rw [List.flatMap_cons, List.append_assoc, List.singleton_append, splitWhenCut h, tail,
      splitWhenUncut (uncut l List.mem_cons_self)]
    rfl

theorem linesEnded {ls : List Text} (unbroken : ∀ l ∈ ls, '\n' ∉ l ∧ '\r' ∉ l) :
    lines (ls.flatMap (· ++ ['\n'])) = ls := by
  have pieces : splitWhen (· == '\n') (ls.flatMap (· ++ ['\n'])) = ls ++ [[]] :=
    splitWhenEnded rfl fun l hl _ hc =>
      beq_false_of_ne fun same => (unbroken l hl).1 (same ▸ hc)
  have kept : ∀ l ∈ ls, (if l.getLast? = some '\r' then l.dropLast else l) = l :=
    fun l hl => if_neg fun ended => (unbroken l hl).2 (List.mem_of_getLast? ended)
  simp only [lines, pieces, List.dropLast_concat, List.getLast?_concat]
  rw [List.map_congr_left kept, List.map_id']

theorem splitFirstIff {sep : Char} {t before after : Text} :
    splitFirst sep t = some (before, after) ↔ t = before ++ sep :: after ∧ sep ∉ before := by
  constructor
  · intro h
    unfold splitFirst at h
    split at h
    · cases h
    · rename_i c rest dropped
      cases h
      have joined := List.takeWhile_append_dropWhile (p := (· != sep)) (l := t)
      have stopped := List.head?_dropWhile_not (· != sep) t
      rw [dropped] at joined stopped
      have same : c = sep := by simpa using stopped
      refine ⟨same ▸ joined.symm, fun member => ?_⟩
      simpa using List.mem_takeWhile_imp member
  · rintro ⟨rfl, absent⟩
    have passed : ∀ c ∈ before, (c != sep) = true :=
      fun c hc => bne_iff_ne.mpr fun same => absent (same ▸ hc)
    simp [splitFirst, List.dropWhile_append_of_pos passed, List.takeWhile_append_of_pos passed]

theorem splitFirstNone {sep : Char} {t : Text} : splitFirst sep t = none ↔ sep ∉ t := by
  constructor
  · intro h member
    obtain ⟨before, after, rfl, absent⟩ := List.eq_append_cons_of_mem member
    rw [splitFirstIff.mpr ⟨rfl, absent⟩] at h
    cases h
  · intro absent
    cases cut : splitFirst sep t with
    | none => rfl
    | some sides =>
      obtain ⟨rfl, _⟩ := splitFirstIff.mp cut
      simp at absent

def IsWord (w : Text) : Prop := w ≠ [] ∧ ∀ c ∈ w, isBlank c = false

theorem wordsAreWords {t w : Text} (h : w ∈ words t) : IsWord w := by
  obtain ⟨piece, kept⟩ := List.mem_filter.mp h
  exact ⟨by simpa using kept, pieceUncut piece⟩

/- All that is known of the words of a longer text follows from this equation. -/
theorem wordsCut {c : Char} (blank : isBlank c = true) (x y : Text) :
    words (x ++ c :: y) = words x ++ words y := by
  simp only [words, splitWhenCut blank, List.filter_append]

theorem wordsSpaced (x y : Text) : words (x ++ ' ' :: y) = words x ++ words y :=
  wordsCut (by decide) x y

theorem wordsOfWord {w : Text} (h : IsWord w) : words w = [w] := by
  rw [words, splitWhenUncut h.2]
  simp [h.1]

theorem ofWordsCons (w : Text) {ws : List Text} (more : ws ≠ []) :
    ofWords (w :: ws) = w ++ ' ' :: ofWords ws := by
  simp [ofWords, List.intercalate_cons_of_ne_nil more]

theorem wordsOfWords {ws : List Text} (h : ∀ w ∈ ws, IsWord w) : words (ofWords ws) = ws := by
  induction ws with
  | nil => rfl
  | cons w ws ih =>
    have head := h w List.mem_cons_self
    have tail : ∀ v ∈ ws, IsWord v := fun v hv => h v (List.mem_cons_of_mem _ hv)
    cases ws with
    | nil =>
      have same : ofWords [w] = w := List.intercalate_singleton
      rw [same, wordsOfWord head]
    | cons v vs =>
      rw [ofWordsCons w (List.cons_ne_nil v vs), wordsSpaced, wordsOfWord head, ih tail]
      rfl

theorem ofWordsNil {ws : List Text} (h : ∀ w ∈ ws, IsWord w) : ofWords ws = [] ↔ ws = [] := by
  constructor
  · intro empty
    have same := wordsOfWords h
    rw [empty] at same
    exact same.symm
  · rintro rfl
    rfl

theorem splitOfWords {ws : List Text} (h : ∀ w ∈ ws, IsWord w) (some : ws ≠ []) :
    splitWhen (· == ' ') (ofWords ws) = ws := by
  have free : ∀ w ∈ ws, ' ' ∉ w := by
    intro w hw space
    have unblank := (h w hw).2 ' ' space
    exact absurd unblank (by decide)
  rw [splitWhenOnP, ← List.splitOn_eq_splitOnP]
  exact List.splitOn_intercalate ' ' free some

theorem charOfWords {ws : List Text} {c : Char} (h : c ∈ ofWords ws) :
    c = ' ' ∨ ∃ w ∈ ws, c ∈ w := by
  induction ws with
  | nil => exact absurd h List.not_mem_nil
  | cons w ws ih =>
    cases ws with
    | nil =>
      have same : ofWords [w] = w := List.intercalate_singleton
      rw [same] at h
      exact .inr ⟨w, List.mem_cons_self, h⟩
    | cons v vs =>
      rw [ofWordsCons w (List.cons_ne_nil v vs)] at h
      rcases List.mem_append.mp h with front | back
      · exact .inr ⟨w, List.mem_cons_self, front⟩
      · rcases List.mem_cons.mp back with space | later
        · exact .inl space
        · rcases ih later with space | ⟨u, hu, hc⟩
          · exact .inl space
          · exact .inr ⟨u, List.mem_cons_of_mem _ hu, hc⟩

/-- Text on one line whose words stand one space apart, with nothing around them. -/
structure Tidy (t : Text) : Prop where
  nonempty : t ≠ []
  blanks : ∀ c ∈ t, isBlank c = true → c = ' '
  single : ∀ x y, t ≠ x ++ ' ' :: ' ' :: y
  first : ∀ c y, t = c :: y → isBlank c = false
  last : ∀ c x, t = x ++ [c] → isBlank c = false

/- A space at either end, or next to another one, would leave an empty piece between the
spaces; the pieces are the words, and none of those is empty. -/
theorem ofWordsTidy {ws : List Text} (h : ∀ w ∈ ws, IsWord w) (some : ws ≠ []) :
    Tidy (ofWords ws) := by
  have pieces := splitOfWords h some
  have full : [] ∉ ws := fun hw => (h [] hw).1 rfl
  have spaces : ∀ c ∈ ofWords ws, isBlank c = true → c = ' ' := by
    intro c hc blank
    rcases charOfWords hc with space | ⟨w, hw, inside⟩
    · exact space
    · have unblank := (h w hw).2 c inside
      rw [blank] at unblank
      contradiction
  have cut := splitAt ' '
  refine ⟨fun empty => some ((ofWordsNil h).mp empty), spaces, ?_, ?_, ?_⟩
  · intro x y eq
    have gap := cut [] y
    rw [List.nil_append, splitWhenEmpty] at gap
    rw [eq, cut, gap] at pieces
    exact full (by rw [← pieces]; simp)
  · intro c y eq
    cases blank : isBlank c with
    | false => rfl
    | true =>
      have space := spaces c (by rw [eq]; exact List.mem_cons_self) blank
      rw [eq, space, ← List.nil_append (' ' :: y), cut, splitWhenEmpty] at pieces
      exact absurd (by rw [← pieces]; exact List.mem_cons_self) full
  · intro c x eq
    cases blank : isBlank c with
    | false => rfl
    | true =>
      have space := spaces c (by rw [eq]; simp) blank
      rw [eq, space, cut, splitWhenEmpty] at pieces
      exact absurd (by rw [← pieces]; simp) full

end CrsExport.Text
