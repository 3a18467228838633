import CrsExport.Proofs.Text.Trim
/-! Words as longest runs of characters that are not blank. A text is cut into them in one way
only, and that is how its words are found. -/

namespace CrsExport.Text

structure IsRun (t w : Text) : Prop where
  isWord : IsWord w
  place : ∃ before behind, t = before ++ w ++ behind ∧
    (∀ c ∈ before.getLast?, isBlank c = true) ∧ ∀ c ∈ behind.head?, isBlank c = true

/-- A text cut into its runs, which stand in their order between the blanks. -/
inductive Runs : Text → List Text → Prop where
  | blank {p} (padding : IsPadding p) : Runs p []
  | word {p w rest ws} (padding : IsPadding p) (isWord : IsWord w)
      (ends : ∀ c ∈ rest.head?, isBlank c = true) (more : Runs rest ws) :
      Runs (p ++ w ++ rest) (w :: ws)

variable {t w : Text} {ws : List Text} {c : Char}

theorem runsBlank (blank : isBlank c = true) (h : Runs t ws) : Runs (c :: t) ws := by
  cases h with
  | blank padding => exact .blank (List.forall_mem_cons.mpr ⟨blank, padding⟩)
  | @word p w rest ws padding isWord ends more =>
    exact .word (p := c :: p) (List.forall_mem_cons.mpr ⟨blank, padding⟩) isWord ends more

/- A character that is not blank goes to the run behind it, if one begins there. -/
theorem runsUnblank (unblank : isBlank c = false) (h : Runs t ws) : ∃ vs, Runs (c :: t) vs := by
  have single : IsWord [c] := ⟨List.cons_ne_nil c [], by simpa using unblank⟩
  have alone : (∀ d ∈ t.head?, isBlank d = true) → ∃ vs, Runs (c :: t) vs := fun ends =>
    ⟨[c] :: ws, .word (p := []) paddingNil single ends h⟩
  cases h with
  | blank padding => exact alone fun d first => padding d (List.mem_of_mem_head? first)
  | @word p w rest ws padding isWord ends more =>
    cases p with
    | nil =>
      have longer : IsWord (c :: w) :=
        ⟨List.cons_ne_nil c w, List.forall_mem_cons.mpr ⟨unblank, isWord.2⟩⟩
      exact ⟨(c :: w) :: ws, .word (p := []) paddingNil longer ends more⟩
    | cons d p =>
      exact alone fun e first => by
        cases Option.some.inj first
        exact padding d List.mem_cons_self

theorem runsExist (t : Text) : ∃ ws, Runs t ws := by
  induction t with
  | nil => exact ⟨[], .blank paddingNil⟩
  | cons c t ih =>
    obtain ⟨ws, runs⟩ := ih
    cases blank : isBlank c with
    | true => exact ⟨ws, runsBlank blank runs⟩
    | false => exact runsUnblank blank runs

/- A word that is followed by a blank, or by nothing, is a word of its own. -/
theorem wordsAhead {rest : Text} (isWord : IsWord w) (ends : ∀ c ∈ rest.head?, isBlank c = true) :
    words (w ++ rest) = w :: words rest := by
  cases rest with
  | nil =>
    rw [List.append_nil, wordsOfWord isWord]
    rfl
  | cons c rest =>
    have blank := ends c rfl
    have skipped := wordsCut blank [] rest
    rw [wordsCut blank, wordsOfWord isWord]
    rw [List.nil_append] at skipped
    rw [skipped]
    rfl

theorem runsWords (h : Runs t ws) : words t = ws := by
  induction h with
  | blank padding => exact wordsPadding padding
  | @word p w rest ws padding isWord ends more ih =>
    rw [List.append_assoc, wordsPadded padding, wordsAhead isWord ends, ih]

theorem runsIff : Runs t ws ↔ ws = words t := by
  constructor
  · exact fun runs => (runsWords runs).symm
  · rintro rfl
    obtain ⟨vs, runs⟩ := runsExist t
    rwa [runsWords runs]

theorem runIff : IsRun t w ↔ w ∈ words t := by
  constructor
  · rintro ⟨isWord, before, behind, rfl, starts, ends⟩
    have own : words (w ++ behind) = w :: words behind := wordsAhead isWord ends
    rw [List.append_assoc]
    rcases List.eq_nil_or_concat before with rfl | ⟨front, c, rfl⟩
    · simp [own]
    · have blank := starts c (by simp)
      rw [List.concat_eq_append, List.append_assoc, List.singleton_append, wordsCut blank, own]
      simp
  · intro member
    have runs : Runs t (words t) := runsIff.mpr rfl
    generalize words t = ws at member runs
    induction runs with
    | blank padding => cases member
    | @word p v rest ws padding isWord ends more ih =>
      rcases List.mem_cons.mp member with rfl | later
      · exact ⟨isWord, p, rest, rfl, fun c last => padding c (List.mem_of_getLast? last), ends⟩
      · obtain ⟨isWord', before, behind, rfl, starts, ends'⟩ := ih later
        refine ⟨isWord', p ++ v ++ before, behind, by simp, fun c last => ?_, ends'⟩
        -- the run cannot begin where the one before it ends
        cases before with
        | nil =>
          obtain ⟨d, w, rfl⟩ := List.exists_cons_of_ne_nil isWord'.1
          have blank := ends d rfl
          have unblank := isWord'.2 d List.mem_cons_self
          exact absurd blank (Bool.eq_false_iff.mp unblank)
        | cons d before =>
          rw [List.getLast?_append_of_ne_nil _ (List.cons_ne_nil d before)] at last
          exact starts c last

end CrsExport.Text
