import CrsExport.Proofs.Definition.Alike
/-! Edits reach all that an order cannot tell apart. Words are settled by edits and the ones that
the order names brought to the front, in any sequence; what has become of the words by then is
known from the last ones for their keys. -/

namespace CrsExport.Definition
open Relation (EqvGen)

variable {order ws ws' us : List Text} {d d' w : Text}

theorem editCons (w : Text) (h : Edit order ws ws') : Edit order (w :: ws) (w :: ws') := by
  cases h with
  | @overwritten front between back old new same next =>
    exact @Edit.overwritten order (w :: front) between back old new same next
  | @moved front between back v named apart =>
    exact @Edit.moved order (w :: front) between back v named apart

theorem editAppend (us : List Text) (h : Edit order ws ws') :
    Edit order (ws ++ us) (ws' ++ us) := by
  cases h with
  | @overwritten front between back old new same next =>
    simpa using @Edit.overwritten order front between (back ++ us) old new same next
  | @moved front between back v named apart =>
    simpa using @Edit.moved order front between (back ++ us) v named apart

theorem editsWithin (place : List Text → List Text)
    (step : ∀ {ws ws'}, Edit order ws ws' → Edit order (place ws) (place ws'))
    (h : EqvGen (Edit order) ws ws') : EqvGen (Edit order) (place ws) (place ws') := by
  induction h with
  | rel _ _ edit => exact .rel _ _ (step edit)
  | refl _ => exact .refl _
  | symm _ _ _ ih => exact .symm _ _ ih
  | trans _ _ _ _ _ first second => exact .trans _ _ _ first second

theorem editsCons (w : Text) (h : EqvGen (Edit order) ws ws') :
    EqvGen (Edit order) (w :: ws) (w :: ws') :=
  editsWithin (w :: ·) (editCons w) h

theorem editsAppend (us : List Text) (h : EqvGen (Edit order) ws ws') :
    EqvGen (Edit order) (ws ++ us) (ws' ++ us) :=
  editsWithin (· ++ us) (editAppend us) h

theorem putEdits (distinct : (ws.map key).Nodup) (word : Text) :
    EqvGen (Edit order) (ws ++ [word]) (put ws word) := by
  induction ws with
  | nil => exact .refl _
  | cons v rest ih =>
    obtain ⟨fresh, distinct⟩ := List.nodup_cons.mp distinct
    by_cases same : key v = key word
    · have edit := @Edit.overwritten order [] rest [] v word same (same ▸ fresh)
      rw [putHere same fresh]
      simpa using EqvGen.rel _ _ edit
    · rw [putNext same]
      exact editsCons v (ih distinct)

theorem settleEdits (order ws : List Text) : EqvGen (Edit order) ws (settle ws) := by
  induction ws using List.reverseRecOn with
  | nil => exact .refl _
  | append_singleton ws word ih =>
    rw [settleSnoc]
    exact .trans _ _ _ (editsAppend [word] ih) (putEdits (settleDistinct ws) word)

/- A word that the order does not name lets the others pass. -/
theorem passNamed (named : ∀ v ∈ us, key v ∈ order.map keyOf) (other : key w ∉ order.map keyOf)
    (ws : List Text) : EqvGen (Edit order) (w :: (us ++ ws)) (us ++ w :: ws) := by
  induction us with
  | nil => exact .refl _
  | cons v rest ih =>
    have first := named v List.mem_cons_self
    have apart : key v ∉ [w].map key := by
      intro same
      exact other (List.mem_singleton.mp same ▸ first)
    have moved := @Edit.moved order [] [w] (rest ++ ws) v first apart
    have later := ih fun v hv => named v (List.mem_cons_of_mem _ hv)
    exact .trans _ _ _ (.symm _ _ (.rel _ _ moved)) (editsCons v later)

theorem namedFirst (order ws : List Text) :
    EqvGen (Edit order) ws
      (ws.filter (key · ∈ order.map keyOf) ++ ws.filter (key · ∉ order.map keyOf)) := by
  induction ws with
  | nil => exact .refl _
  | cons w rest ih =>
    have tail := editsCons w ih
    by_cases named : key w ∈ order.map keyOf
    · rw [List.filter_cons_of_pos (by simpa using named),
        List.filter_cons_of_neg (by simpa using named)]
      exact tail
    · rw [List.filter_cons_of_neg (by simpa using named),
        List.filter_cons_of_pos (by simpa using named)]
      have first : ∀ v ∈ rest.filter (key · ∈ order.map keyOf), key v ∈ order.map keyOf :=
        fun v hv => by simpa using (List.mem_filter.mp hv).2
      exact .trans _ _ _ tail (passNamed first named _)

theorem permEdits (perm : ws.Perm ws') (distinct : (ws.map key).Nodup)
    (named : ∀ w ∈ ws, key w ∈ order.map keyOf) : EqvGen (Edit order) ws ws' := by
  induction perm with
  | nil => exact .refl _
  | cons w _ ih =>
    exact editsCons w (ih (List.nodup_cons.mp distinct).2
      fun v hv => named v (List.mem_cons_of_mem _ hv))
  | swap v w rest =>
    have apart : key w ∉ [v].map key := by
      intro same
      exact (List.nodup_cons.mp distinct).1 (List.mem_singleton.mp same ▸ List.mem_cons_self)
    exact .rel _ _ (@Edit.moved order [] [v] rest w (named w List.mem_cons_self) apart)
  | trans first _ ih ih' =>
    exact .trans _ _ _ (ih distinct named) (ih' ((first.map key).nodup_iff.mp distinct)
      fun w hw => named w (first.mem_iff.mpr hw))

theorem settleMem : w ∈ settle ws ↔ latest ws (key w) = some w := by
  have whole : settle ws = sorted [] ws := by simp [sorted, otherKeys, settleLatest]
  rw [whole, sortedMem]

theorem alikeEdits (h : Alike order ws ws') : EqvGen (Edit order) ws ws' := by
  have front : EqvGen (Edit order) ((settle ws).filter (key · ∈ order.map keyOf))
      ((settle ws').filter (key · ∈ order.map keyOf)) := by
    have distinct : (((settle ws).filter (key · ∈ order.map keyOf)).map key).Nodup :=
      (settleDistinct ws).sublist ((List.filter_sublist).map key)
    have distinct' : (((settle ws').filter (key · ∈ order.map keyOf)).map key).Nodup :=
      (settleDistinct ws').sublist ((List.filter_sublist).map key)
    refine permEdits ?_ distinct fun w hw => by simpa using (List.mem_filter.mp hw).2
    rw [List.perm_ext_iff_of_nodup distinct.of_map distinct'.of_map]
    intro w
    simp only [List.mem_filter, settleMem, h.latest]
  have back : (settle ws).filter (key · ∉ order.map keyOf) =
      (settle ws').filter (key · ∉ order.map keyOf) := by
    have others : ∀ vs, (settle vs).filter (key · ∉ order.map keyOf) =
        (otherKeys order vs).filterMap (latest vs) := by
      intro vs
      rw [← unlistedLatest, unlisted]
      simp only [anyNamed, decide_not]
    rw [others, others, h.others, funext h.latest]
  have left := EqvGen.trans _ _ _ (settleEdits order ws) (namedFirst order (settle ws))
  have right := EqvGen.trans _ _ _ (settleEdits order ws') (namedFirst order (settle ws'))
  rw [back] at left
  exact .trans _ _ _ left (.trans _ _ _ (editsAppend _ front) (.symm _ _ right))

theorem reorderSameEdits : reorder order d = reorder order d' ↔
    EqvGen (Edit order) (Text.words d) (Text.words d') :=
  reorderSame.trans ⟨alikeEdits, editsAlike⟩

end CrsExport.Definition
