import Mathlib.Logic.Relation
import CrsExport.Proofs.Definition.Sorted
/-! Definitions that are the same in order. They have the same last word for each key, and the
keys that the order passes over first appear in the same sequence. A definition in order is alike
to the one that it was made from, so putting it in order again does not change it. -/

namespace CrsExport.Definition

variable {order ws ws' : List Text} {d d' : Text}

structure Alike (order ws ws' : List Text) : Prop where
  latest : ∀ k, latest ws k = latest ws' k
  others : otherKeys order ws = otherKeys order ws'

/-- One edit of some words which is not seen once they are in order: a word goes into the place
of the nearest earlier one with its key, or the word of a parameter that the order names is moved
past words with other keys. -/
inductive Edit (order : List Text) : List Text → List Text → Prop where
  | overwritten {front between back old new} (same : key old = key new)
      (next : key new ∉ between.map key) :
      Edit order (front ++ old :: (between ++ new :: back)) (front ++ new :: (between ++ back))
  | moved {front between back w} (named : key w ∈ order.map keyOf)
      (apart : key w ∉ between.map key) :
      Edit order (front ++ w :: (between ++ back)) (front ++ (between ++ w :: back))

theorem Alike.refl (order ws : List Text) : Alike order ws ws := ⟨fun _ => rfl, rfl⟩

theorem Alike.symm (h : Alike order ws ws') : Alike order ws' ws :=
  ⟨fun k => (h.latest k).symm, h.others.symm⟩

theorem Alike.trans {ws'' : List Text} (h : Alike order ws ws') (h' : Alike order ws' ws'') :
    Alike order ws ws'' :=
  ⟨fun k => (h.latest k).trans (h'.latest k), h.others.trans h'.others⟩

theorem Alike.known {k : Text} (h : Alike order ws ws') : k ∈ ws.map key ↔ k ∈ ws'.map key := by
  rw [← not_iff_not, ← latestNone, ← latestNone, h.latest]

theorem otherKeysFilter (order ws : List Text) :
    otherKeys order ws = ((ws.map key).filter (· ∉ order.map keyOf)).eraseDups :=
  (eraseDupsFilter _ _).symm

theorem latestReordered (order : List Text) (d k : Text) :
    latest (Text.words (reorder order d)) k = latest (Text.words d) k := by
  cases found : latest (Text.words (reorder order d)) k with
  | none =>
    have absent : k ∉ keys d := mt keysKept.mpr (latestNone.mp found)
    exact (latestNone.mpr absent).symm
  | some w =>
    have member := latestMem found
    rw [wordsReordered] at member
    obtain ⟨_, last⟩ := sortedFrom member
    rw [← latestKey found, last]

theorem otherKeysReordered (order : List Text) (d : Text) :
    otherKeys order (Text.words (reorder order d)) = otherKeys order (Text.words d) := by
  have distinct : (otherKeys order (Text.words d)).Nodup := by
    have first : (firstKeys (Text.words d)).Nodup := settleKeys (Text.words d) ▸ settleDistinct _
    exact first.filter _
  have unlistedOthers : (unlisted order (settle (Text.words d))).map key =
      otherKeys order (Text.words d) := by
    rw [unlistedKeys, settleKeys, otherKeys]
  have listedNone : ((listed order (settle (Text.words d))).map key).filter
      (· ∉ order.map keyOf) = [] := by
    rw [listedKeys, List.filter_filter]
    exact List.filter_eq_nil_iff.mpr fun k hk => by simp [hk]
  have kept := keysReordered order d
  rw [keys, unlistedOthers] at kept
  have unnamed : (otherKeys order (Text.words d)).filter (· ∉ order.map keyOf) =
      otherKeys order (Text.words d) :=
    List.filter_eq_self.mpr fun k hk => (List.mem_filter.mp hk).2
  rw [otherKeysFilter, kept, List.filter_append, listedNone, List.nil_append, unnamed,
    eraseDupsDistinct distinct]

theorem alikeReordered (order : List Text) (d : Text) :
    Alike order (Text.words (reorder order d)) (Text.words d) :=
  ⟨latestReordered order d, otherKeysReordered order d⟩

theorem alikeSorted (h : Alike order ws ws') : sorted order ws = sorted order ws' := by
  have same : latest ws = latest ws' := funext h.latest
  rw [sorted, same, h.others, sorted]

/- Where the order names every key it leaves nothing to the sequence of the words. -/
theorem alikeNamed (named : ∀ k ∈ ws.map key, k ∈ order.map keyOf)
    (named' : ∀ k ∈ ws'.map key, k ∈ order.map keyOf) :
    Alike order ws ws' ↔ (∀ k, k ∈ ws.map key ↔ k ∈ ws'.map key) ∧
      ∀ k ∈ ws.map key, latest ws k = latest ws' k := by
  have noOthers : ∀ {vs : List Text}, (∀ k ∈ vs.map key, k ∈ order.map keyOf) →
      otherKeys order vs = [] := by
    intro vs all
    exact List.filter_eq_nil_iff.mpr fun k hk => by simpa using all k (List.mem_eraseDups.mp hk)
  constructor
  · intro alike
    exact ⟨fun k => alike.known, fun k _ => alike.latest k⟩
  · rintro ⟨same, values⟩
    refine ⟨fun k => ?_, (noOthers named).trans (noOthers named').symm⟩
    by_cases present : k ∈ ws.map key
    · exact values k present
    · rw [latestNone.mpr present, latestNone.mpr (mt (same k).mpr present)]

theorem reorderSame : reorder order d = reorder order d' ↔
    Alike order (Text.words d) (Text.words d') := by
  constructor
  · intro same
    have first := alikeReordered order d
    rw [same] at first
    exact first.symm.trans (alikeReordered order d')
  · intro alike
    rw [reorderSorted, alikeSorted alike, ← reorderSorted]

theorem alikeAppend (h : Alike order ws ws') (us : List Text) :
    Alike order (ws ++ us) (ws' ++ us) := by
  refine ⟨fun k => ?_, ?_⟩
  · rw [latestAppend, latestAppend, h.latest]
  · rw [otherKeysAppend, otherKeysAppend, h.others]
    simp only [h.known]

theorem alikeTwice (order ws us : List Text) : Alike order (ws ++ us ++ us) (ws ++ us) := by
  refine ⟨fun k => ?_, ?_⟩
  · rw [latestAppend, latestAppend]
    cases latest us k <;> rfl
  · have known : (otherKeys order us).filter (· ∉ (ws ++ us).map key) = [] := by
      refine List.filter_eq_nil_iff.mpr fun k hk => ?_
      have present : k ∈ us.map key := List.mem_eraseDups.mp (List.mem_filter.mp hk).1
      simp [present]
    rw [otherKeysAppend, known, List.append_nil]

theorem reorderAgain (order : List Text) (d : Text) :
    reorder order (reorder order d) = reorder order d :=
  reorderSame.mpr (alikeReordered order d)

theorem editAlike (h : Edit order ws ws') : Alike order ws ws' := by
  cases h with
  | @overwritten front between back old new same next =>
    refine ⟨fun k => ?_, ?_⟩
    · simp only [latestAppend, latestCons, same]
      by_cases asked : key new = k
      · subst asked
        have silent := latestNone.mpr next
        cases latest back (key new) <;> simp [silent]
      · simp [asked]
    · have known : key new ∈ front.map key ++ key new :: between.map key := by simp
      have once :
          (front.map key ++ key new :: between.map key ++ key new :: back.map key).eraseDups =
            (front.map key ++ key new :: between.map key ++ back.map key).eraseDups :=
        eraseDupsKnown known
      simp only [otherKeys, firstKeys, List.map_append, List.map_cons, same]
      simpa using congrArg (List.filter (· ∉ order.map keyOf)) once
  | @moved front between back w named apart =>
    refine ⟨fun k => ?_, ?_⟩
    · simp only [latestAppend, latestCons]
      by_cases asked : key w = k
      · subst asked
        have silent := latestNone.mpr apart
        cases latest back (key w) <;> simp [silent]
      · simp [asked]
    · have passed : ∀ ks : List Text, (key w :: ks).filter (· ∉ order.map keyOf) =
          ks.filter (· ∉ order.map keyOf) :=
        fun ks => List.filter_cons_of_neg (by simpa using named)
      simp only [otherKeysFilter, List.map_append, List.map_cons, List.filter_append, passed]

theorem editsAlike (h : Relation.EqvGen (Edit order) ws ws') : Alike order ws ws' := by
  induction h with
  | rel _ _ edit => exact editAlike edit
  | refl ws => exact .refl order ws
  | symm _ _ _ ih => exact ih.symm
  | trans _ _ _ _ _ first second => exact first.trans second

end CrsExport.Definition
