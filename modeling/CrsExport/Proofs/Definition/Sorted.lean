import CrsExport.Proofs.Definition.Parameter
/-! What comes of putting a definition in order: the last words for the keys that the order
names, as it names them, and then those for all other keys, as the keys first appear. No key is
lost, and none comes twice unless the order names it twice. -/

namespace CrsExport.Definition

variable {order : List Text} {d : Text}

theorem reorderSorted (order : List Text) (d : Text) :
    reorder order d = Text.ofWords (sorted order (Text.words d)) := by
  rw [reorderIsOfWords, reorderedSorted]

theorem wordsReordered (order : List Text) (d : Text) :
    Text.words (reorder order d) = sorted order (Text.words d) := by
  rw [reorderIsOfWords, Text.wordsOfWords fun w hw => reorderedAreWords hw, reorderedSorted]

theorem keysKept {k : Text} : k ∈ keys (reorder order d) ↔ k ∈ keys d := by
  rw [← List.count_pos_iff, keysCount]
  split
  · rename_i present
    exact ⟨fun _ => present, fun _ => by omega⟩
  · rename_i absent
    exact ⟨fun h => absurd h (Nat.lt_irrefl 0), fun present => absurd present absent⟩

theorem sortedFrom {ws : List Text} {w : Text} (h : w ∈ sorted order ws) :
    w ∈ ws ∧ latest ws (key w) = some w := by
  have known : ∀ {k}, latest ws k = some w → w ∈ ws ∧ latest ws (key w) = some w :=
    fun found => ⟨latestMem found, (latestKey found).symm ▸ found⟩
  rcases List.mem_append.mp h with named | other
  · obtain ⟨name, _, found⟩ := List.mem_filterMap.mp named
    exact known found
  · obtain ⟨k, _, found⟩ := List.mem_filterMap.mp other
    exact known found

theorem sortedMem {ws : List Text} {w : Text} :
    w ∈ sorted order ws ↔ latest ws (key w) = some w := by
  refine ⟨fun member => (sortedFrom member).2, fun found => ?_⟩
  by_cases named : key w ∈ order.map keyOf
  · obtain ⟨name, member, same⟩ := List.mem_map.mp named
    exact List.mem_append_left _ (List.mem_filterMap.mpr ⟨name, member, same ▸ found⟩)
  · have first : key w ∈ firstKeys ws :=
      List.mem_eraseDups.mpr (List.mem_map_of_mem (latestMem found))
    have other : key w ∈ otherKeys order ws := List.mem_filter.mpr ⟨first, by simpa using named⟩
    exact List.mem_append_right _ (List.mem_filterMap.mpr ⟨key w, other, found⟩)

/- A name of which the definition has no parameter might as well not be in the order. -/
theorem sortedPresent (order ws : List Text) :
    sorted (order.filter fun name => keyOf name ∈ ws.map key) ws = sorted order ws := by
  have named : (order.filter fun name => keyOf name ∈ ws.map key).filterMap
      (fun name => latest ws (keyOf name)) =
        order.filterMap fun name => latest ws (keyOf name) := by
    rw [List.filterMap_filter]
    refine List.filterMap_congr fun name _ => ?_
    by_cases present : keyOf name ∈ ws.map key
    · simp [present]
    · simp [present, latestNone.mpr present]
  have others : otherKeys (order.filter fun name => keyOf name ∈ ws.map key) ws =
      otherKeys order ws := by
    refine List.filter_congr fun k hk => ?_
    have present : k ∈ ws.map key := List.mem_eraseDups.mp hk
    rw [decide_eq_decide, not_iff_not, List.mem_map, List.mem_map]
    refine exists_congr fun name => ?_
    constructor
    · rintro ⟨member, same⟩
      exact ⟨(List.mem_filter.mp member).1, same⟩
    · rintro ⟨member, rfl⟩
      exact ⟨List.mem_filter.mpr ⟨member, decide_eq_true present⟩, rfl⟩
  rw [sorted, named, others, sorted]

theorem parametersInOrder (order : List Text) (single : order.Nodup) (d : Text) :
    let ws := Text.words d
    let out := Text.words (reorder order d)
    out = order.filterMap (fun name => latest ws (keyOf name)) ++
      (otherKeys order ws).filterMap (latest ws) ∧
    reorder order d = Text.ofWords out ∧
    (∀ w ∈ out, w ∈ ws ∧ latest ws (key w) = some w) ∧
    (out.map key).Nodup ∧ (∀ k, k ∈ out.map key ↔ k ∈ ws.map key) ∧
    (∀ w ∈ ws, '=' ∉ key w ∧ (w = key w ∨ ∃ value, w = key w ++ '=' :: value)) ∧
    reorder (order.filter fun name => keyOf name ∈ ws.map key) d = reorder order d ∧
    reorder order d = Text.ofWords ((Parameter.sort order
      ((ws.map Parameter.ofWord).foldl Parameter.assign [])).map Parameter.toWord) := by
  intro ws out
  have words : out = sorted order ws := wordsReordered order d
  have distinct : (keys (reorder order d)).Nodup :=
    (keysDistinctIff order d).mpr fun name named _ => List.count_eq_one_of_mem single named
  refine ⟨words, words ▸ reorderSorted order d, fun w hw => ?_, distinct, fun k => keysKept,
    fun w _ => keyCut w, ?_, reorderByParameters order d⟩
  · rw [words] at hw
    exact sortedFrom hw
  · rw [reorderSorted, sortedPresent, ← reorderSorted]

/- A value with an equals sign in it, an empty value beside none, and words without a plus sign. -/
theorem flagsAndValuesInOrder :
    let order := [text "proj", text "k", text "zone"]
    let d := text "proj=x +a=1 +k= \t+b=2=3 +k +a= +proj=utm =x +b +proj==tmerc"
    order.Nodup ∧ (keys d).length = 10 ∧
      reorder order d = text "+proj==tmerc +k proj=x +a= +b =x" ∧
      (keys (reorder order d)).Nodup := by
  intro order d
  have single : order.Nodup := by decide
  obtain ⟨_, _, _, distinct, _, _, _, parameters⟩ := parametersInOrder order single d
  exact ⟨single, by decide, parameters.trans (by decide +kernel), distinct⟩

end CrsExport.Definition
