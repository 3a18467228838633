import Mathlib.Data.List.Count
import Mathlib.Data.List.Induction
import Mathlib.Data.List.Nodup
import CrsExport.Proofs.Definition.Order
/-! The keys of a definition in order. Settled words have one key each. The words that the order
names are then brought out once for each time that it names them, so a name that stands twice
in the order yields a key twice, however often the definition has it. -/

namespace CrsExport.Definition

def keys (d : Text) : List Text := (Text.words d).map key

theorem putKeys (ws : List Text) (word : Text) :
    (put ws word).map key =
      if key word ∈ ws.map key then ws.map key else ws.map key ++ [key word] := by
  have present : ws.any (fun w => key w == key word) = true ↔ key word ∈ ws.map key := by
    simp
  unfold put
  by_cases known : key word ∈ ws.map key
  · rw [if_pos (present.mpr known), if_pos known, List.map_map]
    refine List.map_congr_left fun w _ => ?_
    by_cases same : key w = key word
    · simp [same]
    · simp [same]
  · rw [if_neg (mt present.mp known), if_neg known, List.map_append, List.map_singleton]

theorem settleSnoc (ws : List Text) (word : Text) :
    settle (ws ++ [word]) = put (settle ws) word := by
  simp [settle, List.foldl_append]

theorem settleKnows {ws : List Text} {k : Text} : k ∈ (settle ws).map key ↔ k ∈ ws.map key := by
  induction ws using List.reverseRecOn with
  | nil => exact Iff.rfl
  | append_singleton ws word ih =>
    rw [settleSnoc, putKeys, List.map_append, List.map_singleton, List.mem_append,
      List.mem_singleton, ← ih]
    split
    · rename_i known
      exact ⟨.inl, fun h => h.elim id fun same => same ▸ known⟩
    · rw [List.mem_append, List.mem_singleton]

theorem settleDistinct (ws : List Text) : ((settle ws).map key).Nodup := by
  induction ws using List.reverseRecOn with
  | nil => exact List.nodup_nil
  | append_singleton ws word ih =>
    rw [settleSnoc, putKeys]
    split
    · exact ih
    · rename_i new
      exact List.nodup_append.mpr ⟨ih, List.nodup_singleton _, fun a ha b hb same =>
        new (List.mem_singleton.mp hb ▸ same ▸ ha)⟩

theorem listedKeys (order ws : List Text) :
    (listed order ws).map key = (order.map keyOf).filter (· ∈ ws.map key) := by
  induction order with
  | nil => rfl
  | cons name rest ih =>
    unfold listed at ih ⊢
    rw [List.filterMap_cons, List.map_cons]
    cases found : ws.find? fun w => key w == keyOf name with
    | none =>
      have absent : keyOf name ∉ ws.map key := by
        intro member
        obtain ⟨w, hw, same⟩ := List.mem_map.mp member
        exact List.find?_eq_none.mp found w hw (by simpa using same)
      rw [List.filter_cons_of_neg (by simpa using absent)]
      exact ih
    | some w =>
      have same : key w = keyOf name := by simpa using List.find?_some found
      have present : keyOf name ∈ ws.map key :=
        List.mem_map.mpr ⟨w, List.mem_of_find?_eq_some found, same⟩
      rw [List.filter_cons_of_pos (by simpa using present), ← ih, ← same]
      rfl

theorem anyNamed (order : List Text) (w : Text) :
    (order.any fun name => key w == keyOf name) = decide (key w ∈ order.map keyOf) := by
  rw [Bool.eq_iff_iff, decide_eq_true_iff, List.any_eq_true, List.mem_map]
  exact exists_congr fun name => and_congr_right fun _ => beq_iff_eq.trans eq_comm

theorem unlistedKeys (order ws : List Text) :
    (unlisted order ws).map key = (ws.map key).filter (· ∉ order.map keyOf) := by
  rw [List.filter_map]
  unfold unlisted
  congr 1
  refine List.filter_congr fun w _ => ?_
  rw [anyNamed, Function.comp_apply, decide_not]

theorem keysReordered (order : List Text) (d : Text) :
    keys (reorder order d) =
      (listed order (settle (Text.words d))).map key ++
        (unlisted order (settle (Text.words d))).map key := by
  rw [keys, reorderIsOfWords, Text.wordsOfWords fun w hw => reorderedAreWords hw, reordered,
    List.map_append]

/- A key of the definition is kept. It is there once, or as often as the order names it. -/
theorem keysCount (order : List Text) (d k : Text) :
    (keys (reorder order d)).count k =
      if k ∈ keys d then max 1 ((order.map keyOf).count k) else 0 := by
  have once : ((settle (Text.words d)).map key).count k = if k ∈ keys d then 1 else 0 := by
    rw [(settleDistinct _).count]
    exact if_congr settleKnows rfl rfl
  have known : k ∈ (settle (Text.words d)).map key ↔ k ∈ keys d := settleKnows
  rw [keysReordered, List.count_append, listedKeys, unlistedKeys]
  by_cases present : k ∈ keys d
  · rw [if_pos present] at once ⊢
    rw [List.count_filter (by simpa using known.mpr present)]
    by_cases named : k ∈ order.map keyOf
    · have more := List.count_pos_iff.mpr named
      have apart : k ∉ ((settle (Text.words d)).map key).filter (· ∉ order.map keyOf) :=
        fun member => by simpa [named] using (List.mem_filter.mp member).2
      rw [List.count_eq_zero_of_not_mem apart]
      omega
    · rw [List.count_eq_zero_of_not_mem named, List.count_filter (by simpa using named), once]
      rfl
  · have absent : k ∉ (settle (Text.words d)).map key := mt known.mp present
    rw [if_neg present, List.count_eq_zero_of_not_mem, List.count_eq_zero_of_not_mem]
    · exact fun member => absent (List.mem_filter.mp member).1
    · exact fun member => absent (by simpa using (List.mem_filter.mp member).2)

theorem keyOfInjective : Function.Injective keyOf := fun _ _ same => (List.cons.inj same).2

theorem keysDistinctIff (order : List Text) (d : Text) :
    (keys (reorder order d)).Nodup ↔
      ∀ name ∈ order, keyOf name ∈ keys d → order.count name = 1 := by
  have repeats : ∀ name, (order.map keyOf).count (keyOf name) = order.count name :=
    List.count_map_of_injective order keyOf keyOfInjective
  rw [List.nodup_iff_count_le_one]
  constructor
  · intro distinct name named present
    have bound := distinct (keyOf name)
    have more := List.count_pos_iff.mpr named
    rw [keysCount, if_pos present, repeats] at bound
    omega
  · intro single k
    rw [keysCount]
    split
    · rename_i present
      by_cases named : k ∈ order.map keyOf
      · obtain ⟨name, member, rfl⟩ := List.mem_map.mp named
        rw [repeats, single name member present]
        exact Nat.le_refl 1
      · rw [List.count_eq_zero_of_not_mem named]
        exact Nat.le_refl 1
    · exact Nat.zero_le 1

end CrsExport.Definition
