import CrsExport.Proofs.Definition.Latest
/-! Parameters taken apart. A word is cut at its first equals sign, and what is put together
again is the word as it was. So parameters can be settled and ordered as pairs of a key and a
value as well: a later value takes the place of the earlier one, and the key keeps its place. -/

namespace CrsExport.Definition

structure Parameter where
  key : Text
  value : Option Text
  deriving DecidableEq, Repr

namespace Parameter

def ofWord (w : Text) : Parameter :=
  match Text.splitFirst '=' w with
  | some (key, value) => ⟨key, some value⟩
  | none => ⟨w, none⟩

def toWord : Parameter → Text
  | ⟨key, some value⟩ => key ++ '=' :: value
  | ⟨key, none⟩ => key

def name? (p : Parameter) : Option Text :=
  match p.key with
  | '+' :: name => some name
  | _ => none

def assign : List Parameter → Parameter → List Parameter
  | [], p => [p]
  | q :: rest, p => if q.key = p.key then ⟨q.key, p.value⟩ :: rest else q :: assign rest p

/-- The parameters that an order names, one search for each name, and then the ones that it
passes over. -/
def sort (order : List Text) (ps : List Parameter) : List Parameter :=
  (order.filterMap fun name => ps.find? fun p => p.name? == some name) ++
    ps.filter fun p => !p.name?.any fun name => order.contains name

end Parameter

open Parameter

variable {w name : Text} {ws : List Text}

theorem keyCut (w : Text) : '=' ∉ key w ∧ (w = key w ∨ ∃ value, w = key w ++ '=' :: value) := by
  have free : '=' ∉ key w := fun member => by simpa using List.mem_takeWhile_imp member
  refine ⟨free, ?_⟩
  cases cut : Text.splitFirst '=' w with
  | none =>
    have absent := Text.splitFirstNone.mp cut
    refine .inl (List.takeWhile_eq_self_iff.mpr fun c hc => ?_).symm
    exact bne_iff_ne.mpr fun same => absent (same ▸ hc)
  | some sides =>
    obtain ⟨before, value⟩ := sides
    obtain ⟨rfl, absent⟩ := Text.splitFirstIff.mp cut
    have passed : ∀ c ∈ before, (c != '=') = true :=
      fun c hc => bne_iff_ne.mpr fun same => absent (same ▸ hc)
    exact .inr ⟨value, by simp [key, List.takeWhile_append_of_pos passed]⟩

theorem ofWordKey (w : Text) : (ofWord w).key = key w := by
  obtain ⟨free, whole | ⟨value, split⟩⟩ := keyCut w
  · have uncut : Text.splitFirst '=' w = none := Text.splitFirstNone.mpr (whole ▸ free)
    simp only [ofWord, uncut]
    exact whole
  · have cut : Text.splitFirst '=' w = some (key w, value) :=
      Text.splitFirstIff.mpr ⟨split, free⟩
    simp only [ofWord, cut]

theorem ofWordToWord (w : Text) : (ofWord w).toWord = w := by
  unfold ofWord
  cases cut : Text.splitFirst '=' w with
  | none => rfl
  | some sides => exact (Text.splitFirstIff.mp cut).1.symm

theorem ofWordNamed : (ofWord w).name? = some name ↔ key w = keyOf name := by
  rw [name?, ofWordKey, keyOf]
  split
  · rename_i found
    simp [found]
  · rename_i unsigned
    constructor
    · intro h
      cases h
    · exact fun signed => absurd signed (unsigned name)

theorem putNext {v word : Text} (other : key v ≠ key word) :
    put (v :: ws) word = v :: put ws word := by
  unfold put
  by_cases known : ws.any (fun w => key w == key word)
  · simp [known, other]
  · simp [known, other]

theorem putHere {v word : Text} (same : key v = key word) (fresh : key v ∉ ws.map key) :
    put (v :: ws) word = word :: ws := by
  have others : ∀ w ∈ ws, (if key w == key word then word else w) = w := by
    intro w hw
    have other : key w ≠ key word := fun h => fresh (List.mem_map.mpr ⟨w, hw, h.trans same.symm⟩)
    simp [other]
  rw [put, if_pos (by simp [same]), List.map_cons, if_pos (by simp [same]),
    List.map_congr_left others, List.map_id']

/- With one word for each key it does not matter that only the first one is given the value. -/
theorem assignPut (distinct : (ws.map key).Nodup) (word : Text) :
    assign (ws.map ofWord) (ofWord word) = (put ws word).map ofWord := by
  induction ws with
  | nil => rfl
  | cons v rest ih =>
    obtain ⟨fresh, distinct⟩ := List.nodup_cons.mp distinct
    rw [List.map_cons, assign, ofWordKey, ofWordKey]
    split
    · rename_i same
      rw [putHere same fresh, List.map_cons, same, ← ofWordKey word]
    · rename_i other
      rw [putNext other, List.map_cons, ih distinct]

theorem assignSettles (ws : List Text) :
    (ws.map ofWord).foldl assign [] = (settle ws).map ofWord := by
  induction ws using List.reverseRecOn with
  | nil => rfl
  | append_singleton ws word ih =>
    rw [List.map_append, List.foldl_append, ih, settleSnoc, ← assignPut (settleDistinct ws)]
    rfl

theorem sortWords (order ws : List Text) :
    (sort order (ws.map ofWord)).map toWord = listed order ws ++ unlisted order ws := by
  have back : ∀ vs : List Text, (vs.map ofWord).map toWord = vs := by
    intro vs
    rw [List.map_map]
    exact List.map_id'' ofWordToWord vs
  have found : ∀ name, (ws.map ofWord).find? (fun p => p.name? == some name) =
      (ws.find? fun w => key w == keyOf name).map ofWord := by
    intro name
    have named : ∀ w, ((ofWord w).name? == some name) = (key w == keyOf name) := fun w => by
      rw [Bool.eq_iff_iff, beq_iff_eq, beq_iff_eq, ofWordNamed]
    rw [List.find?_map, Function.comp_def]
    simp only [named]
  have passed : ∀ w, ((ofWord w).name?.any fun name => order.contains name) =
      order.any fun name => key w == keyOf name := by
    intro w
    rw [Bool.eq_iff_iff, Option.any_eq_true, List.any_eq_true]
    simp only [ofWordNamed, List.contains_iff_mem, beq_iff_eq]
    exact exists_congr fun name => and_comm
  have first : order.filterMap (fun name => (ws.map ofWord).find? fun p => p.name? == some name) =
      (listed order ws).map ofWord := by
    simp only [found, listed, List.map_filterMap]
  have second : (ws.map ofWord).filter (fun p => !p.name?.any fun name => order.contains name) =
      (unlisted order ws).map ofWord := by
    rw [List.filter_map, unlisted]
    simp only [Function.comp_def, passed]
  rw [sort, first, second, List.map_append, back, back]

theorem reorderByParameters (order : List Text) (d : Text) :
    reorder order d =
      Text.ofWords ((sort order (((Text.words d).map ofWord).foldl assign [])).map toWord) := by
  rw [assignSettles, sortWords]
  rfl

end CrsExport.Definition
