import CrsExport.Definition.Order
import CrsExport.Proofs.Text.Words
/-! The words of a definition in order. None is made up: each is a word of the definition
that was given, so the result is made of words again. -/

namespace CrsExport.Definition

def reordered (order : List Text) (d : Text) : List Text :=
  let ws := settle (Text.words d)
  listed order ws ++ unlisted order ws

theorem reorderIsOfWords (order : List Text) (d : Text) :
    reorder order d = Text.ofWords (reordered order d) := rfl

theorem putFrom {ws : List Text} {word w : Text} (h : w ∈ put ws word) : w ∈ ws ∨ w = word := by
  unfold put at h
  split at h
  · obtain ⟨old, member, eq⟩ := List.mem_map.mp h
    split at eq
    · exact .inr eq.symm
    · exact .inl (eq ▸ member)
  · rcases List.mem_append.mp h with old | new
    · exact .inl old
    · exact .inr (List.mem_singleton.mp new)

theorem settleFrom {ws : List Text} {w : Text} (h : w ∈ settle ws) : w ∈ ws := by
  have general : ∀ (ws before : List Text), w ∈ ws.foldl put before → w ∈ before ∨ w ∈ ws := by
    intro ws
    induction ws with
    | nil => exact fun before h => .inl h
    | cons word rest ih =>
      intro before h
      rcases ih (put before word) h with early | late
      · rcases putFrom early with old | rfl
        · exact .inl old
        · exact .inr List.mem_cons_self
      · exact .inr (List.mem_cons_of_mem _ late)
  rcases general ws [] h with none | member
  · exact absurd none List.not_mem_nil
  · exact member

theorem reorderedFrom {order : List Text} {d w : Text} (h : w ∈ reordered order d) :
    w ∈ Text.words d := by
  rcases List.mem_append.mp h with named | unnamed
  · obtain ⟨name, _, found⟩ := List.mem_filterMap.mp named
    exact settleFrom (List.mem_of_find?_eq_some found)
  · exact settleFrom (List.mem_filter.mp unnamed).1

theorem reorderedAreWords {order : List Text} {d w : Text} (h : w ∈ reordered order d) :
    Text.IsWord w := Text.wordsAreWords (reorderedFrom h)

end CrsExport.Definition
