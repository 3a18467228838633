import CrsExport.Text.Utf8
/-! Text as bytes. What is encoded is read back, and a byte below 128 stands for the
character with its number and for nothing else. -/

namespace CrsExport.Text

theorem utf8Bytes (t : Text) : ⟨(utf8 t).toArray⟩ = (String.ofList t).toByteArray := by
  apply ByteArray.ext
  rw [String.toByteArray_ofList, List.utf8Encode, List.data_toByteArray]
  rfl

theorem ofUtf8Encoded (t : Text) : ofUtf8? (utf8 t) = some t := by
  have valid : (String.ofList t).toByteArray.IsValidUTF8 := (String.ofList t).isValidUTF8
  unfold ofUtf8? String.fromUTF8?
  rw [utf8Bytes, dif_pos valid, Option.map_some]
  exact congrArg some String.toList_ofList

theorem utf8CharSmall {c : Char} {b : UInt8} (h : b ∈ String.utf8EncodeChar c)
    (small : b.toNat < 128) : b.toNat = c.toNat := by
  have highBit : ∀ n, 128 ≤ n → n < 256 → b = UInt8.ofNat n → b.toNat = c.toNat := by
    intro n low high eq
    have value : b.toNat = n := by rw [eq, UInt8.toNat_ofNat', Nat.mod_eq_of_lt high]
    omega
  simp only [String.utf8EncodeChar] at h
  split at h
  · have eq := List.mem_singleton.mp h
    rw [eq, UInt8.toNat_ofNat', Nat.mod_eq_of_lt (by omega)]
    rfl
  -- every byte of a longer form has its highest bit set
  split at h
  · simp only [List.mem_cons, List.not_mem_nil, or_false] at h
    rcases h with h | h <;> exact highBit _ (by omega) (by omega) h
  split at h
  · simp only [List.mem_cons, List.not_mem_nil, or_false] at h
    rcases h with h | h | h <;> exact highBit _ (by omega) (by omega) h
  · simp only [List.mem_cons, List.not_mem_nil, or_false] at h
    rcases h with h | h | h | h <;> exact highBit _ (by omega) (by omega) h

theorem utf8Small {t : Text} {b : UInt8} (h : b ∈ utf8 t) (small : b.toNat < 128) :
    ∃ c ∈ t, c.toNat = b.toNat := by
  obtain ⟨c, member, byte⟩ := List.mem_flatMap.mp h
  exact ⟨c, member, (utf8CharSmall byte small).symm⟩

end CrsExport.Text
