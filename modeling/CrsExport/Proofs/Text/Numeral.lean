import CrsExport.Code
import CrsExport.Proofs.Text.Trim
/-! Numerals. A numeral is read as the value of its digits, and a number is written in digits of
that value. -/

namespace CrsExport

namespace Text

def IsNumeral (t : Text) (n : Nat) : Prop :=
  ∃ ds, (t = ds ∨ t = '+' :: ds) ∧ ds ≠ [] ∧ (∀ d ∈ ds, d.isDigit = true) ∧ digitsValue ds = n

variable {t : Text} {n bound : Nat}

theorem readNatIff : readNat bound t = some n ↔ IsNumeral t n ∧ n ≤ bound := by
  constructor
  · intro h
    dsimp only [readNat] at h
    split at h
    · rename_i passed
      simp only [Bool.and_eq_true, Bool.not_eq_true', List.isEmpty_eq_false_iff,
        List.all_eq_true, decide_eq_true_eq] at passed
      obtain ⟨⟨some, digits⟩, fits⟩ := passed
      cases h
      refine ⟨⟨unsigned t, ?_, some, digits, rfl⟩, fits⟩
      unfold unsigned
      split
      · exact .inr rfl
      · exact .inl rfl
    · cases h
  · rintro ⟨⟨ds, written, some, digits, rfl⟩, fits⟩
    have unsigned : unsigned t = ds := by
      rcases written with rfl | rfl
      · unfold Text.unsigned
        split
        · exact absurd (digits '+' List.mem_cons_self) (by decide)
        · rfl
      · rfl
    simp [readNat, unsigned, some, List.all_eq_true.mpr digits, fits]

theorem ofNatSome (n : Nat) : ofNat n ≠ [] := Nat.toDigits_ne_nil

theorem ofNatDigits (n : Nat) : ∀ d ∈ ofNat n, d.isDigit = true :=
  fun _ hd => Nat.isDigit_of_mem_toDigits (by decide) (by decide) hd

theorem ofNatIsNumeral (n : Nat) : IsNumeral (ofNat n) n := by
  refine ⟨ofNat n, .inl rfl, ofNatSome n, ofNatDigits n, ?_⟩
  have value := Nat.ofDigitChars_ten_toDigits (n := n)
  rwa [Nat.ofDigitChars_eq_foldl] at value

/- The only number that is written with a zero in front is zero. -/
theorem ofNatLeadingZero {n : Nat} (h : (ofNat n).head? = some '0') : n = 0 := by
  unfold ofNat at h
  induction n using Nat.strongRecOn with
  | ind n ih =>
    rcases Nat.lt_or_ge n 10 with small | large
    · have only : ∀ m < 10, m.digitChar = '0' → m = 0 := by decide
      rw [Nat.toDigits_of_lt_base small] at h
      exact only n small (Option.some.inj h)
    · rw [Nat.toDigits_of_base_le (by decide) large,
        List.head?_append_of_ne_nil _ Nat.toDigits_ne_nil] at h
      have zero := ih (n / 10) (by omega) h
      omega

theorem digitUnblank {c : Char} (digit : c.isDigit = true) : isBlank c = false := by
  obtain ⟨low, high⟩ := Char.isDigit_iff_toNat.mp digit
  have low : 48 ≤ c.toNat := low
  have high : c.toNat ≤ 57 := high
  simp only [isBlank, Bool.or_eq_false_iff, Bool.and_eq_false_iff, decide_eq_false_iff_not,
    beq_eq_false_iff_ne]
  omega

theorem numeralChar {c : Char} (h : IsNumeral t n) (member : c ∈ t) :
    c = '+' ∨ c.isDigit = true := by
  obtain ⟨ds, written, _, digits, _⟩ := h
  rcases written with rfl | rfl
  · exact .inr (digits c member)
  · exact (List.mem_cons.mp member).imp_right (digits c)

theorem numeralUnblank {c : Char} (h : IsNumeral t n) (member : c ∈ t) : isBlank c = false := by
  rcases numeralChar h member with rfl | digit
  · rfl
  · exact digitUnblank digit

theorem numeralTrimmed (h : IsNumeral t n) : Trimmed t :=
  unblankTrimmed fun _ hc => numeralUnblank h hc

theorem numeralFree {c : Char} (h : IsNumeral t n) (other : ¬ (c = '+' ∨ c.isDigit = true)) :
    c ∉ t := fun member => other (numeralChar h member)

theorem numeralNonempty (h : IsNumeral t n) : t ≠ [] := by
  obtain ⟨ds, rfl | rfl, some, _⟩ := h
  · exact some
  · exact List.cons_ne_nil '+' ds

end Text

namespace Code

theorem readIff {t : Text} {c : Code} : read t = some c ↔ Text.IsNumeral t c.toNat := by
  have fits : c.toNat ≤ greatest := Nat.le_of_lt_succ c.toNat_lt
  rw [read, Option.map_eq_some_iff]
  constructor
  · rintro ⟨n, found, rfl⟩
    obtain ⟨numeral, small⟩ := Text.readNatIff.mp found
    rwa [UInt32.toNat_ofNat_of_lt' (Nat.lt_succ_of_le small)]
  · exact fun numeral => ⟨c.toNat, Text.readNatIff.mpr ⟨numeral, fits⟩, UInt32.ofNat_toNat⟩

end Code
end CrsExport
