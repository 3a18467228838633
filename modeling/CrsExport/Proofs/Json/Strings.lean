import Mathlib.Tactic.SplitIfs
import CrsExport.Json
/-! The grammar of JSON strings. A character stands as it is or as an escape, and what is read of
a string is what the grammar says that it spells: it can be read in one way only. -/

namespace CrsExport.Json

inductive SpellsUnit : Text → Nat → Prop where
  | digits {a b c d : Char} {i j k l : Nat} (first : Unicode.hexDigit? a = some i)
      (second : Unicode.hexDigit? b = some j) (third : Unicode.hexDigit? c = some k)
      (fourth : Unicode.hexDigit? d = some l) :
      SpellsUnit [a, b, c, d] (0x1000 * i + 0x100 * j + 0x10 * k + l)

inductive SpellsChar : Text → Char → Prop where
  | plain {c : Char} (visible : 0x20 ≤ c.toNat) (quote : c ≠ '"') (backslash : c ≠ '\\') :
      SpellsChar [c] c
  | short {e c : Char} (stands : shortEscape? e = some c) : SpellsChar ['\\', e] c
  | unit {w n} (spelled : SpellsUnit w n) (whole : n < 0xD800 ∨ 0xE000 ≤ n) :
      SpellsChar ('\\' :: 'u' :: w) (Char.ofNat n)
  | pair {w m v n} (high : SpellsUnit w m) (upper : 0xD800 ≤ m ∧ m < 0xDC00)
      (low : SpellsUnit v n) (lower : 0xDC00 ≤ n ∧ n < 0xE000) :
      SpellsChar ('\\' :: 'u' :: (w ++ '\\' :: 'u' :: v))
        (Char.ofNat (0x10000 + 0x400 * (m - 0xD800) + (n - 0xDC00)))

inductive SpellsString : Text → Text → Prop where
  | nil : SpellsString [] []
  | cons {w c v s} (first : SpellsChar w c) (rest : SpellsString v s) :
      SpellsString (w ++ v) (c :: s)

variable {t w s rest : Text} {c d : Char} {n : Nat}

theorem unitTaken (h : readUnit t = some (n, rest)) : ∃ w, t = w ++ rest ∧ SpellsUnit w n := by
  unfold readUnit at h
  split at h
  · rename_i a b c d t
    simp only [Option.bind_eq_bind, Option.bind_eq_some_iff] at h
    obtain ⟨i, first, j, second, k, third, l, fourth, same⟩ := h
    cases same
    exact ⟨[a, b, c, d], rfl, .digits first second third fourth⟩
  · cases h

theorem unitRead (h : SpellsUnit w n) (t : Text) : readUnit (w ++ t) = some (n, t) := by
  obtain ⟨first, second, third, fourth⟩ := h
  simp [readUnit, first, second, third, fourth]

theorem numberedTaken (h : readNumbered t = some (c, rest)) :
    ∃ w, t = w ++ rest ∧ SpellsChar ('\\' :: 'u' :: w) c := by
  simp only [readNumbered, Option.bind_eq_bind, Option.bind_eq_some_iff] at h
  obtain ⟨⟨m, t'⟩, first, h⟩ := h
  obtain ⟨w, rfl, high⟩ := unitTaken first
  dsimp only at h
  split at h
  · rename_i whole
    cases h
    exact ⟨w, rfl, .unit high whole⟩
  · rename_i half
    split at h
    · simp only [Option.bind_eq_some_iff] at h
      obtain ⟨⟨n, t''⟩, second, h⟩ := h
      obtain ⟨v, rfl, low⟩ := unitTaken second
      split at h
      · rename_i halves
        obtain ⟨rfl, rfl⟩ := Prod.mk.inj (Option.some.inj h)
        exact ⟨w ++ '\\' :: 'u' :: v, by simp, .pair high (by omega) low (by omega)⟩
      · cases h
    · cases h

theorem charTaken (h : readChar t = some (c, rest)) : ∃ w, t = w ++ rest ∧ SpellsChar w c := by
  unfold readChar at h
  split at h
  · cases h
  · rename_i a t
    split_ifs at h with backslash refused
    · unfold readEscape at h
      split at h
      · cases h
      · rename_i e t
        split_ifs at h with letter
        · obtain ⟨w, rfl, spelled⟩ := numberedTaken h
          exact ⟨'\\' :: 'u' :: w, by simp [backslash, letter], spelled⟩
        · obtain ⟨c', stands, same⟩ := Option.map_eq_some_iff.mp h
          cases same
          exact ⟨['\\', e], by simp [backslash], .short stands⟩
    · cases h
      obtain ⟨quote, visible⟩ := not_or.mp refused
      exact ⟨[c], rfl, .plain (Nat.not_lt.mp visible) quote backslash⟩

theorem charRead (h : SpellsChar w c) (t : Text) : readChar (w ++ t) = some (c, t) := by
  cases h with
  | plain visible quote backslash =>
    simp [readChar, backslash, quote, Nat.not_lt_of_le visible]
  | @short e c stands =>
    have letter : e ≠ 'u' := by
      rintro rfl
      cases stands
    simp [readChar, readEscape, letter, stands]
  | unit spelled whole =>
    simp [readChar, readEscape, readNumbered, unitRead spelled, whole]
  | @pair w m v n high upper low lower =>
    have halves : ¬ (m < 0xD800 ∨ 0xE000 ≤ m) := by omega
    simp [readChar, readEscape, readNumbered, unitRead high, unitRead low, if_neg halves, upper.2,
      lower]

/- A character that begins with a quote would end the string. -/
theorem charBegins (h : SpellsChar w c) : ∃ d v, w = d :: v ∧ d ≠ '"' := by
  cases h with
  | plain visible quote backslash => exact ⟨c, [], rfl, quote⟩
  | short | unit | pair => exact ⟨'\\', _, rfl, by decide⟩

theorem charsTaken {fuel : Nat} (h : readChars fuel t = some (s, rest)) :
    ∃ w, t = w ++ '"' :: rest ∧ SpellsString w s := by
  induction fuel generalizing t s with
  | zero => cases h
  | succ fuel ih =>
    unfold readChars at h
    split_ifs at h with quote
    · cases h
      obtain ⟨t, rfl⟩ := List.head?_eq_some_iff.mp quote
      exact ⟨[], rfl, .nil⟩
    · simp only [Option.bind_eq_bind, Option.bind_eq_some_iff] at h
      obtain ⟨⟨c, t'⟩, first, ⟨s, t''⟩, later, same⟩ := h
      cases same
      obtain ⟨w, rfl, char⟩ := charTaken first
      obtain ⟨v, behind, string⟩ := ih later
      exact ⟨w ++ v, by simp [← behind], .cons char string⟩

theorem charsRead {fuel : Nat} (h : SpellsString w s) (size : w.length < fuel) (t : Text) :
    readChars fuel (w ++ '"' :: t) = some (s, t) := by
  induction h generalizing fuel with
  | nil =>
    obtain ⟨fuel, rfl⟩ := Nat.exists_eq_add_of_le' size
    rfl
  | @cons w c v s first rest ih =>
    obtain ⟨fuel, rfl⟩ := Nat.exists_eq_add_of_le' (Nat.le_trans (Nat.le_add_left 1 _) size)
    obtain ⟨d, w, rfl, unquoted⟩ := charBegins first
    have later : readChars fuel (v ++ '"' :: t) = some (s, t) := by
      refine ih ?_
      simp only [List.cons_append, List.length_cons, List.length_append] at size
      omega
    have char := charRead first (v ++ '"' :: t)
    rw [List.cons_append] at char
    simp [readChars, unquoted, char, later]

theorem stringTaken (h : readString t = some (s, rest)) :
    ∃ w, t = w ++ '"' :: rest ∧ SpellsString w s := charsTaken h

theorem stringRead (h : SpellsString w s) (t : Text) :
    readString (w ++ '"' :: t) = some (s, t) :=
  charsRead h (by simp) t

theorem hexVisible (h : Unicode.hexDigit? c = some n) : 0x20 ≤ c.toNat := by
  unfold Unicode.hexDigit? at h
  have letter : ∀ a b : Char, 0x20 ≤ a.toNat → (decide (a ≤ c) && decide (c ≤ b)) = true →
      0x20 ≤ c.toNat := by
    intro a b visible within
    have above : a ≤ c := of_decide_eq_true (Bool.and_eq_true_iff.mp within).1
    exact Nat.le_trans visible (UInt32.le_iff_toNat_le.mp (Char.le_def.mp above))
  split_ifs at h with digit small large
  · exact Nat.le_trans (by decide) (Char.isDigit_iff_toNat.mp digit).1
  · exact letter 'a' 'f' (by decide) small
  · exact letter 'A' 'F' (by decide) large

theorem unitVisible (h : SpellsUnit w n) : ∀ d ∈ w, 0x20 ≤ d.toNat := by
  obtain ⟨first, second, third, fourth⟩ := h
  simp [hexVisible first, hexVisible second, hexVisible third, hexVisible fourth]

theorem shortVisible (h : shortEscape? d = some c) : 0x20 ≤ d.toNat := by
  unfold shortEscape? at h
  split at h
  case h_9 => cases h
  all_goals decide

theorem charVisible (h : SpellsChar w c) : ∀ d ∈ w, 0x20 ≤ d.toNat := by
  cases h with
  | plain visible => simp [visible]
  | short stands => simp [shortVisible stands]
  | unit spelled =>
    have digits := unitVisible spelled
    simpa using digits
  | pair high upper low =>
    have digits := And.intro (unitVisible high) (unitVisible low)
    simpa [or_imp, forall_and] using digits

theorem stringVisible (h : SpellsString w s) : ∀ d ∈ w, 0x20 ≤ d.toNat := by
  induction h with
  | nil => simp
  | cons first _ ih => exact List.forall_mem_append.mpr ⟨charVisible first, ih⟩

end CrsExport.Json
