import Mathlib.Data.List.TakeDrop
import Mathlib.Data.List.TakeWhile
import CrsExport.Json
import CrsExport.Proofs.Text.Numeral
/-! The grammar of JSON numbers. A number is read up to the first character that could not belong
to it, so what follows it must begin with another one. -/

namespace CrsExport.Json

def IsDigits (ds : Text) : Prop := ds ≠ [] ∧ ∀ d ∈ ds, d.isDigit = true

inductive IsWhole : Text → Prop where
  | zero : IsWhole ['0']
  | digits {ds} (digits : IsDigits ds) (first : ds.head? ≠ some '0') : IsWhole ds

inductive IsFraction : Text → Prop where
  | nothing : IsFraction []
  | digits {ds} (digits : IsDigits ds) : IsFraction ('.' :: ds)

inductive IsExponent : Text → Prop where
  | nothing : IsExponent []
  | digits {c sign ds} (mark : c = 'e' ∨ c = 'E')
      (signed : sign = [] ∨ sign = ['+'] ∨ sign = ['-']) (digits : IsDigits ds) :
      IsExponent (c :: sign ++ ds)

inductive IsNumber : Text → Prop where
  | parts {sign whole fraction exponent} (signed : sign = [] ∨ sign = ['-'])
      (units : IsWhole whole) (tenths : IsFraction fraction) (powers : IsExponent exponent) :
      IsNumber (sign ++ whole ++ fraction ++ exponent)

def Free (kind : Char → Bool) (t : Text) : Prop := ∀ c ∈ t.head?, kind c = false

def isNumeric (c : Char) : Bool := c.isDigit || c == '.' || c == 'e' || c == 'E'

variable {kind : Char → Bool} {t w ds sign whole fraction exponent rest : Text} {c d : Char}

theorem digitsTaken (h : readDigits t = some (ds, rest)) : t = ds ++ rest ∧ IsDigits ds := by
  unfold readDigits at h
  rw [List.span_eq_takeWhile_dropWhile] at h
  split at h
  · cases h
  · rename_i some
    cases h
    refine ⟨(List.takeWhile_append_dropWhile).symm, ?_, fun d hd => List.mem_takeWhile_imp hd⟩
    intro empty
    exact some _ (by rw [empty])

theorem freeCons (h : kind c = false) : Free kind (c :: t) := fun d first => by
  cases Option.some.inj first
  exact h

theorem freeFirst (stop : Free kind (c :: t)) : kind c = false := stop c rfl

theorem freeMono {kind' : Char → Bool} (fewer : ∀ c, kind c = false → kind' c = false)
    (stop : Free kind t) : Free kind' t := fun c first => fewer c (stop c first)

theorem digitsBegin (h : IsDigits ds) : ∃ d ds', ds = d :: ds' ∧ d.isDigit = true := by
  obtain ⟨d, ds', rfl⟩ := List.exists_cons_of_ne_nil h.1
  exact ⟨d, ds', rfl, h.2 d List.mem_cons_self⟩

/- A digit is taken for nothing else. -/
theorem digitDiffers (digit : c.isDigit = true) (other : d.isDigit = false) : (c == d) = false :=
  beq_false_of_ne fun same => Bool.false_ne_true (other.symm.trans (same ▸ digit))

theorem digitsRead (h : IsDigits ds) (stop : Free Char.isDigit rest) :
    readDigits (ds ++ rest) = some (ds, rest) := by
  have cut : (ds ++ rest).span Char.isDigit = (ds, rest) := by
    rw [List.span_eq_takeWhile_dropWhile, List.takeWhile_append_of_pos h.2,
      List.dropWhile_append_of_pos h.2]
    cases rest with
    | nil => simp
    | cons c rest => simp [freeFirst stop]
  unfold readDigits
  rw [cut]
  split
  · rename_i same
    exact absurd (Prod.mk.inj same).1 h.1
  · rfl

theorem signTaken (h : readSign t = (sign, rest)) :
    t = sign ++ rest ∧ (sign = [] ∨ sign = ['-']) := by
  unfold readSign at h
  split at h
  · cases h
    exact ⟨rfl, .inr rfl⟩
  · cases h
    exact ⟨rfl, .inl rfl⟩

theorem signRead (signed : sign = [] ∨ sign = ['-']) (stop : Free (· == '-') rest) :
    readSign (sign ++ rest) = (sign, rest) := by
  rcases signed with rfl | rfl
  · unfold readSign
    split
    · rename_i same
      rw [List.nil_append] at same
      subst same
      exact absurd (freeFirst stop) (by decide)
    · rfl
  · rfl

theorem eitherSignTaken (h : readEitherSign t = (sign, rest)) :
    t = sign ++ rest ∧ (sign = [] ∨ sign = ['+'] ∨ sign = ['-']) := by
  unfold readEitherSign at h
  split at h
  · cases h
    exact ⟨rfl, .inr (.inl rfl)⟩
  · exact (signTaken h).imp_right (.imp_right .inr)

theorem eitherSignRead (signed : sign = [] ∨ sign = ['+'] ∨ sign = ['-'])
    (stop : Free (fun c => c == '+' || c == '-') rest) :
    readEitherSign (sign ++ rest) = (sign, rest) := by
  have minus : Free (· == '-') rest := freeMono (fun c h => (Bool.or_eq_false_iff.mp h).2) stop
  rcases signed with rfl | rfl | rfl
  · unfold readEitherSign
    split
    · rename_i same
      rw [List.nil_append] at same
      subst same
      exact absurd (freeFirst stop) (by decide)
    · exact signRead (.inl rfl) minus
  · rfl
  · exact signRead (.inr rfl) minus

theorem wholeTaken (h : readWhole t = some (whole, rest)) : t = whole ++ rest ∧ IsWhole whole := by
  unfold readWhole at h
  split at h
  · cases h
    exact ⟨rfl, .zero⟩
  · rename_i other
    obtain ⟨rfl, digits⟩ := digitsTaken h
    refine ⟨rfl, .digits digits fun zero => ?_⟩
    obtain ⟨ds, rfl⟩ := List.head?_eq_some_iff.mp zero
    exact other _ rfl

theorem wholeRead (h : IsWhole whole) (stop : Free Char.isDigit rest) :
    readWhole (whole ++ rest) = some (whole, rest) := by
  cases h with
  | zero => rfl
  | digits digits first =>
    unfold readWhole
    split
    · rename_i same
      obtain ⟨d, ds', rfl, _⟩ := digitsBegin digits
      obtain ⟨rfl, _⟩ := List.cons.inj same
      exact absurd rfl first
    · exact digitsRead digits stop

theorem fractionTaken (h : readFraction t = some (fraction, rest)) :
    t = fraction ++ rest ∧ IsFraction fraction := by
  unfold readFraction at h
  split at h
  · obtain ⟨⟨ds, t'⟩, taken, same⟩ := Option.map_eq_some_iff.mp h
    cases same
    obtain ⟨rfl, digits⟩ := digitsTaken taken
    exact ⟨rfl, .digits digits⟩
  · cases h
    exact ⟨rfl, .nothing⟩

theorem fractionRead (h : IsFraction fraction) (stop : Free (fun c => c.isDigit || c == '.') rest) :
    readFraction (fraction ++ rest) = some (fraction, rest) := by
  cases h with
  | nothing =>
    unfold readFraction
    split
    · rename_i same
      rw [List.nil_append] at same
      subst same
      exact absurd (freeFirst stop) (by decide)
    · rfl
  | digits digits =>
    have read := digitsRead digits (freeMono (fun c h => (Bool.or_eq_false_iff.mp h).1) stop)
    simp [readFraction, read]

theorem exponentTaken (h : readExponent t = some (exponent, rest)) :
    t = exponent ++ rest ∧ IsExponent exponent := by
  unfold readExponent at h
  split at h
  · cases h
    exact ⟨rfl, .nothing⟩
  · rename_i c t
    split_ifs at h with mark
    · cases signed : readEitherSign t with
      | mk sign behind =>
        rw [signed] at h
        obtain ⟨⟨ds, t'⟩, taken, same⟩ := Option.map_eq_some_iff.mp h
        cases same
        obtain ⟨rfl, sign⟩ := eitherSignTaken signed
        obtain ⟨rfl, digits⟩ := digitsTaken taken
        exact ⟨by simp, .digits mark sign digits⟩
    · cases h
      exact ⟨rfl, .nothing⟩

theorem exponentRead (h : IsExponent exponent) (stop : Free isNumeric rest) :
    readExponent (exponent ++ rest) = some (exponent, rest) := by
  have ends : Free Char.isDigit rest ∧ Free (fun c => c == 'e' || c == 'E') rest :=
    ⟨freeMono (fun c h => by simp_all [isNumeric]) stop,
      freeMono (fun c h => by simp_all [isNumeric]) stop⟩
  cases h with
  | nothing =>
    cases rest with
    | nil => rfl
    | cons c rest =>
      have mark := freeFirst ends.2
      simp only [Bool.or_eq_false_iff, beq_eq_false_iff_ne] at mark
      simp [readExponent, mark]
  | @digits c sign ds mark signed digits =>
    obtain ⟨d, ds', rfl, digit⟩ := digitsBegin digits
    have unsigned : Free (fun c => c == '+' || c == '-') (d :: ds' ++ rest) :=
      freeCons (Bool.or_eq_false_iff.mpr
        ⟨digitDiffers digit (by decide), digitDiffers digit (by decide)⟩)
    have sign := eitherSignRead signed unsigned
    have read := digitsRead digits ends.1
    simp only [List.cons_append, List.append_assoc] at sign read ⊢
    simp [readExponent, mark, sign, read]

theorem exponentFree (h : IsExponent exponent) (stop : Free isNumeric rest) :
    Free (fun c => c.isDigit || c == '.') (exponent ++ rest) := by
  cases h with
  | nothing => exact freeMono (fun c h => by simp_all [isNumeric]) stop
  | digits mark =>
    refine freeCons ?_
    rcases mark with rfl | rfl <;> decide

theorem fractionFree (h : IsFraction fraction) (stop : Free Char.isDigit rest) :
    Free Char.isDigit (fraction ++ rest) := by
  cases h with
  | nothing => exact stop
  | digits => exact freeCons (by decide)

theorem wholeBegins (h : IsWhole whole) : ∃ d ds, whole = d :: ds ∧ d.isDigit = true := by
  cases h with
  | zero => exact ⟨'0', [], rfl, by decide⟩
  | digits digits => exact digitsBegin digits

theorem numberTaken (h : readNumber t = some (w, rest)) : t = w ++ rest ∧ IsNumber w := by
  unfold readNumber at h
  cases signed : readSign t with
  | mk sign t₁ =>
    simp only [signed, Option.bind_eq_bind, Option.bind_eq_some_iff] at h
    obtain ⟨⟨whole, t₂⟩, units, ⟨fraction, t₃⟩, tenths, ⟨exponent, t₄⟩, powers, same⟩ := h
    cases same
    obtain ⟨rfl, sign⟩ := signTaken signed
    obtain ⟨rfl, whole⟩ := wholeTaken units
    obtain ⟨rfl, fraction⟩ := fractionTaken tenths
    obtain ⟨rfl, exponent⟩ := exponentTaken powers
    exact ⟨by simp, .parts sign whole fraction exponent⟩

theorem numberRead (h : IsNumber w) (stop : Free isNumeric rest) :
    readNumber (w ++ rest) = some (w, rest) := by
  obtain @⟨sign, whole, fraction, exponent, signed, units, tenths, powers⟩ := h
  have behindTenths := exponentFree powers stop
  have behindUnits := fractionFree tenths
    (freeMono (fun c h => (Bool.or_eq_false_iff.mp h).1) behindTenths)
  obtain ⟨d, ds, begins, digit⟩ := wholeBegins units
  have behindSign : Free (· == '-') (whole ++ (fraction ++ (exponent ++ rest))) :=
    begins ▸ freeCons (digitDiffers digit (by decide))
  simp [readNumber, signRead signed behindSign, wholeRead units behindUnits,
    fractionRead tenths behindTenths, exponentRead powers stop]

theorem numberBegins (h : IsNumber w) : ∃ c t, w = c :: t ∧ (c = '-' ∨ c.isDigit = true) := by
  obtain @⟨sign, whole, fraction, exponent, signed, units, _, _⟩ := h
  obtain ⟨d, ds, rfl, digit⟩ := wholeBegins units
  rcases signed with rfl | rfl
  · exact ⟨d, _, rfl, .inr digit⟩
  · exact ⟨'-', _, rfl, .inl rfl⟩

theorem ofNatNumber (n : Nat) : IsNumber (Text.ofNat n) := by
  have whole : IsWhole (Text.ofNat n) := by
    by_cases zero : (Text.ofNat n).head? = some '0'
    · cases Text.ofNatLeadingZero zero
      exact .zero
    · exact .digits ⟨Text.ofNatSome n, Text.ofNatDigits n⟩ zero
  have number := IsNumber.parts (.inl rfl) whole .nothing .nothing
  simpa using number

end CrsExport.Json
