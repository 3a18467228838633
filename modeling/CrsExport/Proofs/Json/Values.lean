import CrsExport.Proofs.Json.Numbers
import CrsExport.Proofs.Json.Strings
/-! The grammar of JSON texts. Whatever is read of a text is what it spells by the grammar, and
every text that spells a value is read; so no text spells two values. -/

namespace CrsExport.Json

def IsSpaces (p : Text) : Prop := ∀ c ∈ p, isSpace c = true

inductive SpellsSequence {α : Type} (item : Text → α → Prop) : Text → List α → Prop where
  | last {p w q a} (before : IsSpaces p) (spelled : item w a) (behind : IsSpaces q) :
      SpellsSequence item (p ++ (w ++ q)) [a]
  | more {p w q a t as} (before : IsSpaces p) (spelled : item w a) (behind : IsSpaces q)
      (rest : SpellsSequence item t as) :
      SpellsSequence item (p ++ (w ++ (q ++ ',' :: t))) (a :: as)

inductive SpellsMember (value : Text → Json → Prop) : Text → Text × Json → Prop where
  | parts {n name p q w v} (named : SpellsString n name) (before : IsSpaces p)
      (behind : IsSpaces q) (spelled : value w v) :
      SpellsMember value ('"' :: (n ++ '"' :: (p ++ ':' :: (q ++ w)))) (name, v)

inductive SpellsValue : Text → Json → Prop where
  | null : SpellsValue ['n', 'u', 'l', 'l'] .null
  | true : SpellsValue ['t', 'r', 'u', 'e'] (.bool .true)
  | false : SpellsValue ['f', 'a', 'l', 's', 'e'] (.bool .false)
  | number {w} (number : IsNumber w) : SpellsValue w (.number w)
  | string {w s} (string : SpellsString w s) : SpellsValue ('"' :: (w ++ ['"'])) (.string s)
  | noItems {p} (blank : IsSpaces p) : SpellsValue ('[' :: (p ++ [']'])) (.array [])
  | array {w vs} (items : SpellsSequence SpellsValue w vs) :
      SpellsValue ('[' :: (w ++ [']'])) (.array vs)
  | noMembers {p} (blank : IsSpaces p) : SpellsValue ('{' :: (p ++ ['}'])) (.object [])
  | object {w ms} (members : SpellsSequence (SpellsMember SpellsValue) w ms) :
      SpellsValue ('{' :: (w ++ ['}'])) (.object ms)

inductive Spells : Text → Json → Prop where
  | text {p w q v} (before : IsSpaces p) (spelled : SpellsValue w v) (behind : IsSpaces q) :
      Spells (p ++ (w ++ q)) v

/-- Whatever a reader takes off a text is spelled there, behind blanks. -/
def Takes {α : Type} (reader : Reader α) (item : Text → α → Prop) : Prop :=
  ∀ t a rest, reader t = some (a, rest) → ∃ p w, t = p ++ (w ++ rest) ∧ IsSpaces p ∧ item w a

/-- A reader takes what is spelled at the front of a text, up to some length. -/
def Reads {α : Type} (reader : Reader α) (item : Text → α → Prop) (limit : Nat) : Prop :=
  ∀ p w a rest, IsSpaces p → item w a → w.length ≤ limit → Free isNumeric rest →
    reader (p ++ (w ++ rest)) = some (a, rest)

variable {α : Type} {reader : Reader α} {item : Text → α → Prop} {p t w rest : Text} {a : α}
  {as : List α} {close c : Char} {fuel limit : Nat}

theorem spacesTaken (t : Text) : ∃ p, t = p ++ skipSpaces t ∧ IsSpaces p :=
  ⟨t.takeWhile isSpace, List.takeWhile_append_dropWhile.symm, fun _ hc => List.mem_takeWhile_imp hc⟩

theorem spacesSkipped (blank : IsSpaces p) (stop : Free isSpace rest) :
    skipSpaces (p ++ rest) = rest := by
  unfold skipSpaces
  rw [List.dropWhile_append_of_pos blank]
  cases rest with
  | nil => rfl
  | cons c rest => exact List.dropWhile_cons_of_neg (by simp [freeFirst stop])

theorem sequenceTaken (takes : Takes reader item)
    (h : readSequence reader close fuel t = some (as, rest)) :
    ∃ w, t = w ++ close :: rest ∧ SpellsSequence item w as := by
  induction fuel generalizing t as with
  | zero => cases h
  | succ fuel ih =>
    simp only [readSequence, Option.bind_eq_bind, Option.bind_eq_some_iff] at h
    obtain ⟨⟨a, t'⟩, first, h⟩ := h
    obtain ⟨p, w, rfl, before, spelled⟩ := takes _ _ _ first
    obtain ⟨q, blank, behind⟩ := spacesTaken t'
    dsimp only at h
    split at h
    · cases h
    · rename_i c t skipped
      rw [skipped] at blank
      split_ifs at h with closed comma
      · cases h
        exact ⟨p ++ (w ++ q), by simp [blank, closed], .last before spelled behind⟩
      · obtain ⟨⟨as, t''⟩, later, same⟩ := Option.map_eq_some_iff.mp h
        cases same
        obtain ⟨v, rfl, sequence⟩ := ih later
        exact ⟨p ++ (w ++ (q ++ ',' :: v)), by simp [blank, comma],
          .more before spelled behind sequence⟩

theorem groupTaken (takes : Takes reader item) (h : readGroup reader close t = some (as, rest)) :
    ∃ w, t = w ++ close :: rest ∧ (as = [] ∧ IsSpaces w ∨ SpellsSequence item w as) := by
  unfold readGroup at h
  split_ifs at h with closed
  · cases h
    obtain ⟨p, blank, isSpaces⟩ := spacesTaken t
    obtain ⟨t', skipped⟩ := List.head?_eq_some_iff.mp closed
    exact ⟨p, by rw [skipped] at blank ⊢; exact blank, .inl ⟨rfl, isSpaces⟩⟩
  · obtain ⟨w, rfl, sequence⟩ := sequenceTaken takes h
    exact ⟨w, rfl, .inr sequence⟩

theorem memberTaken {value : Reader Json} {valued : Text → Json → Prop}
    (takes : Takes value valued) : Takes (readMember value) (SpellsMember valued) := by
  intro t m rest h
  obtain ⟨p, blank, isSpaces⟩ := spacesTaken t
  unfold readMember at h
  split at h
  · rename_i t' quoted
    rw [quoted] at blank
    simp only [Option.bind_eq_bind, Option.bind_eq_some_iff] at h
    obtain ⟨⟨name, t''⟩, named, h⟩ := h
    obtain ⟨n, rfl, spelled⟩ := stringTaken named
    obtain ⟨q, apart, before⟩ := spacesTaken t''
    dsimp only at h
    split at h
    · rename_i t₃ colon
      rw [colon] at apart
      obtain ⟨⟨v, t₄⟩, valued, same⟩ := Option.map_eq_some_iff.mp h
      cases same
      obtain ⟨q', w, rfl, behind, value⟩ := takes _ _ _ valued
      exact ⟨p, _, by simp [blank, apart], isSpaces, .parts spelled before behind value⟩
    · cases h
  · cases h

theorem valueTaken (depth : Nat) : Takes (readValue depth) SpellsValue := by
  induction depth with
  | zero =>
    intro t v rest h
    cases h
  | succ depth ih =>
    intro t v rest h
    obtain ⟨p, blank, isSpaces⟩ := spacesTaken t
    suffices spelled : ∃ w, skipSpaces t = w ++ rest ∧ SpellsValue w v by
      obtain ⟨w, skipped, value⟩ := spelled
      exact ⟨p, w, by rw [← skipped, ← blank], isSpaces, value⟩
    unfold readValue at h
    generalize skipSpaces t = front at h ⊢
    split at h
    · obtain ⟨⟨ms, t'⟩, taken, same⟩ := Option.map_eq_some_iff.mp h
      cases same
      obtain ⟨w, rfl, ⟨rfl, blank⟩ | members⟩ := groupTaken (memberTaken ih) taken
      · exact ⟨_, by simp, .noMembers blank⟩
      · exact ⟨_, by simp, .object members⟩
    · obtain ⟨⟨vs, t'⟩, taken, same⟩ := Option.map_eq_some_iff.mp h
      cases same
      obtain ⟨w, rfl, ⟨rfl, blank⟩ | items⟩ := groupTaken ih taken
      · exact ⟨_, by simp, .noItems blank⟩
      · exact ⟨_, by simp, .array items⟩
    · obtain ⟨⟨s, t'⟩, taken, same⟩ := Option.map_eq_some_iff.mp h
      cases same
      obtain ⟨w, rfl, string⟩ := stringTaken taken
      exact ⟨_, by simp, .string string⟩
    · cases h
      exact ⟨_, rfl, .true⟩
    · cases h
      exact ⟨_, rfl, .false⟩
    · cases h
      exact ⟨_, rfl, .null⟩
    · obtain ⟨⟨n, t'⟩, taken, same⟩ := Option.map_eq_some_iff.mp h
      cases same
      obtain ⟨front, number⟩ := numberTaken taken
      exact ⟨n, front, .number number⟩

theorem readTaken {v : Json} (h : read t = some v) : Spells t v := by
  unfold read at h
  split at h
  · rename_i v' rest taken
    split_ifs at h with ended
    cases h
    obtain ⟨p, w, rfl, before, spelled⟩ := valueTaken _ _ _ _ taken
    obtain ⟨q, blank, behind⟩ := spacesTaken rest
    rw [List.isEmpty_iff.mp ended, List.append_nil] at blank
    exact blank ▸ .text before spelled behind
  · cases h

/- No number goes on with a blank. -/
theorem blankFree (blank : IsSpaces p) (stop : Free isNumeric t) : Free isNumeric (p ++ t) := by
  cases p with
  | nil => exact stop
  | cons d p =>
    have space := blank d List.mem_cons_self
    refine freeCons ?_
    simp only [isSpace, Bool.or_eq_true, beq_iff_eq] at space
    rcases space with ((rfl | rfl) | rfl) | rfl <;> decide

theorem sequenceRead (reads : Reads reader item limit) (closes : close = ']' ∨ close = '}')
    (h : SpellsSequence item w as) (fits : w.length ≤ limit) (size : w.length < fuel) (t : Text) :
    readSequence reader close fuel (w ++ close :: t) = some (as, t) := by
  have closing : isSpace close = false ∧ isNumeric close = false ∧ ',' ≠ close := by
    rcases closes with rfl | rfl <;> decide
  obtain ⟨firm, stop, apart⟩ := closing
  induction h generalizing fuel with
  | @last p w q a before spelled behind =>
    obtain ⟨fuel, rfl⟩ := Nat.exists_eq_add_of_le' (Nat.le_trans (Nat.le_add_left 1 _) size)
    simp only [List.length_append] at fits
    have first := reads p w a (q ++ close :: t) before spelled (by omega)
      (blankFree behind (freeCons stop))
    have ended := spacesSkipped behind (freeCons (t := t) firm)
    simp [readSequence, first, ended]
  | @more p w q a v as before spelled behind rest ih =>
    obtain ⟨fuel, rfl⟩ := Nat.exists_eq_add_of_le' (Nat.le_trans (Nat.le_add_left 1 _) size)
    simp only [List.length_append, List.length_cons] at fits size
    have later := @ih fuel (by omega) (by omega)
    have first := reads p w a (q ++ ',' :: (v ++ close :: t)) before spelled (by omega)
      (blankFree behind (freeCons (by decide)))
    have comma := spacesSkipped behind (freeCons (c := ',') (t := v ++ close :: t) (by decide))
    simp [readSequence, first, comma, apart, later]

theorem sequenceBegins
    (begins : ∀ w a, item w a → ∃ c v, w = c :: v ∧ isSpace c = false ∧ c ≠ close)
    (h : SpellsSequence item w as) :
    ∃ p c v, w = p ++ c :: v ∧ IsSpaces p ∧ isSpace c = false ∧ c ≠ close := by
  cases h with
  | @last p w q a before spelled =>
    obtain ⟨c, v, rfl, firm, other⟩ := begins w a spelled
    exact ⟨p, c, _, rfl, before, firm, other⟩
  | @more p w q a t as before spelled =>
    obtain ⟨c, v, rfl, firm, other⟩ := begins w a spelled
    exact ⟨p, c, _, rfl, before, firm, other⟩

theorem groupRead (reads : Reads reader item limit) (closes : close = ']' ∨ close = '}')
    (begins : ∀ w a, item w a → ∃ c v, w = c :: v ∧ isSpace c = false ∧ c ≠ close)
    (h : SpellsSequence item w as) (fits : w.length ≤ limit) (t : Text) :
    readGroup reader close (w ++ close :: t) = some (as, t) := by
  have size : w.length < (w ++ close :: t).length := by simp
  have read := sequenceRead reads closes h fits size t
  obtain ⟨p, c, v, begun, before, firm, other⟩ := sequenceBegins begins h
  have front : skipSpaces (w ++ close :: t) = c :: (v ++ close :: t) := by
    rw [begun, List.append_assoc, List.cons_append]
    exact spacesSkipped before (freeCons firm)
  unfold readGroup
  rw [front, if_neg (by simpa using other), read]

theorem noneRead (reader : Reader α) (closes : close = ']' ∨ close = '}') (blank : IsSpaces p)
    (t : Text) :
    readGroup reader close (p ++ close :: t) = some ([], t) := by
  have front : skipSpaces (p ++ close :: t) = close :: t := by
    refine spacesSkipped blank (freeCons ?_)
    rcases closes with rfl | rfl <;> decide
  unfold readGroup
  rw [front, List.head?_cons, if_pos rfl, List.tail_cons]

theorem memberRead {value : Reader Json} {valued : Text → Json → Prop}
    (reads : Reads value valued limit) : Reads (readMember value) (SpellsMember valued) limit := by
  intro p w m rest blank h fits stop
  obtain @⟨n, name, q, q', w, v, named, before, behind, spelled⟩ := h
  simp only [List.length_cons, List.length_append] at fits
  have value := reads q' w v rest behind spelled (by omega) stop
  have string := stringRead named (q ++ ':' :: (q' ++ (w ++ rest)))
  have opened := spacesSkipped blank
    (freeCons (c := '"') (t := n ++ '"' :: (q ++ ':' :: (q' ++ (w ++ rest)))) (by decide))
  have colon := spacesSkipped before (freeCons (c := ':') (t := q' ++ (w ++ rest)) (by decide))
  simp only [List.append_assoc, List.cons_append] at value string opened colon ⊢
  unfold readMember
  rw [opened]
  simp [string, colon, value]

theorem memberBegins {valued : Text → Json → Prop} {m : Text × Json}
    (h : SpellsMember valued w m) : ∃ c v, w = c :: v ∧ isSpace c = false ∧ c ≠ '}' := by
  obtain ⟨_, _, _, _⟩ := h
  exact ⟨'"', _, rfl, by decide, by decide⟩

theorem valueBegins {v : Json} (h : SpellsValue w v) :
    ∃ c t, w = c :: t ∧ isSpace c = false ∧ c ≠ ']' := by
  cases h with
  | number number =>
    obtain ⟨c, t, rfl, first⟩ := numberBegins number
    have differs : ∀ d : Char, d.isDigit = false → d ≠ '-' → c ≠ d := by
      rintro d other minus rfl
      rcases first with rfl | digit
      · exact minus rfl
      · exact Bool.false_ne_true (other.symm.trans digit)
    refine ⟨c, t, rfl, ?_, differs ']' (by decide) (by decide)⟩
    simp [isSpace, differs]
  | null | true | false | string | noItems | array | noMembers | object =>
    exact ⟨_, _, rfl, by decide, by decide⟩

theorem valueRead (limit : Nat) : Reads (readValue (limit + 1)) SpellsValue limit := by
  induction limit with
  | zero =>
    intro p w v rest blank h fits stop
    obtain ⟨c, t, rfl, _⟩ := valueBegins h
    cases fits
  | succ limit ih =>
    intro p w v rest blank h fits stop
    have front : skipSpaces (p ++ (w ++ rest)) = w ++ rest := by
      obtain ⟨c, t, rfl, firm, _⟩ := valueBegins h
      exact spacesSkipped blank (freeCons firm)
    unfold readValue
    rw [front]
    cases h with
    | null | true | false => rfl
    | number number =>
      have read := numberRead number stop
      obtain ⟨c, t, rfl, first⟩ := numberBegins number
      rw [List.cons_append] at read ⊢
      split
      case h_7 =>
        rw [read]
        rfl
      -- nothing else begins as a number does
      all_goals
        rename_i same
        obtain ⟨rfl, _⟩ := List.cons.inj same
        rcases first with minus | digit
        · exact absurd minus (by decide)
        · exact absurd digit (by decide)
    | @string w s string =>
      have read := stringRead string rest
      simp [read]
    | noItems blank =>
      have read := noneRead (readValue (limit + 1)) (.inl rfl) blank rest
      simp [read]
    | @array w vs items =>
      have inside : w.length ≤ limit := by
        simp only [List.length_cons, List.length_append, List.length_nil] at fits
        omega
      have read := groupRead ih (.inl rfl) (fun _ _ => valueBegins) items inside rest
      simp [read]
    | noMembers blank =>
      have read := noneRead (readMember (readValue (limit + 1))) (.inr rfl) blank rest
      simp [read]
    | @object w ms members =>
      have inside : w.length ≤ limit := by
        simp only [List.length_cons, List.length_append, List.length_nil] at fits
        omega
      have read :=
        groupRead (memberRead ih) (.inr rfl) (fun _ _ => memberBegins) members inside rest
      simp [read]

theorem readIff {v : Json} : read t = some v ↔ Spells t v := by
  constructor
  · exact readTaken
  · rintro @⟨p, w, q, v, before, spelled, behind⟩
    have nothing (kind : Char → Bool) : Free kind [] := fun _ none => nomatch none
    have free : Free isNumeric q := by
      have all := blankFree behind (nothing isNumeric)
      rwa [List.append_nil] at all
    have size : w.length ≤ (p ++ (w ++ q)).length := by
      simp only [List.length_append]
      omega
    have value := valueRead _ p w v q before spelled size free
    have ended : skipSpaces q = [] := by
      have all := spacesSkipped behind (nothing isSpace)
      rwa [List.append_nil] at all
    unfold read
    simp only [value, ended]
    rfl

theorem spelledOnce {v v' : Json} (h : Spells t v) (h' : Spells t v') : v = v' :=
  Option.some.inj ((readIff.mpr h).symm.trans (readIff.mpr h'))

end CrsExport.Json
