import CrsExport.Proofs.Definition.Keys
/-! What a definition says of a key: the last word that it has for it. Settled words are the last
words for the keys, in the order in which the keys first appear. An order then brings out the
ones that it names, and leaves the others as they stand. -/

namespace CrsExport.Definition

def latest (ws : List Text) (k : Text) : Option Text := ws.reverse.find? fun w => key w == k

def firstKeys (ws : List Text) : List Text := (ws.map key).eraseDups

/-- Of the keys of some words those that an order does not name, in the order in which they
first appear. -/
def otherKeys (order ws : List Text) : List Text :=
  (firstKeys ws).filter (· ∉ order.map keyOf)

variable {ws ws' : List Text} {k w : Text} {order : List Text} {d : Text}

theorem latestIff : latest ws k = some w ↔
    ∃ before after, ws = before ++ w :: after ∧ key w = k ∧ k ∉ after.map key := by
  rw [latest, List.find?_eq_some_iff_append]
  constructor
  · rintro ⟨same, after, before, split, silent⟩
    refine ⟨before.reverse, after.reverse, ?_, by simpa using same, ?_⟩
    · rw [← List.reverse_reverse ws, split]
      simp
    · simpa using silent
  · rintro ⟨before, after, rfl, rfl, silent⟩
    refine ⟨by simp, after.reverse, before.reverse, by simp, ?_⟩
    simpa using silent

theorem latestKey (h : latest ws k = some w) : key w = k := by
  obtain ⟨_, _, _, same, _⟩ := latestIff.mp h
  exact same

theorem latestMem (h : latest ws k = some w) : w ∈ ws := by
  obtain ⟨_, _, split, _⟩ := latestIff.mp h
  simp [split]

theorem latestNone : latest ws k = none ↔ k ∉ ws.map key := by
  simp [latest]

theorem latestAppend (ws ws' : List Text) (k : Text) :
    latest (ws ++ ws') k = (latest ws' k).or (latest ws k) := by
  rw [latest, List.reverse_append, List.find?_append]
  rfl

theorem latestSingle (w k : Text) : latest [w] k = if key w = k then some w else none := by
  by_cases same : key w = k
  · simp [latest, same]
  · simp [latest, same]

theorem latestCons (w : Text) (ws : List Text) (k : Text) :
    latest (w :: ws) k = (latest ws k).or (if key w = k then some w else none) := by
  rw [← latestSingle, ← latestAppend, List.singleton_append]

theorem eraseDupsSnoc (l : List Text) (a : Text) :
    (l ++ [a]).eraseDups = if a ∈ l then l.eraseDups else l.eraseDups ++ [a] := by
  by_cases known : a ∈ l
  · simp [List.eraseDups_append, List.removeAll, known]
  · simp [List.eraseDups_append, List.removeAll, List.eraseDups_cons, known]

theorem eraseDupsFilter (p : Text → Bool) (l : List Text) :
    (l.filter p).eraseDups = l.eraseDups.filter p := by
  induction l using List.reverseRecOn with
  | nil => rfl
  | append_singleton l a ih =>
    rw [eraseDupsSnoc, List.filter_append]
    by_cases kept : p a
    · rw [List.filter_cons_of_pos kept, List.filter_nil, eraseDupsSnoc, ih]
      by_cases known : a ∈ l
      · simp [known, kept]
      · simp [known, kept]
    · rw [List.filter_cons_of_neg kept, List.filter_nil, List.append_nil, ih]
      by_cases known : a ∈ l
      · simp [known]
      · simp [known, kept]

theorem eraseDupsDistinct {l : List Text} (h : l.Nodup) : l.eraseDups = l := by
  induction l using List.reverseRecOn with
  | nil => rfl
  | append_singleton l a ih =>
    obtain ⟨distinct, _, apart⟩ := List.nodup_append.mp h
    have fresh : a ∉ l := fun known => apart a known a List.mem_cons_self rfl
    rw [eraseDupsSnoc, if_neg fresh, ih distinct]

theorem eraseDupsKnown {l l' : List Text} {a : Text} (known : a ∈ l) :
    (l ++ a :: l').eraseDups = (l ++ l').eraseDups := by
  simp [List.eraseDups_append, List.cons_removeAll, known]

theorem firstKeysAppend (ws us : List Text) :
    firstKeys (ws ++ us) = firstKeys ws ++ (firstKeys us).filter (· ∉ ws.map key) := by
  have fresh : (us.map key).removeAll (ws.map key) = (us.map key).filter (· ∉ ws.map key) :=
    List.filter_congr fun k _ => by rw [List.elem_eq_mem, decide_not]
  simp only [firstKeys, List.map_append, List.eraseDups_append, fresh, eraseDupsFilter]

theorem otherKeysAppend (order ws us : List Text) :
    otherKeys order (ws ++ us) =
      otherKeys order ws ++ (otherKeys order us).filter (· ∉ ws.map key) := by
  simp only [otherKeys, firstKeysAppend, List.filter_append]
  rw [List.filter_comm]

theorem settleKeys (ws : List Text) : (settle ws).map key = firstKeys ws := by
  induction ws using List.reverseRecOn with
  | nil => rfl
  | append_singleton ws word ih =>
    rw [settleSnoc, putKeys, ih, firstKeys, firstKeys, List.map_append, List.map_singleton,
      eraseDupsSnoc]
    simp only [List.mem_eraseDups]

theorem putFind (ws : List Text) (word k : Text) :
    (put ws word).find? (fun w => key w == k) =
      if key word = k then some word else ws.find? fun w => key w == k := by
  unfold put
  split
  · rename_i known
    obtain ⟨old, member, same⟩ := List.any_eq_true.mp known
    -- the word in the place of another one has its key
    have keeps : ∀ w, key (if key w == key word then word else w) = key w := by
      intro w
      split
      · rename_i replaced
        exact (beq_iff_eq.mp replaced).symm
      · rfl
    rw [List.find?_map]
    simp only [Function.comp_def, keeps]
    by_cases asked : key word = k
    · subst asked
      cases found : ws.find? fun w => key w == key word with
      | none => exact absurd same (List.find?_eq_none.mp found old member)
      | some w =>
        have own := List.find?_some found
        rw [Option.map_some, if_pos own, if_pos rfl]
    · rw [if_neg asked]
      cases found : ws.find? fun w => key w == k with
      | none => rfl
      | some w =>
        have own : key w = k := by simpa using List.find?_some found
        simp [own, Ne.symm asked]
  · rename_i new
    rw [List.find?_append]
    by_cases asked : key word = k
    · subst asked
      have absent : ws.find? (fun w => key w == key word) = none := by
        simpa using new
      simp [absent]
    · simp [asked]

theorem settleFind (ws : List Text) (k : Text) :
    (settle ws).find? (fun w => key w == k) = latest ws k := by
  induction ws using List.reverseRecOn with
  | nil => rfl
  | append_singleton ws word ih =>
    rw [settleSnoc, putFind, ih, latestAppend, latestSingle]
    split <;> rfl

/- Words that have one key each are known by their keys. -/
theorem foundByKeys (distinct : (ws.map key).Nodup) :
    (ws.map key).filterMap (fun k => ws.find? fun w => key w == k) = ws := by
  rw [List.filterMap_map]
  have own : ∀ w ∈ ws, ws.find? (fun v => key v == key w) = some w := by
    intro w member
    cases found : ws.find? fun v => key v == key w with
    | none => simpa using List.find?_eq_none.mp found w member
    | some v =>
      have same : key v = key w := by simpa using List.find?_some found
      rw [List.inj_on_of_nodup_map distinct (List.mem_of_find?_eq_some found) member same]
  exact (List.filterMap_congr own).trans List.filterMap_some

theorem settleLatest (ws : List Text) : settle ws = (firstKeys ws).filterMap (latest ws) := by
  have found := foundByKeys (settleDistinct ws)
  simp only [settleFind, settleKeys] at found
  exact found.symm

theorem listedLatest (order ws : List Text) :
    listed order (settle ws) = order.filterMap fun name => latest ws (keyOf name) := by
  simp only [listed, settleFind]

theorem unlistedLatest (order ws : List Text) :
    unlisted order (settle ws) = (otherKeys order ws).filterMap (latest ws) := by
  rw [unlisted, settleLatest, otherKeys, List.filter_filterMap, List.filterMap_filter]
  refine List.filterMap_congr fun k _ => ?_
  cases found : latest ws k with
  | none => simp
  | some w => simp [Option.filter_some, anyNamed, latestKey found]

def sorted (order ws : List Text) : List Text :=
  order.filterMap (fun name => latest ws (keyOf name)) ++
    (otherKeys order ws).filterMap (latest ws)

/- What is appended counts before what was there; its own keys come last unless they are known. -/
theorem sortedAppend (order ws us : List Text) :
    sorted order (ws ++ us) =
      order.filterMap (fun name => (latest us (keyOf name)).or (latest ws (keyOf name))) ++
        ((otherKeys order ws).filterMap (fun k => (latest us k).or (latest ws k)) ++
          ((otherKeys order us).filter (· ∉ ws.map key)).filterMap (latest us)) := by
  have fresh : ((otherKeys order us).filter (· ∉ ws.map key)).filterMap
      (fun k => (latest us k).or (latest ws k)) =
        ((otherKeys order us).filter (· ∉ ws.map key)).filterMap (latest us) := by
    refine List.filterMap_congr fun k hk => ?_
    have unknown : k ∉ ws.map key := by simpa using (List.mem_filter.mp hk).2
    rw [latestNone.mpr unknown, Option.or_none]
  simp only [sorted, latestAppend, otherKeysAppend, List.filterMap_append, fresh]

theorem reorderedSorted (order : List Text) (d : Text) :
    reordered order d = sorted order (Text.words d) := by
  rw [reordered, listedLatest, unlistedLatest, sorted]

end CrsExport.Definition
