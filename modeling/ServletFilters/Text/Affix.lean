/-!
What is left of a text once a known beginning, ending or separator is taken off.
-/

namespace ServletFilters.Text

/-- What follows `start` in `s`, when `s` begins with it. -/
def after? (start s : List Char) : Option (List Char) :=
  if start.isPrefixOf s then some (s.drop start.length) else none

/-- What precedes `ending` in `s`, when `s` ends with it. -/
def before? (ending s : List Char) : Option (List Char) :=
  if ending.isSuffixOf s then some (s.take (s.length - ending.length)) else none

/-- What follows the last `c` in `s`, when `c` occurs. -/
def afterLast? (c : Char) (s : List Char) : Option (List Char) :=
  if s.contains c then some (s.reverse.takeWhile (· != c)).reverse else none

theorem after?_eq_some_iff {start s rest : List Char} :
    after? start s = some rest ↔ s = start ++ rest := by
  unfold after?
  constructor
  · intro h
    split at h
    · rename_i hp
      obtain ⟨t, rfl⟩ := List.isPrefixOf_iff_prefix.1 hp
      simpa using h
    · simp at h
  · rintro rfl
    simp

theorem before?_eq_some_iff {ending s front : List Char} :
    before? ending s = some front ↔ s = front ++ ending := by
  unfold before?
  constructor
  · intro h
    split at h
    · rename_i hs
      obtain ⟨t, rfl⟩ := List.isSuffixOf_iff_suffix.1 hs
      simpa [eq_comm] using h
    · simp at h
  · rintro rfl
    simp

theorem after?_eq_none_iff {start s : List Char} :
    after? start s = none ↔ ∀ rest, s ≠ start ++ rest := by
  simp only [Option.eq_none_iff_forall_ne_some, ne_eq, after?_eq_some_iff]

theorem before?_eq_none_iff {ending s : List Char} :
    before? ending s = none ↔ ∀ front, s ≠ front ++ ending := by
  simp only [Option.eq_none_iff_forall_ne_some, ne_eq, before?_eq_some_iff]

theorem afterLast?_append {c : Char} {front rest : List Char} (h : c ∉ rest) :
    afterLast? c (front ++ c :: rest) = some rest := by
  have hrest : ∀ x ∈ rest.reverse, (x != c) = true := by
    intro x hx
    have hne : x ≠ c := fun heq => h (heq ▸ List.mem_reverse.1 hx)
    simpa using hne
  unfold afterLast?
  rw [if_pos (by simp), List.reverse_append, List.reverse_cons, List.append_assoc,
    List.takeWhile_append_of_pos hrest]
  simp

theorem afterLast?_eq_some_iff {c : Char} {s rest : List Char} :
    afterLast? c s = some rest ↔ c ∉ rest ∧ ∃ front, s = front ++ c :: rest := by
  constructor
  · intro h
    have hc : c ∈ s := by
      unfold afterLast? at h
      split at h
      · simpa using ‹s.contains c = true›
      · cases h
    -- the first `c` from the end
    obtain ⟨back, front, hs, hback⟩ := List.eq_append_cons_of_mem (List.mem_reverse.2 hc)
    have hlast : c ∉ back.reverse := fun hmem => hback (List.mem_reverse.1 hmem)
    have hsplit : s = front.reverse ++ c :: back.reverse := by
      rw [← s.reverse_reverse, hs]
      simp
    rw [hsplit, afterLast?_append hlast] at h
    obtain rfl := Option.some.inj h
    exact ⟨hlast, front.reverse, hsplit⟩
  · rintro ⟨h, front, rfl⟩
    exact afterLast?_append h

end ServletFilters.Text
