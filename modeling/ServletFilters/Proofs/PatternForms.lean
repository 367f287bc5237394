import ServletFilters.UrlPattern
import ServletFilters.UrlPattern.Kind

/-!
The form of a url pattern decides what it selects and of what kind it is. Both are told here
without the order in which the forms are tried.
-/

namespace ServletFilters

namespace Text

theorem exists_toList_iff {P : List Char → Prop} : (∃ s, P s) ↔ ∃ s : String, P s.toList := by
  constructor
  · intro h
    obtain ⟨s, hs⟩ := h
    exact ⟨String.ofList s, by rwa [String.toList_ofList]⟩
  · intro h
    obtain ⟨s, hs⟩ := h
    exact ⟨s.toList, hs⟩

theorem eq_append_of_toList {s t u : String} (h : s.toList = t.toList ++ u.toList) : s = t ++ u :=
  String.toList_inj.1 (h.trans String.toList_append.symm)

end Text

namespace UrlPattern
open Text

theorem isAtOrBelow_iff {base path : List Char} :
    isAtOrBelow base path = true ↔ path = base ∨ ∃ below, path = base ++ '/' :: below := by
  unfold isAtOrBelow
  constructor
  · intro h
    cases hrest : after? base path with
    | none =>
      rw [hrest] at h
      cases h
    | some rest =>
      obtain rfl := after?_eq_some_iff.1 hrest
      cases rest with
      | nil => exact .inl (List.append_nil base)
      | cons c below =>
        rw [hrest] at h
        obtain rfl : c = '/' := beq_iff_eq.1 h
        exact .inr ⟨below, rfl⟩
  · rintro (rfl | ⟨below, rfl⟩)
    · rw [after?_eq_some_iff.2 (List.append_nil path).symm]
    · rw [after?_eq_some_iff.2 rfl]
      rfl

/-- A path has the extension that its last segment ends with, after a period. -/
theorem hasExtension_iff {extension path : List Char} :
    hasExtension extension path = true ↔
      extension ≠ [] ∧ '.' ∉ extension ∧ ∃ directory segment,
        path = directory ++ '/' :: segment ∧ '/' ∉ segment ∧
          ∃ stem, segment = stem ++ '.' :: extension := by
  unfold hasExtension
  constructor
  · intro h
    cases hsegment : afterLast? '/' path with
    | none =>
      rw [hsegment] at h
      cases h
    | some segment =>
      cases hending : afterLast? '.' segment with
      | none =>
        simp only [hsegment, hending] at h
        cases h
      | some ending =>
        simp only [hsegment, hending, Bool.and_eq_true, Bool.not_eq_true',
          List.isEmpty_eq_false_iff, beq_iff_eq] at h
        obtain ⟨hne, rfl⟩ := h
        obtain ⟨hslash, directory, hpath⟩ := afterLast?_eq_some_iff.1 hsegment
        obtain ⟨hperiod, stem, hstem⟩ := afterLast?_eq_some_iff.1 hending
        exact ⟨hne, hperiod, directory, segment, hpath, hslash, stem, hstem⟩
  · rintro ⟨hne, hperiod, directory, segment, rfl, hslash, stem, rfl⟩
    rw [afterLast?_append hslash]
    simp [afterLast?_append hperiod, hne]

theorem slash_not_mem_of_hasExtension {extension path : List Char}
    (h : hasExtension extension path = true) : '/' ∉ extension := by
  obtain ⟨-, -, directory, segment, -, hslash, stem, rfl⟩ := hasExtension_iff.1 h
  intro hmem
  exact hslash (by simp [hmem])

theorem slash_mem_of_ends {extension base : List Char}
    (h : '*' :: '.' :: extension = base ++ ['/', '*']) : '/' ∈ extension := by
  have hmem : '/' ∈ '*' :: '.' :: extension := by simp [h]
  simpa using hmem

/-- What a pattern selects. No extension holds a slash, so a pattern that ends in `/*` selects
nothing by its extension, although it may begin with `*.`. -/
theorem selectsChars_iff {pattern path : List Char} :
    selectsChars pattern path = true ↔
      path = pattern ∨ pattern = ['/', '*'] ∨
        (∃ base, pattern = base ++ ['/', '*'] ∧ isAtOrBelow base path = true) ∨
        ∃ extension, pattern = '*' :: '.' :: extension ∧ hasExtension extension path = true := by
  unfold selectsChars
  by_cases hself : pattern = path
  · simp [hself]
  by_cases hall : pattern = ['/', '*']
  · simp [hall]
  have hself' : path ≠ pattern := fun h => hself h.symm
  simp only [beq_iff_eq, hself, hall, hself', if_false, false_or]
  -- of the two branches left the matcher takes the second only when the first does not apply
  cases hbase : before? ['/', '*'] pattern with
  | some base =>
    obtain rfl := before?_eq_some_iff.1 hbase
    constructor
    · intro h
      exact .inl ⟨base, rfl, h⟩
    · rintro (⟨base', heq, h⟩ | ⟨extension, heq, h⟩)
      · rwa [List.append_cancel_right heq]
      · exact absurd (slash_mem_of_ends heq.symm) (slash_not_mem_of_hasExtension h)
  | none =>
    have hends : ¬ ∃ base, pattern = base ++ ['/', '*'] ∧ isAtOrBelow base path = true := by
      rintro ⟨base, hpattern, -⟩
      exact before?_eq_none_iff.1 hbase base hpattern
    rw [or_iff_right hends]
    cases hstart : after? ['*', '.'] pattern with
    | some extension =>
      obtain rfl := after?_eq_some_iff.1 hstart
      simp
    | none =>
      constructor
      · intro h
        cases h
      · rintro ⟨extension, hpattern, -⟩
        exact absurd hpattern (after?_eq_none_iff.1 hstart extension)

namespace Kind

/-- The forms of the valid kinds: a star stands at the end after a slash, or at the front before a
period, and nowhere else. -/
inductive Form : Kind → List Char → Prop where
  | empty : Form .exact []
  | path {rest : List Char} (hstar : '*' ∉ rest) : Form .exact ('/' :: rest)
  | all : Form .universal ['/', '*']
  | below {rest : List Char} (hstar : '*' ∉ rest) : Form .pathPrefix ('/' :: rest ++ ['/', '*'])
  | ending {extension : List Char} (hne : extension ≠ []) (hslash : '/' ∉ extension)
      (hstar : '*' ∉ extension) : Form .extension ('*' :: '.' :: extension)

theorem Form.ne_invalid {kind : Kind} {pattern : List Char} (h : Form kind pattern) :
    kind ≠ .invalid := by
  cases h <;> simp

theorem head?_eq_some_slash_iff {s : List Char} : s.head? = some '/' ↔ ∃ rest, s = '/' :: rest := by
  cases s <;> simp [eq_comm]

theorem forall_ne_slash_and_ne_star_iff {s : List Char} :
    (∀ c ∈ s, c ≠ '/' ∧ c ≠ '*') ↔ '/' ∉ s ∧ '*' ∉ s := by
  constructor
  · intro h
    exact ⟨fun hmem => (h _ hmem).1 rfl, fun hmem => (h _ hmem).2 rfl⟩
  · rintro ⟨hslash, hstar⟩ c hc
    exact ⟨fun heq => hslash (heq ▸ hc), fun heq => hstar (heq ▸ hc)⟩

/-- The classifier accepts no pattern of another form. -/
theorem form_ofChars {pattern : List Char} (h : ofChars pattern ≠ .invalid) :
    Form (ofChars pattern) pattern := by
  revert h
  unfold ofChars
  by_cases hempty : pattern = []
  · subst hempty
    exact fun _ => .empty
  by_cases hall : pattern = ['/', '*']
  · subst hall
    exact fun _ => .all
  simp only [List.isEmpty_iff, hempty, beq_iff_eq, hall, if_false]
  -- each branch accepts the pattern exactly when the rest of its form is met
  cases hbase : before? ['/', '*'] pattern with
  | some base =>
    obtain rfl := before?_eq_some_iff.1 hbase
    by_cases hform : (∃ rest, base = '/' :: rest) ∧ '*' ∉ base
    · obtain ⟨⟨rest, rfl⟩, hstar⟩ := hform
      have hrest : '*' ∉ rest := fun hmem => hstar (List.mem_cons_of_mem _ hmem)
      simpa [hrest] using Form.below hrest
    · rw [← head?_eq_some_slash_iff] at hform
      simp [hform]
  | none =>
    cases hstart : after? ['*', '.'] pattern with
    | some extension =>
      obtain rfl := after?_eq_some_iff.1 hstart
      have hchars := forall_ne_slash_and_ne_star_iff (s := extension)
      by_cases hform : extension ≠ [] ∧ '/' ∉ extension ∧ '*' ∉ extension
      · obtain ⟨hne, hslash, hstar⟩ := hform
        simpa [hchars, hne, hslash, hstar] using Form.ending hne hslash hstar
      · simp [hchars, hform]
    | none =>
      by_cases hform : (∃ rest, pattern = '/' :: rest) ∧ '*' ∉ pattern
      · obtain ⟨⟨rest, rfl⟩, hstar⟩ := hform
        have hrest : '*' ∉ rest := fun hmem => hstar (List.mem_cons_of_mem _ hmem)
        simpa [hrest] using Form.path hrest
      · rw [← head?_eq_some_slash_iff] at hform
        simp [hform]

theorem ofChars_of_form {kind : Kind} {pattern : List Char} (h : Form kind pattern) :
    ofChars pattern = kind := by
  cases h with
  | empty => rfl
  | all => rfl
  | @path rest hstar =>
    have hends : before? ['/', '*'] ('/' :: rest) = none := by
      rw [before?_eq_none_iff]
      intro base hbase
      have hmem : '*' ∈ '/' :: rest := by simp [hbase]
      exact hstar (by simpa using hmem)
    have hall : rest ≠ ['*'] := fun heq => hstar (by simp [heq])
    have hstart : after? ['*', '.'] ('/' :: rest) = none := rfl
    simp [ofChars, hends, hall, hstart, hstar]
  | @below rest hstar =>
    have hends : before? ['/', '*'] ('/' :: (rest ++ ['/', '*'])) = some ('/' :: rest) :=
      before?_eq_some_iff.2 rfl
    have hall : rest ++ ['/', '*'] ≠ ['*'] := by simp [List.append_eq_cons_iff]
    simp [ofChars, hends, hall, hstar]
  | @ending extension hne hslash hstar =>
    have hends : before? ['/', '*'] ('*' :: '.' :: extension) = none := by
      rw [before?_eq_none_iff]
      intro base hbase
      exact hslash (slash_mem_of_ends hbase)
    have hstart : after? ['*', '.'] ('*' :: '.' :: extension) = some extension :=
      after?_eq_some_iff.2 rfl
    have hchars := forall_ne_slash_and_ne_star_iff.2 ⟨hslash, hstar⟩
    simpa [ofChars, hends, hstart, hne] using hchars

theorem form_of_classify {pattern : String} {kind : Kind} (h : classify pattern = kind)
    (hvalid : kind ≠ .invalid) : Form kind pattern.toList := by
  subst h
  exact form_ofChars hvalid

end Kind

end UrlPattern

end ServletFilters
