import ServletFilters.Proofs.PatternForms

/-!
The kind of a pattern is the rule by which it selects: for each valid kind one rule is in force,
and all others are idle.
-/

namespace ServletFilters.UrlPattern
open Text

theorem selectsChars_of_no_star {pattern path : List Char} (h : '*' ∉ pattern) :
    selectsChars pattern path = true ↔ path = pattern := by
  rw [selectsChars_iff]
  constructor
  · rintro (hself | rfl | ⟨base, rfl, -⟩ | ⟨extension, rfl, -⟩)
    · exact hself
    · simp at h
    · simp at h
    · simp at h
  · exact .inl

theorem selectsChars_below {base path : List Char} (h : base ≠ []) :
    selectsChars (base ++ ['/', '*']) path = true ↔
      path = base ∨ ∃ below, path = base ++ '/' :: below := by
  rw [selectsChars_iff]
  constructor
  · rintro (rfl | hall | ⟨base', heq, hbelow⟩ | ⟨extension, heq, hextension⟩)
    · exact .inr ⟨['*'], rfl⟩
    · exact absurd (List.append_left_eq_self.1 hall) h
    · rwa [List.append_cancel_right heq, ← isAtOrBelow_iff]
    · -- a pattern such as `*./*` has both forms, but its extension would hold a slash
      exact absurd (slash_mem_of_ends heq.symm) (slash_not_mem_of_hasExtension hextension)
  · intro hbelow
    exact .inr (.inr (.inl ⟨base, rfl, isAtOrBelow_iff.2 hbelow⟩))

theorem selectsChars_ending {extension path : List Char} (h : '/' ∉ extension) :
    selectsChars ('*' :: '.' :: extension) path = true ↔
      path = '*' :: '.' :: extension ∨ hasExtension extension path = true := by
  rw [selectsChars_iff]
  constructor
  · rintro (hself | hall | ⟨base, heq, -⟩ | ⟨extension', heq, hextension⟩)
    · exact .inl hself
    · cases hall
    · exact absurd (slash_mem_of_ends heq) h
    · cases heq
      exact .inr hextension
  · rintro (hself | hextension)
    · exact .inl hself
    · exact .inr (.inr (.inr ⟨extension, rfl, hextension⟩))

namespace Kind

theorem Form.star_not_mem {pattern : List Char} (h : Form .exact pattern) : '*' ∉ pattern := by
  cases h with
  | empty => simp
  | path hstar => simpa using hstar

theorem Form.eq_all {pattern : List Char} (h : Form .universal pattern) : pattern = ['/', '*'] := by
  cases h with
  | all => rfl

theorem Form.exists_base {pattern : List Char} (h : Form .pathPrefix pattern) :
    ∃ base, base ≠ [] ∧ pattern = base ++ ['/', '*'] := by
  cases h with
  | @below rest hstar => exact ⟨'/' :: rest, List.cons_ne_nil _ _, rfl⟩

theorem Form.exists_extension {pattern : List Char} (h : Form .extension pattern) :
    ∃ extension, extension ≠ [] ∧ '/' ∉ extension ∧ pattern = '*' :: '.' :: extension := by
  cases h with
  | ending hne hslash hstar => exact ⟨_, hne, hslash, rfl⟩

end Kind

theorem selects_exact {p q : String} (h : Kind.classify p = .exact) :
    selects (some p) (some q) = true ↔ q = p := by
  have hform := Kind.form_of_classify h (by decide)
  exact (selectsChars_of_no_star hform.star_not_mem).trans String.toList_inj

theorem selects_universal {p q : String} (h : Kind.classify p = .universal) :
    selects (some p) (some q) = true := by
  have hform := Kind.form_of_classify h (by decide)
  exact selectsChars_iff.2 (.inr (.inl hform.eq_all))

theorem selects_pathPrefix {p : String} (h : Kind.classify p = .pathPrefix) :
    ∃ b, b ≠ "" ∧ p = b ++ "/*" ∧
      ∀ q, selects (some p) (some q) = true ↔ q = b ∨ ∃ rest, q = b ++ "/" ++ rest := by
  obtain ⟨base, hne, hp⟩ := (Kind.form_of_classify h (by decide)).exists_base
  refine ⟨String.ofList base, by simpa using hne, eq_append_of_toList (by simpa using hp), ?_⟩
  intro q
  show selectsChars p.toList q.toList = true ↔ _
  rw [hp, selectsChars_below hne, exists_toList_iff]
  simp [← String.toList_inj]

theorem selects_extension {p : String} (h : Kind.classify p = .extension) :
    ∃ e, p = "*." ++ e ∧ ∀ q, selects (some p) (some q) = true ↔
      q = p ∨ '.' ∉ e.toList ∧ ∃ directory segment, q = directory ++ "/" ++ segment ∧
        '/' ∉ segment.toList ∧ ∃ stem, segment = stem ++ "." ++ e := by
  obtain ⟨extension, hne, hslash, hp⟩ := (Kind.form_of_classify h (by decide)).exists_extension
  refine ⟨String.ofList extension, eq_append_of_toList (by simpa using hp), ?_⟩
  intro q
  have hslash' : "/".toList = ['/'] := rfl
  have hperiod : ".".toList = ['.'] := rfl
  show selectsChars p.toList q.toList = true ↔ _
  rw [hp, selectsChars_ending hslash, hasExtension_iff]
  simp only [exists_toList_iff, ← String.toList_inj, String.toList_append, String.toList_ofList, hp,
    hslash', hperiod, List.append_assoc, List.singleton_append, hne, ne_eq, not_false_eq_true,
    true_and]

/-- Exact patterns select themselves, the universal one everything, `b/*` the path `b` and what
lies below it, and `*.e` itself and the paths whose last segment ends in `.e`, of which there are
none when `e` holds a period. -/
theorem selects_by_kind (p : String) :
    (Kind.classify p = .exact → ∀ q, selects (some p) (some q) = true ↔ q = p) ∧
    (Kind.classify p = .universal → ∀ q, selects (some p) (some q) = true) ∧
    (Kind.classify p = .pathPrefix → ∃ b, b ≠ "" ∧ p = b ++ "/*" ∧
      ∀ q, selects (some p) (some q) = true ↔ q = b ∨ ∃ rest, q = b ++ "/" ++ rest) ∧
    (Kind.classify p = .extension → ∃ e, p = "*." ++ e ∧
      ∀ q, selects (some p) (some q) = true ↔
        q = p ∨ '.' ∉ e.toList ∧ ∃ directory segment, q = directory ++ "/" ++ segment ∧
          '/' ∉ segment.toList ∧ ∃ stem, segment = stem ++ "." ++ e) :=
  ⟨fun h _ => selects_exact h, fun h _ => selects_universal h, selects_pathPrefix,
    selects_extension⟩

theorem selects_by_kind_sampled :
    (Kind.classify "/health" = .exact ∧
      ∀ q, selects (some "/health") (some q) = true ↔ q = "/health") ∧
    (Kind.classify "/*" = .universal ∧ ∀ q, selects (some "/*") (some q) = true) ∧
    (Kind.classify "/api/*" = .pathPrefix ∧ ∃ b, b ≠ "" ∧ "/api/*" = b ++ "/*" ∧
      ∀ q, selects (some "/api/*") (some q) = true ↔ q = b ∨ ∃ rest, q = b ++ "/" ++ rest) ∧
    Kind.classify "*.tar.gz" = .extension ∧ ∃ e, "*.tar.gz" = "*." ++ e ∧
      ∀ q, selects (some "*.tar.gz") (some q) = true ↔
        q = "*.tar.gz" ∨ '.' ∉ e.toList ∧ ∃ directory segment, q = directory ++ "/" ++ segment ∧
          '/' ∉ segment.toList ∧ ∃ stem, segment = stem ++ "." ++ e := by
  have hexact : Kind.classify "/health" = .exact := by decide
  have huniversal : Kind.classify "/*" = .universal := by decide
  have hbelow : Kind.classify "/api/*" = .pathPrefix := by decide
  have hextension : Kind.classify "*.tar.gz" = .extension := by decide
  exact ⟨⟨hexact, (selects_by_kind _).1 hexact⟩, ⟨huniversal, (selects_by_kind _).2.1 huniversal⟩,
    ⟨hbelow, (selects_by_kind _).2.2.1 hbelow⟩, hextension, (selects_by_kind _).2.2.2 hextension⟩

end ServletFilters.UrlPattern
