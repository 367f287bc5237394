import ServletFilters.Proofs.PatternForms

/-!
The language of url patterns as a relation between texts, without the order in which the matcher
tries the forms of a pattern.
-/

namespace ServletFilters.UrlPattern
open Text

/-- The paths of a pattern: the pattern itself, any path for `/*`, for `b/*` the path `b` and what
continues it with a slash, and for `*.e` what ends in `.e` after a slash. -/
inductive InLanguage : String → String → Prop where
  | self (p : String) : InLanguage p p
  | all (q : String) : InLanguage "/*" q
  | base (b : String) : InLanguage (b ++ "/*") b
  | below (b rest : String) : InLanguage (b ++ "/*") (b ++ "/" ++ rest)
  | ending {e front : String} (hne : e ≠ "") (hperiod : '.' ∉ e.toList) (hslash : '/' ∉ e.toList)
      (hfront : '/' ∈ front.toList) : InLanguage ("*." ++ e) (front ++ "." ++ e)

/-- It does not matter where the last slash stands, as long as it is not in the extension. -/
theorem hasExtension_iff_ends {extension path : List Char} :
    hasExtension extension path = true ↔
      extension ≠ [] ∧ '.' ∉ extension ∧ '/' ∉ extension ∧
        ∃ front, path = front ++ '.' :: extension ∧ '/' ∈ front := by
  constructor
  · intro h
    have hslash := slash_not_mem_of_hasExtension h
    obtain ⟨hne, hperiod, directory, segment, rfl, -, stem, rfl⟩ := hasExtension_iff.1 h
    exact ⟨hne, hperiod, hslash, directory ++ '/' :: stem, by simp, by simp⟩
  · rintro ⟨hne, hperiod, hslash, front, rfl, hfront⟩
    obtain ⟨stem, hstem⟩ : ∃ stem, afterLast? '/' front = some stem := by
      simp [afterLast?, hfront]
    obtain ⟨hlast, directory, rfl⟩ := afterLast?_eq_some_iff.1 hstem
    refine hasExtension_iff.2 ⟨hne, hperiod, directory, stem ++ '.' :: extension, by simp, ?_,
      stem, rfl⟩
    simp [hlast, hslash]

theorem selects_of_inLanguage {p q : String} (h : InLanguage p q) :
    selects (some p) (some q) = true := by
  apply selectsChars_iff.2
  cases h with
  | self => exact .inl rfl
  | all => exact .inr (.inl rfl)
  | base =>
    refine .inr (.inr (.inl ⟨q.toList, String.toList_append, ?_⟩))
    exact isAtOrBelow_iff.2 (.inl rfl)
  | below b rest =>
    refine .inr (.inr (.inl ⟨b.toList, String.toList_append, ?_⟩))
    exact isAtOrBelow_iff.2 (.inr ⟨rest.toList, by simp⟩)
  | @ending e front hne hperiod hslash hfront =>
    refine .inr (.inr (.inr ⟨e.toList, String.toList_append, ?_⟩))
    refine hasExtension_iff_ends.2 ⟨?_, hperiod, hslash, front.toList, by simp, hfront⟩
    simpa using hne

theorem inLanguage_of_selects {p q : String} (h : selects (some p) (some q) = true) :
    InLanguage p q := by
  rcases selectsChars_iff.1 h with hself | hall | ⟨base, hp, hbelow⟩ | ⟨extension, hp, hends⟩
  · rw [String.toList_inj.1 hself]
    exact .self p
  · obtain rfl : p = "/*" := String.toList_inj.1 hall
    exact .all q
  · obtain ⟨b, rfl⟩ : ∃ b : String, b.toList = base := ⟨String.ofList base, String.toList_ofList⟩
    obtain rfl := eq_append_of_toList (u := "/*") hp
    rcases isAtOrBelow_iff.1 hbelow with hbase | ⟨rest, hrest⟩
    · rw [String.toList_inj.1 hbase]
      exact .base b
    · have hq : q = b ++ "/" ++ String.ofList rest := eq_append_of_toList (by simpa using hrest)
      rw [hq]
      exact .below b _
  · obtain ⟨e, rfl⟩ : ∃ e : String, e.toList = extension :=
      ⟨String.ofList extension, String.toList_ofList⟩
    obtain rfl : p = "*." ++ e := eq_append_of_toList hp
    obtain ⟨hne, hperiod, hslash, front, hq, hfront⟩ := hasExtension_iff_ends.1 hends
    have hq' : q = String.ofList front ++ "." ++ e := eq_append_of_toList (by simpa using hq)
    rw [hq']
    exact .ending (by simpa using hne) hperiod hslash (by simpa using hfront)

/-- A matcher that tried the extension first would do the same. -/
theorem hasExtension_eq_false_of_ends {b e q : String} (h : b ++ "/*" = "*." ++ e) :
    hasExtension e.toList q.toList = false := by
  have hends : '*' :: '.' :: e.toList = b.toList ++ ['/', '*'] := by
    have hlist := congrArg String.toList h
    rw [String.toList_append, String.toList_append] at hlist
    exact hlist.symm
  rw [Bool.eq_false_iff]
  intro hextension
  exact slash_not_mem_of_hasExtension hextension (slash_mem_of_ends hends)

/-- The matcher accepts the language of its pattern and nothing else, and nothing at all where the
pattern or the path is absent. A pattern that begins with `*.` and ends in `/*` has no paths by its
extension that the earlier test for `/*` could keep from it. -/
theorem selects_iff_inLanguage (pattern path : Option String) :
    (selects pattern path = true ↔ ∃ p q, pattern = some p ∧ path = some q ∧ InLanguage p q) ∧
    ∀ b e q : String, b ++ "/*" = "*." ++ e → hasExtension e.toList q.toList = false := by
  refine ⟨?_, fun b e q h => hasExtension_eq_false_of_ends h⟩
  constructor
  · intro h
    cases pattern with
    | none => cases h
    | some p =>
      cases path with
      | none => cases h
      | some q => exact ⟨p, q, rfl, rfl, inLanguage_of_selects h⟩
  · rintro ⟨p, q, rfl, rfl, h⟩
    exact selects_of_inLanguage h

theorem selects_iff_inLanguage_starred :
    (selects (some "*./*") (some "*./a") = true ↔
      ∃ p q, some "*./*" = some p ∧ some "*./a" = some q ∧ InLanguage p q) ∧
    "*." ++ "/*" = "*." ++ "/*" ∧ hasExtension "/*".toList "/a./*".toList = false := by
  obtain ⟨hselects, hextension⟩ := selects_iff_inLanguage (some "*./*") (some "*./a")
  exact ⟨hselects, rfl, hextension "*." "/*" "/a./*" rfl⟩

end ServletFilters.UrlPattern
