import ServletFilters.Proofs.PatternForms

/-!
Patterns that can select an ordinary path. They are the valid ones, apart from the empty pattern
and from extensions that hold a period themselves.
-/

namespace ServletFilters.UrlPattern
open Text

/-- A path begins with a slash; stars belong to patterns. -/
def Ordinary (path : List Char) : Prop := path.head? = some '/' ∧ '*' ∉ path

def Live (p : String) : Prop := ∃ q : String, Ordinary q.toList ∧ selects (some p) (some q) = true

/-- An extension in which a further period occurs, as in `*.tar.gz`. -/
def Dotted (p : String) : Prop :=
  Kind.classify p = .extension ∧ ∃ extension, p = "*." ++ extension ∧ '.' ∈ extension.toList

theorem ordinary_cons {rest : List Char} (h : '*' ∉ rest) : Ordinary ('/' :: rest) :=
  ⟨rfl, by simpa using h⟩

theorem selectsChars_self (pattern : List Char) : selectsChars pattern pattern = true :=
  selectsChars_iff.2 (.inl rfl)

/-- Whatever branch of the matcher takes an ordinary path, its pattern has the form of a kind. -/
theorem exists_form_of_selects_ordinary {pattern path : List Char} (hpath : Ordinary path)
    (h : selectsChars pattern path = true) :
    ∃ kind, Kind.Form kind pattern ∧ pattern ≠ [] ∧
      ∀ extension, pattern = '*' :: '.' :: extension → '.' ∉ extension := by
  obtain ⟨hhead, hstar⟩ := hpath
  rcases selectsChars_iff.1 h with rfl | rfl | ⟨base, rfl, hbelow⟩ | ⟨extension, rfl, hends⟩
  · obtain ⟨rest, rfl⟩ := Kind.head?_eq_some_slash_iff.1 hhead
    have hrest : '*' ∉ rest := by simpa using hstar
    exact ⟨_, .path hrest, by simp, by simp⟩
  · exact ⟨_, .all, by simp, by simp⟩
  · obtain ⟨tail, rfl⟩ : ∃ tail, path = base ++ tail := by
      rcases isAtOrBelow_iff.1 hbelow with rfl | ⟨below, rfl⟩
      · exact ⟨[], (List.append_nil path).symm⟩
      · exact ⟨'/' :: below, rfl⟩
    cases base with
    | nil => exact ⟨_, .all, by simp, by simp⟩
    | cons c rest =>
      obtain rfl : c = '/' := Option.some.inj hhead
      have hrest : '*' ∉ rest := fun hmem => hstar (by simp [hmem])
      exact ⟨_, .below hrest, by simp, by simp⟩
  · obtain ⟨hne, hperiod, directory, segment, rfl, -, stem, rfl⟩ := hasExtension_iff.1 hends
    have hstar' : '*' ∉ extension := fun hmem => hstar (by simp [hmem])
    refine ⟨_, .ending hne (slash_not_mem_of_hasExtension hends) hstar', by simp, ?_⟩
    intro extension' heq
    obtain rfl : extension = extension' := by simpa using heq
    exact hperiod

/-- A pattern of a valid form selects the ordinary path made from it, if it is not empty and its
extension holds no period. -/
theorem exists_ordinary_of_form {kind : Kind} {pattern : List Char} (h : Kind.Form kind pattern)
    (hne : pattern ≠ []) (hperiod : kind = .extension →
      ∀ extension, pattern = '*' :: '.' :: extension → '.' ∉ extension) :
    ∃ path, Ordinary path ∧ selectsChars pattern path = true := by
  cases h with
  | empty => exact absurd rfl hne
  | path hstar => exact ⟨_, ordinary_cons hstar, selectsChars_self _⟩
  | all => exact ⟨['/'], ⟨rfl, by simp⟩, rfl⟩
  | @below rest hstar =>
    have hself : isAtOrBelow ('/' :: rest) ('/' :: rest) = true := isAtOrBelow_iff.2 (.inl rfl)
    exact ⟨_, ordinary_cons hstar, selectsChars_iff.2 (.inr (.inr (.inl ⟨_, rfl, hself⟩)))⟩
  | @ending extension hextension hslash hstar =>
    have hends : hasExtension extension ('/' :: '.' :: extension) = true :=
      hasExtension_iff.2 ⟨hextension, hperiod rfl _ rfl, [], '.' :: extension, rfl, by simp [hslash],
        [], rfl⟩
    exact ⟨'/' :: '.' :: extension, ordinary_cons (by simp [hstar]),
      selectsChars_iff.2 (.inr (.inr (.inr ⟨_, rfl, hends⟩)))⟩

theorem dotted_iff {p : String} :
    Dotted p ↔ Kind.classify p = .extension ∧
      ∃ extension, p.toList = '*' :: '.' :: extension ∧ '.' ∈ extension := by
  unfold Dotted
  rw [exists_toList_iff]
  simp [← String.toList_inj]

theorem live_iff {p : String} :
    Live p ↔ Kind.classify p ≠ .invalid ∧ p ≠ "" ∧ ¬ Dotted p := by
  have hempty : p ≠ "" ↔ p.toList ≠ [] := not_congr String.toList_eq_nil_iff.symm
  unfold Live
  rw [dotted_iff, hempty]
  constructor
  · rintro ⟨q, hq, hselects⟩
    obtain ⟨kind, hform, hne, hperiod⟩ := exists_form_of_selects_ordinary hq hselects
    refine ⟨?_, hne, ?_⟩
    · rw [Kind.classify, Kind.ofChars_of_form hform]
      exact hform.ne_invalid
    · rintro ⟨-, extension, hp, hmem⟩
      exact hperiod extension hp hmem
  · rintro ⟨hvalid, hne, hdotted⟩
    have hform := Kind.form_of_classify rfl hvalid
    obtain ⟨path, hpath, hselects⟩ := exists_ordinary_of_form hform hne
      fun hkind extension hp hmem => hdotted ⟨hkind, extension, hp, hmem⟩
    obtain ⟨q, rfl⟩ : ∃ q : String, q.toList = path := ⟨String.ofList path, String.toList_ofList⟩
    exact ⟨q, hpath, hselects⟩

/-- No branch of the matcher takes an ordinary path for an invalid pattern. -/
theorem inert_of_invalid {p q : String} (h : Kind.classify p = .invalid) (hq : Ordinary q.toList) :
    q ≠ p ∧ p ≠ "/*" ∧
      (∀ base, p = base ++ "/*" → isAtOrBelow base.toList q.toList = false) ∧
      ∀ extension, p = "*." ++ extension →
        hasExtension extension.toList q.toList = false := by
  have hnot : ¬ selectsChars p.toList q.toList = true := fun hselects =>
    (live_iff.1 ⟨q, hq, hselects⟩).1 h
  simp only [selectsChars_iff, not_or, not_exists, not_and, Bool.not_eq_true] at hnot
  obtain ⟨hself, hall, hbelow, hends⟩ := hnot
  refine ⟨?_, ?_, ?_, ?_⟩
  · rintro rfl
    exact hself rfl
  · rintro rfl
    exact hall rfl
  · rintro base rfl
    exact hbelow base.toList (by simp)
  · rintro extension rfl
    exact hends extension.toList (by simp)

/-- The live patterns are those of a valid kind, without the empty pattern and dotted extensions.
An invalid pattern takes no ordinary path by any branch of the matcher. -/
theorem live_iff_classified (p : String) :
    (Live p ↔ Kind.classify p ≠ .invalid ∧ p ≠ "" ∧ ¬ Dotted p) ∧
    (Kind.classify p = .invalid → ∀ q : String, Ordinary q.toList →
      q ≠ p ∧ p ≠ "/*" ∧
        (∀ base, p = base ++ "/*" → isAtOrBelow base.toList q.toList = false) ∧
        ∀ extension, p = "*." ++ extension →
          hasExtension extension.toList q.toList = false) ∧
    (Kind.classify p ≠ .invalid → (¬ Live p ↔ p = "" ∨ Dotted p)) := by
  refine ⟨live_iff, fun h q => inert_of_invalid h, ?_⟩
  intro hvalid
  rw [live_iff]
  simp [hvalid, Classical.or_iff_not_imp_left]

theorem live_iff_classified_sampled :
    (Kind.classify "/a*/*" = .invalid ∧ Ordinary "/a/b".toList ∧
      isAtOrBelow "/a*".toList "/a/b".toList = false) ∧
    Kind.classify "*.tar.gz" ≠ .invalid ∧ ¬ Live "*.tar.gz" := by
  have hinvalid : Kind.classify "/a*/*" = .invalid := by decide
  have hpath : Ordinary "/a/b".toList := ⟨rfl, by decide⟩
  obtain ⟨-, -, hbelow, -⟩ := (live_iff_classified "/a*/*").2.1 hinvalid "/a/b" hpath
  have hvalid : Kind.classify "*.tar.gz" ≠ .invalid := by decide
  have hdotted : Dotted "*.tar.gz" := ⟨by decide, "tar.gz", by decide, by decide⟩
  exact ⟨⟨hinvalid, hpath, hbelow "/a*" (by decide)⟩, hvalid,
    ((live_iff_classified "*.tar.gz").2.2 hvalid).2 (.inr hdotted)⟩

end ServletFilters.UrlPattern
