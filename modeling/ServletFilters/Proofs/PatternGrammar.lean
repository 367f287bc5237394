import ServletFilters.Proofs.LivePatterns

/-!
The grammar of url patterns: how the patterns of each kind are written. No text is written in two of
these ways, and the classifier finds the one that there is.
-/

namespace ServletFilters.UrlPattern.Kind
open Text

/-- Exact patterns are ordinary paths and the empty text, and an ordinary path followed by `/*`
stands for what lies below it. No way of writing makes a pattern invalid. -/
def Written : Kind → String → Prop
  | .exact, p => p = "" ∨ Ordinary p.toList
  | .universal, p => p = "/*"
  | .pathPrefix, p => ∃ b, p = b ++ "/*" ∧ Ordinary b.toList
  | .extension, p => ∃ e, p = "*." ++ e ∧ e ≠ "" ∧ '/' ∉ e.toList ∧ '*' ∉ e.toList
  | .invalid, _ => False

theorem ordinary_iff {s : List Char} : Ordinary s ↔ ∃ rest, s = '/' :: rest ∧ '*' ∉ rest := by
  unfold Ordinary
  rw [head?_eq_some_slash_iff]
  constructor
  · rintro ⟨⟨rest, rfl⟩, hstar⟩
    exact ⟨rest, rfl, by simpa using hstar⟩
  · rintro ⟨rest, rfl, hstar⟩
    exact ⟨⟨rest, rfl⟩, by simpa using hstar⟩

theorem form_of_written {kind : Kind} {p : String} (h : Written kind p) : Form kind p.toList := by
  cases kind with
  | exact =>
    rcases h with rfl | hpath
    · exact .empty
    · obtain ⟨rest, hp, hstar⟩ := ordinary_iff.1 hpath
      rw [hp]
      exact .path hstar
  | universal =>
    obtain rfl : p = "/*" := h
    exact .all
  | pathPrefix =>
    obtain ⟨b, rfl, hbase⟩ := h
    obtain ⟨rest, hb, hstar⟩ := ordinary_iff.1 hbase
    rw [String.toList_append, hb]
    exact .below hstar
  | extension =>
    obtain ⟨e, rfl, hne, hslash, hstar⟩ := h
    rw [String.toList_append]
    exact .ending (by simpa using hne) hslash hstar
  | invalid => exact h.elim

theorem written_of_form {kind : Kind} {p : String} (h : Form kind p.toList) : Written kind p := by
  generalize hchars : p.toList = pattern at h
  cases h with
  | empty => exact .inl (by simpa using hchars)
  | path hstar => exact .inr (ordinary_iff.2 ⟨_, hchars, hstar⟩)
  | all => exact String.toList_inj.1 hchars
  | @below rest hstar =>
    refine ⟨String.ofList ('/' :: rest), eq_append_of_toList (by simpa using hchars), ?_⟩
    rw [String.toList_ofList]
    exact ordinary_cons hstar
  | @ending extension hne hslash hstar =>
    refine ⟨String.ofList extension, eq_append_of_toList (by simpa using hchars), ?_⟩
    rw [String.toList_ofList]
    exact ⟨by simpa using hne, hslash, hstar⟩

/-- A pattern that is written in the way of some kind is of that kind. -/
theorem classify_of_written {kind : Kind} {p : String} (h : Written kind p) : classify p = kind :=
  ofChars_of_form (form_of_written h)

theorem written_classify {p : String} (h : classify p ≠ .invalid) : Written (classify p) p :=
  written_of_form (form_ofChars h)

theorem classify_eq_invalid_iff {p : String} :
    classify p = .invalid ↔ ∀ kind, ¬ Written kind p := by
  constructor
  · intro h kind hwritten
    have hkind := classify_of_written hwritten
    have hvalid := (form_of_written hwritten).ne_invalid
    exact hvalid (hkind.symm.trans h)
  · intro h
    by_cases hvalid : classify p = .invalid
    · exact hvalid
    · exact absurd (written_classify hvalid) (h _)

theorem isValid_iff {kind : Kind} : kind.isValid = true ↔ kind ≠ .invalid := by
  simp [isValid]

theorem count_star_below {front : List Char} :
    (front ++ ['/', '*']).count '*' = 1 ↔ '*' ∉ front := by
  rw [List.count_append, ← List.count_eq_zero]
  have hend : ['/', '*'].count '*' = 1 := by decide
  omega

/-- Behind a slash a star may only come last, and only after a slash. -/
theorem classify_isValid_of_rooted {p : String} (h : p.toList.head? = some '/') :
    (classify p).isValid = true ↔
      '*' ∉ p.toList ∨ p.toList.count '*' = 1 ∧ ∃ front, p = front ++ "/*" := by
  rw [isValid_iff]
  constructor
  · intro hvalid
    obtain ⟨kind, hform⟩ : ∃ kind, Form kind p.toList := ⟨_, form_ofChars hvalid⟩
    generalize hchars : p.toList = pattern at h hform ⊢
    cases hform with
    | empty => exact .inl (by simp)
    | path hstar => exact .inl (by simpa using hstar)
    | all => exact .inr ⟨by decide, "", String.toList_inj.1 hchars⟩
    | @below rest hstar =>
      right
      refine ⟨count_star_below.2 (by simpa using hstar), String.ofList ('/' :: rest), ?_⟩
      exact eq_append_of_toList (by simpa using hchars)
    | ending => simp at h
  · rintro (hstar | ⟨hcount, front, rfl⟩) hinvalid
    · exact classify_eq_invalid_iff.1 hinvalid .exact (.inr ⟨h, hstar⟩)
    · rw [String.toList_append] at h hcount
      have hstar := count_star_below.1 hcount
      cases hfront : front.toList with
      | nil =>
        obtain rfl : front = "" := by simpa using hfront
        exact classify_eq_invalid_iff.1 hinvalid .universal rfl
      | cons c rest =>
        have hhead : front.toList.head? = some '/' := by simpa [hfront] using h
        exact classify_eq_invalid_iff.1 hinvalid .pathPrefix ⟨front, rfl, hhead, hstar⟩

/-- The classifier accepts the grammar and nothing else: a pattern is of the kind in whose way it is
written, and invalid if there is none. There is never more than one. Of the patterns that begin with
a slash those are valid that hold no star, or one only, which comes last and after a slash. -/
theorem classify_accepts_grammar (p : String) :
    (∀ kind, kind ≠ .invalid → (classify p = kind ↔ Written kind p)) ∧
    (classify p = .invalid ↔ ∀ kind, ¬ Written kind p) ∧
    (∀ kind kind', Written kind p → Written kind' p → kind = kind') ∧
    (p.toList.head? = some '/' →
      ((classify p).isValid = true ↔
        '*' ∉ p.toList ∨ p.toList.count '*' = 1 ∧ ∃ front, p = front ++ "/*")) := by
  refine ⟨?_, classify_eq_invalid_iff, ?_, classify_isValid_of_rooted⟩
  · intro kind hvalid
    constructor
    · rintro rfl
      exact written_classify hvalid
    · exact classify_of_written
  · intro kind kind' h h'
    rw [← classify_of_written h, classify_of_written h']

theorem classify_accepts_grammar_starred :
    (Kind.pathPrefix ≠ .invalid ∧ classify "//*" = .pathPrefix ∧ Written .pathPrefix "//*") ∧
    (Written .extension "*.tar.gz" ∧ ∀ kind, Written kind "*.tar.gz" → kind = .extension) ∧
    (classify "*./*" = .invalid ∧ ¬ Written .extension "*./*") ∧
    "/a/*/*".toList.head? = some '/' ∧ (classify "/a/*/*").isValid = false ∧
      ¬ ('*' ∉ "/a/*/*".toList ∨
        "/a/*/*".toList.count '*' = 1 ∧ ∃ front, "/a/*/*" = front ++ "/*") := by
  have hbelow : classify "//*" = .pathPrefix := by decide
  have hdotted : classify "*.tar.gz" = .extension := by decide
  have hinvalid : classify "*./*" = .invalid := by decide
  have hrooted : "/a/*/*".toList.head? = some '/' := by decide
  have hnot : (classify "/a/*/*").isValid = false := by decide
  have hwritten := ((classify_accepts_grammar "*.tar.gz").1 .extension (by decide)).1 hdotted
  refine ⟨⟨by decide, hbelow, ((classify_accepts_grammar "//*").1 _ (by decide)).1 hbelow⟩,
    ⟨hwritten, fun kind h => (classify_accepts_grammar "*.tar.gz").2.2.1 _ _ h hwritten⟩,
    ⟨hinvalid, (classify_accepts_grammar "*./*").2.1.1 hinvalid .extension⟩, hrooted, hnot, ?_⟩
  intro hstars
  have hvalid := ((classify_accepts_grammar "/a/*/*").2.2.2 hrooted).2 hstars
  rw [hnot] at hvalid
  cases hvalid

end ServletFilters.UrlPattern.Kind
