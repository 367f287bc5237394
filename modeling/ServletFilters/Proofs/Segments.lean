import ServletFilters.Proofs.KindRules

/-!
A pattern `b/*` goes by whole segments of the path: it selects the paths whose segments begin with
those of `b`, so that `/admin/*` has no say over `/administrator`. One such pattern covers another
exactly when it selects the other's base.
-/

namespace ServletFilters

namespace Text

/-- The parts of a text between its slashes; every slash divides, also beside another one. -/
def segments (s : List Char) : List (List Char) := s.splitOn '/'

def joined (parts : List (List Char)) : List Char := List.intercalate ['/'] parts

theorem joined_segments (s : List Char) : joined (segments s) = s := List.intercalate_splitOn '/'

theorem segments_ne_nil (s : List Char) : segments s ≠ [] := List.splitOn_ne_nil '/' s

theorem segments_append_slash (s t : List Char) :
    segments (s ++ '/' :: t) = segments s ++ segments t := List.splitOn_append_cons_self s t

theorem joined_append {parts rest : List (List Char)} (hparts : parts ≠ []) (hrest : rest ≠ []) :
    joined (parts ++ rest) = joined parts ++ '/' :: joined rest := by
  unfold joined
  induction parts with
  | nil => exact absurd rfl hparts
  | cons part parts ih =>
    cases parts with
    | nil => simp [List.intercalate_cons_of_ne_nil hrest]
    | cons next parts =>
      have hne : next :: parts ++ rest ≠ [] := by simp
      rw [List.cons_append, List.intercalate_cons_of_ne_nil hne, ih (List.cons_ne_nil _ _),
        List.intercalate_cons_of_ne_nil (List.cons_ne_nil _ _)]
      simp

/-- Whole segments follow upon a text exactly when it ends there or a slash comes next. -/
theorem segments_isPrefix_iff {s t : List Char} :
    segments s <+: segments t ↔ t = s ∨ ∃ below, t = s ++ '/' :: below := by
  constructor
  · intro h
    obtain ⟨rest, hrest⟩ := h
    by_cases hnil : rest = []
    · left
      rw [← joined_segments t, ← hrest, hnil, List.append_nil, joined_segments]
    · right
      refine ⟨joined rest, ?_⟩
      rw [← joined_segments t, ← hrest, joined_append (segments_ne_nil s) hnil, joined_segments]
  · rintro (rfl | ⟨below, rfl⟩)
    · exact List.prefix_refl _
    · rw [segments_append_slash]
      exact List.prefix_append _ _

end Text

namespace UrlPattern
open Text

theorem selects_below_iff {b : String} (hb : b ≠ "") (q : String) :
    selects (some (b ++ "/*")) (some q) = true ↔ segments b.toList <+: segments q.toList := by
  have hne : b.toList ≠ [] := by simpa using hb
  show selectsChars (b ++ "/*").toList q.toList = true ↔ _
  rw [String.toList_append, segments_isPrefix_iff]
  exact selectsChars_below hne

/-- A pattern `b/*` selects the paths whose segments begin with the segments of `b`. Hence it
selects whatever `c/*` selects exactly when it selects `c`. -/
theorem selects_below_by_segments :
    (∀ b : String, b ≠ "" → ∀ q : String,
      selects (some (b ++ "/*")) (some q) = true ↔ segments b.toList <+: segments q.toList) ∧
    ∀ b c : String, b ≠ "" → c ≠ "" →
      ((∀ q : String, selects (some (c ++ "/*")) (some q) = true →
        selects (some (b ++ "/*")) (some q) = true) ↔
      selects (some (b ++ "/*")) (some c) = true) := by
  refine ⟨fun b hb => selects_below_iff hb, ?_⟩
  intro b c hb hc
  simp only [selects_below_iff hb, selects_below_iff hc]
  constructor
  · intro h
    exact h c (List.prefix_refl _)
  · intro h q hq
    exact h.trans hq

theorem selects_below_by_segments_slashed :
    ("/é/" ≠ "" ∧ segments "/é/".toList <+: segments "/é//x".toList ∧
      selects (some ("/é/" ++ "/*")) (some "/é//x") = true) ∧
    ("/admin" ≠ "" ∧ ¬ segments "/admin".toList <+: segments "/administrator".toList ∧
      ¬ selects (some ("/admin" ++ "/*")) (some "/administrator") = true) ∧
    "/admin/users" ≠ "" ∧ ∀ q : String, selects (some ("/admin/users" ++ "/*")) (some q) = true →
      selects (some ("/admin" ++ "/*")) (some q) = true := by
  have hslashed : "/é/" ≠ "" := by decide
  have hadmin : "/admin" ≠ "" := by decide
  have husers : "/admin/users" ≠ "" := by decide
  have hinside : segments "/é/".toList <+: segments "/é//x".toList := ⟨[['x']], by decide⟩
  have houtside : ¬ segments "/admin".toList <+: segments "/administrator".toList := by decide
  obtain ⟨hselects, hcovers⟩ := selects_below_by_segments
  exact ⟨⟨hslashed, hinside, (hselects _ hslashed _).2 hinside⟩,
    ⟨hadmin, houtside, mt (hselects _ hadmin _).1 houtside⟩,
    husers, (hcovers _ _ hadmin husers).2 (by decide)⟩

end UrlPattern

end ServletFilters
