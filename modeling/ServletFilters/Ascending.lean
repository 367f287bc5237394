/-!
Entries under names, in ascending order of name and each name once, so that two lists of the same
entries are equal.
-/

namespace ServletFilters.Ascending

variable {β : Type}

/-- Puts an entry at its place in the order; an entry of the same name gives way. -/
def insert (name : String) (value : β) : List (String × β) → List (String × β)
  | [] => [(name, value)]
  | e :: rest =>
    if name < e.1 then (name, value) :: e :: rest
    else if name = e.1 then (name, value) :: rest
    else e :: insert name value rest

/-- Of several entries of one name the last counts. -/
def ofList (es : List (String × β)) : List (String × β) :=
  es.foldl (fun acc e => insert e.1 e.2 acc) []

theorem mem_insert {name : String} {value : β} {e : String × β} :
    ∀ {es : List (String × β)}, e ∈ insert name value es → e.1 = name ∨ e ∈ es
  | [], h => by
    simp only [insert, List.mem_singleton] at h
    exact .inl (by rw [h])
  | a :: rest, h => by
    unfold insert at h
    split at h
    · rcases List.mem_cons.1 h with rfl | h
      · exact .inl rfl
      · exact .inr h
    · split at h
      · rcases List.mem_cons.1 h with rfl | h
        · exact .inl rfl
        · exact .inr (List.mem_cons_of_mem _ h)
      · rcases List.mem_cons.1 h with rfl | h
        · exact .inr List.mem_cons_self
        · exact (mem_insert h).imp_right (List.mem_cons_of_mem _)

theorem pairwise_insert {name : String} {value : β} :
    ∀ {es : List (String × β)}, es.Pairwise (fun a b => a.1 < b.1) →
      (insert name value es).Pairwise (fun a b => a.1 < b.1)
  | [], _ => by simp [insert]
  | a :: rest, h => by
    obtain ⟨ha, hrest⟩ := List.pairwise_cons.1 h
    unfold insert
    split
    · rename_i hlt
      refine List.pairwise_cons.2 ⟨fun b hb => ?_, h⟩
      rcases List.mem_cons.1 hb with rfl | hb
      · exact hlt
      · exact String.lt_trans hlt (ha b hb)
    · rename_i hnlt
      split
      · rename_i heq
        refine List.pairwise_cons.2 ⟨fun b hb => ?_, hrest⟩
        rw [heq]
        exact ha b hb
      · rename_i hne
        have hgt : a.1 < name :=
          String.not_le.1 fun hle => hne (String.le_antisymm hle (String.not_lt.1 hnlt))
        refine List.pairwise_cons.2 ⟨fun b hb => ?_, pairwise_insert hrest⟩
        rcases mem_insert hb with hb | hb
        · rw [hb]
          exact hgt
        · exact ha b hb

/-- An entry of a new name is put beside the others. -/
theorem perm_insert {name : String} (value : β) {es : List (String × β)}
    (h : name ∉ es.map Prod.fst) : (insert name value es).Perm ((name, value) :: es) := by
  induction es with
  | nil => exact .refl _
  | cons e rest ih =>
    rw [List.map_cons, List.mem_cons, not_or] at h
    obtain ⟨hne, hrest⟩ := h
    by_cases hlt : name < e.1
    · rw [insert, if_pos hlt]
    · rw [insert, if_neg hlt, if_neg hne]
      exact ((ih hrest).cons e).trans (.swap _ _ _)

theorem perm_foldl_insert {es acc : List (String × β)} (h : ((es ++ acc).map Prod.fst).Nodup) :
    (es.foldl (fun acc e => insert e.1 e.2 acc) acc).Perm (es ++ acc) := by
  induction es generalizing acc with
  | nil => exact .refl _
  | cons e rest ih =>
    rw [List.cons_append, List.map_cons, List.nodup_cons] at h
    obtain ⟨hnew, hrest⟩ := h
    have hacc : e.1 ∉ acc.map Prod.fst := fun hmem => hnew (by simp [hmem])
    -- the entry goes among those already put in place
    have hinsert : (rest ++ insert e.1 e.2 acc).Perm (e :: (rest ++ acc)) :=
      ((perm_insert e.2 hacc).append_left rest).trans List.perm_middle
    have hnodup : ((rest ++ insert e.1 e.2 acc).map Prod.fst).Nodup := by
      rw [(hinsert.map Prod.fst).nodup_iff, List.map_cons, List.nodup_cons]
      exact ⟨hnew, hrest⟩
    exact (ih hnodup).trans hinsert

/-- Entries of different names are all kept. -/
theorem perm_ofList {es : List (String × β)} (h : (es.map Prod.fst).Nodup) :
    (ofList es).Perm es := by
  rw [← List.append_nil es] at h
  simpa only [ofList, List.append_nil] using perm_foldl_insert h

theorem pairwise_foldl_insert {es acc : List (String × β)}
    (h : acc.Pairwise (fun a b => a.1 < b.1)) :
    (es.foldl (fun acc e => insert e.1 e.2 acc) acc).Pairwise (fun a b => a.1 < b.1) := by
  induction es generalizing acc with
  | nil => exact h
  | cons e rest ih => exact ih (pairwise_insert h)

theorem nodup_names {es : List (String × β)} (h : es.Pairwise (fun a b => a.1 < b.1)) :
    (es.map Prod.fst).Nodup := by
  apply List.pairwise_map.2
  apply h.imp
  intro a b hlt heq
  exact String.lt_irrefl _ (heq ▸ hlt)

/-- Entries in ascending order are what any list of them is put into. -/
theorem ofList_of_perm {es sorted : List (String × β)} (hperm : es.Perm sorted)
    (hsorted : sorted.Pairwise (fun a b => a.1 < b.1)) : ofList es = sorted := by
  have hnodup : (es.map Prod.fst).Nodup := (hperm.map Prod.fst).nodup_iff.2 (nodup_names hsorted)
  apply ((perm_ofList hnodup).trans hperm).eq_of_pairwise _ (pairwise_foldl_insert .nil) hsorted
  intro a b _ _ hab hba
  exact absurd (String.lt_trans hab hba) (String.lt_irrefl _)

end ServletFilters.Ascending
