import ServletFilters.Json.Format
import ServletFilters.Proofs.ShownTree
import ServletFilters.Toml.Format

/-!
Reading undoes writing: a value of either format that shows the tree of a descriptor is read as that
descriptor, and the values that the writers make do show it.
-/

namespace ServletFilters

theorem Params.entries_ofList (es : List (String × String)) :
    (ofList es).entries = Ascending.ofList es := by
  have hfold : ∀ p : Params, (es.foldl (fun p e => p.insert e.1 e.2) p).entries =
      es.foldl (fun acc e => Ascending.insert e.1 e.2 acc) p.entries := by
    induction es with
    | nil => exact fun _ => rfl
    | cons e es ih => exact fun p => ih (p.insert e.1 e.2)
  exact hfold empty

/-- Parameters are their entries, in whatever order these are put in. -/
theorem Params.ofList_of_perm {p : Params} {es : List (String × String)} (h : es.Perm p.entries) :
    ofList es = p := by
  have hentries : (ofList es).entries = p.entries := by
    rw [entries_ofList, Ascending.ofList_of_perm h p.ascending]
  cases p
  exact (Params.mk.injEq ..).mpr hentries

namespace Schema

variable {α β : Type} {format : Format α} {v : α}

/-- The name of a dispatcher type is read as that type. -/
def Format.ReadsNames (format : Format α) : Prop :=
  ∀ s v, format.shape v = .text s → format.dispatcher v = variant s

theorem variant_schemaName (t : Dispatcher) : variant t.schemaName = .ok t := by
  cases t <;> rfl

theorem params_of_shown {p : Params}
    (h : format.shownAs.map (p.entries.map fun e => (e.1, format.shownAs.text e.2)) v) :
    params format v = .ok p := by
  obtain ⟨entries, written, hshape, hperm, hwritten⟩ := h
  rw [List.forall₂_map_left_iff] at hwritten
  obtain ⟨order, hentries, horder⟩ := List.perm_comp_forall₂ hperm hwritten.flip
  have hread : format.entries format.text v = .ok order := by
    rw [Format.entries, hshape]
    apply mapM_eq_ok_of_forall₂
    apply hentries.imp
    rintro e ⟨name, value⟩ ⟨rfl, hvalue⟩
    rw [Format.text_of_shown hvalue]
    rfl
  rw [params, hread, ← Params.ofList_of_perm horder]
  rfl

theorem texts_of_shown {ss : List String} (h : format.shownAs.texts ss v) :
    format.list format.text v = .ok ss :=
  Format.list_of_shown (fun _ _ hs => Format.text_of_shown hs) h

theorem dispatchers_of_shown (hformat : format.ReadsNames) {ts : List Dispatcher}
    (h : format.shownAs.texts (ts.map Dispatcher.schemaName) v) : dispatchers format v = .ok ts := by
  rw [Writer.texts, List.map_map] at h
  apply Format.list_of_shown _ h
  intro t v ht
  rw [hformat _ _ ht, variant_schemaName]

theorem read_observability {o : Observability}
    (h : format.shownAs.map [("log_level", format.shownAs.text o.logLevel)] v) :
    (observability format).read format v = .ok o := by
  refine Record.Restores.read_of_shown ⟨by simp [observability], by simp [observability], ?_⟩ h
  exact ⟨_, .cons (fun _ => Format.text_of_shown) .nil, by simp, rfl⟩

theorem read_registration {f : Registration} (h : writeRegistration format.shownAs f v) :
    (filter format).read format v = .ok f := by
  refine Record.Restores.read_of_shown ⟨by simp [filter, Field.of], by simp [filter], ?_⟩ h
  exact ⟨_, .cons (fun _ => Format.text_of_shown) (.cons (fun _ => Format.text_of_shown)
    (.cons (fun _ => params_of_shown) (.cons (fun _ => Format.boolean_of_shown) .nil))),
    by simp, rfl⟩

theorem read_servlet {s : Servlet} (h : writeServlet format.shownAs s v) :
    (servlet format).read format v = .ok s := by
  refine Record.Restores.read_of_shown ⟨by simp [servlet, Field.of], by simp [servlet], ?_⟩ h
  exact ⟨_, .cons (fun _ => Format.text_of_shown) (.cons (fun _ => Format.text_of_shown)
    (.cons (fun _ => texts_of_shown) (.cons (fun _ => Format.boolean_of_shown) .nil))),
    by simp, rfl⟩

theorem read_mappingEntry (hformat : format.ReadsNames) {e : MappingEntry}
    (h : writeMappingEntry format.shownAs e v) : (mappingEntry format).read format v = .ok e := by
  refine Record.Restores.read_of_shown
    ⟨by simp [mappingEntry, Field.of], by simp [mappingEntry], ?_⟩ h
  exact ⟨_, .cons (fun _ => Format.text_of_shown) (.cons (fun _ => texts_of_shown)
    (.cons (fun _ => texts_of_shown) (.cons (fun _ => dispatchers_of_shown hformat) .nil))),
    by simp, rfl⟩

/-- A value that shows the tree of a descriptor is read as that descriptor. -/
theorem read_of_shown (hformat : format.ReadsNames) {c : Descriptor}
    (h : writeDescriptor format.shownAs c v) : readDescriptor format v = .ok c := by
  refine Record.Restores.read_of_shown ⟨by simp [descriptor, Field.of], by simp [descriptor], ?_⟩ h
  exact ⟨_, .cons (fun _ => read_observability)
    (.cons (fun _ => Format.list_of_shown fun _ _ h => read_registration h)
    (.cons (fun _ => Format.list_of_shown fun _ _ h => read_servlet h)
    (.cons (fun _ => Format.list_of_shown fun _ _ h => read_mappingEntry hformat h) .nil))),
    by simp, rfl⟩

/-- What a writer makes looks like what it is made of, a map up to the order of its entries. -/
structure Writer.LooksLike (w : Writer α) (format : Format α) : Prop where
  text (s : String) : format.shape (w.text s) = .text s
  boolean (b : Bool) : format.shape (w.boolean b) = .boolean b
  sequence (items : List α) : format.shape (w.sequence items) = .sequence items
  map (written : List (String × α)) (hdistinct : (written.map Prod.fst).Nodup) :
    ∃ entries, format.shape (w.map written) = .map entries ∧ entries.Perm written

namespace Writer.LooksLike

variable {w : Writer α} (hw : w.LooksLike format)
include hw

theorem shown_map {ps : List (String × (α → Prop))} {written : List (String × α)}
    (hwritten : List.Forall₂ (fun p e => e.1 = p.1 ∧ p.2 e.2) ps written)
    (hdistinct : (ps.map Prod.fst).Nodup) : format.shownAs.map ps (w.map written) := by
  rw [← map_fst_of_written hwritten] at hdistinct
  obtain ⟨entries, hshape, hperm⟩ := hw.map written hdistinct
  exact ⟨entries, written, hshape, hperm, hwritten⟩

theorem shown_sequence {p : β → α → Prop} {write : β → α} (h : ∀ b, p b (write b)) (bs : List β) :
    format.shownAs.sequence (bs.map p) (w.sequence (bs.map write)) := by
  refine ⟨_, hw.sequence _, ?_⟩
  rw [List.forall₂_map_left_iff, List.forall₂_map_right_iff]
  exact List.forall₂_same.2 fun b _ => h b

theorem shown_texts (ss : List String) : format.shownAs.texts ss (w.texts ss) :=
  hw.shown_sequence hw.text ss

theorem shown_registration (f : Registration) :
    writeRegistration format.shownAs f (writeRegistration w f) := by
  refine hw.shown_map ?_ (by simp)
  refine .cons ⟨rfl, hw.text _⟩ (.cons ⟨rfl, hw.text _⟩ (.cons ⟨rfl, ?_⟩
    (.cons ⟨rfl, hw.boolean _⟩ .nil)))
  apply hw.shown_map
  · rw [List.forall₂_map_left_iff, List.forall₂_map_right_iff]
    exact List.forall₂_same.2 fun e _ => ⟨rfl, hw.text _⟩
  · rw [List.map_map]
    exact Ascending.nodup_names f.initParams.ascending

theorem shown_servlet (s : Servlet) : writeServlet format.shownAs s (writeServlet w s) :=
  hw.shown_map (.cons ⟨rfl, hw.text _⟩ (.cons ⟨rfl, hw.text _⟩ (.cons ⟨rfl, hw.shown_texts _⟩
    (.cons ⟨rfl, hw.boolean _⟩ .nil)))) (by simp)

theorem shown_mappingEntry (e : MappingEntry) :
    writeMappingEntry format.shownAs e (writeMappingEntry w e) :=
  hw.shown_map (.cons ⟨rfl, hw.text _⟩ (.cons ⟨rfl, hw.shown_texts _⟩
    (.cons ⟨rfl, hw.shown_texts _⟩ (.cons ⟨rfl, hw.shown_texts _⟩ .nil)))) (by simp)

theorem shown_descriptor (c : Descriptor) :
    writeDescriptor format.shownAs c (writeDescriptor w c) := by
  refine hw.shown_map ?_ (by simp)
  refine .cons ⟨rfl, ?_⟩ (.cons ⟨rfl, hw.shown_sequence hw.shown_registration _⟩
    (.cons ⟨rfl, hw.shown_sequence hw.shown_servlet _⟩
    (.cons ⟨rfl, hw.shown_sequence hw.shown_mappingEntry _⟩ .nil)))
  exact hw.shown_map (.cons ⟨rfl, hw.text _⟩ .nil) (by simp)

end Writer.LooksLike

theorem readDescriptor_writeDescriptor_of_looksLike (hformat : format.ReadsNames) {w : Writer α}
    (hw : w.LooksLike format) (c : Descriptor) :
    readDescriptor format (writeDescriptor w c) = .ok c :=
  read_of_shown hformat (hw.shown_descriptor c)

/-- Writing what was read and reading it again comes to the same. -/
theorem bind_read_write (hformat : format.ReadsNames) {w : Writer α} (hw : w.LooksLike format)
    (x : Except ReadError Descriptor) :
    (x.bind fun c => readDescriptor format (writeDescriptor w c)) = x := by
  cases x with
  | error e => rfl
  | ok c => exact readDescriptor_writeDescriptor_of_looksLike hformat hw c

theorem json_readsNames : Json.format.ReadsNames := by
  intro s v h
  cases v with
  | string s' =>
    obtain rfl : s' = s := by simpa [Json.format, Json.shape] using h
    rfl
  | _ => simp [Json.format, Json.shape] at h

theorem toml_readsNames : Toml.format.ReadsNames := by
  intro s v h
  cases v with
  | string s' =>
    obtain rfl : s' = s := by simpa [Toml.format, Toml.Value.shape] using h
    rfl
  | _ => simp [Toml.format, Toml.Value.shape] at h

theorem json_looksLike : Json.writer.LooksLike Json.format where
  text _ := rfl
  boolean _ := rfl
  sequence _ := rfl
  map _ hdistinct := ⟨_, rfl, Ascending.perm_ofList hdistinct⟩

theorem toml_looksLike : Toml.writer.LooksLike Toml.format where
  text _ := rfl
  boolean _ := rfl
  sequence _ := rfl
  map _ _ := ⟨_, rfl, .refl _⟩

/-- Every descriptor is read back from what it is written as, and from every value that shows the
same tree with the entries of its tables in any order. -/
theorem read_undoes_write :
    (∀ c, readDescriptor Json.format (writeDescriptor Json.writer c) = .ok c ∧
      readDescriptor Toml.format (writeDescriptor Toml.writer c) = .ok c) ∧
    (∀ c v, writeDescriptor Json.format.shownAs c v → readDescriptor Json.format v = .ok c) ∧
    (∀ c v, writeDescriptor Toml.format.shownAs c v → readDescriptor Toml.format v = .ok c) ∧
    (∀ v, ((readDescriptor Json.format v).bind fun c =>
      readDescriptor Json.format (writeDescriptor Json.writer c)) = readDescriptor Json.format v) ∧
    ∀ v, ((readDescriptor Toml.format v).bind fun c =>
      readDescriptor Toml.format (writeDescriptor Toml.writer c)) = readDescriptor Toml.format v :=
  ⟨fun c => ⟨readDescriptor_writeDescriptor_of_looksLike json_readsNames json_looksLike c,
      readDescriptor_writeDescriptor_of_looksLike toml_readsNames toml_looksLike c⟩,
    fun _ _ => read_of_shown json_readsNames, fun _ _ => read_of_shown toml_readsNames,
    fun _ => bind_read_write json_readsNames json_looksLike _,
    fun _ => bind_read_write toml_readsNames toml_looksLike _⟩

/-- Tables by headers, the last entry first. -/
def backwards : Writer Toml.Value :=
  ⟨.string, .boolean, .tables, fun es => .table .header es.reverse⟩

theorem backwards_looksLike : backwards.LooksLike Toml.format where
  text _ := rfl
  boolean _ := rfl
  sequence _ := rfl
  map _ _ := ⟨_, rfl, List.reverse_perm _⟩

/-- Not a valid descriptor: two filters have the empty name. -/
def unusual : Descriptor where
  observability := ⟨"größer"⟩
  filters := [⟨"", "", .ofList [("realm", "users"), ("", "日本"), ("Ω", "")], true⟩,
    ⟨"", "com.example.Gzip", .empty, false⟩]
  servlets := [⟨"Echo", "", ["/echo", ""], false⟩]
  mappings := [⟨"Ghost", [], ["*", "*"], [.async, .request, .async]⟩, ⟨"", [], [], []⟩]

theorem read_undoes_write_backwards :
    writeDescriptor Toml.format.shownAs unusual (writeDescriptor backwards unusual) ∧
      readDescriptor Toml.format (writeDescriptor backwards unusual) = .ok unusual := by
  have hshown := backwards_looksLike.shown_descriptor unusual
  exact ⟨hshown, read_undoes_write.2.2.1 unusual _ hshown⟩

end Schema

end ServletFilters
