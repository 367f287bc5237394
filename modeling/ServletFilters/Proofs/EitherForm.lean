import ServletFilters.Json.Format
import ServletFilters.Proofs.RecordForms

/-!
The records of a descriptor as JSON values. Each of them may be an object or an array of its fields in
declaration order, skips what it does not know, and takes an absent field for its default.
-/

namespace ServletFilters.Schema

variable {β ρ : Type}

namespace Record

theorem read_array (rec : Record Json ρ) (items : List Json) :
    rec.read Json.format (.array items) = rec.ofItems true items := rfl

theorem read_ofMembers (rec : Record Json ρ) (es : List (String × Json)) :
    rec.read Json.format (.ofMembers es) = rec.ofEntries (Ascending.ofList es) := rfl

/-- How forgiving a record is towards the JSON values that it is read from. Its fields are the
required one, if there is one, and the `optional` ones, each of which comes with the value that it
stands for when it is absent. -/
structure Lenient (rec : Record Json ρ) (required : Option String)
    (optional : List (String × Json)) : Prop where
  fields : rec.names = required.toList ++ optional.map Prod.fst
  eitherForm (items : List Json) (h : items.length ≤ rec.names.length) :
    (rec.read Json.format (.array items)).toOption =
      (rec.read Json.format (.ofMembers (rec.names.zip items))).toOption
  surplus (items : List Json) (h : rec.names.length < items.length) :
    (rec.read Json.format (.array items)).toOption = none
  unknown (es extra : List (String × Json)) (h : ∀ e ∈ extra, e.1 ∉ rec.names) :
    rec.read Json.format (.ofMembers (es ++ extra)) = rec.read Json.format (.ofMembers es)
  default (es : List (String × Json)) (e : String × Json) (he : e ∈ optional)
      (habsent : e.1 ∉ es.map Prod.fst) :
    (rec.read Json.format (.ofMembers (es ++ [e]))).toOption =
      (rec.read Json.format (.ofMembers es)).toOption
  missing (es : List (String × Json)) (name : String) (hrequired : required = some name)
      (habsent : name ∉ es.map Prod.fst) :
    (rec.read Json.format (.ofMembers es)).toOption = none

variable {rec : Record Json ρ}

theorem map_fst_zip_isPrefix {β γ : Type} (xs : List β) (ys : List γ) :
    (xs.zip ys).map Prod.fst <+: xs := by
  induction xs generalizing ys with
  | nil => simp
  | cons x xs ih =>
    cases ys with
    | nil => simp
    | cons y ys => simpa using ih ys

theorem Independent.lenient (h : rec.Independent) {optional : List (String × Json)}
    (hfields : rec.names = rec.required.toList ++ optional.map Prod.fst)
    (hdefault : ∀ e ∈ optional, rec.assign rec.start e = .ok rec.start) :
    rec.Lenient rec.required optional where
  fields := hfields
  eitherForm items hlength := by
    rw [names, List.length_map] at hlength
    have hdistinct : ((rec.names.zip items).map Prod.fst).Nodup :=
      h.distinct.sublist (map_fst_zip_isPrefix _ _).sublist
    rw [read_array, read_ofMembers, h.toOption_ofItems_eq hlength]
    exact h.toOption_ofEntries_perm (Ascending.perm_ofList hdistinct).symm hdistinct
  surplus items hlength := by
    rw [names, List.length_map] at hlength
    exact toOption_ofItems_of_surplus hlength
  unknown es extra hextra := by
    have hunknown : ∀ e ∈ extra, rec.names.contains e.1 = false := by
      intro e he
      simpa using hextra e he
    rw [read_ofMembers, read_ofMembers, ← h.ofEntries_filter,
      Ascending.filter_ofList_append es hunknown, h.ofEntries_filter]
  default es e he habsent := by
    have hsorted : (Ascending.ofList es).Pairwise fun a b => a.1 < b.1 :=
      Ascending.pairwise_foldl_insert .nil
    have hnew : e.1 ∉ (Ascending.ofList es).map Prod.fst := mt Ascending.mem_names_ofList habsent
    have hinsert : Ascending.ofList (es ++ [e]) =
        Ascending.insert e.1 e.2 (Ascending.ofList es) := List.foldl_append
    have hdistinct := h.distinct
    rw [hfields, List.nodup_append] at hdistinct
    have hrequired : e.1 ∉ rec.required := fun hmem =>
      hdistinct.2.2 _ (by simpa using hmem) _ (List.mem_map_of_mem he) rfl
    rw [read_ofMembers, read_ofMembers, hinsert, h.toOption_ofEntries_perm
      (Ascending.perm_insert e.2 hnew) (Ascending.nodup_names (Ascending.pairwise_insert hsorted)),
      toOption_ofEntries_cons (hdefault e he) hrequired]
  missing es name hrequired habsent :=
    toOption_ofEntries_of_missing hrequired (mt Ascending.mem_names_ofList habsent)

end Record

theorem observability_independent : (observability Json.format).Independent where
  distinct := by simp [Record.names, observability]
  commutes := by simp [observability]
  first := by simp [observability]

/-- Four fields that are stored in four places. -/
theorem pairwise_commutes {α : Type} {f₁ f₂ f₃ f₄ : Field α ρ} (h₁₂ : f₁.Commutes f₂)
    (h₁₃ : f₁.Commutes f₃) (h₁₄ : f₁.Commutes f₄) (h₂₃ : f₂.Commutes f₃) (h₂₄ : f₂.Commutes f₄)
    (h₃₄ : f₃.Commutes f₄) : [f₁, f₂, f₃, f₄].Pairwise Field.Commutes := by
  simp [h₁₂, h₁₃, h₁₄, h₂₃, h₂₄, h₃₄]

theorem filter_independent : (filter Json.format).Independent where
  distinct := by simp [Record.names, filter, Field.of]
  commutes := by
    apply pairwise_commutes <;> exact Field.commutes_of fun _ _ _ => rfl
  first := by simp [Record.names, filter, Field.of]

theorem servlet_independent : (servlet Json.format).Independent where
  distinct := by simp [Record.names, servlet, Field.of]
  commutes := by
    apply pairwise_commutes <;> exact Field.commutes_of fun _ _ _ => rfl
  first := by simp [Record.names, servlet, Field.of]

theorem mappingEntry_independent : (mappingEntry Json.format).Independent where
  distinct := by simp [Record.names, mappingEntry, Field.of]
  commutes := by
    apply pairwise_commutes <;> exact Field.commutes_of fun _ _ _ => rfl
  first := by simp [Record.names, mappingEntry, Field.of]

theorem descriptor_independent : (descriptor Json.format).Independent where
  distinct := by simp [Record.names, descriptor, Field.of]
  commutes := by
    apply pairwise_commutes <;> exact Field.commutes_of fun _ _ _ => rfl
  first := by simp [descriptor]

theorem observability_lenient :
    (observability Json.format).Lenient none [("log_level", .string "info")] :=
  observability_independent.lenient rfl (List.map_inj_left.1 rfl)

theorem filter_lenient : (filter Json.format).Lenient (some "name")
    [("class", .string ""), ("init_params", .object []), ("async_supported", .boolean false)] :=
  filter_independent.lenient rfl (List.map_inj_left.1 rfl)

theorem servlet_lenient : (servlet Json.format).Lenient (some "name")
    [("class", .string ""), ("url_patterns", .array []), ("async_supported", .boolean false)] :=
  servlet_independent.lenient rfl (List.map_inj_left.1 rfl)

theorem mappingEntry_lenient : (mappingEntry Json.format).Lenient (some "filter")
    [("url_patterns", .array []), ("servlet_names", .array []), ("dispatcher_types", .array [])] :=
  mappingEntry_independent.lenient rfl (List.map_inj_left.1 rfl)

theorem descriptor_lenient : (descriptor Json.format).Lenient none
    [("observability", .object [("log_level", .string "info")]), ("filters", .array []),
      ("servlets", .array []), ("filter_mappings", .array [])] :=
  descriptor_independent.lenient rfl (List.map_inj_left.1 rfl)

/-! ### Values within a descriptor -/

/-- Both values are refused, or both are read as the same. -/
def Alike (read : Json → Except ReadError β) (v w : Json) : Prop :=
  (read v).toOption = (read w).toOption

namespace Alike

variable {read : Json → Except ReadError β}

theorem array {vs ws : List Json} (h : List.Forall₂ (Alike read) vs ws) :
    Alike (Json.format.list read) (.array vs) (.array ws) := by
  show (vs.mapM read).toOption = (ws.mapM read).toOption
  induction h with
  | nil => rfl
  | @cons v w vs ws hv _ ih =>
    have hv : (read v).toOption = (read w).toOption := hv
    rw [List.mapM_cons, List.mapM_cons]
    show ((read v).bind fun b => (vs.mapM read).bind fun bs => .ok (b :: bs)).toOption =
      ((read w).bind fun b => (ws.mapM read).bind fun bs => .ok (b :: bs)).toOption
    simp only [toOption_bind, hv, ih]

/-- What is read alike can stand under the name of its field. -/
theorem entry {rec : Record Json ρ} (hdistinct : rec.names.Nodup) {name : String}
    {store : β → ρ → ρ} (hfield : .of name read store ∈ rec.fields) {v w : Json}
    (h : Alike read v w) : (name, v).1 = (name, w).1 ∧
      ∀ r, (rec.assign r (name, v)).toOption = (rec.assign r (name, w)).toOption := by
  refine ⟨rfl, fun r => ?_⟩
  rw [Record.assign_of_mem hdistinct hfield rfl, Record.assign_of_mem hdistinct hfield rfl]
  have hread : (read v).toOption = (read w).toOption := h
  simp only [Field.of, toOption_map, hread]

end Alike

/-- The entries of a descriptor that has each of its fields. -/
def allEntries (o : Json) (fs ss ms : List Json) : List (String × Json) :=
  [("observability", o), ("filters", .array fs), ("servlets", .array ss),
    ("filter_mappings", .array ms)]

theorem alike_allEntries {o o' : Json} {fs fs' ss ss' ms ms' : List Json}
    (ho : Alike ((observability Json.format).read Json.format) o o')
    (hfs : List.Forall₂ (Alike ((filter Json.format).read Json.format)) fs fs')
    (hss : List.Forall₂ (Alike ((servlet Json.format).read Json.format)) ss ss')
    (hms : List.Forall₂ (Alike ((mappingEntry Json.format).read Json.format)) ms ms') :
    Alike (readDescriptor Json.format) (.ofMembers (allEntries o fs ss ms))
      (.ofMembers (allEntries o' fs' ss' ms')) := by
  have hdistinct := descriptor_independent.distinct
  -- the members of an object stand in the order of their names, so each side is reordered first
  have horder (o : Json) (fs ss ms : List Json) :
      (readDescriptor Json.format (.ofMembers (allEntries o fs ss ms))).toOption =
        ((descriptor Json.format).ofEntries (allEntries o fs ss ms)).toOption := by
    have hnames : ((allEntries o fs ss ms).map Prod.fst).Nodup := by simp [allEntries]
    exact (descriptor_independent.toOption_ofEntries_perm (Ascending.perm_ofList hnames).symm
      hnames).symm
  unfold Alike
  rw [horder, horder]
  apply Record.toOption_ofEntries_congr
  exact .cons (ho.entry hdistinct (.head _))
    (.cons ((Alike.array hfs).entry hdistinct (.tail _ (.head _)))
    (.cons ((Alike.array hss).entry hdistinct (.tail _ (.tail _ (.head _))))
    (.cons ((Alike.array hms).entry hdistinct (.tail _ (.tail _ (.tail _ (.head _))))) .nil)))

/-- Every record of a descriptor may be written in either form, and does not mind what it does not
know or what it would take for granted. The same goes for the values within a descriptor: each may be
replaced by one that is read alike. -/
theorem records_lenient :
    (observability Json.format).Lenient none [("log_level", .string "info")] ∧
    (filter Json.format).Lenient (some "name")
      [("class", .string ""), ("init_params", .object []), ("async_supported", .boolean false)] ∧
    (servlet Json.format).Lenient (some "name")
      [("class", .string ""), ("url_patterns", .array []), ("async_supported", .boolean false)] ∧
    (mappingEntry Json.format).Lenient (some "filter")
      [("url_patterns", .array []), ("servlet_names", .array []),
        ("dispatcher_types", .array [])] ∧
    (descriptor Json.format).Lenient none
      [("observability", .object [("log_level", .string "info")]), ("filters", .array []),
        ("servlets", .array []), ("filter_mappings", .array [])] ∧
    ∀ {o o' : Json} {fs fs' ss ss' ms ms' : List Json},
      Alike ((observability Json.format).read Json.format) o o' →
      List.Forall₂ (Alike ((filter Json.format).read Json.format)) fs fs' →
      List.Forall₂ (Alike ((servlet Json.format).read Json.format)) ss ss' →
      List.Forall₂ (Alike ((mappingEntry Json.format).read Json.format)) ms ms' →
        Alike (readDescriptor Json.format) (.ofMembers (allEntries o fs ss ms))
          (.ofMembers (allEntries o' fs' ss' ms')) :=
  ⟨observability_lenient, filter_lenient, servlet_lenient, mappingEntry_lenient,
    descriptor_lenient, alike_allEntries⟩

/-- A filter that gives its name alone, in an array and in an object. -/
theorem records_lenient_named :
    let read := (filter Json.format).read Json.format
    let entry := ("name", Json.string "Auth")
    ((read (.array [entry.2])).toOption = (read (.ofMembers [entry])).toOption ∧
      (read (.ofMembers [entry])).toOption = some ⟨"Auth", "", .empty, false⟩) ∧
    (read (.array (List.replicate 5 entry.2))).toOption = none ∧
    read (.ofMembers ([entry] ++ [("nam", .null)])) = read (.ofMembers [entry]) ∧
    (read (.ofMembers ([entry] ++ [("init_params", .object [])]))).toOption =
      (read (.ofMembers [entry])).toOption ∧
    (read (.ofMembers [("Name", entry.2)])).toOption = none ∧
    Alike (readDescriptor Json.format) (.ofMembers (allEntries (.array []) [.array [entry.2]] [] []))
      (.ofMembers (allEntries (.array []) [.ofMembers [entry]] [] [])) := by
  obtain ⟨-, hfilter, -, -, -, hwithin⟩ := records_lenient
  have hone := hfilter.eitherForm [.string "Auth"] (by decide)
  refine ⟨⟨hone, rfl⟩, hfilter.surplus _ (by decide), hfilter.unknown _ _ (by decide),
    hfilter.default _ _ (by simp) (by decide), hfilter.missing _ _ rfl (by decide), ?_⟩
  exact hwithin rfl (.cons hone .nil) .nil .nil

end ServletFilters.Schema
