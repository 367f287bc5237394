import Mathlib.Data.List.Pairwise
import ServletFilters.Proofs.ShownTree

/-!
The two forms of a record, a map of its fields and a sequence of them, compared by the record that
comes of them. Fields that do not disturb each other can be read in any order, so that a sequence is
read as the map is that has its items under the names of the fields. Which error is met first may
depend on the order; whether there is one does not.
-/

namespace ServletFilters

section
variable {ε α β : Type}

theorem toOption_bind (x : Except ε α) (f : α → Except ε β) :
    (x.bind f).toOption = x.toOption.bind fun a => (f a).toOption := by
  cases x <;> rfl

theorem toOption_map (x : Except ε α) (f : α → β) : (x.map f).toOption = x.toOption.map f := by
  cases x <;> rfl

end

namespace Ascending

variable {β : Type}

theorem mem_names_ofList {name : String} {es : List (String × β)}
    (h : name ∈ (ofList es).map Prod.fst) : name ∈ es.map Prod.fst := by
  have hfold : ∀ acc : List (String × β),
      name ∈ (es.foldl (fun acc e => insert e.1 e.2 acc) acc).map Prod.fst →
        name ∈ es.map Prod.fst ∨ name ∈ acc.map Prod.fst := by
    clear h
    induction es with
    | nil => exact fun acc h => .inr h
    | cons e es ih =>
      intro acc h
      rw [List.map_cons, List.mem_cons, or_assoc]
      rcases ih _ h with hrest | hacc
      · exact .inr (.inl hrest)
      · obtain ⟨e', he', rfl⟩ := List.mem_map.1 hacc
        rcases mem_insert he' with hname | hmem
        · exact .inl hname
        · exact .inr (.inr (List.mem_map_of_mem hmem))
  exact (hfold [] h).resolve_right (by simp)

/-- Entries that a filter drops by their names do not show in what it keeps. -/
theorem filter_insert {p : String → Bool} {name : String} (h : p name = false) (value : β)
    (es : List (String × β)) :
    (insert name value es).filter (fun e => p e.1) = es.filter fun e => p e.1 := by
  induction es with
  | nil => simp [insert, h]
  | cons e es ih =>
    unfold insert
    split
    · simp [h]
    · split
      · rename_i heq
        have he : p e.1 = false := heq ▸ h
        simp [h, he]
      · rw [List.filter_cons, List.filter_cons, ih]

theorem filter_ofList_append {p : String → Bool} (es : List (String × β))
    {extra : List (String × β)} (h : ∀ e ∈ extra, p e.1 = false) :
    (ofList (es ++ extra)).filter (fun e => p e.1) = (ofList es).filter fun e => p e.1 := by
  have hfold : ∀ acc : List (String × β),
      (extra.foldl (fun acc e => insert e.1 e.2 acc) acc).filter (fun e => p e.1) =
        acc.filter fun e => p e.1 := by
    induction extra with
    | nil => exact fun _ => rfl
    | cons e extra ih =>
      intro acc
      obtain ⟨he, hextra⟩ := List.forall_mem_cons.1 h
      rw [List.foldl_cons, ih hextra, filter_insert he]
  rw [ofList, List.foldl_append]
  exact hfold _

end Ascending

namespace Schema

variable {α β ρ : Type}

/-- It makes no difference to a record which of two fields is read first. -/
def Field.Commutes (f g : Field α ρ) : Prop :=
  ∀ v w r, ((f.read v r).bind (g.read w)).toOption = ((g.read w r).bind (f.read v)).toOption

instance : Std.Symm (@Field.Commutes α ρ) := ⟨fun _ _ h v w r => (h w v r).symm⟩

/-- Fields commute when they are stored in different places. -/
theorem Field.commutes_of {name name' : String} {reader : α → Except ReadError β}
    {γ : Type} {reader' : α → Except ReadError γ} {store : β → ρ → ρ} {store' : γ → ρ → ρ}
    (h : ∀ b c r, store' c (store b r) = store b (store' c r)) :
    (Field.of name reader store).Commutes (Field.of name' reader' store') := by
  intro v w r
  simp only [Field.of]
  cases reader v with
  | error e => cases reader' w <;> rfl
  | ok b =>
    cases reader' w with
    | error e => rfl
    | ok c => exact congrArg some (h b c r)

namespace Record

def names (rec : Record α ρ) : List String := rec.fields.map (·.name)

/-- Every field has a name and a place of its own, and a field that is required comes first. -/
structure Independent (rec : Record α ρ) : Prop where
  distinct : rec.names.Nodup
  commutes : rec.fields.Pairwise Field.Commutes
  first : ∀ name ∈ rec.required, rec.names.head? = some name

variable {rec : Record α ρ}

theorem assign_of_unknown {e : String × α} (h : e.1 ∉ rec.names) (r : ρ) :
    rec.assign r e = .ok r := by
  have hnone : rec.fields.find? (fun f => f.name == e.1) = none := by
    rw [List.find?_eq_none]
    intro f hf hname
    exact h (beq_iff_eq.1 hname ▸ List.mem_map_of_mem hf)
  rw [assign, hnone]

/-- Reads one more entry, if all went well so far. -/
def assign? (rec : Record α ρ) (acc : Option ρ) (e : String × α) : Option ρ :=
  acc.bind fun r => (rec.assign r e).toOption

theorem toOption_foldlM_assign (es : List (String × α)) (r : ρ) :
    (es.foldlM rec.assign r).toOption = es.foldl rec.assign? (some r) := by
  have hfold : ∀ x : Except ReadError ρ,
      (x.bind fun r => es.foldlM rec.assign r).toOption = es.foldl rec.assign? x.toOption := by
    induction es with
    | nil => exact fun x => by cases x <;> rfl
    | cons e es ih =>
      intro x
      cases x with
      | error error =>
        exact ih (.error error)
      | ok r => exact ih (rec.assign r e)
  exact hfold (.ok r)

theorem Independent.assign?_comm (h : rec.Independent) {e e' : String × α} (hne : e.1 ≠ e'.1)
    (acc : Option ρ) :
    rec.assign? (rec.assign? acc e) e' = rec.assign? (rec.assign? acc e') e := by
  cases acc with
  | none => rfl
  | some r =>
    by_cases he : e.1 ∈ rec.names
    · by_cases he' : e'.1 ∈ rec.names
      · obtain ⟨f, hf, hname⟩ := List.mem_map.1 he
        obtain ⟨g, hg, hname'⟩ := List.mem_map.1 he'
        have hfg : f ≠ g := by
          rintro rfl
          exact hne (hname.symm.trans hname')
        have hcommutes : f.Commutes g := h.commutes.forall hf hg hfg
        have hassign (r : ρ) : rec.assign r e = f.read e.2 r :=
          assign_of_mem h.distinct hf hname.symm r
        have hassign' (r : ρ) : rec.assign r e' = g.read e'.2 r :=
          assign_of_mem h.distinct hg hname'.symm r
        have hread := hcommutes e.2 e'.2 r
        rw [toOption_bind, toOption_bind] at hread
        simpa only [assign?, Option.bind_some, hassign, hassign'] using hread
      · simp [assign?, assign_of_unknown he', Except.toOption]
    · simp [assign?, assign_of_unknown he, Except.toOption]

/-- Entries of different names can be read in any order. -/
theorem Independent.foldlM_assign_perm (h : rec.Independent) {es es' : List (String × α)}
    (hperm : es.Perm es') (hdistinct : (es.map Prod.fst).Nodup) (r : ρ) :
    (es.foldlM rec.assign r).toOption = (es'.foldlM rec.assign r).toOption := by
  rw [toOption_foldlM_assign, toOption_foldlM_assign]
  apply hperm.foldl_eq'
  intro e he e' he' acc
  by_cases hname : e.1 = e'.1
  · rw [List.inj_on_of_nodup_map hdistinct he he' hname]
  · exact h.assign?_comm hname acc

/-- What is read one by one is what the entries under the names of the fields are read as. -/
theorem assignInOrder_eq_foldlM (hdistinct : rec.names.Nodup) {fs : List (Field α ρ)}
    (hfs : ∀ f ∈ fs, f ∈ rec.fields) (vs : List α) (r : ρ) :
    assignInOrder fs vs r = ((fs.map (·.name)).zip vs).foldlM rec.assign r := by
  induction fs generalizing vs r with
  | nil => rfl
  | cons f fs ih =>
    cases vs with
    | nil => rfl
    | cons v vs =>
      obtain ⟨hf, hfs⟩ := List.forall_mem_cons.1 hfs
      rw [List.map_cons, List.zip_cons_cons, List.foldlM_cons, assign_of_mem hdistinct hf rfl]
      show (f.read v r).bind (fun r => assignInOrder fs vs r) = (f.read v r).bind _
      simp only [ih hfs]

/-- Whether the required field is among the names. -/
def complete (rec : Record α ρ) (given : List String) : Bool :=
  rec.required.all fun name => given.contains name

theorem toOption_ofEntries (es : List (String × α)) :
    (rec.ofEntries es).toOption =
      if rec.complete (es.map Prod.fst) then (es.foldlM rec.assign rec.start).toOption
      else none := by
  have hany (name : String) :
      es.any (fun e => e.1 == name) = (es.map Prod.fst).contains name := by
    rw [Bool.eq_iff_iff]
    simp
  unfold ofEntries complete
  cases es.foldlM rec.assign rec.start with
  | error e => simp [bind, Except.bind, Except.toOption]
  | ok r =>
    cases rec.required with
    | none => rfl
    | some name =>
      simp only [bind, Except.bind, hany, Option.all_some]
      split <;> rfl

theorem toOption_ofItems (refusesExtra : Bool) (items : List α) :
    (rec.ofItems refusesExtra items).toOption =
      if rec.required.isSome && items.isEmpty ||
          refusesExtra && decide (rec.fields.length < items.length) then none
      else (assignInOrder rec.fields items rec.start).toOption := by
  unfold ofItems
  cases assignInOrder rec.fields items rec.start with
  | error e => simp [bind, Except.bind, Except.toOption]
  | ok r =>
    simp only [bind, Except.bind]
    cases rec.required.isSome && items.isEmpty <;>
      cases refusesExtra && decide (rec.fields.length < items.length) <;> rfl

theorem toOption_ofItems_of_surplus {items : List α} (h : rec.fields.length < items.length) :
    (rec.ofItems true items).toOption = none := by
  simp [toOption_ofItems, h]

theorem toOption_ofEntries_of_missing {es : List (String × α)} {name : String}
    (hrequired : rec.required = some name) (habsent : name ∉ es.map Prod.fst) :
    (rec.ofEntries es).toOption = none := by
  have hnot : rec.complete (es.map Prod.fst) = false := by
    rw [complete, hrequired]
    simpa using habsent
  simp [toOption_ofEntries, hnot]

theorem complete_congr {given given' : List String} (h : ∀ name, name ∈ given ↔ name ∈ given') :
    rec.complete given = rec.complete given' := by
  unfold complete
  congr 1
  funext name
  rw [Bool.eq_iff_iff, List.contains_iff_mem, List.contains_iff_mem, h]

/-- Entries of the same names that are read alike make the same record. -/
theorem toOption_ofEntries_congr {es es' : List (String × α)}
    (h : List.Forall₂ (fun e e' => e.1 = e'.1 ∧
      ∀ r, (rec.assign r e).toOption = (rec.assign r e').toOption) es es') :
    (rec.ofEntries es).toOption = (rec.ofEntries es').toOption := by
  have hnames : es.map Prod.fst = es'.map Prod.fst := by
    rw [← List.forall₂_eq_eq_eq, List.forall₂_map_left_iff, List.forall₂_map_right_iff]
    exact h.imp fun e e' he => he.1
  have hfold : ∀ acc, es.foldl rec.assign? acc = es'.foldl rec.assign? acc := by
    clear hnames
    induction h with
    | nil => exact fun _ => rfl
    | @cons e e' es es' he _ ih =>
      intro acc
      have hassign : rec.assign? acc e = rec.assign? acc e' := by
        unfold assign?
        congr 1
        funext r
        exact he.2 r
      rw [List.foldl_cons, List.foldl_cons, hassign, ih]
  rw [toOption_ofEntries, toOption_ofEntries, toOption_foldlM_assign, toOption_foldlM_assign,
    hnames, hfold]

theorem foldlM_assign_filter (es : List (String × α)) (r : ρ) :
    (es.filter fun e => rec.names.contains e.1).foldlM rec.assign r = es.foldlM rec.assign r := by
  induction es generalizing r with
  | nil => rfl
  | cons e es ih =>
    by_cases he : e.1 ∈ rec.names
    · rw [List.filter_cons_of_pos (by simpa using he), List.foldlM_cons, List.foldlM_cons]
      simp only [ih]
    · rw [List.filter_cons_of_neg (by simpa using he), List.foldlM_cons, assign_of_unknown he, ih]
      rfl

/-- An entry that reads as the default is as good as none. -/
theorem toOption_ofEntries_cons {e : String × α} {es : List (String × α)}
    (hdefault : rec.assign rec.start e = .ok rec.start) (hrequired : e.1 ∉ rec.required) :
    (rec.ofEntries (e :: es)).toOption = (rec.ofEntries es).toOption := by
  have hcomplete : rec.complete ((e :: es).map Prod.fst) = rec.complete (es.map Prod.fst) := by
    unfold complete
    cases hname : rec.required with
    | none => rfl
    | some name =>
      have hne : name ≠ e.1 := by
        rintro rfl
        exact hrequired hname
      simp [hne]
  rw [toOption_ofEntries, toOption_ofEntries, hcomplete, List.foldlM_cons, hdefault]
  rfl

namespace Independent

theorem mem_names_of_required (h : rec.Independent) {name : String} (hname : name ∈ rec.required) :
    name ∈ rec.names :=
  List.mem_of_head? (h.first name hname)

/-- A map may hold its entries in any order. -/
theorem toOption_ofEntries_perm (h : rec.Independent) {es es' : List (String × α)}
    (hperm : es.Perm es') (hdistinct : (es.map Prod.fst).Nodup) :
    (rec.ofEntries es).toOption = (rec.ofEntries es').toOption := by
  rw [toOption_ofEntries, toOption_ofEntries, h.foldlM_assign_perm hperm hdistinct,
    complete_congr fun _ => (hperm.map Prod.fst).mem_iff]

/-- The first item stands for the field that is required. -/
theorem complete_zip (h : rec.Independent) (items : List α) :
    rec.complete ((rec.names.zip items).map Prod.fst) =
      !(rec.required.isSome && items.isEmpty) := by
  unfold complete
  cases hrequired : rec.required with
  | none => rfl
  | some name =>
    obtain ⟨rest, hnames⟩ := List.head?_eq_some_iff.1 (h.first name hrequired)
    rw [hnames]
    cases items <;> simp

/-- Items in the order of the fields are read as entries under their names. -/
theorem toOption_ofItems_eq (h : rec.Independent) {items : List α}
    (hlength : items.length ≤ rec.fields.length) (refusesExtra : Bool) :
    (rec.ofItems refusesExtra items).toOption =
      (rec.ofEntries (rec.names.zip items)).toOption := by
  have hnot : ¬ rec.fields.length < items.length := Nat.not_lt.2 hlength
  rw [toOption_ofItems, toOption_ofEntries, h.complete_zip,
    assignInOrder_eq_foldlM h.distinct fun _ hf => hf]
  cases rec.required.isSome && items.isEmpty <;> simp [hnot, names]

/-- Entries under other names are not looked at. -/
theorem ofEntries_filter (h : rec.Independent) (es : List (String × α)) :
    rec.ofEntries (es.filter fun e => rec.names.contains e.1) = rec.ofEntries es := by
  unfold ofEntries
  rw [foldlM_assign_filter]
  cases hrequired : rec.required with
  | none => rfl
  | some name =>
    have hmem := h.mem_names_of_required hrequired
    have hany : (es.filter fun e => rec.names.contains e.1).any (fun e => e.1 == name) =
        es.any fun e => e.1 == name := by
      rw [List.any_filter]
      congr 1
      funext e
      by_cases he : e.1 = name
      · simp [he, hmem]
      · simp [he]
    simp only [hany]

end Independent

end Record

end Schema

end ServletFilters
