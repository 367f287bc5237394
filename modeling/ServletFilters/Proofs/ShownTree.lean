import Mathlib.Data.List.Perm.Basic
import ServletFilters.Proofs.TwoPasses
import ServletFilters.Proofs.Validated
import ServletFilters.Schema.Reading
import ServletFilters.Schema.Writing

/-!
What a value shows of the tree that something is written as, and the reading of values that show
such a tree. Entries of a map may stand in any order, for each is read into a field of its own.
-/

namespace ServletFilters.Schema

variable {α β ρ : Type}

/-- In place of a value, what a value has to show in a format. A map shows its entries, which are
listed here in the order in which they are written, in any order. -/
def Format.shownAs (format : Format α) : Writer (α → Prop) where
  text s v := format.shape v = .text s
  boolean b v := format.shape v = .boolean b
  sequence ps v := ∃ items, format.shape v = .sequence items ∧
    List.Forall₂ (fun p x => p x) ps items
  map ps v := ∃ entries written, format.shape v = .map entries ∧ entries.Perm written ∧
    List.Forall₂ (fun p e => e.1 = p.1 ∧ p.2 e.2) ps written

theorem mapM_eq_ok_of_forall₂ {ε : Type} {f : α → Except ε β} {xs : List α} {ys : List β}
    (h : List.Forall₂ (fun x y => f x = .ok y) xs ys) : xs.mapM f = .ok ys := by
  induction h with
  | nil => rfl
  | cons hx _ ih => simp [List.mapM_cons, hx, ih, bind, Except.bind, pure, Except.pure]

theorem map_fst_of_written {ps : List (String × (α → Prop))} {written : List (String × α)}
    (h : List.Forall₂ (fun p e => e.1 = p.1 ∧ p.2 e.2) ps written) :
    written.map Prod.fst = ps.map Prod.fst := by
  rw [← List.forall₂_eq_eq_eq, List.forall₂_map_left_iff, List.forall₂_map_right_iff]
  apply h.flip.imp
  intro e p hep
  exact hep.1

namespace Format

variable {format : Format α} {v : α}

theorem text_of_shown {s : String} (h : format.shownAs.text s v) : format.text v = .ok s := by
  have hshape : format.shape v = .text s := h
  rw [text, hshape]

theorem boolean_of_shown {b : Bool} (h : format.shownAs.boolean b v) :
    format.boolean v = .ok b := by
  have hshape : format.shape v = .boolean b := h
  rw [boolean, hshape]

theorem list_of_shown {write : β → α → Prop} {item : α → Except ReadError β}
    (hitem : ∀ b v, write b v → item v = .ok b) {bs : List β}
    (h : format.shownAs.sequence (bs.map write) v) : format.list item v = .ok bs := by
  obtain ⟨items, hshape, hitems⟩ := h
  rw [list, hshape]
  apply mapM_eq_ok_of_forall₂
  rw [List.forall₂_map_left_iff] at hitems
  apply hitems.flip.imp
  intro x b hb
  exact hitem b x hb

end Format

theorem Field.read_of {name : String} {reader : α → Except ReadError β} {store : β → ρ → ρ}
    {v : α} {b : β} (h : reader v = .ok b) (r : ρ) :
    (Field.of name reader store).read v r = .ok (store b r) := by
  simp [Field.of, h, Except.map]

/-- Fields one by one, with what is written under their names and what reading that does to a
record. -/
inductive Aligned : List (Field α ρ) → List (String × (α → Prop)) → List (ρ → ρ) → Prop where
  | nil : Aligned [] [] []
  | cons {β : Type} {name : String} {reader : α → Except ReadError β} {store : β → ρ → ρ}
      {p : α → Prop} {b : β} {fs : List (Field α ρ)} {ps : List (String × (α → Prop))}
      {gs : List (ρ → ρ)} (hread : ∀ v, p v → reader v = .ok b) (hrest : Aligned fs ps gs) :
    Aligned (.of name reader store :: fs) ((name, p) :: ps) (store b :: gs)

namespace Record

/-- What is written under the names of the fields brings the values of `x` back, and no field
disturbs another. -/
structure Restores (rec : Record α ρ) (ps : List (String × (α → Prop))) (x : ρ) : Prop where
  distinct : (rec.fields.map (·.name)).Nodup
  required : ∀ name ∈ rec.required, name ∈ ps.map Prod.fst
  aligned : ∃ gs, Aligned rec.fields ps gs ∧ (∀ g ∈ gs, ∀ g' ∈ gs, ∀ r, g' (g r) = g (g' r)) ∧
    gs.foldl (fun r g => g r) rec.start = x

theorem assign_of_mem {rec : Record α ρ} (hdistinct : (rec.fields.map (·.name)).Nodup)
    {f : Field α ρ} (hf : f ∈ rec.fields) {e : String × α} (hname : e.1 = f.name) (r : ρ) :
    rec.assign r e = f.read e.2 r := by
  have hfind : rec.fields.find? (fun f => f.name == e.1) = some f :=
    (Descriptor.find?_name_eq_some_iff hdistinct).2 ⟨hf, hname.symm⟩
  rw [assign, hfind]

theorem assigns_of_aligned {rec : Record α ρ} (hdistinct : (rec.fields.map (·.name)).Nodup)
    {fs : List (Field α ρ)} {ps : List (String × (α → Prop))} {gs : List (ρ → ρ)}
    (h : Aligned fs ps gs) (hfs : ∀ f ∈ fs, f ∈ rec.fields) {written : List (String × α)}
    (hwritten : List.Forall₂ (fun p e => e.1 = p.1 ∧ p.2 e.2) ps written) :
    List.Forall₂ (fun e g => ∀ r, rec.assign r e = .ok (g r)) written gs := by
  induction h generalizing written with
  | nil =>
    cases hwritten
    exact .nil
  | @cons β name reader store p b fs ps gs hread hrest ih =>
    cases hwritten with
    | cons he hwritten =>
      obtain ⟨hname, hp⟩ := he
      refine .cons ?_ (ih (fun f hf => hfs f (List.mem_cons_of_mem _ hf)) hwritten)
      intro r
      rw [assign_of_mem hdistinct (hfs _ List.mem_cons_self) hname]
      exact Field.read_of (hread _ hp) r

theorem foldlM_assign {rec : Record α ρ} {entries : List (String × α)} {gs : List (ρ → ρ)}
    (h : List.Forall₂ (fun e g => ∀ r, rec.assign r e = .ok (g r)) entries gs) (r : ρ) :
    entries.foldlM rec.assign r = .ok (gs.foldl (fun r g => g r) r) := by
  induction h generalizing r with
  | nil => rfl
  | cons he _ ih =>
    rw [List.foldlM_cons, he]
    exact ih _

/-- A record is read from any map that shows the record, in whatever order its entries stand. -/
theorem Restores.read_of_shown {rec : Record α ρ} {ps : List (String × (α → Prop))} {x : ρ}
    (h : rec.Restores ps x) {format : Format α} {v : α} (hv : format.shownAs.map ps v) :
    rec.read format v = .ok x := by
  obtain ⟨entries, written, hshape, hperm, hwritten⟩ := hv
  obtain ⟨gs, haligned, hcommute, hwhole⟩ := h.aligned
  have hassigns := assigns_of_aligned h.distinct haligned (fun _ hf => hf) hwritten
  -- what the entries do as they stand is what they do as written, in another order
  obtain ⟨order, hentries, horder⟩ := List.perm_comp_forall₂ hperm hassigns
  have hfold : entries.foldlM rec.assign rec.start = .ok x := by
    rw [foldlM_assign hentries, ← hwhole]
    congr 1
    apply horder.foldl_eq'
    intro g hg g' hg' r
    exact hcommute g (horder.subset hg) g' (horder.subset hg') r
  rw [read, hshape]
  show rec.ofEntries entries = .ok x
  rw [ofEntries, hfold]
  cases hrequired : rec.required with
  | none => rfl
  | some name =>
    have hname : name ∈ entries.map Prod.fst := by
      rw [(hperm.map Prod.fst).mem_iff, map_fst_of_written hwritten]
      exact h.required name hrequired
    have hany : entries.any (fun e => e.1 == name) = true := by simpa using hname
    exact if_pos hany

end Record

end ServletFilters.Schema
