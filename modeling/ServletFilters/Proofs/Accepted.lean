import ServletFilters.Loading
import ServletFilters.Proofs.Prescribed

/-!
Files and texts that are accepted as descriptors, and that no dispatch fails on the table of one.
-/

namespace ServletFilters

theorem FileContent.text_ofText (text : String) : (ofText text).text = .ok text := by
  simp [FileContent.text, ofText, String.fromUTF8?, text.isValidUTF8, String.fromUTF8]

namespace Descriptor

@[simp]
theorem load_ofText (text : String) : load (.ofText text) = parse text := by
  rw [load, FileContent.text_ofText]

/-- A text is accepted when it can be parsed, read and checked. -/
theorem parse_eq_ok_iff {text : String} {c : Descriptor} :
    parse text = .ok c ↔ ∃ root, Toml.parse? text = some root ∧
      Schema.readDescriptor Toml.format (.table .header root) = .ok c ∧ c.validate = .ok () := by
  unfold parse
  constructor
  · intro h
    split at h
    · cases h
    · rename_i root hroot
      split at h
      · cases h
      · rename_i hread
        split at h
        · cases h
        · rename_i hvalid
          cases h
          exact ⟨root, hroot, hread, hvalid⟩
  · intro h
    obtain ⟨root, hroot, hread, hvalid⟩ := h
    simp only [hroot, hread, hvalid]

theorem validate_of_parse {text : String} {c : Descriptor} (h : parse text = .ok c) :
    c.validate = .ok () := by
  obtain ⟨root, -, -, hvalid⟩ := parse_eq_ok_iff.1 h
  exact hvalid

theorem validate_of_load {file : FileContent} {c : Descriptor} (h : load file = .ok c) :
    c.validate = .ok () := by
  unfold load at h
  split at h
  · cases h
  · exact validate_of_parse h

theorem consistent_of_load {file : FileContent} {c : Descriptor} (h : load file = .ok c) :
    c.Consistent :=
  consistent_of_validate (validate_of_load h)

/-- The descriptor that a file holds, if it is accepted. -/
def accepted? (file : FileContent) : Option Descriptor := (load file).toOption

theorem accepted?_of_error {file : FileContent} {e : LoadError} (h : load file = .error e) :
    accepted? file = none := by
  rw [accepted?, h]
  rfl

theorem accepted?_eq_some_iff {file : FileContent} {c : Descriptor} :
    accepted? file = some c ↔ load file = .ok c := by
  unfold accepted?
  cases load file <;> simp [Except.toOption]

theorem consistent_of_mem_filterMap {files : List FileContent} {c : Descriptor}
    (h : c ∈ files.filterMap accepted?) : c.Consistent := by
  obtain ⟨file, -, hc⟩ := List.mem_filterMap.1 h
  exact consistent_of_load (accepted?_eq_some_iff.1 hc)

end Descriptor

/-- No dispatch to a handler fails. -/
def Table.AlwaysBuilds (t : Table) : Prop :=
  ∀ (H : Type) (h : H) (d : Dispatch),
    ∃ filters, (t.build (some h) d).value = .ok (some ⟨h, filters⟩)

theorem Descriptor.Consistent.alwaysBuilds {c : Descriptor} (hc : c.Consistent) :
    c.table.AlwaysBuilds := by
  intro H h d
  obtain ⟨filters, hbuild, -⟩ := build_of_consistent hc h d
  exact ⟨filters, hbuild⟩

end ServletFilters
