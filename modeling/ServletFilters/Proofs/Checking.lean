import ServletFilters.Proofs.Declaring
import ServletFilters.Proofs.Resolving
import ServletFilters.Proofs.Violations

/-!
The `check` command against the declarations of a descriptor: which files it accepts, and that its
summary, though taken from the table, counts and lists what was declared. The text of the summary is
written out here from the declarations alone.
-/

namespace ServletFilters

namespace Descriptor

theorem proper_of_load {file : FileContent} {c : Descriptor} (h : load file = .ok c) :
    c.Proper :=
  wellFormed_iff_proper.1 (validate_eq_ok_iff.1 (validate_of_load h))

/-- Under distinct names the registry of the table merges no two filters. -/
theorem filterCount_table {c : Descriptor} (h : (c.filters.map (·.name)).Nodup) :
    c.table.filterCount = c.filters.length := by
  rw [table_eq_ofGiven, Table.filterCount_ofGiven, registrations_given, h.dedup, List.length_map]

/-- Every target of every entry, in the order in which the table holds their mappings. -/
def expansion (c : Descriptor) : List (MappingEntry × Target) :=
  c.mappings.flatMap fun e => e.targets.map fun target => (e, target)

theorem map_expansion (c : Descriptor) :
    (c.expansion.map fun (e, target) => .of e.filter target (.ofList e.types)) =
      c.table.mappings := by
  rw [mappings_table, expansion, List.map_flatMap]
  simp only [List.map_map]
  rfl

theorem mem_expansion_iff {c : Descriptor} {e : MappingEntry} {target : Target} :
    (e, target) ∈ c.expansion ↔ e ∈ c.mappings ∧ target ∈ e.targets := by
  simp [expansion]

theorem Proper.classify_ne_invalid {c : Descriptor} (hc : c.Proper) {e : MappingEntry}
    {p : String} (h : (e, .url p) ∈ c.expansion) : UrlPattern.Kind.classify p ≠ .invalid := by
  obtain ⟨he, htarget⟩ := mem_expansion_iff.1 h
  have hp : p ∈ e.urlPatterns := by simpa [MappingEntry.targets] using htarget
  exact hc.mappingPatterns e he p hp

end Descriptor

namespace CommandLine

/-! ### The summary of the declarations -/

def kindWord : UrlPattern.Kind → String
  | .exact => "exact"
  | .universal => "universal"
  | .pathPrefix => "path-prefix"
  | .extension => "extension"
  | .invalid => "invalid"

def targetText : Target → String
  | .url pattern => "url '" ++ pattern ++ "' (" ++ kindWord (.classify pattern) ++ ")"
  | .servlet pattern => "servlet '" ++ pattern ++ "'"

/-- The types in the order in which they are shown. -/
def shownTypes : List (Dispatcher × String) :=
  [(.request, "REQUEST"), (.forward, "FORWARD"), (.include, "INCLUDE"), (.async, "ASYNC"),
    (.error, "ERROR")]

/-- The names of the types that a list stands for, which is `REQUEST` alone for the empty list. -/
def typeNames (ts : List Dispatcher) : List String :=
  if ts = [] then ["REQUEST"] else (shownTypes.filter fun t => t.1 ∈ ts).map Prod.snd

/-- The line of a target of an entry. -/
def recordText (i : Nat) (e : MappingEntry) (target : Target) : String :=
  "  #" ++ String.ofList ((toString i).toList.rightpad 3 ' ') ++ " "
    ++ String.ofList (e.filter.toList.rightpad 20 ' ') ++ " " ++ targetText target
    ++ " [" ++ ", ".intercalate (typeNames e.types) ++ "]\n"

def headerText (c : Descriptor) : String :=
  "OK: " ++ toString c.filters.length ++ " filters, " ++ toString c.servlets.length
    ++ " servlets, "
    ++ toString (c.mappings.map fun e => e.urlPatterns.length + e.servletNames.length).sum
    ++ " mappings\n"

def summaryText (c : Descriptor) : String :=
  headerText c ++ String.join (c.expansion.mapIdx fun i (e, target) => recordText i e target)

theorem name_eq_kindWord (kind : UrlPattern.Kind) : kind.name = kindWord kind := by
  cases kind <;> rfl

theorem showTarget_eq (target : Target) : showTarget target = targetText target := by
  cases target with
  | url pattern => rw [showTarget, name_eq_kindWord, targetText]
  | servlet pattern => rfl

theorem padRight_eq (width : Nat) (s : String) :
    padRight width s = String.ofList (s.toList.rightpad width ' ') := by
  rw [padRight, List.rightpad, String.length_toList, String.ofList_append, String.ofList_toList]

theorem names_types_of (filter : String) (target : Target) (ts : List Dispatcher) :
    (Mapping.of filter target (.ofList ts)).types.toList.map Dispatcher.name = typeNames ts := by
  have hall : shownTypes = Dispatcher.all.map fun t => (t, t.name) := rfl
  have htypes : (Mapping.of filter target (.ofList ts)).types.toList =
      Dispatcher.all.filter (· ∈ Dispatcher.orRequest ts) := by
    apply List.filter_congr
    intro t _
    rw [Bool.eq_iff_iff, decide_eq_true_iff]
    exact Mapping.appliesTo_of filter target ts t
  rw [htypes, typeNames, hall, List.filter_map, List.map_map]
  by_cases hempty : ts = []
  · subst hempty
    rfl
  · simp only [Dispatcher.orRequest, List.isEmpty_iff, hempty, if_false]
    rfl

theorem line_row (i : Nat) (e : MappingEntry) (target : Target) :
    (Summary.row (.of e.filter target (.ofList e.types)) i).line ++ "\n" =
      recordText i e target := by
  have hend : "]" ++ "\n" = "]\n" := rfl
  rw [SummaryRow.line, Summary.row]
  simp only [names_types_of, padRight_eq, showTarget_eq]
  rw [String.append_assoc, hend]
  rfl

theorem asLines_rows (c : Descriptor) :
    asLines ((Summary.ofDescriptor c).rows.map SummaryRow.line) =
      String.join (c.expansion.mapIdx fun i (e, target) => recordText i e target) := by
  rw [asLines, Summary.ofDescriptor, ← c.map_expansion, List.zipIdx_map, List.map_map,
    List.map_map, List.map_map, List.mapIdx_eq_zipIdx_map]
  apply congrArg String.join
  apply List.map_congr_left
  rintro ⟨⟨e, target⟩, i⟩ -
  exact line_row i e target

theorem line_header {c : Descriptor} (hc : c.Proper) :
    (Summary.ofDescriptor c).header ++ "\n" = headerText c := by
  have hend : " mappings" ++ "\n" = " mappings\n" := rfl
  rw [Summary.header, String.append_assoc, hend]
  simp only [Summary.ofDescriptor, Descriptor.filterCount_table hc.filtersDistinct, c.size_table]
  rfl

theorem asLines_summary {c : Descriptor} (hc : c.Proper) :
    asLines (Summary.ofDescriptor c).lines = summaryText c := by
  have hheader : asLines [(Summary.ofDescriptor c).header] = headerText c := by
    simp [asLines, line_header hc]
  rw [Summary.lines, ← List.singleton_append, asLines_append, hheader, asLines_rows, summaryText]

/-! ### The command -/

variable {config : String} {around : Surroundings}

theorem run_check {c : Descriptor} (h : Descriptor.load (around.file config) = .ok c) :
    (Command.check config).run around = ⟨.completed,
      logText around c [loadedEntry config c] ++ summaryText c, warningText around c⟩ := by
  rw [run_of_lines h rfl, asLines_summary (Descriptor.proper_of_load h)]
  rfl

theorem code_check_eq_zero_iff :
    ((Command.check config).run around).code = 0 ↔
      ∃ c, Descriptor.load (around.file config) = .ok c := by
  cases h : Descriptor.load (around.file config) with
  | error e =>
    rw [run_of_load_error h]
    simp [Outcome.code, Ending.code]
  | ok c =>
    rw [run_check h]
    simp [Outcome.code, Ending.code]

/-- Without a servlet nothing is looked up that could be missing. -/
theorem code_resolve_eq_zero_iff {path : Option String} {type : Dispatcher} :
    ((Command.resolve config path none type).run around).code = 0 ↔
      ∃ c, Descriptor.load (around.file config) = .ok c := by
  have hexits := resolves config path none type around
  cases h : Descriptor.load (around.file config) with
  | error e => simp [(hexits.refused e h).2.1]
  | ok c => simp [(hexits.noServlet c h rfl).2]

/-- One entry with two targets, whose types are neither in order nor distinct. -/
def listedText : String :=
  "filters=[\x7bname=\"Auth\"\x7d]\nfilter_mappings=[\x7bfilter=\"Auth\",url_patterns=[\"*.x\"],"
    ++ "servlet_names=[\"*\"],dispatcher_types=[\"ASYNC\",\"REQUEST\",\"ASYNC\"]\x7d]\n"

def listed : Descriptor where
  filters := [auth]
  mappings := [⟨"Auth", ["*.x"], ["*"], [.async, .request, .async]⟩]

end CommandLine

end ServletFilters
