import ServletFilters.CommandLine.LogLine
import ServletFilters.Proofs.Accepted
import ServletFilters.Proofs.ChainDocument
import ServletFilters.Proofs.PatternForms
import ServletFilters.Proofs.Reports
import ServletFilters.Proofs.ShownLogs

/-!
The `resolve` command against the chains that descriptors prescribe: which of its exits it takes,
what the text that it prints holds, and that the log level of the descriptor has no part in either.
-/

namespace ServletFilters

theorem UrlPattern.selects_empty_iff {p : String} :
    selects (some p) (some "") = true ↔ p = "" ∨ p = "/*" := by
  have hempty : p = "" ↔ p.toList = [] := String.toList_inj.symm
  have hall : p = "/*" ↔ p.toList = ['/', '*'] := String.toList_inj.symm
  rw [hempty, hall]
  apply selectsChars_iff.trans
  constructor
  · intro h
    rcases h with hself | huniversal | ⟨base, hp, hbelow⟩ | ⟨extension, -, hends⟩
    · exact .inl hself.symm
    · exact .inr huniversal
    · -- the empty path lies below nothing, so the base is empty
      rcases isAtOrBelow_iff.1 hbelow with hbase | ⟨below, hbase⟩
      · rw [hp, ← hbase]
        exact .inr rfl
      · simp at hbase
    · obtain ⟨-, -, directory, segment, hpath, -⟩ := hasExtension_iff.1 hends
      simp at hpath
  · intro h
    rcases h with hp | hp
    · exact .inl hp.symm
    · exact .inr (.inl hp)

namespace Descriptor

/-- With no path given nothing is selected by url. -/
theorem prescribed_absent (c : Descriptor) (servlet : Option String) (t : Dispatcher) :
    c.prescribed ⟨none, servlet, t⟩ =
      c.mappings.flatMap (·.prescribedByServlet ⟨none, servlet, t⟩) := by
  have hnone (e : MappingEntry) : e.prescribedByUrl ⟨none, servlet, t⟩ = [] := by
    simp [MappingEntry.prescribedByUrl, UrlPattern.selects]
  simp [prescribed, hnone]

/-- The empty path adds the filters that are mapped to the empty pattern or to every path. -/
theorem prescribed_empty (c : Descriptor) (servlet : Option String) (t : Dispatcher) :
    c.prescribed ⟨some "", servlet, t⟩ =
      (c.mappings.flatMap fun e =>
        if e.AppliesTo t then
          (e.urlPatterns.filter fun p => p = "" ∨ p = "/*").map fun _ => e.filter
        else []) ++ c.prescribed ⟨none, servlet, t⟩ := by
  have hselects (p : String) : UrlPattern.selects (some p) (some "") =
      decide (p = "" ∨ p = "/*") := by
    rw [Bool.eq_iff_iff, UrlPattern.selects_empty_iff, decide_eq_true_iff]
  rw [prescribed_absent, prescribed]
  simp only [MappingEntry.prescribedByUrl, hselects]
  rfl

/-- A file holds a descriptor, whether the check accepts it or not. -/
def Holds (file : FileContent) (c : Descriptor) : Prop :=
  ∃ text root, file.text = .ok text ∧ Toml.parse? text = some root ∧
    Schema.readDescriptor Toml.format (.table .header root) = .ok c

theorem holds_ofText_of_parse {text : String} {c : Descriptor} (h : parse text = .ok c) :
    Holds (.ofText text) c := by
  obtain ⟨root, hroot, hread, -⟩ := parse_eq_ok_iff.1 h
  exact ⟨text, root, FileContent.text_ofText text, hroot, hread⟩

theorem load_of_holds {file : FileContent} {c : Descriptor} (h : Holds file c) :
    load file = (c.validate.mapError .invalid).map fun _ => c := by
  obtain ⟨text, root, htext, hroot, hread⟩ := h
  simp only [load, parse, htext, hroot, hread]
  cases c.validate <;> rfl

theorem WellFormed.mappings_table_eq_nil_iff {c : Descriptor} (hc : c.WellFormed) :
    c.table.mappings = [] ↔ c.mappings = [] := by
  rw [mappings_table, List.flatMap_eq_nil_iff, List.eq_nil_iff_forall_not_mem]
  apply forall_congr'
  intro e
  constructor
  · intro hexpand he
    have htargets := (hc.mappings e he).2.1
    exact htargets (List.map_eq_nil_iff.1 (hexpand he))
  · intro hnot he
    exact absurd he hnot

end Descriptor

/-- A chain that was built is logged, but not that of an empty table. -/
theorem Table.entries_build {H : Type} {t : Table} {h : H} {d : Dispatch}
    {filters : List Registration} (hbuild : (t.build (some h) d).value = .ok (some ⟨h, filters⟩)) :
    (t.build (some h) d).events.filterMap Event.entry? =
      if t.mappings = [] then [] else [.chainBuilt d filters.length] := by
  have hreport := t.buildReport (some h) d
  generalize t.build (some h) d = built at hreport hbuild
  cases hreport with
  | noHandler => cases hbuild
  | atOnce h hempty =>
    rw [if_pos hempty]
    rfl
  | scanned c hne =>
    cases hbuild
    rw [if_neg hne]
    rfl
  | missed => cases hbuild

namespace CommandLine

namespace Resolution

theorem ofDescriptor_of_unknown {c : Descriptor} {path : Option String} {n : String}
    {type : Dispatcher} (h : ∀ s ∈ c.servlets, s.name ≠ n) :
    ofDescriptor c ⟨path, some n, type⟩ = ⟨.error (.unknownServlet n), []⟩ := by
  have hnone : c.servlet? n = none := by
    rw [Descriptor.servlet?, List.find?_eq_none]
    intro s hs
    simpa using h s hs
  simp only [ofDescriptor, hnone]

theorem ofDescriptor_of_declared {c : Descriptor} (hc : c.Consistent) (path : Option String)
    {n : String} (type : Dispatcher) (h : ∃ s ∈ c.servlets, s.name = n) :
    ∃ s ∈ c.servlets, s.name = n ∧ ∃ filters,
      filters.map (fun r => [r]) = (c.prescribed ⟨path, some n, type⟩).map
        (fun name => c.filters.filter fun r => r.name == name) ∧
      (c.table.build (some s) ⟨path, some n, type⟩).value = .ok (some ⟨s, filters⟩) ∧
      ofDescriptor c ⟨path, some n, type⟩ = ⟨.ok (some ⟨⟨s, filters⟩, type⟩),
        (c.table.build (some s) ⟨path, some n, type⟩).events⟩ := by
  have hsome : (c.servlet? n).isSome = true := by
    rw [Descriptor.servlet?, List.find?_isSome]
    simpa using h
  -- the servlet that the look-up finds, whichever one `h` speaks of
  obtain ⟨s, hs⟩ := Option.isSome_iff_exists.1 hsome
  obtain ⟨filters, hbuild, hfilters⟩ := Descriptor.build_of_consistent hc s ⟨path, some n, type⟩
  refine ⟨s, List.mem_of_find?_eq_some hs, by simpa using List.find?_some hs, filters, hfilters,
    hbuild, ?_⟩
  simp only [ofDescriptor, hs, hbuild]
  rfl

theorem ofDescriptor_ne_missing {c : Descriptor} (hc : c.Consistent) (d : Dispatch)
    (e : MissingRegistration) : (ofDescriptor c d).value ≠ .error (.missingRegistration e) := by
  obtain ⟨path, servlet, type⟩ := d
  cases servlet with
  | none => simp [ofDescriptor, Table.build]
  | some n =>
    by_cases hdeclared : ∃ s ∈ c.servlets, s.name = n
    · obtain ⟨s, -, -, filters, -, -, hresolved⟩ := ofDescriptor_of_declared hc path type hdeclared
      simp [hresolved]
    · have hunknown : ∀ s ∈ c.servlets, s.name ≠ n := fun s hs hname => hdeclared ⟨s, hs, hname⟩
      simp [ofDescriptor_of_unknown hunknown]

/-- The words of the reader of documents have no part in what a resolution fails with. -/
theorem text_of_error {c : Descriptor} {d : Dispatch} {f : Failure}
    (h : (ofDescriptor c d).value = .error f) (words words' : Wording) :
    f.text words = f.text words' := by
  obtain ⟨path, servlet, type⟩ := d
  cases servlet with
  | none => cases h
  | some n =>
    simp only [ofDescriptor] at h
    split at h
    · cases h
      rfl
    · split at h
      · cases h
      · cases h
        rfl

end Resolution

variable {config : String} {path servlet : Option String} {type : Dispatcher}
  {around around' : Surroundings}

/-- The lines of a resolution are the text of one document. -/
theorem run_resolve_of_value {c : Descriptor}
    (h : Descriptor.load (around.file config) = .ok c) {r : Option Resolution}
    (hr : (Resolution.ofDescriptor c ⟨path, servlet, type⟩).value = .ok r) :
    (Command.resolve config path servlet type).run around = ⟨.completed,
      logText around c (loadedEntry config c ::
        (Resolution.ofDescriptor c ⟨path, servlet, type⟩).events.filterMap Event.entry?)
        ++ ((documentOf r).pretty 0 ++ "\n"), warningText around c⟩ := by
  have hlines : (act c (.resolve config path servlet type)).value =
      .ok [(documentOf r).pretty 0] := by
    rw [act, hr]
    rfl
  have hline : asLines [(documentOf r).pretty 0] = (documentOf r).pretty 0 ++ "\n" := by
    simp [asLines]
  rw [run_of_lines h hlines, hline]
  rfl

theorem run_resolve_of_error {c : Descriptor}
    (h : Descriptor.load (around.file config) = .ok c) {f : Failure}
    (hf : (Resolution.ofDescriptor c ⟨path, servlet, type⟩).value = .error f) :
    (Command.resolve config path servlet type).run around = ⟨.failed f,
      logText around c (loadedEntry config c ::
        (Resolution.ofDescriptor c ⟨path, servlet, type⟩).events.filterMap Event.entry?),
      warningText around c ++ f.text (around.wording (around.file config))⟩ := by
  have hfailure : (act c (.resolve config path servlet type)).value = .error f := by
    rw [act, hf]
    rfl
  rw [run_of_failure h hfailure]
  rfl

/-! ### The texts of failures -/

def inQuotes (t : String) : String :=
  "\"" ++ String.ofList (t.toList.flatMap Text.quoteChar) ++ "\""

/-- A violation as the error of a command shows it. -/
def violationText : Violation → String
  | .emptyFilterName i => "EmptyFilterName(" ++ toString i ++ ")"
  | .emptyServletName i => "EmptyServletName(" ++ toString i ++ ")"
  | .duplicateFilter name => "DuplicateFilter(" ++ inQuotes name ++ ")"
  | .duplicateServlet name => "DuplicateServlet(" ++ inQuotes name ++ ")"
  | .unknownFilter i filter =>
    "UnknownFilter \x7b mapping: " ++ toString i ++ ", filter: " ++ inQuotes filter ++ " \x7d"
  | .emptyMapping i filter =>
    "EmptyMapping \x7b mapping: " ++ toString i ++ ", filter: " ++ inQuotes filter ++ " \x7d"
  | .invalidMappingPattern i pattern =>
    "InvalidMappingPattern \x7b mapping: " ++ toString i ++ ", pattern: " ++ inQuotes pattern
      ++ " \x7d"
  | .invalidServletPattern servlet pattern =>
    "InvalidServletPattern \x7b servlet: " ++ inQuotes servlet ++ ", pattern: " ++ inQuotes pattern
      ++ " \x7d"

theorem withFields_two (name key key' text text' : String) :
    withFields name [(key, text), (key', text')] = (name ++ " \x7b " ++ key ++ ": ") ++ text
      ++ (", " ++ key' ++ ": ") ++ text' ++ " \x7d" := by
  rw [← String.toList_inj]
  simp [withFields]

theorem showViolation_eq (v : Violation) : showViolation v = violationText v := by
  cases v with
  | emptyFilterName i => rfl
  | emptyServletName i => rfl
  | duplicateFilter name => rfl
  | duplicateServlet name => rfl
  | unknownFilter i filter => exact withFields_two "UnknownFilter" ..
  | emptyMapping i filter => exact withFields_two "EmptyMapping" ..
  | invalidMappingPattern i pattern => exact withFields_two "InvalidMappingPattern" ..
  | invalidServletPattern servlet pattern => exact withFields_two "InvalidServletPattern" ..

theorem text_unreadable (words : Wording) {e : LoadError}
    (h : e = .syntaxError ∨ ∃ e', e = .schema e') :
    (Failure.load e).text words = "Error: Parse(" ++ words.data ++ ")\n" := by
  rw [← String.toList_inj]
  rcases h with rfl | ⟨e', rfl⟩
  · simp [Failure.text, showLoadError]
  · simp [Failure.text, showLoadError]

theorem text_invalid (words : Wording) (vs : List Violation) :
    (Failure.load (.invalid vs)).text words =
      "Error: Validation([" ++ ", ".intercalate (vs.map violationText) ++ "])\n" := by
  rw [← String.toList_inj, ← funext showViolation_eq]
  simp [Failure.text, showLoadError]

/-- A message in quotes has no quotes and no unprintable characters of its own, but for those of the
name. -/
theorem text_unknownServlet (words : Wording) (n : String) :
    (Failure.unknownServlet n).text words = "Error: \"unknown servlet '"
      ++ String.ofList (n.toList.flatMap Text.quoteChar) ++ "'\"\n" := by
  have hbefore : "unknown servlet '".toList.flatMap Text.quoteChar =
      "unknown servlet '".toList := by decide +kernel
  have hbehind : "'".toList.flatMap Text.quoteChar = "'".toList := by decide +kernel
  rw [Failure.text, Text.quoted, String.toList_append, String.toList_append, List.flatMap_append,
    List.flatMap_append, hbefore, hbehind, ← String.toList_inj]
  simp

/-- What a resolution of `servlet` comes to, exit by exit: a refused descriptor counts before
everything else, and a chain holds the filters that the entries prescribe. -/
structure Resolves (config : String) (path servlet : Option String) (type : Dispatcher)
    (around : Surroundings) (outcome : Outcome) : Prop where
  refused (e) (h : Descriptor.load (around.file config) = .error e) :
    outcome.ending = .failed (.load e) ∧ outcome.code = 1 ∧ outcome.output = ""
  unreadable (e) (h : Descriptor.load (around.file config) = .error e)
    (he : e = .syntaxError ∨ ∃ e', e = .schema e') :
    outcome.errors = "Error: Parse(" ++ (around.wording (around.file config)).data ++ ")\n"
  invalid (vs) (h : Descriptor.load (around.file config) = .error (.invalid vs)) :
    outcome.errors = "Error: Validation([" ++ ", ".intercalate (vs.map violationText) ++ "])\n"
  noServlet (c) (h : Descriptor.load (around.file config) = .ok c) (hnone : servlet = none) :
    outcome = ⟨.completed, logText around c [loadedEntry config c, .noHandler type] ++ "null\n",
      warningText around c⟩ ∧ outcome.code = 0
  unknownServlet (c) (h : Descriptor.load (around.file config) = .ok c) (n) (hn : servlet = some n)
    (hunknown : ∀ s ∈ c.servlets, s.name ≠ n) :
    outcome = ⟨.failed (.unknownServlet n), logText around c [loadedEntry config c],
      warningText around c ++ ("Error: \"unknown servlet '"
        ++ String.ofList (n.toList.flatMap Text.quoteChar) ++ "'\"\n")⟩ ∧ outcome.code = 1
  chain (c) (h : Descriptor.load (around.file config) = .ok c) (n) (hn : servlet = some n)
    (hdeclared : ∃ s ∈ c.servlets, s.name = n) :
    ∃ filters text,
      filters.map (fun r => [r]) = (c.prescribed ⟨path, servlet, type⟩).map
        (fun name => c.filters.filter fun r => r.name == name) ∧
      Json.parse? text = some (chainDocument n type filters) ∧
      outcome = ⟨.completed,
        logText around c (loadedEntry config c :: if c.mappings = [] then []
          else [.chainBuilt ⟨path, servlet, type⟩ filters.length]) ++ (text ++ "\n"),
        warningText around c⟩ ∧ outcome.code = 0
  neverMissing (e) : outcome.ending ≠ .failed (.missingRegistration e)

theorem resolves (config : String) (path servlet : Option String) (type : Dispatcher)
    (around : Surroundings) :
    Resolves config path servlet type around
      ((Command.resolve config path servlet type).run around) where
  refused e h := by
    rw [run_of_load_error h]
    exact ⟨rfl, rfl, rfl⟩
  unreadable e h he := by
    rw [run_of_load_error h]
    exact text_unreadable _ he
  invalid vs h := by
    rw [run_of_load_error h]
    exact text_invalid _ vs
  noServlet c h hnone := by
    subst hnone
    rw [run_resolve_of_value h rfl]
    exact ⟨rfl, rfl⟩
  unknownServlet c h n hn hunknown := by
    subst hn
    have hresolved : Resolution.ofDescriptor c ⟨path, some n, type⟩ =
        ⟨.error (.unknownServlet n), []⟩ := Resolution.ofDescriptor_of_unknown hunknown
    rw [run_resolve_of_error h (congrArg Reported.value hresolved), hresolved, text_unknownServlet]
    exact ⟨rfl, rfl⟩
  chain c h n hn hdeclared := by
    subst hn
    obtain ⟨s, hs, rfl, filters, hfilters, hbuild, hresolved⟩ :=
      Resolution.ofDescriptor_of_declared (Descriptor.consistent_of_load h) path type hdeclared
    have hwell := Descriptor.validate_eq_ok_iff.1 (Descriptor.validate_of_load h)
    refine ⟨filters, (chainDocument s.name type filters).pretty 0, hfilters,
      parse?_chainDocument s.name type filters, ?_⟩
    rw [run_resolve_of_value h (congrArg Reported.value hresolved), hresolved,
      Table.entries_build hbuild, documentOf, Resolution.document_eq]
    rw [if_congr hwell.mappings_table_eq_nil_iff rfl rfl]
    exact ⟨rfl, rfl⟩
  neverMissing e := by
    cases h : Descriptor.load (around.file config) with
    | error e' =>
      rw [run_of_load_error h]
      simp
    | ok c =>
      have hpresent := Resolution.ofDescriptor_ne_missing (Descriptor.consistent_of_load h)
        ⟨path, servlet, type⟩ e
      cases hvalue : (Resolution.ofDescriptor c ⟨path, servlet, type⟩).value with
      | ok r =>
        rw [run_resolve_of_value h hvalue]
        simp
      | error f =>
        rw [run_resolve_of_error h hvalue]
        intro hending
        cases hending
        exact hpresent hvalue

/-- Two outcomes for files that hold `c` and `c'` differ in nothing but log lines and the warnings
about the log filter: both fail the check in the same way, or print the same document, or fail with
the same message. -/
inductive AlikeButLogs (around around' : Surroundings) (c c' : Descriptor) :
    Outcome → Outcome → Prop where
  | refused (vs : List Violation) (text : String) : AlikeButLogs around around' c c'
      ⟨.failed (.load (.invalid vs)), "", text⟩ ⟨.failed (.load (.invalid vs)), "", text⟩
  | printed (entries : List LogEntry) {text : String} {j : Json} (h : Json.parse? text = some j) :
    AlikeButLogs around around' c c'
      ⟨.completed, logText around c entries ++ (text ++ "\n"), warningText around c⟩
      ⟨.completed, logText around' c' entries ++ (text ++ "\n"), warningText around' c'⟩
  | failed (f : Failure) (entries : List LogEntry) (text : String) :
    AlikeButLogs around around' c c'
      ⟨.failed f, logText around c entries, warningText around c ++ text⟩
      ⟨.failed f, logText around' c' entries, warningText around' c' ++ text⟩

theorem AlikeButLogs.code_eq {c c' : Descriptor} {outcome outcome' : Outcome}
    (h : AlikeButLogs around around' c c' outcome outcome') : outcome.code = outcome'.code := by
  cases h <;> rfl

theorem alikeButLogs_of_observability (path servlet : Option String) (type : Dispatcher)
    {c : Descriptor} {o : Observability} (h : Descriptor.Holds (around.file config) c)
    (h' : Descriptor.Holds (around'.file config) { c with observability := o }) :
    AlikeButLogs around around' c { c with observability := o }
      ((Command.resolve config path servlet type).run around)
      ((Command.resolve config path servlet type).run around') := by
  have hload := Descriptor.load_of_holds h
  have hload' := Descriptor.load_of_holds h'
  -- the check does not look at observability, and neither does the table
  have hvalidate : ({ c with observability := o } : Descriptor).validate = c.validate := rfl
  have hresolved : Resolution.ofDescriptor { c with observability := o } ⟨path, servlet, type⟩ =
    Resolution.ofDescriptor c ⟨path, servlet, type⟩ := rfl
  rw [hvalidate] at hload'
  cases hvalid : c.validate with
  | error vs =>
    rw [hvalid] at hload hload'
    rw [run_of_load_error hload, run_of_load_error hload', text_invalid, text_invalid]
    exact .refused vs _
  | ok _ =>
    rw [hvalid] at hload hload'
    cases hvalue : (Resolution.ofDescriptor c ⟨path, servlet, type⟩).value with
    | ok r =>
      rw [run_resolve_of_value hload hvalue,
        run_resolve_of_value hload' ((congrArg Reported.value hresolved).trans hvalue)]
      exact .printed _ (parse?_documentOf r)
    | error f =>
      have htext := Resolution.text_of_error hvalue (around.wording (around.file config))
        (around'.wording (around'.file config))
      rw [run_resolve_of_error hload hvalue,
        run_resolve_of_error hload' ((congrArg Reported.value hresolved).trans hvalue), htext]
      exact .failed f _ _

theorem run_of_parse {args : List String} {command : Command}
    (h : parse args = .ok (.run command)) (around : Surroundings) :
    run args around = command.run around := by
  rw [run, h]

def siteText : String :=
  "filters=[\x7bname=\"Auth\"\x7d]\nservlets=[\x7bname=\"Echo\"\x7d]\n"
    ++ "filter_mappings=[\x7bfilter=\"Auth\",url_patterns=[\"/*\"],servlet_names=[\"Echo\"]\x7d]\n"

def verboseText : String := "observability.log_level=\"debug\"\n" ++ siteText

def danglingText : String := "filter_mappings=[\x7bfilter=\"Auth\"\x7d]\n"

def auth : Registration := ⟨"Auth", "", .empty, false⟩

def site : Descriptor where
  filters := [auth]
  servlets := [⟨"Echo", "", [], false⟩]
  mappings := [⟨"Auth", ["/*"], ["Echo"], []⟩]

/-- A file with a text under every path, and no log directives in the environment. -/
def holding (text : String) : Surroundings :=
  ⟨fun _ => .ofText text, none, logLine false "now", fun _ => ⟨"", ""⟩⟩

def printedSite : String := "\x7b
  \"dispatcher\": \"REQUEST\",
  \"filters\": [
    \x7b
      \"async_supported\": false,
      \"class\": \"\",
      \"init_params\": \x7b\x7d,
      \"name\": \"Auth\"
    \x7d
  ],
  \"servlet\": \"Echo\"
\x7d"

end CommandLine

end ServletFilters
