import ServletFilters.CommandLine.Run

/-!
What a command that has loaded its descriptor writes beside its own lines: log lines on standard
output, those that the filter in use lets through, and on standard error a warning for each
directive that is left out.

Neither is written where the environment asks for a level less verbose than `debug`, or asks for
nothing and such a level is configured, as long as nothing more urgent is reported.
-/

namespace ServletFilters

def Event.entry? : Event → Option LogEntry
  | .log l => some l
  | .metric _ => none

theorem LogEntry.prefix_component (l : LogEntry) :
    "filter_chain".toList <+: l.component.toList := by
  cases l <;> simp [component]

namespace CommandLine

/-- The text of the log lines for some entries. -/
def logText (around : Surroundings) (c : Descriptor) (entries : List LogEntry) : String :=
  let filter := (LogFilter.inUse around.logRequest c.observability.logLevel).1
  String.join ((entries.filter filter.shows).map fun l => around.line l ++ "\n")

def warningText (around : Surroundings) (c : Descriptor) : String :=
  let ignored := (LogFilter.inUse around.logRequest c.observability.logLevel).2
  String.join (ignored.map fun d => "ignoring `" ++ d.1 ++ "`: " ++ d.2.message ++ "\n")

def loadedEntry (config : String) (c : Descriptor) : LogEntry :=
  .descriptorLoaded config c.filters.length c.servlets.length c.mappings.length

theorem shownEntries_eq (filter : LogFilter) (events : List Event) :
    shownEntries filter events = (events.filterMap Event.entry?).filter filter.shows := by
  induction events with
  | nil => rfl
  | cons e events ih =>
    rw [shownEntries] at ih ⊢
    cases e with
    | log l => by_cases hl : filter.shows l = true <;> simp [Event.entry?, hl, ih]
    | metric m =>
      rw [List.filterMap_cons_none rfl, List.filterMap_cons_none rfl]
      exact ih

theorem asLines_append (lines lines' : List String) :
    asLines (lines ++ lines') = asLines lines ++ asLines lines' := by
  rw [asLines, List.map_append, String.join_append]
  rfl

theorem asLines_shownEntries (around : Surroundings) (config : String) (c : Descriptor)
    (events : List Event) :
    asLines ((shownEntries (LogFilter.inUse around.logRequest c.observability.logLevel).1
      (loaded config c :: events)).map around.line) =
      logText around c (loadedEntry config c :: events.filterMap Event.entry?) := by
  rw [shownEntries_eq, asLines, List.map_map]
  rfl

theorem asLines_ignored (around : Surroundings) (c : Descriptor) :
    asLines ((LogFilter.inUse around.logRequest c.observability.logLevel).2.map ignoredLine) =
      warningText around c := by
  rw [asLines, List.map_map]
  rfl

variable {command : Command} {around : Surroundings} {c : Descriptor}

theorem run_of_load_error {e : LoadError}
    (h : Descriptor.load (around.file command.config) = .error e) :
    command.run around = ⟨.failed (.load e), "",
      (Failure.load e).text (around.wording (around.file command.config))⟩ := by
  simp only [Command.run, h]

theorem run_of_lines (h : Descriptor.load (around.file command.config) = .ok c)
    {lines : List String} (hlines : (act c command).value = .ok lines) :
    command.run around = ⟨.completed,
      logText around c (loadedEntry command.config c :: (act c command).events.filterMap
        Event.entry?) ++ asLines lines, warningText around c⟩ := by
  simp only [Command.run, h, hlines, asLines_append, asLines_shownEntries, asLines_ignored]

theorem run_of_failure (h : Descriptor.load (around.file command.config) = .ok c)
    {f : Failure} (hfailure : (act c command).value = .error f) :
    command.run around = ⟨.failed f,
      logText around c (loadedEntry command.config c :: (act c command).events.filterMap
        Event.entry?),
      warningText around c ++ f.text (around.wording (around.file command.config))⟩ := by
  simp only [Command.run, h, hfailure, asLines_shownEntries, asLines_ignored]

/-! ### Quiet levels -/

/-- The levels that are less verbose than `debug`. -/
def quietLevels : List String := ["off", "error", "warn", "info"]

/-- The level that the environment asks for is quiet, or else the configured one. -/
def IsQuiet (around : Surroundings) (c : Descriptor) : Prop :=
  around.logRequest.getD c.observability.logLevel ∈ quietLevels

instance (around : Surroundings) (c : Descriptor) : Decidable (IsQuiet around c) :=
  inferInstanceAs (Decidable (_ ∈ quietLevels))

/-- The entries that are no more urgent than debugging. -/
def IsForDebugging (l : LogEntry) : Prop := l.level = .debug ∨ l.level = .trace

/-- A filter that goes by a verbosity below that of `debug` and by nothing else. -/
def LogFilter.IsQuiet (f : LogFilter) : Prop :=
  ∃ v < 4, f.directives = [⟨none, false, none, v⟩] ∨
    f.directives = [⟨some "filter_chain", false, none, v⟩]

theorem LogFilter.shows_of_directives {f : LogFilter} {component : Option String} {v : Nat}
    (h : f.directives = [⟨component, false, none, v⟩])
    (hcomponent : component = none ∨ component = some "filter_chain") (l : LogEntry) :
    f.shows l = decide (l.level.verbosity ≤ v) := by
  have hcovers : (⟨component, false, none, v⟩ : Directive).covers l = true := by
    rcases hcomponent with rfl | rfl
    · rfl
    · simpa [Directive.covers, Directive.isForEntries] using l.prefix_component
  simp [LogFilter.shows, LogFilter.verbosityFor, h, hcovers]

theorem LogFilter.IsQuiet.shows_eq_false {f : LogFilter} (hf : f.IsQuiet) {l : LogEntry}
    (hl : IsForDebugging l) : f.shows l = false := by
  obtain ⟨v, hv, hdirectives⟩ := hf
  have hshows : f.shows l = decide (l.level.verbosity ≤ v) := by
    rcases hdirectives with h | h
    · exact LogFilter.shows_of_directives h (.inl rfl) l
    · exact LogFilter.shows_of_directives h (.inr rfl) l
  rw [hshows, decide_eq_false_iff_not]
  rcases hl with hdebug | htrace
  · rw [hdebug, Level.verbosity]
    omega
  · rw [htrace, Level.verbosity]
    omega

theorem ofRequest?_of_quiet : ∀ list ∈ quietLevels, ∃ v < 4,
    (LogFilter.ofRequest? list).map LogFilter.directives = some [⟨none, false, none, v⟩] := by
  decide +kernel

theorem ofLevel_of_quiet : ∀ level ∈ quietLevels, ∃ v < 4,
    (LogFilter.ofLevel level).directives = [⟨some "filter_chain", false, none, v⟩] := by
  decide +kernel

theorem ignored_of_quiet : ∀ level ∈ quietLevels, LogFilter.ignored level = [] := by
  decide +kernel

/-- A quiet level leads to a quiet filter, wherever it is asked for, and nothing is left out. -/
theorem IsQuiet.inUse (h : IsQuiet around c) :
    (LogFilter.inUse around.logRequest c.observability.logLevel).1.IsQuiet ∧
    (LogFilter.inUse around.logRequest c.observability.logLevel).2 = [] := by
  unfold IsQuiet at h
  cases hrequest : around.logRequest with
  | none =>
    rw [hrequest, Option.getD_none] at h
    obtain ⟨v, hv, hdirectives⟩ := ofLevel_of_quiet _ h
    exact ⟨⟨v, hv, .inr hdirectives⟩, ignored_of_quiet _ h⟩
  | some list =>
    rw [hrequest, Option.getD_some] at h
    obtain ⟨v, hv, hasked⟩ := ofRequest?_of_quiet _ h
    obtain ⟨f, hf, hdirectives⟩ := Option.map_eq_some_iff.1 hasked
    have hinUse : LogFilter.inUse (some list) c.observability.logLevel = (f, []) := by
      rw [LogFilter.inUse, Option.bind_some, hf]
    rw [hinUse]
    exact ⟨⟨v, hv, .inl hdirectives⟩, rfl⟩

theorem IsQuiet.logText_eq (h : IsQuiet around c) {entries : List LogEntry}
    (hentries : ∀ l ∈ entries, IsForDebugging l) : logText around c entries = "" := by
  have hshown : entries.filter
      (LogFilter.inUse around.logRequest c.observability.logLevel).1.shows = [] := by
    rw [List.filter_eq_nil_iff]
    intro l hl
    rw [h.inUse.1.shows_eq_false (hentries l hl)]
    exact Bool.false_ne_true
  simp only [logText, hshown]
  rfl

theorem IsQuiet.warningText_eq (h : IsQuiet around c) : warningText around c = "" := by
  simp only [warningText, h.inUse.2]
  rfl

end CommandLine

end ServletFilters
