import Mathlib.Data.List.Induction
import ServletFilters.Proofs.Accepted
import ServletFilters.Watch

/-!
Hot reload as a fold: whatever the order in which the file is written, tables are published and
snapshots are taken, the store stands where the accepted descriptors have brought it.
-/

namespace ServletFilters

namespace Watcher

variable {file : FileContent} (w : Watcher)

theorem notice_of_ok {c : Descriptor} (h : Descriptor.load file = .ok c) :
    w.notice file = ⟨some c.table, [.log (.changeDetected w.path)]⟩ := by
  have hload : Table.load file = .ok c.table := map_eq_ok_iff.2 ⟨c, h, rfl⟩
  simp only [notice, hload]

/-- What is reported of a write that is refused with the error `e`. -/
def refusal (file : FileContent) (e : LoadError) : List Event :=
  [.log (.changeDetected w.path), .metric (.reloads .rejected),
    .log (.reloadFailed (e.message (w.wording file)))]

theorem notice_of_error {e : LoadError} (h : Descriptor.load file = .error e) :
    w.notice file = ⟨none, w.refusal file e⟩ := by
  have hload : Table.load file = .error e := map_eq_error_iff.2 h
  simp only [notice, hload]
  rfl

end Watcher

namespace Live

def written : List Step → List FileContent
  | [] => []
  | .write file :: steps => file :: written steps
  | .receive :: steps | .snapshot :: steps => written steps

/-- The descriptors that the writes among the steps hold. A write that is refused holds none. -/
def accepted (steps : List Step) : List Descriptor :=
  (written steps).filterMap Descriptor.accepted?

theorem written_append (steps later : List Step) :
    written (steps ++ later) = written steps ++ written later := by
  induction steps with
  | nil => rfl
  | cons st steps ih => cases st <;> simp [written, ih]

theorem accepted_append (steps later : List Step) :
    accepted (steps ++ later) = accepted steps ++ accepted later := by
  rw [accepted, written_append, List.filterMap_append]
  rfl

/-- The course of a watch told in descriptors: those published, those that were sent and wait for
it, and those that stood in the store when snapshots were taken. -/
structure Course where
  published : List Descriptor := []
  waiting : List Descriptor := []
  taken : List Descriptor := []
  deriving DecidableEq

namespace Course

variable (first : Descriptor)

/-- The descriptor published last, or the first one if none was. -/
def current (c : Course) : Descriptor := c.published.getLastD first

/-- A reception moves the descriptor that has waited longest. -/
def step (c : Course) : Step → Course
  | .write file => { c with waiting := c.waiting ++ (Descriptor.accepted? file).toList }
  | .receive =>
    match c.waiting with
    | [] => c
    | d :: later => { c with published := c.published ++ [d], waiting := later }
  | .snapshot => { c with taken := c.taken ++ [c.current first] }

def ofSteps (steps : List Step) : Course := steps.foldl (step first) {}

theorem ofSteps_concat (steps : List Step) (st : Step) :
    ofSteps first (steps ++ [st]) = (ofSteps first steps).step first st := by
  rw [ofSteps, List.foldl_append]
  rfl

theorem published_append_waiting_step (c : Course) (st : Step) :
    (c.step first st).published ++ (c.step first st).waiting =
      c.published ++ c.waiting ++ accepted [st] := by
  cases st with
  | write file => cases h : Descriptor.accepted? file <;> simp [step, accepted, written, h]
  | receive => cases h : c.waiting <;> simp [step, accepted, written, h]
  | snapshot => simp [step, accepted, written]

/-- Every accepted descriptor is published or waits, in the order of the writes. -/
theorem published_append_waiting (steps : List Step) :
    (ofSteps first steps).published ++ (ofSteps first steps).waiting = accepted steps := by
  induction steps using List.reverseRecOn with
  | nil => rfl
  | append_singleton steps st ih =>
    rw [ofSteps_concat, published_append_waiting_step, ih, accepted_append]

theorem mem_taken {steps : List Step} {d : Descriptor} (h : d ∈ (ofSteps first steps).taken) :
    d ∈ first :: (ofSteps first steps).published := by
  induction steps using List.reverseRecOn with
  | nil => cases h
  | append_singleton steps st ih =>
    rw [ofSteps_concat] at h ⊢
    cases st with
    | write file => exact ih h
    | receive =>
      cases hwaiting : (ofSteps first steps).waiting with
      | nil =>
        simp only [step, hwaiting] at h ⊢
        exact ih h
      | cons c later =>
        simp only [step, hwaiting] at h ⊢
        rw [← List.cons_append]
        exact List.mem_append_left _ (ih h)
    | snapshot =>
      rcases List.mem_append.1 h with h | h
      · exact ih h
      · rw [List.mem_singleton.1 h]
        exact List.getLastD_mem_cons

end Course

/-- A watch that began with `first` stands where its course has led. -/
structure Follows (watcher : Watcher) (first : Descriptor) (c : Course) (l : Live) : Prop where
  watcher : l.watch.watcher = watcher
  feed : l.feed = c.waiting.map Descriptor.table
  generation : l.watch.store.generation = UInt64.ofNat c.published.length
  current : l.watch.store.current.table = (c.current first).table
  taken : l.taken.map (·.table) = c.taken.map Descriptor.table

theorem step_write_of_error {file : FileContent} {e : LoadError}
    (h : Descriptor.load file = .error e) (l : Live) :
    l.step (.write file) = ⟨l, l.watch.watcher.refusal file e⟩ := by
  simp [step, Watcher.notice_of_error _ h]

theorem step_write_of_ok {file : FileContent} {c : Descriptor} (h : Descriptor.load file = .ok c)
    (l : Live) :
    l.step (.write file) =
      ⟨{ l with feed := l.feed ++ [c.table] }, [.log (.changeDetected l.watch.watcher.path)]⟩ := by
  simp [step, Watcher.notice_of_ok _ h]

variable {watcher : Watcher} {first : Descriptor}

theorem Follows.step {c : Course} {l : Live} (h : Follows watcher first c l) (st : Step) :
    Follows watcher first (c.step first st) (l.step st).value := by
  cases st with
  | write file =>
    cases hload : Descriptor.load file with
    | error e =>
      rw [step_write_of_error hload]
      exact { h with feed := by simp [Course.step, Descriptor.accepted?_of_error hload, h.feed] }
    | ok d =>
      have hd : Descriptor.accepted? file = some d := Descriptor.accepted?_eq_some_iff.2 hload
      rw [step_write_of_ok hload]
      exact { h with feed := by simp [Course.step, hd, h.feed] }
  | receive =>
    have hfeed := h.feed
    cases hwaiting : c.waiting with
    | nil =>
      -- nothing has been sent
      rw [hwaiting, List.map_nil] at hfeed
      simpa only [Live.step, hfeed, Course.step, hwaiting, Reported.silent] using h
    | cons d later =>
      rw [hwaiting, List.map_cons] at hfeed
      simp only [Live.step, hfeed, Course.step, hwaiting, Watch.receive, Store.publish]
      exact ⟨h.watcher, rfl, by simp [h.generation], by simp [Course.current], h.taken⟩
  | snapshot =>
    exact { h with taken := by simp [Live.step, Reported.silent, Course.step, h.taken, h.current] }

theorem Follows.after {c : Course} {l : Live} (h : Follows watcher first c l)
    (steps : List Step) :
    Follows watcher first (steps.foldl (Course.step first) c) (l.after steps) := by
  induction steps generalizing c l with
  | nil => exact h
  | cons st steps ih => exact ih (h.step st)

theorem exists_of_start {file : FileContent} {l : Live} (h : start watcher file = .ok l) :
    ∃ first w, Descriptor.load file = .ok first ∧ l = ⟨w, [], []⟩ ∧
      Follows watcher first {} l := by
  obtain ⟨w, hw, rfl⟩ := map_eq_ok_iff.1 h
  obtain ⟨t, ht, rfl⟩ := map_eq_ok_iff.1 hw
  obtain ⟨first, hfirst, rfl⟩ := map_eq_ok_iff.1 ht
  exact ⟨first, _, hfirst, rfl, rfl, rfl, rfl, rfl, rfl⟩

/-- Every table that a reader can build from is that of an accepted descriptor. -/
theorem Follows.alwaysBuilds {steps : List Step} {l : Live}
    (h : Follows watcher first (Course.ofSteps first steps) l) (hfirst : first.Consistent) :
    ∀ s ∈ l.watch.store.current :: l.taken, s.table.AlwaysBuilds := by
  have hconsistent : ∀ d ∈ first :: (Course.ofSteps first steps).published, d.Consistent := by
    intro d hd
    rcases List.mem_cons.1 hd with rfl | hd
    · exact hfirst
    · have haccepted := List.mem_append_left (Course.ofSteps first steps).waiting hd
      rw [Course.published_append_waiting] at haccepted
      exact Descriptor.consistent_of_mem_filterMap haccepted
  intro s hs
  rcases List.mem_cons.1 hs with rfl | hs
  · rw [h.current]
    exact (hconsistent _ List.getLastD_mem_cons).alwaysBuilds
  · have htable : s.table ∈ l.taken.map (·.table) := List.mem_map_of_mem hs
    rw [h.taken] at htable
    obtain ⟨d, hd, hs⟩ := List.mem_map.1 htable
    rw [← hs]
    exact (hconsistent d (Course.mem_taken first hd)).alwaysBuilds

/-- The store and the snapshots of a watch after some steps, and what a further step does. -/
structure Reloads (watcher : Watcher) (first : Descriptor) (steps : List Step) (l : Live) :
    Prop where
  follows : Follows watcher first (Course.ofSteps first steps) l
  order : (Course.ofSteps first steps).published ++ (Course.ofSteps first steps).waiting =
    accepted steps
  emptied (h : l.feed = []) : (Course.ofSteps first steps).published = accepted steps
  builds (s) (h : s ∈ l.watch.store.current :: l.taken) : s.table.AlwaysBuilds
  refused (file e) (h : Descriptor.load file = .error e) :
    l.step (.write file) = ⟨l, [.log (.changeDetected watcher.path), .metric (.reloads .rejected),
      .log (.reloadFailed (e.message (watcher.wording file)))]⟩
  sent (file d) (h : Descriptor.load file = .ok d) : l.step (.write file) =
    ⟨{ l with feed := l.feed ++ [d.table] }, [.log (.changeDetected watcher.path)]⟩
  /-- The table that was sent first is published. -/
  received (t later) (h : l.feed = t :: later) :
    (l.step .receive).value.watch.store.current.table = t ∧
    (l.step .receive).value.watch.store.generation = l.watch.store.generation + 1 ∧
    (l.step .receive).value.feed = later ∧
    (l.step .receive).value.taken = l.taken ∧
    (l.step .receive).events = [.log (.published (l.watch.store.generation + 1) t.size),
      .metric (.reloads .applied)]
  idle (h : l.feed = []) : l.step .receive = ⟨l, []⟩

theorem Follows.reloads {steps : List Step} {l : Live}
    (h : Follows watcher first (Course.ofSteps first steps) l) (hfirst : first.Consistent) :
    Reloads watcher first steps l where
  follows := h
  order := Course.published_append_waiting first steps
  emptied hfeed := by
    have hwaiting : (Course.ofSteps first steps).waiting = [] :=
      List.map_eq_nil_iff.1 (h.feed.symm.trans hfeed)
    rw [← Course.published_append_waiting first steps, hwaiting, List.append_nil]
  builds := h.alwaysBuilds hfirst
  refused file e he := by
    rw [step_write_of_error he, h.watcher]
    rfl
  sent file d hd := by rw [step_write_of_ok hd, h.watcher]
  received t later hfeed := by
    simp [Live.step, hfeed, Watch.receive, Store.publish]
  idle hfeed := by
    simp only [Live.step, hfeed]
    rfl

/-- Each write is followed by the publication of what it sent. -/
def promptly (files : List FileContent) : List Step :=
  files.flatMap fun file => [.write file, .receive]

theorem promptly_cons (file : FileContent) (files : List FileContent) :
    promptly (file :: files) = .write file :: .receive :: promptly files :=
  List.flatMap_cons

theorem after_promptly (w : Watch) (taken : List Snapshot) (files : List FileContent) :
    (⟨w, [], taken⟩ : Live).after (promptly files) = ⟨w.after files, [], taken⟩ := by
  induction files generalizing w with
  | nil => rfl
  | cons file files ih =>
    have hwrite : (⟨w, [], taken⟩ : Live).after [.write file, .receive] =
        ⟨(w.write file).value.1, [], taken⟩ := by
      cases h : Descriptor.load file <;>
        simp [after, step, Watch.write, Watcher.notice_of_ok, Watcher.notice_of_error, h,
          Reported.silent]
    have hrest : (⟨w, [], taken⟩ : Live).after (promptly (file :: files)) =
        ((⟨w, [], taken⟩ : Live).after [.write file, .receive]).after (promptly files) := by
      rw [promptly_cons]
      rfl
    rw [hrest, hwrite, ih]
    rfl

theorem Course.foldl_promptly (published taken : List Descriptor) (files : List FileContent) :
    (promptly files).foldl (Course.step first) ⟨published, [], taken⟩ =
      ⟨published ++ files.filterMap Descriptor.accepted?, [], taken⟩ := by
  induction files generalizing published with
  | nil => simp [promptly]
  | cons file files ih =>
    rw [promptly_cons, List.foldl_cons, List.foldl_cons]
    cases hfile : Descriptor.accepted? file with
    | none =>
      rw [List.filterMap_cons_none hfile, ← ih]
      simp [Course.step, hfile]
    | some d =>
      rw [List.filterMap_cons_some hfile, List.append_cons, ← ih]
      simp [Course.step, hfile]

end Live

namespace Watch

variable (w : Watch)

theorem after_concat (files : List FileContent) (file : FileContent) :
    w.after (files ++ [file]) = ((w.after files).write file).value.1 := by
  rw [after, List.foldl_append]
  rfl

theorem after_take_add_one {files : List FileContent} {k : ℕ} {file : FileContent}
    (h : files[k]? = some file) :
    w.after (files.take (k + 1)) = ((w.after (files.take k)).write file).value.1 := by
  rw [List.take_add_one, h, Option.toList_some, after_concat]

theorem length_run (files : List FileContent) : (w.run files).length = files.length := by
  induction files generalizing w with
  | nil => rfl
  | cons file files ih => exact congrArg (· + 1) (ih _)

theorem getElem?_run (files : List FileContent) (k : ℕ) :
    (w.run files)[k]? = files[k]?.map (w.after (files.take k)).write := by
  induction files generalizing w k with
  | nil => rfl
  | cons file files ih =>
    cases k with
    | zero => rfl
    | succ k => exact ih (w.write file).value.1 k

theorem watcher_after (files : List FileContent) : (w.after files).watcher = w.watcher := by
  induction files generalizing w with
  | nil => rfl
  | cons file files ih =>
    have hwrite : (w.write file).value.1.watcher = w.watcher := by
      simp only [write]
      split <;> rfl
    exact (ih (w.write file).value.1).trans hwrite

end Watch

namespace Live

variable {watcher : Watcher} {first : Descriptor}

/-- The descriptors that are accepted among some texts. -/
def acceptedTexts (texts : List String) : List Descriptor :=
  texts.filterMap fun text => (Descriptor.parse text).toOption

theorem filterMap_accepted?_map_ofText (texts : List String) :
    (texts.map FileContent.ofText).filterMap Descriptor.accepted? = acceptedTexts texts := by
  rw [List.filterMap_map]
  apply List.filterMap_congr
  intro text _
  simp [Descriptor.accepted?]

/-- A run of writes in which every table is published before the next write. -/
structure Runs (w : Watch) (first : Descriptor) (texts : List String) : Prop where
  generation : (w.after (texts.map .ofText)).store.generation =
    UInt64.ofNat (acceptedTexts texts).length
  current : (w.after (texts.map .ofText)).store.current.table =
    ((acceptedTexts texts).getLastD first).table
  builds : (w.after (texts.map .ofText)).store.current.table.AlwaysBuilds
  length : (w.run (texts.map .ofText)).length = texts.length
  applied (k text d) (hk : texts[k]? = some text) (h : Descriptor.parse text = .ok d) :
    (w.run (texts.map .ofText))[k]? = some (Reported.mk
      (w.after ((texts.take (k + 1)).map .ofText), .applied)
      [.log (.changeDetected w.watcher.path),
        .log (.published (.ofNat (acceptedTexts (texts.take (k + 1))).length) d.table.size),
        .metric (.reloads .applied)])
  /-- A refused write is reported and leaves the watch as the writes before it did. -/
  rejected (k text e) (hk : texts[k]? = some text) (h : Descriptor.parse text = .error e) :
    (w.run (texts.map .ofText))[k]? = some (Reported.mk
      (w.after ((texts.take k).map .ofText), .rejected)
      [.log (.changeDetected w.watcher.path), .metric (.reloads .rejected),
        .log (.reloadFailed (e.message (w.watcher.wording (.ofText text))))])

/-- After the writes of some files the store stands at the last one accepted. -/
theorem Follows.promptly {w : Watch} (h : Follows watcher first {} ⟨w, [], []⟩)
    (files : List FileContent) :
    Follows watcher first (Course.ofSteps first (promptly files)) ⟨w.after files, [], []⟩ := by
  rw [← after_promptly]
  exact h.after (Live.promptly files)

theorem Follows.runs {w : Watch} (h : Follows watcher first {} ⟨w, [], []⟩)
    (hfirst : first.Consistent) (texts : List String) : Runs w first texts := by
  have hcourse (texts : List String) : (Course.ofSteps first (Live.promptly
      (texts.map .ofText))).published = acceptedTexts texts := by
    rw [Course.ofSteps, Course.foldl_promptly, filterMap_accepted?_map_ofText, List.nil_append]
  have hgeneration (texts : List String) : (w.after (texts.map .ofText)).store.generation =
      UInt64.ofNat (acceptedTexts texts).length := by
    rw [(h.promptly (texts.map .ofText)).generation, hcourse]
  refine ⟨hgeneration texts, ?_, ?_, ?_, ?_, ?_⟩
  · rw [(h.promptly (texts.map .ofText)).current, Course.current, hcourse]
  · exact (h.promptly (texts.map .ofText)).alwaysBuilds hfirst _ List.mem_cons_self
  · rw [Watch.length_run, List.length_map]
  · intro k text d hk hparse
    have hload : Descriptor.load (.ofText text) = .ok d :=
      (Descriptor.load_ofText text).trans hparse
    have hfile : (texts.map FileContent.ofText)[k]? = some (.ofText text) := by simp [hk]
    have hwrite : (w.after ((texts.take k).map .ofText)).write (.ofText text) =
        ⟨(w.after ((texts.take (k + 1)).map .ofText), .applied),
          [.log (.changeDetected w.watcher.path),
            .log (.published ((w.after ((texts.take k).map .ofText)).store.generation + 1)
              d.table.size),
            .metric (.reloads .applied)]⟩ := by
      rw [List.map_take, List.map_take, Watch.after_take_add_one w hfile]
      simp [Watch.write, Watcher.notice_of_ok _ hload, Watch.watcher_after, Watch.receive,
        Store.publish]
    have hcount : acceptedTexts (texts.take (k + 1)) = acceptedTexts (texts.take k) ++ [d] := by
      rw [List.take_add_one, hk, acceptedTexts, List.filterMap_append]
      simp [acceptedTexts, hparse, Except.toOption]
    rw [Watch.getElem?_run, hfile, ← List.map_take, Option.map_some, hwrite, hgeneration, hcount,
      List.length_append, UInt64.ofNat_add]
    rfl
  · intro k text e hk hparse
    have hload : Descriptor.load (.ofText text) = .error e :=
      (Descriptor.load_ofText text).trans hparse
    have hfile : (texts.map FileContent.ofText)[k]? = some (.ofText text) := by simp [hk]
    rw [Watch.getElem?_run, hfile, ← List.map_take, Option.map_some]
    simp only [Watch.write, Watcher.notice_of_error _ hload, Watch.watcher_after]
    rfl

/-- The store follows the accepted descriptors through every interleaving of writes, publications
and snapshots. A refused write is reported and changes nothing, and no build fails at any time. If
every table sent is published before the next write, the store stands at the last accepted text. -/
theorem reload_follows_accepted {initial : String} {l : Live}
    (hstart : start watcher (.ofText initial) = .ok l) :
    ∃ first, Descriptor.parse initial = .ok first ∧
      (∀ steps, Reloads watcher first steps (l.after steps)) ∧
      ∀ texts, Runs l.watch first texts := by
  obtain ⟨first, w, hfirst, rfl, hfollows⟩ := exists_of_start hstart
  have hconsistent := Descriptor.consistent_of_load hfirst
  refine ⟨first, Descriptor.load_ofText initial ▸ hfirst, ?_, hfollows.runs hconsistent⟩
  intro steps
  exact (hfollows.after steps).reloads hconsistent

def guardedText : String :=
  "[[filters]]\nname = \"Auth\"\n[[filter_mappings]]\nfilter = \"Auth\"\nurl_patterns = [\"/*\"]\n"

def guarded : Descriptor where
  filters := [⟨"Auth", "", .empty, false⟩]
  mappings := [⟨"Auth", ["/*"], [], []⟩]

/-- Texts that are refused for their syntax, their schema and their content stand between two that
are accepted. -/
def mixedTexts : List String := [
  guardedText, "[[filters", "filters = 1", "[[filter_mappings]]\nfilter = \"Ghost\"\n", ""]

/-- The second descriptor is still to be published. -/
def mixedSteps : List Step :=
  [.write (.ofText guardedText), .snapshot, .receive, .snapshot] ++
    mixedTexts.tail.map fun text => .write (.ofText text)

def guardedWatcher : Watcher := ⟨"filters.toml", fun _ => ⟨"invalid document", ""⟩⟩

theorem reload_follows_accepted_mixed :
    ∃ l, start guardedWatcher (.ofText "") = .ok l ∧
      (l.after mixedSteps).watch.store.generation = 1 ∧
      (l.after mixedSteps).watch.store.current.table = guarded.table ∧
      (l.after mixedSteps).feed = [({} : Descriptor).table] ∧
      (l.after mixedSteps).taken.map (·.table) = [({} : Descriptor).table, guarded.table] ∧
      (l.watch.after (mixedTexts.map .ofText)).store.generation = 2 ∧
      (l.watch.after (mixedTexts.map .ofText)).store.current.table = ({} : Descriptor).table ∧
      (l.watch.run (mixedTexts.map .ofText)).length = 5 ∧
      (l.watch.run (mixedTexts.map .ofText))[0]? = some (Reported.mk
        (l.watch.after [.ofText guardedText], .applied)
        [.log (.changeDetected "filters.toml"), .log (.published 1 1),
          .metric (.reloads .applied)]) ∧
      (l.watch.run (mixedTexts.map .ofText))[3]? = some (Reported.mk
        (l.watch.after ((mixedTexts.take 3).map .ofText), .rejected)
        [.log (.changeDetected "filters.toml"), .metric (.reloads .rejected),
          .log (.reloadFailed ("Validation failed: "
            ++ "filter mapping #0 references undeclared filter 'Ghost', "
            ++ "filter mapping #0 for 'Ghost' has no url patterns or servlet names"))]) := by
  have hempty : Descriptor.parse "" = .ok {} := by decide +kernel
  have hguarded : Descriptor.parse guardedText = .ok guarded := by decide +kernel
  have hghost : Descriptor.parse "[[filter_mappings]]\nfilter = \"Ghost\"\n" =
      .error (.invalid [.unknownFilter 0 "Ghost", .emptyMapping 0 "Ghost"]) := by decide +kernel
  have haccepted : acceptedTexts mixedTexts = [guarded, {}] := by decide +kernel
  have hone : acceptedTexts (mixedTexts.take 1) = [guarded] := by decide +kernel
  have hcourse : Course.ofSteps {} mixedSteps = ⟨[guarded], [{}], [{}, guarded]⟩ := by
    decide +kernel
  have hstart : start guardedWatcher (.ofText "") =
      .ok ⟨⟨guardedWatcher, Store.ofSnapshot ⟨0, ({} : Descriptor).table⟩, 1⟩, [], []⟩ := by
    simp [start, Watch.start, Table.load, hempty, Except.map]
  obtain ⟨first, hfirst, hreloads, hruns⟩ := reload_follows_accepted hstart
  obtain rfl : {} = first := Except.ok.inj (hempty.symm.trans hfirst)
  have hfollows := (hreloads mixedSteps).follows
  rw [hcourse] at hfollows
  have hrun := hruns mixedTexts
  refine ⟨_, hstart, hfollows.generation, hfollows.current, hfollows.feed, hfollows.taken, ?_, ?_,
    hrun.length, ?_, hrun.rejected 3 _ _ rfl hghost⟩
  · rw [hrun.generation, haccepted]
    rfl
  · rw [hrun.current, haccepted]
    rfl
  · have happlied := hrun.applied 0 guardedText guarded rfl hguarded
    rw [Nat.zero_add, hone] at happlied
    exact happlied

end Live

end ServletFilters
