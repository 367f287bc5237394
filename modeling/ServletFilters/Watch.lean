import ServletFilters.Loading
import ServletFilters.Store

/-!
Hot reload: every write to the descriptor's file is loaded; a table that loads is sent on and
published, and one that does not leaves the store as it is.
-/

namespace ServletFilters

/-- What looks after a file: the path of it, and the words in which the reader of documents refuses
what it may come to hold. -/
structure Watcher where
  path : String
  wording : FileContent → Wording

/-- A table that loads is sent on. A failure is counted, and logged with its message. -/
def Watcher.notice (w : Watcher) (file : FileContent) : Reported (Option Table) :=
  match Table.load file with
  | .ok t => ⟨some t, [.log (.changeDetected w.path)]⟩
  | .error e =>
    ⟨none, [.log (.changeDetected w.path), .metric (.reloads .rejected),
      .log (.reloadFailed (e.message (w.wording file)))]⟩

/-- A store that follows a file, and the serial number for the next table. -/
structure Watch where
  watcher : Watcher
  store : Store
  fresh : Nat

namespace Watch

/-- The first load of the file fills the store. -/
def start (watcher : Watcher) (file : FileContent) : Except LoadError Watch :=
  (Table.load file).map fun t => ⟨watcher, Store.ofSnapshot ⟨0, t⟩, 1⟩

/-- The store's part: a table that was sent is published. -/
def receive (w : Watch) (t : Table) : Reported Watch :=
  let published := w.store.publish ⟨w.fresh, t⟩
  ⟨{ w with store := published.value.1, fresh := w.fresh + 1 },
    published.events ++ [.metric (.reloads .applied)]⟩

/-- A write after which the table that it sends, if any, is published at once. -/
def write (w : Watch) (file : FileContent) : Reported (Watch × ReloadOutcome) :=
  let noticed := w.watcher.notice file
  match noticed.value with
  | some t =>
    let received := w.receive t
    ⟨(received.value, .applied), noticed.events ++ received.events⟩
  | none => ⟨(w, .rejected), noticed.events⟩

/-- The writes of a run: the state after each, its outcome, and what it reported. -/
def run (w : Watch) : List FileContent → List (Reported (Watch × ReloadOutcome))
  | [] => []
  | file :: files =>
    let done := w.write file
    done :: run done.value.1 files

/-- The state after some writes. -/
def after (w : Watch) (files : List FileContent) : Watch :=
  files.foldl (fun w file => (w.write file).value.1) w

end Watch

/-- A watch whose parts run on their own. Tables that were sent stand in the feed until they are
published, and readers keep the snapshots that they take. -/
structure Live where
  watch : Watch
  feed : List Table
  taken : List Snapshot

namespace Live

inductive Step where
  | write (file : FileContent)
  | receive
  | snapshot

def start (watcher : Watcher) (file : FileContent) : Except LoadError Live :=
  (Watch.start watcher file).map fun w => ⟨w, [], []⟩

def step (l : Live) : Step → Reported Live
  | .write file =>
    let noticed := l.watch.watcher.notice file
    ⟨{ l with feed := l.feed ++ noticed.value.toList }, noticed.events⟩
  | .receive =>
    match l.feed with
    | [] => .silent l
    | t :: later =>
      let received := l.watch.receive t
      ⟨{ l with watch := received.value, feed := later }, received.events⟩
  | .snapshot => .silent { l with taken := l.taken ++ [l.watch.store.current] }

/-- The state after some steps. -/
def after (l : Live) (steps : List Step) : Live := steps.foldl (fun l st => (l.step st).value) l

end Live

end ServletFilters
