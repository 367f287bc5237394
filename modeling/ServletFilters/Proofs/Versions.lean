import ServletFilters.Proofs.History

/-!
The store counts its publications, and the serial numbers of snapshots tell apart the moments at
which they were taken.
-/

namespace ServletFilters
open Session

/-- In an earlier store, or in the same one after fewer publications. -/
def Moment.Before (m n : Moment) : Prop :=
  m.store < n.store ∨ (m.store = n.store ∧ m.generation < n.generation)

namespace Moment

theorem Before.trans {m n k : Moment} (hmn : m.Before n) (hnk : n.Before k) : m.Before k := by
  unfold Before at *
  omega

theorem Before.ne {m n : Moment} (h : m.Before n) : m ≠ n := by
  intro heq
  rw [heq] at h
  unfold Before at h
  omega

end Moment

namespace History

theorem moment_before_renew (h : History) (t : Table) : h.moment.Before (h.renew t).moment :=
  .inl (Nat.lt_succ_self h.stores)

theorem moment_before_publish (h : History) (t : Table) :
    h.moment.Before (h.publish t).moment := by
  refine .inr ⟨rfl, ?_⟩
  simp [moment, publish]

/-- The snapshot of a moment: the current one, or one of a table that was shared before. -/
def Dates (h : History) (current : Snapshot) (m : Moment) (x : Snapshot) : Prop :=
  (m.Before h.moment ∧ x.serial < current.serial) ∨ (m = h.moment ∧ x = current)

theorem Dates.serial_eq_iff {h : History} {current x : Snapshot} {m : Moment}
    (d : h.Dates current m x) : x.serial = current.serial ↔ m = h.moment := by
  rcases d with ⟨hm, hx⟩ | ⟨hm, hx⟩
  · exact ⟨fun heq => absurd heq (Nat.ne_of_lt hx), fun heq => absurd heq hm.ne⟩
  · exact ⟨fun _ => hm, fun _ => by rw [hx]⟩

/-- Sharing one more table makes an earlier one of the current snapshot. -/
theorem Dates.onward {h h' : History} {current current' x : Snapshot} {m : Moment}
    (d : h.Dates current m x) (hm : h.moment.Before h'.moment)
    (hserial : current.serial < current'.serial) : h'.Dates current' m x := by
  rcases d with ⟨hbefore, hx⟩ | ⟨rfl, rfl⟩
  · exact .inl ⟨hbefore.trans hm, Nat.lt_trans hx hserial⟩
  · exact .inl ⟨hm, hserial⟩

end History

/-- A session is where a history has led: its store holds the table published last and has counted
the publications, and two of its snapshots are the same just when they are of one moment. -/
structure Tracks (h : History) (s : Session) : Prop where
  generation : s.store.generation = UInt64.ofNat h.published.length
  current : s.store.current.table = h.current
  fresh : s.fresh = s.store.current.serial + 1
  held (name : String) : (s.snapshots.get? name).isSome = (h.taken.get? name).isSome
  dates {name : String} {m : Moment} {x : Snapshot} (hm : h.taken.get? name = some m)
    (hx : s.snapshots.get? name = some x) : h.Dates s.store.current m x
  identity {a b : String} {m n : Moment} {x y : Snapshot} (hm : h.taken.get? a = some m)
    (hn : h.taken.get? b = some n) (hx : s.snapshots.get? a = some x)
    (hy : s.snapshots.get? b = some y) :
    x.serial = y.serial ↔ m = n

namespace Tracks

variable {sources : Named TableSource} {h : History} {s : Session}

theorem initial : Tracks History.initial Session.initial where
  generation := rfl
  current := rfl
  fresh := rfl
  held _ := rfl
  dates hm := by simp [History.initial, Named.get?] at hm
  identity hm := by simp [History.initial, Named.get?] at hm

theorem current_lt_fresh (k : Tracks h s) : s.store.current.serial < s.fresh := by
  have h := k.fresh
  omega

theorem renew (k : Tracks h s) (t : Table) : Tracks (h.renew t) (s.renew t) where
  generation := rfl
  current := rfl
  fresh := rfl
  held := k.held
  dates hm hx := (k.dates hm hx).onward (h.moment_before_renew t) k.current_lt_fresh
  identity := k.identity

theorem publish (k : Tracks h s) (t : Table) : Tracks (h.publish t) (s.publish t).value.1 where
  generation := by
    have hcount : s.store.generation + 1 = UInt64.ofNat (h.published.length + 1) := by
      rw [k.generation, UInt64.ofNat_add]
      rfl
    simpa [Session.publish, Store.publish, History.publish] using hcount
  current := by simp [Session.publish, Store.publish, History.publish, History.current]
  fresh := rfl
  held := k.held
  dates hm hx := (k.dates hm hx).onward (h.moment_before_publish t) k.current_lt_fresh
  identity := k.identity

theorem publishAll (ts : List Table) {h : History} {s : Session} (k : Tracks h s) :
    Tracks (ts.foldl History.publish h) (ts.foldl (fun s t => (s.publish t).value.1) s) := by
  induction ts generalizing h s with
  | nil => exact k
  | cons t ts ih => exact ih (k.publish t)

theorem keepSnapshot (k : Tracks h s) (name : String) :
    Tracks (h.take name) (s.keepSnapshot name) where
  generation := k.generation
  current := k.current
  fresh := k.fresh
  held other := by
    simp only [History.take, Session.keepSnapshot, Named.get?_put]
    by_cases hname : other = name
    · simp [hname]
    · rw [if_neg hname, if_neg hname, k.held]
  dates {other m x} hm hx := by
    simp only [History.take, Session.keepSnapshot, Named.get?_put] at hm hx
    by_cases hname : other = name
    · rw [if_pos hname, Option.some.injEq] at hm hx
      exact .inr ⟨hm.symm, hx.symm⟩
    · rw [if_neg hname] at hm hx
      exact k.dates hm hx
  identity {a b m n x y} hm hn hx hy := by
    simp only [History.take, Session.keepSnapshot, Named.get?_put] at hm hn hx hy
    -- The new snapshot is of the current moment, and the others are dated by the invariant.
    by_cases ha : a = name <;> by_cases hb : b = name
    · rw [if_pos ha, Option.some.injEq] at hm hx
      rw [if_pos hb, Option.some.injEq] at hn hy
      rw [← hm, ← hn, ← hx, ← hy]
      exact iff_of_true rfl rfl
    · rw [if_pos ha, Option.some.injEq] at hm hx
      rw [if_neg hb] at hn hy
      rw [← hm, ← hx, eq_comm, (k.dates hn hy).serial_eq_iff, eq_comm]
    · rw [if_neg ha] at hm hx
      rw [if_pos hb, Option.some.injEq] at hn hy
      rw [← hn, ← hy, (k.dates hm hx).serial_eq_iff]
    · rw [if_neg ha] at hm hx
      rw [if_neg hb] at hn hy
      exact k.identity hm hn hx hy

theorem keepBuilder (k : Tracks h s) (name : String) (x : Snapshot) :
    Tracks h (s.keepBuilder name x) :=
  ⟨k.generation, k.current, k.fresh, k.held, k.dates, k.identity⟩

theorem withChains (k : Tracks h s) (chains : Named (Chain String)) :
    Tracks h { s with chains := chains } :=
  ⟨k.generation, k.current, k.fresh, k.held, k.dates, k.identity⟩

end Tracks

namespace Session

variable {sources : Named TableSource} {s : Session}

/-- A reload of a feed is the publication of its tables in order. -/
theorem reload_value (s : Session) (ts : List Table) :
    (s.reload ts).value = ts.foldl (fun s t => (s.publish t).value.1) s := by
  induction ts generalizing s with
  | nil => rfl
  | cons t ts ih =>
    rw [List.foldl_cons, ← ih]
    simp [reload, Session.publish, share, Store.reload, Nat.add_comm, Nat.add_left_comm]

theorem after_map_publish {tables : List String} {ts : List Table}
    (h : tables.mapM (tableNamed sources) = .ok ts) (s : Session) :
    s.after sources (tables.map .publish) = ts.foldl (fun s t => (s.publish t).value.1) s := by
  induction tables generalizing s ts with
  | nil =>
    cases h
    rfl
  | cons table tables ih =>
    cases ht : tableNamed sources table with
    | error e => simp [List.mapM_cons, ht, bind, Except.bind] at h
    | ok t =>
      cases hts : tables.mapM (tableNamed sources) with
      | error e => simp [List.mapM_cons, ht, hts, bind, Except.bind] at h
      | ok later =>
        have heq : t :: later = ts := by
          simpa [List.mapM_cons, ht, hts, bind, Except.bind, pure, Except.pure] using h
        rw [← heq, List.map_cons, List.foldl_cons, ← ih hts, after_cons,
          step_publish ht]

/-- A reload of a feed does what publishing its tables one by one does. -/
theorem step_reload_eq_after {tables : List String} {ts : List Table}
    (h : tables.mapM (tableNamed sources) = .ok ts) (s : Session) :
    (s.step sources (.reload tables)).1 = s.after sources (tables.map .publish) := by
  rw [step_reload h, after_map_publish h, reload_value]

theorem snapshots_get?_step_snapshot (s : Session) (name : String) :
    (s.step sources (.snapshot name)).1.snapshots.get? name = some s.store.current := by
  show (s.keepSnapshot name).snapshots.get? name = some s.store.current
  rw [keepSnapshot, Named.get?_put, if_pos rfl]

theorem builders_get?_step_builder {origin : Option String} {x : Snapshot}
    (h : s.snapshotOr origin = .ok x) (name : String) :
    (s.step sources (.builder name origin)).1.builders.get? name = some x := by
  rw [step_builder h, keepBuilder, Named.get?_put, if_pos rfl]

end Session

namespace Tracks

variable {sources : Named TableSource} {h : History} {s s' : Session} {st : Step}

theorem effect (k : Tracks h s) (e : Effect sources s st s') : Tracks (h.note sources st) s' := by
  cases e with
  | new ht =>
    simp only [History.note, ht]
    exact k.renew _
  | publish ht =>
    simp only [History.note, ht]
    exact k.publish _
  | reload hts =>
    -- the feed is published table by table, in the session and in the history
    simp only [History.note, hts, reload_value]
    exact k.publishAll _
  | snapshot name => exact k.keepSnapshot name
  | builder => exact k.keepBuilder _ _
  | chains chains hnote =>
    rw [hnote]
    exact k.withChains chains

/-- Every run leads the session to where its history says. -/
theorem after (sources : Named TableSource) (steps : List Step) :
    Tracks (History.ofSteps sources steps) (Session.initial.after sources steps) := by
  induction steps using List.reverseRecOn with
  | nil => exact .initial
  | append_singleton steps st ih =>
    simp only [History.ofSteps, Session.after, List.foldl_append, List.foldl_cons, List.foldl_nil]
    exact ih.effect (effect_step sources _ st)

theorem toNat_generation (k : Tracks h s) (hcount : h.published.length < UInt64.size) :
    s.store.generation.toNat = h.published.length := by
  rw [k.generation, UInt64.toNat_ofNat_of_lt' hcount]

theorem exists_snapshot (k : Tracks h s) {name : String} {m : Moment}
    (hm : h.taken.get? name = some m) : ∃ x, s.snapshots.get? name = some x := by
  apply Option.isSome_iff_exists.1
  rw [k.held, hm]
  rfl

theorem isSame_eq (k : Tracks h s) {a b : String} {m n : Moment} {x y : Snapshot}
    (hm : h.taken.get? a = some m) (hn : h.taken.get? b = some n)
    (hx : s.snapshots.get? a = some x) (hy : s.snapshots.get? b = some y) :
    x.isSame y = decide (m = n) := by
  rw [Snapshot.isSame, Bool.eq_iff_iff, beq_iff_eq, decide_eq_true_iff]
  exact k.identity hm hn hx hy

end Tracks

/-- The store counts its publications and gives out the table published last, and two snapshots are
the same table just when they were taken from one store at one generation. -/
structure Session.Versioned (sources : Named TableSource) (h : History) (s : Session) : Prop where
  generation (hcount : h.published.length < UInt64.size) :
    ∃ n, (s.step sources .generation).2.value = .ok (.generation n) ∧
      n.toNat = h.published.length
  publish (table : String) (t : Table) (ht : tableNamed sources table = .ok t)
    (hcount : h.published.length + 1 < UInt64.size) :
    ∃ n, (s.step sources (.publish table)).2.value = .ok (.generation n) ∧
      n.toNat = h.published.length + 1
  reload (tables : List String) (ts : List Table)
    (hts : tables.mapM (tableNamed sources) = .ok ts) :
    (s.step sources (.reload tables)).1 = s.after sources (tables.map .publish)
  snapshot (name : String) :
    (s.step sources (.snapshot name)).2.value = .ok (.table h.current) ∧
      ∃ x, (s.step sources (.snapshot name)).1.snapshots.get? name = some x ∧ x.table = h.current
  builder (name : String) :
    ∃ x, (s.step sources (.builder name none)).1.builders.get? name = some x ∧
      x.table = h.current
  held (name : String) : (s.snapshots.get? name).isSome = (h.taken.get? name).isSome
  identity (a b : String) (m n : Moment) (hm : h.taken.get? a = some m)
    (hn : h.taken.get? b = some n) :
    (s.step sources (.sameSnapshot a b)).2.value = .ok (.same (decide (m = n)))

theorem Tracks.versioned {sources : Named TableSource} {h : History} {s : Session}
    (k : Tracks h s) : Versioned sources h s where
  generation hcount := ⟨s.store.generation, rfl, k.toNat_generation hcount⟩
  publish table t ht hcount := by
    have hlength : (h.publish t).published.length = h.published.length + 1 := by
      simp [History.publish]
    refine ⟨(s.publish t).value.2, by rw [step_publish ht], ?_⟩
    -- the generation given back is the one that the store now stands at
    have hreturned : (s.publish t).value.2 = (s.publish t).value.1.store.generation := rfl
    rw [hreturned, (k.publish t).toNat_generation (by omega), hlength]
  reload tables ts hts := step_reload_eq_after hts s
  snapshot name := by
    refine ⟨?_, s.store.current, s.snapshots_get?_step_snapshot name, k.current⟩
    rw [← k.current]
    rfl
  builder name := ⟨s.store.current, builders_get?_step_builder rfl name, k.current⟩
  held := k.held
  identity a b m n hm hn := by
    obtain ⟨x, hx⟩ := k.exists_snapshot hm
    obtain ⟨y, hy⟩ := k.exists_snapshot hn
    rw [← k.isSame_eq hm hn hx hy]
    simp [step, perform, named, hx, hy, Reported.silent, bind, Except.bind, pure, Except.pure]

end ServletFilters
