import ServletFilters.Proofs.Versions

/-!
A builder answers as the store did when it was taken, or when the snapshot was that it comes from,
whatever is published, reloaded or made anew later.
-/

namespace ServletFilters
open Session

namespace Session

variable {sources : Named TableSource} {s s' : Session} {st : Step}

theorem Effect.builders_get? (e : Effect sources s st s') {name : String}
    (hst : ∀ origin, st ≠ .builder name origin) :
    s'.builders.get? name = s.builders.get? name := by
  cases e with
  | @builder keepAs origin x h =>
    have hne : name ≠ keepAs := fun heq => hst origin (by rw [heq])
    rw [keepBuilder, Named.get?_put, if_neg hne]
  | _ => rfl

theorem Effect.snapshots_get? (e : Effect sources s st s') {name : String}
    (hst : st ≠ .snapshot name) : s'.snapshots.get? name = s.snapshots.get? name := by
  cases e with
  | snapshot keepAs =>
    have hne : name ≠ keepAs := fun heq => hst (by rw [heq])
    rw [keepSnapshot, Named.get?_put, if_neg hne]
  | _ => rfl

/-- What each step of a run leaves alone, the run leaves alone. -/
theorem observe_after {α : Type} (observe : Session → α) {later : List Step}
    (h : ∀ st ∈ later, ∀ s : Session, observe (s.step sources st).1 = observe s) (s : Session) :
    observe (s.after sources later) = observe s := by
  induction later generalizing s with
  | nil => rfl
  | cons st later ih =>
    have hlater : ∀ x ∈ later, ∀ s : Session, observe (s.step sources x).1 = observe s := by
      intro x hx
      exact h x (List.mem_cons_of_mem st hx)
    rw [after_cons, ih hlater]
    exact h st List.mem_cons_self s

theorem builders_get?_after {name : String} {later : List Step}
    (h : ∀ st ∈ later, ∀ origin, st ≠ .builder name origin) (s : Session) :
    (s.after sources later).builders.get? name = s.builders.get? name := by
  apply observe_after fun s => s.builders.get? name
  intro st hst s
  exact (effect_step sources s st).builders_get? (h st hst)

theorem snapshots_get?_after {name : String} {later : List Step}
    (h : ∀ st ∈ later, st ≠ .snapshot name) (s : Session) :
    (s.after sources later).snapshots.get? name = s.snapshots.get? name := by
  apply observe_after fun s => s.snapshots.get? name
  intro st hst s
  exact (effect_step sources s st).snapshots_get? (h st hst)

/-- Every lookup and every build gets the same answer, with the same reports, from one builder of
one session and from another of another. Without a name it is the store's. -/
def AnswersAs (sources : Named TableSource) (s : Session) (b : Option String) (s' : Session)
    (b' : Option String) : Prop :=
  (∀ name, (s.step sources (.lookup name b)).2 = (s'.step sources (.lookup name b')).2) ∧
    ∀ request keepAs, (s.step sources (.build request b keepAs)).2 =
      (s'.step sources (.build request b' keepAs)).2

/-- Sessions differ for lookups and builds in nothing but the builder. -/
theorem answersAs_of_builderOr {b b' : Option String} (h : s.builderOr b = s'.builderOr b') :
    AnswersAs sources s b s' b' := by
  constructor
  · intro name
    cases hb : s'.builderOr b' <;>
      simp [step, perform, h, hb, Reported.silent, bind, Except.bind, pure, Except.pure]
  · intro request keepAs
    cases hb : s'.builderOr b' with
    | error e => simp [step, perform, h, hb, Reported.silent]
    | ok x =>
      cases hbuilt : (request.build x.table).value <;>
        simp [step, perform, h, hb, hbuilt]

theorem builderOr_after {name : String} {x : Snapshot} {later : List Step}
    (h : ∀ st ∈ later, ∀ origin, st ≠ .builder name origin)
    (hx : s.builders.get? name = some x) :
    (s.after sources later).builderOr (some name) = .ok x := by
  have hkept : (s.after sources later).builders.get? name = some x :=
    (builders_get?_after h s).trans hx
  simp [builderOr, named, hkept]

/-- A builder taken from the store goes on answering as the store did. -/
theorem answersAs_of_builder (s : Session) {name : String} {later : List Step}
    (h : ∀ st ∈ later, ∀ origin, st ≠ .builder name origin) :
    AnswersAs sources (s.after sources (.builder name none :: later)) (some name) s none := by
  have hkept : (s.step sources (.builder name none)).1.builders.get? name = some s.store.current :=
    builders_get?_step_builder rfl name
  rw [after_cons]
  exact answersAs_of_builderOr (builderOr_after h hkept)

/-- A builder taken from a snapshot answers as the store did when the snapshot was taken. -/
theorem answersAs_of_snapshot (s : Session) {a name : String} {between later : List Step}
    (hbetween : ∀ st ∈ between, st ≠ .snapshot a)
    (hlater : ∀ st ∈ later, ∀ origin, st ≠ .builder name origin) :
    AnswersAs sources (s.after sources (.snapshot a :: between ++ .builder name (some a) :: later))
      (some name) s none := by
  -- the snapshot is still held when the builder is taken from it
  have hheld : ((s.step sources (.snapshot a)).1.after sources between).snapshots.get? a =
      some s.store.current :=
    (snapshots_get?_after hbetween _).trans (s.snapshots_get?_step_snapshot a)
  have hkept : ((((s.step sources (.snapshot a)).1.after sources between).step sources
      (.builder name (some a))).1).builders.get? name = some s.store.current :=
    builders_get?_step_builder (by simp [snapshotOr, named, hheld]) name
  rw [List.cons_append, after_cons, after_append, after_cons]
  exact answersAs_of_builderOr (builderOr_after hlater hkept)

/-- Builders answer for good as the store did when they, or the snapshots they come from, were
taken. -/
structure Isolated (sources : Named TableSource) (s : Session) : Prop where
  builder (name : String) (later : List Step)
    (hlater : ∀ st ∈ later, ∀ origin, st ≠ .builder name origin) :
    AnswersAs sources (s.after sources (.builder name none :: later)) (some name) s none
  snapshot (a name : String) (between later : List Step)
    (hbetween : ∀ st ∈ between, st ≠ .snapshot a)
    (hlater : ∀ st ∈ later, ∀ origin, st ≠ .builder name origin) :
    AnswersAs sources (s.after sources (.snapshot a :: between ++ .builder name (some a) :: later))
      (some name) s none

theorem isolated (sources : Named TableSource) (s : Session) : Isolated sources s where
  builder _ _ hlater := s.answersAs_of_builder hlater
  snapshot _ _ _ _ hbetween hlater := s.answersAs_of_snapshot hbetween hlater

/-- After any run of steps, the store has counted what it was given, snapshots are told apart by
their moments, and what is taken from the store keeps its answers. -/
theorem versioned_and_isolated (sources : Named TableSource) (past : List Step) :
    Versioned sources (History.ofSteps sources past) (initial.after sources past) ∧
      Isolated sources (initial.after sources past) :=
  ⟨(Tracks.after sources past).versioned, isolated sources _⟩

/-- An equal table published again is another table, and so is the first one of a new store. -/
theorem versioned_and_isolated_republished :
    let sources : Named TableSource := [("A", .declarations [.filter "A" none none none])]
    let past : List Step := [.new "A", .snapshot "first", .publish "A", .snapshot "one",
      .snapshot "again", .reload ["A", "A"], .snapshot "three", .new "A", .snapshot "renewed"]
    let s := initial.after sources past
    (s.step sources (.sameSnapshot "one" "again")).2.value = .ok (.same true) ∧
      (s.step sources (.sameSnapshot "one" "three")).2.value = .ok (.same false) ∧
      (s.step sources (.sameSnapshot "first" "renewed")).2.value = .ok (.same false) := by
  intro sources past s
  have h := (versioned_and_isolated sources past).1
  refine ⟨?_, ?_, ?_⟩
  · exact h.identity "one" "again" ⟨1, 1⟩ ⟨1, 1⟩ (by decide +kernel) (by decide +kernel)
  · exact h.identity "one" "three" ⟨1, 1⟩ ⟨1, 3⟩ (by decide +kernel) (by decide +kernel)
  · exact h.identity "first" "renewed" ⟨1, 0⟩ ⟨2, 0⟩ (by decide +kernel) (by decide +kernel)

end Session

end ServletFilters
