import ServletFilters.Dispatcher

/-!
Sets of dispatcher types as finite sets. Through any run of insertions and collections a set holds
what a plain list of the types given to it holds, and its byte is made of their bits alone.
-/

namespace ServletFilters

namespace DispatcherSet

theorem contains_foldl_insert (ts : List Dispatcher) (s : DispatcherSet) (u : Dispatcher) :
    (ts.foldl insert s).contains u = (decide (u ∈ ts) || s.contains u) := by
  induction ts generalizing s with
  | nil => simp
  | cons t ts ih =>
    rw [List.foldl_cons, ih, contains_insert]
    by_cases htu : t = u
    · simp [htu]
    · have hut : u ≠ t := fun h => htu h.symm
      simp [htu, hut]

@[simp]
theorem contains_ofList (ts : List Dispatcher) (u : Dispatcher) :
    (ofList ts).contains u = decide (u ∈ ts) := by
  rw [ofList, contains_foldl_insert, contains_empty, Bool.or_false]

/-- The bits of the types agree by membership, and the bits above them are not set. -/
theorem bits_eq_of_contains_eq {s s' : DispatcherSet} (h : ∀ t, s.contains t = s'.contains t) :
    s.bits = s'.bits := by
  apply BitVec.eq_of_getLsbD_eq
  intro i _
  by_cases hi : i < 5
  · obtain ⟨t, rfl⟩ := Dispatcher.exists_index_eq hi
    rw [← contains_eq_getLsbD, ← contains_eq_getLsbD, h]
  · rw [s.unused i (by omega), s'.unused i (by omega)]

theorem eq_of_bits_eq {s s' : DispatcherSet} (h : s.bits = s'.bits) : s = s' := by
  cases s
  cases s'
  exact (DispatcherSet.mk.injEq ..).mpr h

@[ext]
theorem eq_of_contains_eq {s s' : DispatcherSet} (h : ∀ t, s.contains t = s'.contains t) :
    s = s' :=
  eq_of_bits_eq (bits_eq_of_contains_eq h)

theorem isEmpty_iff {s : DispatcherSet} : s.isEmpty = true ↔ ∀ t, s.contains t = false := by
  unfold isEmpty
  constructor
  · intro h t
    simp [contains, beq_iff_eq.1 h]
  · intro h
    have hempty : s = empty := eq_of_contains_eq fun t => (h t).trans (contains_empty t).symm
    rw [hempty]
    rfl

theorem ofList_toList (s : DispatcherSet) : ofList s.toList = s := by
  ext t
  rw [contains_ofList, Bool.eq_iff_iff, decide_eq_true_iff, mem_toList]

theorem toList_pairwise (s : DispatcherSet) :
    s.toList.Pairwise (fun t u => t.index < u.index) := by
  apply List.Pairwise.filter
  decide

theorem insert_comm (s : DispatcherSet) (t u : Dispatcher) :
    (s.insert t).insert u = (s.insert u).insert t := by
  ext v
  simp only [contains_insert]
  exact Bool.or_left_comm ..

theorem insert_of_contains {s : DispatcherSet} {t : Dispatcher} (h : s.contains t = true) :
    s.insert t = s := by
  ext u
  by_cases htu : t = u
  · rw [contains_insert, ← htu, h, Bool.or_true]
  · simp [htu]

theorem bits_foldl_insert (ts : List Dispatcher) (s : DispatcherSet) :
    (ts.foldl insert s).bits = (ts.map Dispatcher.bit).foldl (· ||| ·) s.bits := by
  induction ts generalizing s with
  | nil => rfl
  | cons t ts ih => exact ih (s.insert t)

/-! ### Runs -/

/-- How a set begins. -/
inductive Start where
  | empty
  | requestOnly
  | all
  | collected (ts : List Dispatcher)

/-- A type is put in, or a list made of the members is collected in their place. -/
inductive Step where
  | insert (t : Dispatcher)
  | collect (choose : List Dispatcher → List Dispatcher)

structure Run where
  start : Start
  steps : List Step

/-- The types of a list, each once and in declaration order. -/
def listed (ts : List Dispatcher) : List Dispatcher := Dispatcher.all.filter (· ∈ ts)

def Start.set : Start → DispatcherSet
  | .empty => DispatcherSet.empty
  | .requestOnly => DispatcherSet.requestOnly
  | .all => DispatcherSet.all
  | .collected ts => ofList ts

def Start.given : Start → List Dispatcher
  | .empty => []
  | .requestOnly => [.request]
  | .all => [.request, .forward, .include, .async, .error]
  | .collected ts => ts

namespace Step

def apply (s : DispatcherSet) : Step → DispatcherSet
  | .insert t => s.insert t
  | .collect choose => ofList (choose s.toList)

/-- The step on a list of all that was given, in which types may be repeated. -/
def give (ts : List Dispatcher) : Step → List Dispatcher
  | .insert t => ts ++ [t]
  | .collect choose => choose (listed ts)

end Step

namespace Run

def set (r : Run) : DispatcherSet := r.steps.foldl Step.apply r.start.set

def given (r : Run) : List Dispatcher := r.steps.foldl Step.give r.start.given

/-- The run with more steps behind it. -/
def onward (r : Run) (steps : List Step) : Run := ⟨r.start, r.steps ++ steps⟩

theorem set_onward (r : Run) (steps : List Step) :
    (r.onward steps).set = steps.foldl Step.apply r.set :=
  List.foldl_append

end Run

theorem toList_ofList (ts : List Dispatcher) : (ofList ts).toList = listed ts := by
  apply List.filter_congr
  intro t _
  exact contains_ofList ts t

theorem Start.set_eq_ofList (start : Start) : start.set = ofList start.given := by
  cases start <;> rfl

theorem Step.apply_ofList (ts : List Dispatcher) (step : Step) :
    step.apply (ofList ts) = ofList (step.give ts) := by
  cases step with
  | insert t => simp [apply, give, ofList]
  | collect choose => rw [apply, give, toList_ofList]

/-- A run leaves the set that the list of all that was given is collected into. -/
theorem Run.set_eq_ofList (r : Run) : r.set = ofList r.given := by
  have hsteps : ∀ (steps : List Step) (ts : List Dispatcher),
      steps.foldl Step.apply (ofList ts) = ofList (steps.foldl Step.give ts) := by
    intro steps
    induction steps with
    | nil => exact fun _ => rfl
    | cons step steps ih =>
      intro ts
      rw [List.foldl_cons, step.apply_ofList]
      exact ih _
  rw [set, given, r.start.set_eq_ofList]
  exact hsteps _ _

/-- The set is that of the types in the list. Its byte is made of their bits, and its members come
each once and in the order of declaration. -/
structure Faithful (s : DispatcherSet) (ts : List Dispatcher) : Prop where
  contains : ∀ t, s.contains t = true ↔ t ∈ ts
  bits : s.bits = (ts.map Dispatcher.bit).foldl (· ||| ·) 0
  members : ∀ t, t ∈ s.toList ↔ t ∈ ts
  ordered : s.toList.Pairwise (fun t u => t.index < u.index)
  collected : ofList s.toList = s
  isEmpty : s.isEmpty = true ↔ ∀ t, s.contains t = false

theorem faithful_ofList (ts : List Dispatcher) : (ofList ts).Faithful ts where
  contains t := by rw [contains_ofList, decide_eq_true_iff]
  bits := bits_foldl_insert ts empty
  members t := by rw [mem_toList, contains_ofList, decide_eq_true_iff]
  ordered := toList_pairwise _
  collected := ofList_toList _
  isEmpty := isEmpty_iff

/-- A list is collected into a faithful set of its types, and every run of insertions and collections
leaves a faithful set of what was given. Two runs end in the same byte if and only if their sets
contain the same types, and neither the order nor the repetition of insertions shows later. -/
theorem runs_faithful :
    (∀ ts, (ofList ts).Faithful ts) ∧
    (∀ r : Run, r.set.Faithful r.given) ∧
    (∀ r r' : Run, (r.set.bits = r'.set.bits ↔ ∀ t, r.set.contains t = r'.set.contains t) ∧
      (r.set = r'.set ↔ r.set.bits = r'.set.bits)) ∧
    (∀ (r : Run) (t u : Dispatcher) (later : List Step),
      (r.onward (.insert t :: .insert u :: later)).set =
        (r.onward (.insert u :: .insert t :: later)).set) ∧
    ∀ (r : Run) (t : Dispatcher) (us : List Dispatcher) (later : List Step),
      (r.onward (.insert t :: (us.map .insert ++ .insert t :: later))).set =
        (r.onward (.insert t :: (us.map .insert ++ later))).set := by
  refine ⟨faithful_ofList, ?_, ?_, ?_, ?_⟩
  · intro r
    rw [r.set_eq_ofList]
    exact faithful_ofList r.given
  · intro r r'
    exact ⟨⟨fun h t => by rw [eq_of_bits_eq h], bits_eq_of_contains_eq⟩, congrArg _, eq_of_bits_eq⟩
  · intro r t u later
    simp only [Run.set_onward, List.foldl_cons, Step.apply, insert_comm]
  · intro r t us later
    have hinserted : (us.map Step.insert).foldl Step.apply (r.set.insert t) =
        us.foldl insert (r.set.insert t) := List.foldl_map
    have hcontains : (us.foldl insert (r.set.insert t)).contains t = true := by
      simp [contains_foldl_insert]
    simp only [Run.set_onward, List.foldl_cons, List.foldl_append, Step.apply, hinserted,
      insert_of_contains hcontains]

example : (Run.set ⟨.all, [.collect (·.drop 3), .insert .async, .insert .request]⟩).toList =
    [.request, .async, .error] := by decide

end DispatcherSet

end ServletFilters
