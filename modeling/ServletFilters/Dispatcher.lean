/-!
The five ways in which a request can reach a servlet, their names, and sets of them.
-/

namespace ServletFilters

inductive Dispatcher where
  | request
  | forward
  | include
  | async
  | error
  deriving DecidableEq, Repr

/-- A text that names no dispatcher type. -/
structure UnknownDispatcher where
  text : String
  deriving DecidableEq, Repr

def UnknownDispatcher.message (u : UnknownDispatcher) : String :=
  "unknown dispatcher type '" ++ u.text
    ++ "' (expected REQUEST, FORWARD, INCLUDE, ASYNC or ERROR)"

namespace Dispatcher

/-- Every type, in declaration order. -/
def all : List Dispatcher := [.request, .forward, .include, .async, .error]

def name : Dispatcher → String
  | .request => "REQUEST"
  | .forward => "FORWARD"
  | .include => "INCLUDE"
  | .async => "ASYNC"
  | .error => "ERROR"

/-- The word for a type, by which a set shows one of its members. -/
def word : Dispatcher → String
  | .request => "Request"
  | .forward => "Forward"
  | .include => "Include"
  | .async => "Async"
  | .error => "Error"

/-- A word in capitals, with a low line in front of each that was one already, but for the first. -/
def screamingSnake (word : String) : String :=
  match word.toList with
  | [] => ""
  | c :: cs => String.ofList
    (c.toUpper :: cs.flatMap fun c => if c.isUpper then ['_', c] else [c.toUpper])

/-- The name of a type in descriptors. -/
def schemaName (t : Dispatcher) : String := screamingSnake t.word

/-- Two texts are the same up to the case of their ASCII letters. -/
def sameLetters (s t : String) : Bool :=
  s.toList.map Char.toUpper == t.toList.map Char.toUpper

/-- Reads a name in any mixture of ASCII case. -/
def parse (s : String) : Except UnknownDispatcher Dispatcher :=
  match all.find? (fun t => sameLetters t.name s) with
  | some t => .ok t
  | none => .error ⟨s⟩

/-- The type that descriptors name exactly so. -/
def ofName? (s : String) : Option Dispatcher := all.find? (fun t => t.schemaName == s)

/-- Position in declaration order. -/
def index : Dispatcher → Nat
  | .request => 0
  | .forward => 1
  | .include => 2
  | .async => 3
  | .error => 4

theorem index_lt (t : Dispatcher) : t.index < 5 := by
  cases t <;> decide

theorem index_injective {t u : Dispatcher} (h : t.index = u.index) : t = u := by
  revert h
  cases t <;> cases u <;> decide

theorem exists_index_eq {i : Nat} (hi : i < 5) : ∃ t : Dispatcher, t.index = i := by
  obtain rfl | rfl | rfl | rfl | rfl : i = 0 ∨ i = 1 ∨ i = 2 ∨ i = 3 ∨ i = 4 := by omega
  · exact ⟨.request, rfl⟩
  · exact ⟨.forward, rfl⟩
  · exact ⟨.include, rfl⟩
  · exact ⟨.async, rfl⟩
  · exact ⟨.error, rfl⟩

theorem mem_all (t : Dispatcher) : t ∈ all := by
  cases t <;> decide

theorem name_injective {t u : Dispatcher} (h : t.name = u.name) : t = u := by
  revert h
  cases t <;> cases u <;> decide

/-- Descriptors name a type as it is shown. -/
theorem schemaName_eq_name (t : Dispatcher) : t.schemaName = t.name := by
  cases t <;> decide

/-- The bit of a byte that stands for a type. -/
def bit (t : Dispatcher) : BitVec 8 := BitVec.twoPow 8 t.index

theorem getLsbD_bit (t : Dispatcher) (i : Nat) : t.bit.getLsbD i = decide (t.index = i) := by
  have hlt : t.index < 8 := Nat.lt_trans t.index_lt (by decide)
  simp [bit, BitVec.getLsbD_twoPow, hlt]

theorem getLsbD_bit_of_le (t : Dispatcher) {i : Nat} (hi : 5 ≤ i) : t.bit.getLsbD i = false := by
  have hlt := t.index_lt
  rw [getLsbD_bit, decide_eq_false_iff_not]
  omega

end Dispatcher

/-- A set of dispatcher types: a byte with one bit for each. The three bits above are never set. -/
structure DispatcherSet where
  bits : BitVec 8
  unused : ∀ i, 5 ≤ i → bits.getLsbD i = false
  deriving DecidableEq, Repr

namespace DispatcherSet

def empty : DispatcherSet := ⟨0, fun _ _ => BitVec.getLsbD_zero⟩

def contains (s : DispatcherSet) (t : Dispatcher) : Bool := s.bits &&& t.bit != 0

def insert (s : DispatcherSet) (t : Dispatcher) : DispatcherSet where
  bits := s.bits ||| t.bit
  unused i hi := by
    rw [BitVec.getLsbD_or, s.unused i hi, t.getLsbD_bit_of_le hi, Bool.or_false]

def ofList (ts : List Dispatcher) : DispatcherSet := ts.foldl insert empty

def requestOnly : DispatcherSet := empty.insert .request

def all : DispatcherSet := ofList Dispatcher.all

def isEmpty (s : DispatcherSet) : Bool := s.bits == 0

/-- The members in declaration order. -/
def toList (s : DispatcherSet) : List Dispatcher := Dispatcher.all.filter s.contains

/-- The members in braces, in declaration order: `{Request, Async}`. -/
def text (s : DispatcherSet) : String :=
  "\x7b" ++ ", ".intercalate (s.toList.map Dispatcher.word) ++ "\x7d"

theorem contains_eq_getLsbD (s : DispatcherSet) (t : Dispatcher) :
    s.contains t = s.bits.getLsbD t.index := by
  have hbit : t.bit ≠ 0 := by
    cases t <;> decide
  have hand : s.bits &&& t.bit = if s.bits.getLsbD t.index = true then t.bit else 0 :=
    BitVec.and_twoPow s.bits t.index
  rw [contains, hand]
  cases s.bits.getLsbD t.index with
  | false => rfl
  | true => exact bne_iff_ne.2 hbit

@[simp]
theorem contains_empty (t : Dispatcher) : empty.contains t = false := by
  simp [contains, empty]

@[simp]
theorem contains_insert (s : DispatcherSet) (t u : Dispatcher) :
    (s.insert t).contains u = (decide (t = u) || s.contains u) := by
  have hiff : t.index = u.index ↔ t = u := ⟨Dispatcher.index_injective, congrArg _⟩
  rw [contains_eq_getLsbD, contains_eq_getLsbD, insert, BitVec.getLsbD_or, Dispatcher.getLsbD_bit,
    Bool.or_comm]
  simp [hiff]

@[simp]
theorem mem_toList {s : DispatcherSet} {t : Dispatcher} : t ∈ s.toList ↔ s.contains t = true := by
  simp [toList, Dispatcher.mem_all]

end DispatcherSet

end ServletFilters
