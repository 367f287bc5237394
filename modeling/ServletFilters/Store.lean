import ServletFilters.Chain

/-!
A store holds the current table and lets it be replaced as a whole. Who holds a snapshot keeps the
table it was taken of.
-/

namespace ServletFilters

/-- A table shared under a serial number, which tells apart tables of equal content. -/
structure Snapshot where
  serial : Nat
  table : Table
  deriving Inhabited

def Snapshot.isSame (a b : Snapshot) : Bool := a.serial == b.serial

/-- The generation counts the tables published since the store was made, modulo `2 ^ 64`. -/
structure Store where
  current : Snapshot
  generation : UInt64
  deriving Inhabited

namespace Store

def ofSnapshot (s : Snapshot) : Store := ⟨s, 0⟩

/-- Makes a table the current one and counts it. The new generation is given back with the store. -/
def publish (store : Store) (next : Snapshot) : Reported (Store × UInt64) :=
  let generation := store.generation + 1
  ⟨(⟨next, generation⟩, generation), [.log (.published generation next.table.size)]⟩

/-- Publishes the tables of a feed, in order, until it closes. -/
def reload (store : Store) : List Snapshot → Reported Store
  | [] => ⟨store, [.log .feedClosed]⟩
  | next :: later =>
    let first := store.publish next
    let others := first.value.1.reload later
    ⟨others.value, first.events ++ .metric (.reloads .applied) :: others.events⟩

end Store

end ServletFilters
