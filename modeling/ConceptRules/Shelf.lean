/-!
# Values at numbered places

A shelf holds one value at every place.  Putting a value at one place changes
what is read there and nothing else.
-/

namespace ConceptRules

/-- A value at every numbered place. -/
structure Shelf (Item : Type) where
  get : Nat → Item

namespace Shelf

variable {Item : Type}

/-- The shelf with one value at every place. -/
def fill (item : Item) : Shelf Item where
  get _ := item

/-- The shelf with a new value at one place. -/
def put (shelf : Shelf Item) (place : Nat) (item : Item) : Shelf Item where
  get tested := if tested = place then item else shelf.get tested

@[simp]
theorem get_fill (item : Item) (place : Nat) : (fill item).get place = item :=
  rfl

@[simp]
theorem get_put_self (shelf : Shelf Item) (place : Nat) (item : Item) :
    (shelf.put place item).get place = item :=
  if_pos rfl

theorem get_put_of_ne
    (shelf : Shelf Item) {place tested : Nat} (item : Item)
    (different : tested ≠ place) :
    (shelf.put place item).get tested = shelf.get tested :=
  if_neg different

end Shelf

end ConceptRules
