import Mathlib.Data.List.Infix

/-!
# Slicing items off the front of a list

A slicer looks at the front of a list and either finds that it holds no whole item
yet, or slices off one item.  What lies behind an item does not matter for it, so the
items of a list do not depend on the pieces in which the list arrives.
-/

/-- Slice one item off the front of a list. -/
structure Slicer (Symbol Item : Type*) where
  slice : List Symbol → Option (Item × List Symbol)
  shrinks : ∀ {symbols item rest}, slice symbols = some (item, rest) →
    rest.length < symbols.length
  stable : ∀ {symbols item rest} more, slice symbols = some (item, rest) →
    slice (symbols ++ more) = some (item, rest ++ more)

namespace Slicer

variable {Symbol Item : Type*} (slicer : Slicer Symbol Item)

/-- All whole items of a list, and what is left behind them. -/
def sliceAll (symbols : List Symbol) : List Item × List Symbol :=
  match _sliced : slicer.slice symbols with
  | none => ([], symbols)
  | some (item, rest) => (item :: (sliceAll rest).1, (sliceAll rest).2)
termination_by symbols.length
decreasing_by all_goals exact slicer.shrinks _sliced

/-- The items are sliced off one after the other, with a rest behind them. -/
inductive Slices : List Symbol → List Item → List Symbol → Prop where
  | nil (rest : List Symbol) : Slices rest [] rest
  | cons {symbols behind rest : List Symbol} {item : Item} {items : List Item}
      (first : slicer.slice symbols = some (item, behind)) (others : Slices behind items rest) :
      Slices symbols (item :: items) rest

variable {slicer} {symbols behind rest : List Symbol} {item : Item} {items : List Item}

theorem sliceAll_of_none (partial_ : slicer.slice symbols = none) :
    slicer.sliceAll symbols = ([], symbols) := by
  rw [sliceAll]
  split
  · rfl
  · rename_i sliced
    rw [partial_] at sliced
    cases sliced

theorem sliceAll_of_some (first : slicer.slice symbols = some (item, behind)) :
    slicer.sliceAll symbols =
      (item :: (slicer.sliceAll behind).1, (slicer.sliceAll behind).2) := by
  rw [sliceAll]
  split
  · rename_i sliced
    rw [first] at sliced
    cases sliced
  · rename_i sliced
    rw [first] at sliced
    obtain ⟨rfl, rfl⟩ := Prod.mk.inj (Option.some.inj sliced)
    rfl

namespace Slices

theorem append (slices : slicer.Slices symbols items rest) (more : List Symbol) :
    slicer.Slices (symbols ++ more) items (rest ++ more) := by
  induction slices with
  | nil rest => exact .nil _
  | cons first _ ih => exact .cons (slicer.stable more first) ih

theorem snoc (slices : slicer.Slices symbols items behind)
    (last : slicer.slice behind = some (item, rest)) :
    slicer.Slices symbols (items ++ [item]) rest := by
  induction slices with
  | nil _ => exact .cons last (.nil rest)
  | cons first _ ih => exact .cons first (ih last)

theorem sliceAll_eq (slices : slicer.Slices symbols items rest) :
    slicer.sliceAll symbols =
      (items ++ (slicer.sliceAll rest).1, (slicer.sliceAll rest).2) := by
  induction slices with
  | nil rest => rfl
  | cons first _ ih => rw [sliceAll_of_some first, ih, List.cons_append]

end Slices

end Slicer
