import Mathlib.Data.List.Basic
import Mathlib.Tactic.Common

/-!
# Splicing

Items put into a sequence at a position replace what is there, extend the sequence at its end, and
fill a gap before the position. Pieces put one behind the other are one piece.
-/

set_option autoImplicit false

namespace Polyengine.Library

namespace Splice

variable {Item : Type} (fill : Item)

/-- The items before `position`, with a gap filled. -/
def before (sequence : List Item) (position : Nat) : List Item :=
  (sequence ++ List.replicate (position - sequence.length) fill).take position

/-- Put `items` at `position`; putting nothing changes nothing. -/
def splice (sequence : List Item) (position : Nat) (items : List Item) : List Item :=
  if items = [] then sequence
  else before fill sequence position ++ (items ++ sequence.drop (position + items.length))

@[simp] theorem length_before (sequence : List Item) (position : Nat) :
    (before fill sequence position).length = position := by
  simp only [before, List.length_take, List.length_append, List.length_replicate]
  omega

@[simp] theorem splice_nil (sequence : List Item) (position : Nat) :
    splice fill sequence position [] = sequence := by
  simp [splice]

/-- Putting at the end appends. -/
theorem splice_length (sequence items : List Item) :
    splice fill sequence sequence.length items = sequence ++ items := by
  by_cases empty : items = []
  · simp [empty]
  · simp [splice, before, empty]

/-- Pieces put one behind the other. -/
theorem splice_append (sequence : List Item) (position : Nat) (first second : List Item) :
    splice fill (splice fill sequence position first) (position + first.length) second =
      splice fill sequence position (first ++ second) := by
  by_cases noFirst : first = []
  · simp [noFirst]
  · by_cases noSecond : second = []
    · simp [noSecond]
    · have pieces : splice fill sequence position first =
          (before fill sequence position ++ first) ++
            sequence.drop (position + first.length) := by
        rw [splice, if_neg noFirst, List.append_assoc]
      have pieceLength : (before fill sequence position ++ first).length =
          position + first.length := by
        rw [List.length_append, length_before]
      have front : before fill (splice fill sequence position first) (position + first.length) =
          before fill sequence position ++ first := by
        rw [before, pieces, List.append_assoc, List.take_left' pieceLength]
      have back : (splice fill sequence position first).drop
          (position + first.length + second.length) =
          sequence.drop (position + (first ++ second).length) := by
        rw [← List.drop_drop, pieces, List.drop_left' pieceLength, List.drop_drop,
          List.length_append, Nat.add_assoc]
      rw [splice, if_neg noSecond, front, back, splice, if_neg (by simp [noFirst])]
      simp only [List.append_assoc]

end Splice

end Polyengine.Library
