import SyntaxReport.Sequence

/-! Frames: cursors over the children of one node. The number of children is fixed when the frame is
made, so a frame can outlive children that are removed later. -/
namespace SyntaxReport

structure Frame (N : Type) where
  node : N
  childCount : Int
  childIndex : Int := 0
  deriving DecidableEq, Repr

namespace Frame

variable {N : Type}

/-- What a frame comes to next. -/
inductive Next (N : Type) where
  /-- All children have been taken. -/
  | done
  /-- The next child and the frame behind it. -/
  | child (c : N) (f : Frame N)
  /-- The child that was there has been removed. -/
  | gone

/-- The frame before the first of a node's children. -/
def ofNode (node : N) (children : List N) : Frame N :=
  { node, childCount := children.length }

def isFirst (f : Frame N) : Bool :=
  f.childIndex == 0

/-- The next child among the node's present children. -/
def next (f : Frame N) (children : List N) : Next N :=
  if f.childCount ≤ f.childIndex then .done
  else match Sequence.item? children f.childIndex with
    | some c => .child c { f with childIndex := f.childIndex + 1 }
    | none => .gone

end Frame

end SyntaxReport
