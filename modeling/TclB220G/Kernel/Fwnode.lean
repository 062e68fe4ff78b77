import Mathlib.Data.Nat.Notation

/-!
# References to firmware nodes

A property of a firmware node refers to another node and gives it 64-bit arguments.  Most callees have
32-bit cells, and take the lower half of each argument.
-/

namespace TclB220G.Kernel

/-- The node referred to and the arguments that follow it, `struct fwnode_reference_args`. -/
structure ReferenceArgs (Node : Type) where
  fwnode : Node
  args : List (BitVec 64)

/-- The arguments as they are stored in cells of type `u32`. -/
def ReferenceArgs.cells {Node : Type} (reference : ReferenceArgs Node) : List (BitVec 32) :=
  reference.args.map fun argument ↦ argument.setWidth 32

end TclB220G.Kernel
