import PhoneTree.Tree.Definition

namespace PhoneTree

/-- Trees with different names, in the order of their registration. -/
structure Registry where
  trees : List Tree := []

namespace Registry

/-- The tree of a name. -/
def get? (registry : Registry) (name : String) : Option Tree :=
  registry.trees.find? fun tree => tree.name == name

/-- Adds a tree unless its name is taken. -/
def register (registry : Registry) (tree : Tree) : Except TreeError Registry :=
  match registry.get? tree.name with
  | some _ => .error (.duplicateTree tree.name)
  | none => .ok ⟨registry.trees ++ [tree]⟩

/-- Adds trees in order up to the first whose name is taken; the trees before it stay. -/
def registerAll (registry : Registry) : List Tree → Registry × Option TreeError
  | [] => (registry, none)
  | tree :: rest =>
      match registry.register tree with
      | .ok registry => registry.registerAll rest
      | .error error => (registry, some error)

/-- The names in ascending order. -/
def names (registry : Registry) : List String :=
  (registry.trees.map (·.name)).mergeSort fun a b => decide (a ≤ b)

end Registry

end PhoneTree
