import ReadThrough.Group.Basic

/-! The groups of one node by their names. -/

namespace ReadThrough

structure Registry where
  groups : List Group := []

namespace Registry

def get? (registry : Registry) (name : String) : Option Group :=
  registry.groups.find? (·.name = name)

/-- Puts a group in, in place of the one that had its name. -/
def insert (registry : Registry) (group : Group) : Registry :=
  ⟨group :: registry.groups.filter (·.name ≠ group.name)⟩

/-- The names in ascending order. -/
def names (registry : Registry) : List String :=
  (registry.groups.map (·.name)).mergeSort fun first second => first ≤ second

def size (registry : Registry) : Nat := registry.groups.length

end Registry

end ReadThrough
