import ModMerge.EntityRange

/-!
# Name bindings

A mod may give a name to content that it defines. The name is bound either to an id that
the mod wrote, or to a definition that has no id yet; such definitions are counted for
each type from zero on.
-/

namespace ModMerge

/-- What a name stands for within a type. -/
inductive NameTarget where
  /-- Content with an id written in the mod. -/
  | explicit (id : Int)
  /-- The definition without an id that has this index among those of its type. -/
  | implicit (index : Nat)
deriving DecidableEq, Repr

/-- The content that a name is bound to. -/
structure NameBinding where
  type : EntityType
  target : NameTarget
deriving DecidableEq, Repr

namespace NameBinding

/-- The id that the name is bound to, if it was written in the mod. -/
def id? (binding : NameBinding) : Option Int :=
  match binding.target with
  | .explicit id => some id
  | .implicit _ => none

/-- The index of the definition without an id that the name is bound to. -/
def implicitIndex? (binding : NameBinding) : Option Nat :=
  match binding.target with
  | .explicit _ => none
  | .implicit index => some index

/-- Whether the name is bound to a definition without an id. -/
def isImplicit (binding : NameBinding) : Bool :=
  binding.implicitIndex?.isSome

end NameBinding
end ModMerge
