import Std.Data.TreeMap

/-!
# Namespaces

A collection is addressed by the name of its database and its own name.
-/

namespace PacedPurge

/-- The address of a collection. -/
structure Namespace where
  database : String
  collection : String
  deriving DecidableEq, Repr, Hashable, Inhabited

namespace Namespace

/-- The address as messages write it: both names with a point between them. -/
def text (ns : Namespace) : String := ns.database ++ "." ++ ns.collection

instance : ToString Namespace := ⟨text⟩

instance : Ord Namespace := ⟨compareLex (compareOn database) (compareOn collection)⟩

instance : Std.TransOrd Namespace :=
  inferInstanceAs (Std.TransCmp (compareLex (compareOn database) (compareOn collection)))

instance : Std.LawfulEqOrd Namespace where
  eq_of_compare {a b} h := by
    cases a with | mk d c => cases b with | mk d' c' =>
    have h' : (compare d d').then (compare c c') = .eq := h
    rw [Ordering.then_eq_eq] at h'
    rw [Std.LawfulEqOrd.eq_of_compare h'.1, Std.LawfulEqOrd.eq_of_compare h'.2]

end Namespace

end PacedPurge
