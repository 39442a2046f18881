import Lapse.Path

/-!
# The order of paths

Paths compare by their components, components by kind and then by bytes. The comparison is a
linear order up to paths with the same components.
-/
namespace Lapse

theorem compareBytes_eq_compareLex (a b : List UInt8) :
    compareBytes a b = List.compareLex compare a b := by
  induction a generalizing b with
  | nil => cases b <;> rfl
  | cons x a ih =>
    cases b with
    | nil => rfl
    | cons y b =>
      rw [compareBytes, List.compareLex_cons_cons, ih]
      by_cases hlt : x < y
      · rw [if_pos hlt, Std.compare_eq_lt.2 hlt]
        rfl
      · by_cases hgt : y < x
        · rw [if_neg hlt, if_pos hgt, Std.compare_eq_gt.2 hgt]
          rfl
        · have heq : x = y := UInt8.le_antisymm (UInt8.not_lt.1 hgt) (UInt8.not_lt.1 hlt)
          rw [if_neg hlt, if_neg hgt, heq, Std.compare_self]
          rfl

namespace Component

/-- The bytes of a name; there are none in the other components. -/
def nameBytes : Component → FileName
  | normal name => name
  | _ => []

def cmpNames (a b : Component) : Ordering := List.compareLex compare a.nameBytes b.nameBytes

instance : Std.TransCmp cmpNames where
  eq_swap {a b} := by
    show List.compareLex compare _ _ = (List.compareLex compare _ _).swap
    exact Std.OrientedCmp.eq_swap
  isLE_trans {a b c} hab hbc := by
    show (List.compareLex compare _ _).isLE
    exact Std.TransCmp.isLE_trans hab hbc

theorem cmp_eq_compareLex : cmp = compareLex (compareOn rank) cmpNames := by
  funext a b
  cases a <;> cases b <;>
    simp [cmp, compareLex, compareOn, rank, cmpNames, nameBytes, compareBytes_eq_compareLex]
  all_goals rfl

instance : Std.TransCmp cmp := cmp_eq_compareLex ▸ inferInstance

theorem cmp_eq_eq {a b : Component} : cmp a b = .eq ↔ a = b := by
  rw [cmp_eq_compareLex, compareLex_eq_eq]
  cases a <;> cases b <;> simp [compareOn, rank, cmpNames, nameBytes]

instance : Std.LawfulEqCmp cmp where
  eq_of_compare := cmp_eq_eq.1

theorem cmpAll_eq_compareLex (a b : List Component) :
    cmpAll a b = List.compareLex cmp a b := by
  induction a generalizing b with
  | nil => cases b <;> rfl
  | cons x a ih =>
    cases b with
    | nil => rfl
    | cons y b => rw [cmpAll, List.compareLex_cons_cons, ih]

end Component

namespace Path

theorem cmp_eq_compareLex (p q : Path) :
    p.cmp q = List.compareLex Component.cmp p.components q.components :=
  Component.cmpAll_eq_compareLex _ _

theorem le_eq_isLE (p q : Path) : p.le q = (p.cmp q).isLE := by
  rw [le]
  cases p.cmp q <;> rfl

/-- Paths are equal in the order exactly when they have the same components. -/
theorem cmp_eq_eq_iff_same {p q : Path} : p.cmp q = .eq ↔ p.Same q := by
  rw [cmp_eq_compareLex, Std.LawfulEqCmp.compare_eq_iff_eq, Same]

theorem cmp_swap (p q : Path) : q.cmp p = (p.cmp q).swap := by
  rw [cmp_eq_compareLex, cmp_eq_compareLex]
  exact Std.OrientedCmp.eq_swap

theorem le_total (p q : Path) : p.le q || q.le p := by
  rw [le_eq_isLE, le_eq_isLE, cmp_swap p q]
  cases p.cmp q <;> rfl

theorem le_trans {p q r : Path} (hpq : p.le q) (hqr : q.le r) : p.le r := by
  rw [le_eq_isLE, cmp_eq_compareLex] at *
  exact Std.TransCmp.isLE_trans hpq hqr

/-- Of two paths in order with different components the first is strictly smaller. -/
theorem cmp_eq_lt_of_le {p q : Path} (hle : p.le q) (hne : ¬ p.Same q) : p.cmp q = .lt := by
  rw [← cmp_eq_eq_iff_same] at hne
  rw [le_eq_isLE] at hle
  cases h : p.cmp q with
  | lt => rfl
  | eq => exact absurd h hne
  | gt => simp [h] at hle

end Path

end Lapse
