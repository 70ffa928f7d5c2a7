import Mathlib.Order.Compare
import Mathlib.Tactic.Lemma
import Worksheet.Double.Basic

/-!
# The order of doubles

Two doubles that are numbers compare in one of three ways, and less, equal and at most are read off
that comparison.  Seen from the other side it is turned around.  What is not a number compares with
nothing.
-/

namespace Worksheet.Double

open Float.Model (UnpackedFloat)

variable {x y : Float}

/-- How two doubles compare; `none` if one of them is not a number. -/
def compare? (x y : Float) : Option Ordering := x.toModel.unpack.compare y.toModel.unpack

lemma lt_iff_compare? : x < y ↔ compare? x y = some .lt := by
  have hlt : (x < y) = (decide (x.toModel < y.toModel) = true) := rfl
  have hcompare : (x.toModel < y.toModel) = ((compare? x y == some .lt) = true) := rfl
  rw [hlt, decide_eq_true_iff, hcompare, beq_iff_eq]

lemma beq_iff_compare? : (x == y) = true ↔ compare? x y = some .eq := by
  have hbeq : (x == y) = (compare? x y == some .eq) := rfl
  rw [hbeq, beq_iff_eq]

lemma le_iff_compare? : x ≤ y ↔ compare? x y = some .lt ∨ compare? x y = some .eq := by
  have hle : (x ≤ y) = (decide (x.toModel ≤ y.toModel) = true) := rfl
  have hcompare : (x.toModel ≤ y.toModel) = ((compare? x y).any (·.isLE) = true) := rfl
  rw [hle, decide_eq_true_iff, hcompare]
  rcases compare? x y with _ | _ | _ | _ <;> simp

/-- A comparison with the sides changed is turned around. -/
lemma swap_compare (u v : UnpackedFloat) : (u.compare v).map Ordering.swap = v.compare u := by
  have hint (a b : Int) : (compare a b).swap = compare b a := Int.compare_swap a b
  have hnat (a b : Nat) : (compare a b).swap = compare b a := Nat.compare_swap a b
  -- only two finite numbers of one sign compare by more than their kinds
  rcases u with ⟨_ | _⟩ | _ | ⟨_ | _⟩ | ⟨_ | _, _, _, _⟩ <;>
    rcases v with ⟨_ | _⟩ | _ | ⟨_ | _⟩ | ⟨_ | _, _, _, _⟩ <;>
    first
    | rfl
    | dsimp only [UnpackedFloat.compare]
      simp [Ordering.swap_then, hint, hnat]

lemma swap_compare? (x y : Float) : (compare? x y).map Ordering.swap = compare? y x :=
  swap_compare _ _

lemma isSome_compare? (hx : x.isNaN = false) (hy : y.isNaN = false) : (compare? x y).isSome := by
  have hnan : ∀ z : Float, z.isNaN = z.toModel.unpack.isNaN := fun _ => rfl
  rw [hnan] at hx hy
  rw [compare?]
  generalize x.toModel.unpack = u, y.toModel.unpack = v at *
  rcases u with ⟨_ | _⟩ | _ | ⟨_ | _⟩ | ⟨_ | _, _, _, _⟩ <;>
    rcases v with ⟨_ | _⟩ | _ | ⟨_ | _⟩ | ⟨_ | _, _, _, _⟩ <;>
    first
    | rfl
    | contradiction

lemma beq_self (h : x.isNaN = false) : (x == x) = true := by
  obtain ⟨order, horder⟩ := Option.isSome_iff_exists.1 (isSome_compare? h h)
  have hswap := swap_compare? x x
  rw [horder, Option.map_some, Option.some.injEq] at hswap
  rw [beq_iff_compare?, horder]
  cases order with
  | eq => rfl
  | lt => exact absurd hswap (by decide)
  | gt => exact absurd hswap (by decide)

end Worksheet.Double
