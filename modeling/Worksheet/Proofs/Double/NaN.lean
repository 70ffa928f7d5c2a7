import Worksheet.Double.Functions
import Worksheet.Double.Sum
import Worksheet.Number.Basic
import Worksheet.Proofs.Double.Exact
import Worksheet.Proofs.Double.Order
import Worksheet.Proofs.Outcome

/-!
# What is not a number stays so

Arithmetic on doubles with an operand that is not a number gives nothing that is a number, on
whichever side the operand stands; so do the roundings, the sign, the square root and the
logarithms.  A remainder has no value then.  Comparisons do not hold, and a least or greatest double
is only spoiled by the first of its arguments, since no later one is put in its place.
-/

namespace Worksheet.Double

open Float.Model (UnpackedFloat)

variable {x y : Float}

lemma isNaN_iff : x.isNaN = true ↔ x.toModel.unpack = .notANumber := by
  have hnan : x.isNaN = x.toModel.unpack.isNaN := rfl
  rw [hnan]
  cases x.toModel.unpack <;> simp [UnpackedFloat.isNaN]

lemma isNaN_nan : nan.isNaN = true := by decide

/-! ### Comparisons -/

lemma compare?_of_isNaN_left (h : x.isNaN = true) (y : Float) : compare? x y = none := by
  rw [compare?, isNaN_iff.1 h]
  rfl

lemma compare?_of_isNaN_right (x : Float) (h : y.isNaN = true) : compare? x y = none := by
  rw [← swap_compare?, compare?_of_isNaN_left h, Option.map_none]

lemma not_lt_of_isNaN_left (h : x.isNaN = true) (y : Float) : ¬x < y := by
  rw [lt_iff_compare?, compare?_of_isNaN_left h]
  exact Option.some_ne_none _ ∘ Eq.symm

lemma not_lt_of_isNaN_right (x : Float) (h : y.isNaN = true) : ¬x < y := by
  rw [lt_iff_compare?, compare?_of_isNaN_right x h]
  exact Option.some_ne_none _ ∘ Eq.symm

lemma beq_of_isNaN (h : x.isNaN = true) (y : Float) : (x == y) = false := by
  rw [← Bool.not_eq_true, beq_iff_compare?, compare?_of_isNaN_left h]
  exact Option.some_ne_none _ ∘ Eq.symm

/-! ### Arithmetic -/

/-- The double of a kind, rounded to the places that doubles have. -/
abbrev ofKind (u : UnpackedFloat) : Float := ⟨Float.Model.pack u⟩

lemma isNaN_ofKind : (ofKind .notANumber).isNaN = true := by decide

lemma isNaN_neg (h : x.isNaN = true) : (-x).isNaN = true := by
  have hneg : -x = ofKind x.toModel.unpack.neg := rfl
  rw [hneg, isNaN_iff.1 h]
  exact isNaN_ofKind

/-- A function of two doubles that has no number for its value if one of the two is none. -/
structure KeepsNaN (f : Float → Float → Float) : Prop where
  left : ∀ {x : Float} (y), x.isNaN = true → (f x y).isNaN = true
  right : ∀ (x) {y : Float}, y.isNaN = true → (f x y).isNaN = true

lemma KeepsNaN.of_kinds {f : Float → Float → Float}
    (op : UnpackedFloat → UnpackedFloat → UnpackedFloat)
    (hf : ∀ x y, f x y = ofKind (op x.toModel.unpack y.toModel.unpack))
    (hleft : ∀ v, op .notANumber v = .notANumber) (hright : ∀ u, op u .notANumber = .notANumber) :
    KeepsNaN f where
  left y h := by
    rw [hf, isNaN_iff.1 h, hleft]
    exact isNaN_ofKind
  right x y h := by
    rw [hf, isNaN_iff.1 h, hright]
    exact isNaN_ofKind

lemma keepsNaN_add : KeepsNaN (· + ·) :=
  .of_kinds (.add .binary64) (fun _ _ => rfl) (fun _ => rfl) fun u => by cases u <;> rfl

lemma keepsNaN_sub : KeepsNaN (· - ·) :=
  .of_kinds (.sub .binary64) (fun _ _ => rfl) (fun _ => rfl) fun u => by cases u <;> rfl

lemma keepsNaN_mul : KeepsNaN (· * ·) :=
  .of_kinds (.mul .binary64) (fun _ _ => rfl) (fun _ => rfl) fun u => by cases u <;> rfl

lemma keepsNaN_div : KeepsNaN (· / ·) :=
  .of_kinds (.div .binary64) (fun _ _ => rfl) (fun _ => rfl) fun u => by cases u <;> rfl

lemma keepsNaN_divide : KeepsNaN divide where
  left y h := by
    rw [divide, h, Bool.or_true, if_pos rfl]
    split
    · exact isNaN_nan
    · exact keepsNaN_div.left y h
  right x y h := by
    rw [divide, beq_of_isNaN h, if_neg Bool.false_ne_true]
    exact keepsNaN_div.right x h

lemma isNaN_sqrt (h : x.isNaN = true) : (Float.sqrt x).isNaN = true := by
  have hsqrt : Float.sqrt x = ofKind (.sqrt .binary64 x.toModel.unpack) := rfl
  rw [hsqrt, isNaN_iff.1 h]
  exact isNaN_ofKind

/-! ### Rounding -/

lemma parts?_of_isNaN (h : x.isNaN = true) : parts? x = none := by
  have hdecoded := decoded x
  rw [isNaN_iff.1 h] at hdecoded
  generalize parts? x = parts at hdecoded
  cases hdecoded
  rfl

lemma floor?_of_isNaN (h : x.isNaN = true) : floor? x = none := by
  rw [floor?, parts?_of_isNaN h, Option.map_none]

lemma isNaN_roundFinite {round : Float → Option Int} (h : x.isNaN = true)
    (hround : round x = none) : (roundFinite round x).isNaN = true := by
  rw [roundFinite, hround]
  exact h

lemma isNaN_floor (h : x.isNaN = true) : (floor x).isNaN = true :=
  isNaN_roundFinite h (floor?_of_isNaN h)

lemma isNaN_ceil (h : x.isNaN = true) : (ceil x).isNaN = true := by
  refine isNaN_roundFinite h ?_
  rw [floor?_of_isNaN (isNaN_neg h), Option.map_none]

lemma isNaN_truncate (h : x.isNaN = true) : (truncate x).isNaN = true := by
  refine isNaN_roundFinite h ?_
  rw [truncate?, parts?_of_isNaN h, Option.map_none]

lemma gives_roundTo (h : x.isNaN = true) (places : Float) :
    Gives (fun z => z.isNaN = true) (roundTo x places) := by
  have hfinite : x.isFinite = false := by
    have hmodel : x.isFinite = x.toModel.unpack.isFinite := rfl
    rw [hmodel, isNaN_iff.1 h]
    rfl
  rw [roundTo, hfinite, Bool.not_false, if_pos rfl]
  exact .ok h

/-! ### Remainders, signs and logarithms -/

/-- Only a zero divisor lets a remainder through. -/
lemma gives_modulo_left (h : x.isNaN = true) (y : Float) :
    Gives (fun z => z.isNaN = true) (modulo x y) := by
  rw [modulo]
  split
  · exact .ok h
  · rw [toInteger, floor?_of_isNaN (keepsNaN_div.left y h)]
    exact .error _

lemma gives_modulo_right (x : Float) (h : y.isNaN = true) :
    Gives (fun z => z.isNaN = true) (modulo x y) := by
  rw [modulo, beq_of_isNaN h, if_neg Bool.false_ne_true, toInteger,
    floor?_of_isNaN (keepsNaN_div.right x h)]
  exact .error _

lemma isNaN_abs (h : x.isNaN = true) : (abs x).isNaN = true := by
  rw [abs]
  split
  · exact isNaN_neg h
  · exact h

lemma isNaN_sign (h : x.isNaN = true) : (sign x).isNaN = true := by
  rw [sign, if_pos h]
  exact h

lemma isNaN_onPositive (log : Float → Float) (h : x.isNaN = true) :
    (onPositive log x).isNaN = true := by
  rw [onPositive, if_neg (not_lt_of_isNaN_right 0 h)]
  exact isNaN_nan

/-! ### Least and greatest -/

/-- Nothing is put in the place of a start that nothing is better than. -/
lemma foldl_of_not_better (better : Float → Float → Prop) [DecidableRel better] (xs : List Float)
    (h : ∀ y, ¬better y x) : xs.foldl (fun m y => if better y m then y else m) x = x := by
  induction xs with
  | nil => rfl
  | cons y xs ih => rw [List.foldl_cons, if_neg (h y), ih]

lemma least?_of_isNaN (h : x.isNaN = true) (xs : List Float) : least? (x :: xs) = some x :=
  congrArg some (foldl_of_not_better (fun y m => y < m) xs fun y => not_lt_of_isNaN_right y h)

lemma greatest?_of_isNaN (h : x.isNaN = true) (xs : List Float) :
    greatest? (x :: xs) = some x :=
  congrArg some (foldl_of_not_better (fun y m => m < y) xs fun y => not_lt_of_isNaN_left h y)

end Worksheet.Double
