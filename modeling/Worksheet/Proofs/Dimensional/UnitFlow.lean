import Mathlib.Data.Option.Basic
import Worksheet.Dimensional.Eval
import Worksheet.Proofs.CompoundUnit.Net

/-!
# Units without numbers

The unit of a formula over quantities, and whether it has one, depend on the units of the quantities
alone and on these only up to compatibility.  Two runs over scopes that agree so far come to the
same mismatch checks, since compatibility is a congruence of all operators: sums look at units only
up to compatibility, products and quotients add and subtract net counts, and no operator asks what a
number is before it gives a unit, division by zero included.
-/

namespace Worksheet.Dimensional

variable {a a' b b' : Quantity} {scope scope' : QuantityScope}

/-- Two quantities have compatible units, whatever their numbers are. -/
def SameUnit (a b : Quantity) : Prop := a.unit.compatible b.unit = true

/-- Two outcomes are quantities with compatible units, or both no quantities. -/
def SameOutcome {ε ε' : Type} (x : Except ε Quantity) (y : Except ε' Quantity) : Prop :=
  Option.Rel SameUnit x.toOption y.toOption

/-- Two scopes bind the same names, and each to quantities with compatible units. -/
def SameUnits (scope scope' : QuantityScope) : Prop :=
  ∀ name, Option.Rel SameUnit (scope name) (scope' name)

/-! ### Compatibility is a congruence -/

lemma sameUnit_iff : SameUnit a b ↔ ∀ token, a.unit.net token = b.unit.net token :=
  CompoundUnit.compatible_iff_net

lemma SameUnit.refl (a : Quantity) : SameUnit a a := sameUnit_iff.2 fun _ => rfl

lemma SameUnit.mul (ha : SameUnit a a') (hb : SameUnit b b') :
    SameUnit (a.mul b) (a'.mul b') := by
  refine sameUnit_iff.2 fun token => ?_
  rw [Quantity.mul, Quantity.mul, CompoundUnit.net_mul, CompoundUnit.net_mul,
    sameUnit_iff.1 ha token, sameUnit_iff.1 hb token]

lemma SameUnit.div (ha : SameUnit a a') (hb : SameUnit b b') :
    SameUnit (a.div b) (a'.div b') := by
  refine sameUnit_iff.2 fun token => ?_
  rw [Quantity.div, Quantity.div, CompoundUnit.net_div, CompoundUnit.net_div,
    sameUnit_iff.1 ha token, sameUnit_iff.1 hb token]

/-- Whether two units may be added does not change with the units up to compatibility. -/
lemma SameUnit.compatible_eq (ha : SameUnit a a') (hb : SameUnit b b') :
    a.unit.compatible b.unit = a'.unit.compatible b'.unit := by
  rw [Bool.eq_iff_iff, CompoundUnit.compatible_iff_net, CompoundUnit.compatible_iff_net]
  refine forall_congr' fun token => ?_
  rw [sameUnit_iff.1 ha token, sameUnit_iff.1 hb token]

lemma SameUnit.combine (op : Float → Float → Float) (ha : SameUnit a a') (hb : SameUnit b b') :
    SameOutcome (a.combine op b) (a'.combine op b') := by
  rw [Quantity.combine, Quantity.combine, ha.compatible_eq hb]
  cases a'.unit.compatible b'.unit with
  | true => exact .some ha
  | false => exact .none

/-- Every operator has a value on both sides or on neither, with compatible units. -/
lemma SameUnit.apply (op : Op) (ha : SameUnit a a') (hb : SameUnit b b') :
    SameOutcome (op.apply a b) (op.apply a' b') := by
  cases op with
  | add => exact ha.combine _ hb
  | sub => exact ha.combine _ hb
  | mul => exact .some (ha.mul hb)
  | div => exact .some (ha.div hb)

/-! ### Two runs -/

/-- What goes on alike from alike quantities goes on alike from alike outcomes. -/
lemma SameOutcome.bind {ε : Type} {x y : Except ε Quantity} {f g : Quantity → Except ε Quantity}
    (h : SameOutcome x y) (hnext : ∀ a b, SameUnit a b → SameOutcome (f a) (g b)) :
    SameOutcome (x >>= f) (y >>= g) := by
  cases x with
  | error fault =>
    cases y with
    | error fault' => exact .none
    | ok b => exact nomatch h
  | ok a =>
    cases y with
    | error fault => exact nomatch h
    | ok b =>
      cases h with
      | some hab => exact hnext a b hab

lemma SameOutcome.mapError {ε ε' : Type} {x y : Except ε Quantity} (h : SameOutcome x y)
    (f : ε → ε') : SameOutcome (x.mapError f) (y.mapError f) := by
  cases x <;> cases y <;> exact h

lemma sameOutcome_resolve (h : SameUnits scope scope') (strict : Bool) (name : String) :
    SameOutcome (resolve strict scope name) (resolve strict scope' name) := by
  have hname := h name
  rw [resolve, resolve]
  generalize scope name = found, scope' name = found' at hname
  cases hname with
  | some hab => exact .some hab
  | none =>
    cases strict with
    | true => exact .none
    | false => exact .some (.refl _)

/-- The two runs of a term go alike, step by step. -/
lemma sameOutcome_eval (h : SameUnits scope scope') (strict : Bool) (t : Term) :
    SameOutcome (t.eval strict scope) (t.eval strict scope') := by
  induction t with
  | name text => exact sameOutcome_resolve h strict text
  | number text => exact .some (.refl _)
  | neg t ih => exact ih.bind fun a b hab => .some hab
  | binary op left right ihl ihr =>
    refine ihl.bind fun a b hab => ihr.bind fun a' b' hab' => ?_
    exact (hab.apply op hab').mapError TermFault.mismatch

/-- **Units are computed without numbers and up to compatibility.**  Over scopes that bind the same
names to quantities with compatible units, every formula has a quantity over both or over neither,
and the two have compatible units. -/
theorem sameUnit_evaluate (h : SameUnits scope scope') (formula : String) (strict : Bool) :
    Option.Rel SameUnit (evaluate formula scope strict) (evaluate formula scope' strict) := by
  rw [evaluate, evaluate]
  cases parse? (tokenize formula) with
  | none => exact .none
  | some t => exact sameOutcome_eval h strict t

/-- A force over an area, and the pressure of something else. -/
def load : QuantityScope := fun name =>
  if name = "force" then some ⟨2.0, ⟨["kg", "m"], ["s", "s"]⟩⟩
  else if name = "area" then some ⟨4.0, ⟨["m", "m"], []⟩⟩
  else if name = "base" then some ⟨1.0, ⟨["kg"], ["m", "s", "s"]⟩⟩
  else none

/-- The same with a zero, an infinity and what is not a number, in units with their tokens in other
orders and with tokens that cancel. -/
def strangeLoad : QuantityScope := fun name =>
  if name = "force" then some ⟨Double.nan, ⟨["m", "kg"], ["s", "s"]⟩⟩
  else if name = "area" then some ⟨0.0, ⟨["m", "s", "m"], ["s"]⟩⟩
  else if name = "base" then some ⟨Double.infinity, ⟨["kg"], ["s", "m", "s"]⟩⟩
  else none

/-- The sum is one of compatible units in both scopes, the division by zero aside. -/
theorem sameUnit_evaluate_load :
    SameUnits load strangeLoad ∧
      Option.Rel SameUnit (evaluate "force / area + base" load true)
        (evaluate "force / area + base" strangeLoad true) ∧
      (evaluate "force / area + base" load true).isSome := by
  have hload : SameUnits load strangeLoad := by
    intro name
    unfold load strangeLoad
    split_ifs
    · exact .some (by unfold SameUnit; decide)
    · exact .some (by unfold SameUnit; decide)
    · exact .some (by unfold SameUnit; decide)
    · exact .none
  exact ⟨hload, sameUnit_evaluate hload _ _, by decide⟩

end Worksheet.Dimensional
