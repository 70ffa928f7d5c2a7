import Worksheet.Proofs.Calculation.Process
import Worksheet.Proofs.Dimensional.Unbound

/-!
# What strict reading changes

The two ways to read a process formula differ in names without a quantity: a strict reading leaves
the formula to the evaluation over bare numbers, any other counts the name as zero.  Where every
name has a quantity, and where a function is called, they have the same outcome.  The constants are
known to the evaluation over bare numbers only, so an unbound constant is its value in strict
reading and zero otherwise.
-/

namespace Worksheet.Calculation

open Dimensional (tokenize evaluate_strict_of_unbound evaluate_strict_of_bound parse?_of_call)

variable {digits : Nat} {formula name : String} {scope : List (String × Quantity)} {q : Quantity}

/-- The name is among those that the evaluation over quantities reads in a formula. -/
def Names (formula name : String) : Prop := .name name.toList ∈ tokenize (Text.trim formula)

/-- The name is followed by an opening parenthesis. -/
def Calls (formula name : String) : Prop :=
  ∃ before after, tokenize (Text.trim formula) =
    before ++ .name name.toList :: .sign .openParen :: after

/-- The formula has the quantity `q` when its unbound names, of which there are some, count as
zero. -/
structure ReadsZero (formula : String) (scope : List (String × Quantity)) (q : Quantity) :
    Prop where
  unbound : ∃ name, Names formula name ∧ scope.lookup name = none
  quantity : Dimensional.evaluate (Text.trim formula) (fun name => scope.lookup name) false = some q

/-- The evaluation over bare numbers, if it comes to that, shows the same value as the quantity `q`
does, both without a unit. -/
structure ShownAs (digits : Nat) (formula : String) (scope : List (String × Quantity))
    (q : Quantity) : Prop where
  noMismatch : scope.isEmpty = false → isPlainSum (Text.trim formula).toList = false
  value : ∃ n x, Formula.evaluate (Text.trim formula) (bareNumbers scope) = .ok (.number n) ∧
    n.toFloat = .ok x ∧ Double.display digits x = q.text
  unit : CompoundUnit.unitless.text = q.unit.text

/-! ### Where both readings agree -/

/-- The reading makes no difference but to the quantity of the formula. -/
lemma runProcess_strict_eq
    (h : Dimensional.evaluate (Text.trim formula) (fun name => scope.lookup name) true =
      Dimensional.evaluate (Text.trim formula) (fun name => scope.lookup name) false) :
    runProcess ⟨true, digits⟩ formula scope = runProcess ⟨false, digits⟩ formula scope := by
  have hplain : ∀ v, plainOutcome ⟨true, digits⟩ v = plainOutcome ⟨false, digits⟩ v := fun v => by
    cases v <;> rfl
  simp only [runProcess, h, hplain]

lemma evaluate_eq_none_of_calls (h : Calls formula name) (strict : Bool) :
    Dimensional.evaluate (Text.trim formula) (fun name => scope.lookup name) strict = none := by
  obtain ⟨before, after, htokens⟩ := h
  rw [Dimensional.evaluate, htokens, parse?_of_call]
  rfl

lemma runProcess_strict_of_calls (h : Calls formula name) :
    runProcess ⟨true, digits⟩ formula scope = runProcess ⟨false, digits⟩ formula scope :=
  runProcess_strict_eq (by rw [evaluate_eq_none_of_calls h, evaluate_eq_none_of_calls h])

lemma runProcess_strict_of_bound (h : ∀ name, Names formula name → (scope.lookup name).isSome) :
    runProcess ⟨true, digits⟩ formula scope = runProcess ⟨false, digits⟩ formula scope :=
  runProcess_strict_eq (evaluate_strict_of_bound h)

/-! ### Where they differ -/

/-- Nothing but a number is reported with a unit, as a quantity is. -/
lemma report_plainOutcome_eq_iff {options : Options} {v : Value} :
    (plainOutcome options v).map Outcome.report = .ok (success q).report ↔
      (∃ n x, v = .number n ∧ n.toFloat = .ok x ∧ Double.display options.digits x = q.text) ∧
        CompoundUnit.unitless.text = q.unit.text := by
  cases v with
  | number n =>
    rw [plainOutcome]
    cases hx : n.toFloat with
    | error fault => simp [bind, Except.bind, Except.map, hx]
    | ok x => simp [bind, Except.bind, pure, Except.pure, Except.map, hx, success]
  | _ => simp [plainOutcome, Except.map, success]

lemma report_withoutUnits_eq_iff {options : Options} :
    (withoutUnits options formula scope).map Outcome.report = .ok (success q).report ↔
      (∃ n x, Formula.evaluate (Text.trim formula) (bareNumbers scope) = .ok (.number n) ∧
        n.toFloat = .ok x ∧ Double.display options.digits x = q.text) ∧
        CompoundUnit.unitless.text = q.unit.text := by
  cases hvalue : Formula.evaluate (Text.trim formula) (bareNumbers scope) with
  | error cause =>
    rw [withoutUnits_of_error hvalue]
    simp [Except.map, Failure.outcome, success]
  | ok v =>
    rw [withoutUnits_of_ok hvalue, report_plainOutcome_eq_iff]
    simp only [Except.ok.injEq]

/-- Where names count as zero, strict reading gives the same report exactly if the formula over bare
numbers shows the same value. -/
lemma ReadsZero.sameReport_iff (h : ReadsZero formula scope q) :
    (runProcess ⟨true, digits⟩ formula scope).map Outcome.report =
        (runProcess ⟨false, digits⟩ formula scope).map Outcome.report ↔
      ShownAs digits formula scope q := by
  have hlenient : runProcess ⟨false, digits⟩ formula scope = .ok (success q) :=
    runProcess_of_quantity h.quantity
  have hnone : Dimensional.evaluate (Text.trim formula) (fun name => scope.lookup name) true =
      none := by
    obtain ⟨name, hname, hunbound⟩ := h.unbound
    exact evaluate_strict_of_unbound hname hunbound
  have hreport : (Except.ok (success q) : Except ArithmeticFault Outcome).map Outcome.report =
      .ok (success q).report := rfl
  rw [hlenient, hreport]
  obtain ⟨hempty, -⟩ | ⟨q', hq', -⟩ | ⟨-, hplain, hstrict⟩ | ⟨hback, hstrict⟩ :=
    runProcess_cases ⟨true, digits⟩ formula scope
  · exact absurd (hempty.symm.trans (isEmpty_of_quantity h.quantity)) (by simp)
  · exact absurd (hq'.symm.trans hnone) (by simp)
  · rw [hstrict]
    refine iff_of_false (by simp [Except.map, Failure.outcome, success]) fun hshown => ?_
    exact absurd (hplain.2.symm.trans (hshown.noMismatch hplain.1)) (by simp)
  · rw [hstrict, report_withoutUnits_eq_iff]
    exact ⟨fun hsame => ⟨hback.noMismatch, hsame.1, hsame.2⟩,
      fun hshown => ⟨hshown.value, hshown.unit⟩⟩

/-- A formula without a name to count as zero is reported alike. -/
lemma runProcess_strict_of_not_readsZero (h : ∀ q, ¬ReadsZero formula scope q) :
    runProcess ⟨true, digits⟩ formula scope = runProcess ⟨false, digits⟩ formula scope := by
  by_cases hunbound : ∃ name, Names formula name ∧ scope.lookup name = none
  · obtain ⟨name, hname, hnone⟩ := hunbound
    refine runProcess_strict_eq ?_
    rw [evaluate_strict_of_unbound hname hnone, eq_comm, Option.eq_none_iff_forall_ne_some]
    exact fun q hq => h q ⟨⟨name, hname, hnone⟩, hq⟩
  · refine runProcess_strict_of_bound fun name hname => ?_
    rw [Option.isSome_iff_ne_none]
    exact fun hnone => hunbound ⟨name, hname, hnone⟩

/-- **What strict reading changes.**  A process is reported alike in both readings exactly if its
formula, where it has a quantity with zero for unbound names, shows the same over bare numbers.  The
whole outcome is the same if all names of the formula are bound or one of them is called.  So among
formulas whose names are all bound, constants or called, only those without a call and with an
unbound constant can be reported in two ways. -/
theorem report_strict_eq_iff (digits : Nat) (formula : String)
    (scope : List (String × Quantity)) :
    ((runProcess ⟨true, digits⟩ formula scope).map Outcome.report =
        (runProcess ⟨false, digits⟩ formula scope).map Outcome.report ↔
      ∀ q, ReadsZero formula scope q → ShownAs digits formula scope q) ∧
    ((∀ name, Names formula name → (scope.lookup name).isSome) ∨ (∃ name, Calls formula name) →
      runProcess ⟨true, digits⟩ formula scope = runProcess ⟨false, digits⟩ formula scope) ∧
    ((∀ name, Names formula name → (scope.lookup name).isSome ∨
        (Formula.constants.lookup name).isSome ∨ Calls formula name) →
      (runProcess ⟨true, digits⟩ formula scope).map Outcome.report ≠
        (runProcess ⟨false, digits⟩ formula scope).map Outcome.report →
      (∀ name, ¬Calls formula name) ∧ ∃ name, Names formula name ∧
        scope.lookup name = none ∧ (Formula.constants.lookup name).isSome) := by
  have hagree : (∀ name, Names formula name → (scope.lookup name).isSome) ∨
      (∃ name, Calls formula name) →
      runProcess ⟨true, digits⟩ formula scope = runProcess ⟨false, digits⟩ formula scope := by
    rintro (hbound | ⟨name, hcall⟩)
    · exact runProcess_strict_of_bound hbound
    · exact runProcess_strict_of_calls hcall
  refine ⟨?_, hagree, fun hnames hne => ?_⟩
  · by_cases hzero : ∃ q, ReadsZero formula scope q
    · obtain ⟨q, hq⟩ := hzero
      rw [hq.sameReport_iff]
      refine ⟨fun hshown q' hq' => ?_, fun h => h q hq⟩
      obtain rfl := Option.some.inj (hq.quantity.symm.trans hq'.quantity)
      exact hshown
    · have hnone := not_exists.1 hzero
      rw [runProcess_strict_of_not_readsZero hnone]
      exact iff_of_true rfl fun q hq => absurd hq (hnone q)
  · have hdiffer := mt (fun h => congrArg (Except.map Outcome.report) (hagree h)) hne
    rw [not_or, not_exists] at hdiffer
    obtain ⟨hunbound, hcalls⟩ := hdiffer
    simp only [not_forall, Option.not_isSome_iff_eq_none] at hunbound
    obtain ⟨name, hname, hnone⟩ := hunbound
    refine ⟨hcalls, name, hname, hnone, ?_⟩
    rcases hnames name hname with hbound | hconstant | hcall
    · exact absurd hbound (by simp [hnone])
    · exact hconstant
    · exact absurd hcall (hcalls name)

/-- A radius of three metres. -/
def radius : List (String × Quantity) := [("R", ⟨3.0, { numerator := ["m"] }⟩)]

/-- The circumference of a circle is nothing, unless the reading is strict. -/
theorem report_strict_eq_iff_circumference :
    (runProcess ⟨true, 4⟩ "2*pi*R" radius).map Outcome.report =
        .ok { value := some "18.8496", unit := some "unitless" } ∧
      (runProcess ⟨false, 4⟩ "2*pi*R" radius).map Outcome.report =
        .ok { value := some "0 m", unit := some "m" } ∧
      ¬∀ q, ReadsZero "2*pi*R" radius q → ShownAs 4 "2*pi*R" radius q := by
  have hstrict : (runProcess ⟨true, 4⟩ "2*pi*R" radius).map Outcome.report =
      .ok { value := some "18.8496", unit := some "unitless" } := rfl
  have hlenient : (runProcess ⟨false, 4⟩ "2*pi*R" radius).map Outcome.report =
      .ok { value := some "0 m", unit := some "m" } := rfl
  refine ⟨hstrict, hlenient, fun hshown => ?_⟩
  have hsame := (report_strict_eq_iff 4 "2*pi*R" radius).1.2 hshown
  rw [hstrict, hlenient] at hsame
  exact absurd (Except.ok.inj hsame) (by decide)

end Worksheet.Calculation
