import Worksheet.Proofs.Table.UnitChain

/-!
# When a sum is warned of

The walk warns of a sum only where a reference is the next stop behind a `+` or `-`.  Any other
operator in between takes the place of the sign, and a number or a count is no stop, so a sum may
go without a warning: the units of `[Mass] + 2 * [Volume]` are multiplied as if there were no `+`.
-/

namespace Worksheet.Table

open Worksheet.Text
open Dimensional (Chain Op)

/-! ### Sums in a chain -/

/-- The operator adds or subtracts. -/
def IsSum (op : Op) : Prop := op = .add ∨ op = .sub

lemma isSum_iff {op : Op} : IsSum op ↔ op.sign.char = '+' ∨ op.sign.char = '-' := by
  cases op <;> simp [IsSum, Dimensional.Op.sign, Dimensional.Sign.char]

/-- The operand is read as a reference: it is one, or an aggregate that is no count. -/
def ChainOperand.IsReference (x : ChainOperand) : Prop := ∃ name, x.operand = .reference name

/-- Behind an operand there is an operator first. -/
lemma flatMap_linkStops_ne_reference (links : List (Chain.Link ChainOperand)) (name : List Char)
    (rest : List Stop) : links.flatMap linkStops ≠ .reference name :: rest := by
  cases links with
  | nil => simp
  | cons l links => simp [linkStops]

lemma sumMeetsReference_flatMap_linkStops_iff (links : List (Chain.Link ChainOperand)) :
    SumMeetsReference (links.flatMap linkStops) ↔
      ∃ l ∈ links, IsSum l.op ∧ l.operand.IsReference := by
  induction links with
  | nil => simp [SumMeetsReference]
  | cons l links ih =>
    rw [List.flatMap_cons, linkStops, List.cons_append, sumMeetsReference_cons_operator,
      ← isSum_iff, List.exists_mem_cons_iff, ← ih]
    unfold ChainOperand.IsReference
    cases l.operand.operand with
    | reference name =>
      -- nothing begins at the reference itself
      rw [Operand.stops, List.singleton_append, sumMeetsReference_cons_reference]
      simp
    | constant =>
      rw [Operand.stops, List.nil_append]
      simp [flatMap_linkStops_ne_reference]

lemma sumMeetsReference_text_iff (c : Chain ChainOperand) :
    SumMeetsReference (matches? stopPattern (c.text ChainOperand.plain)) ↔
      ∃ l ∈ c.links, IsSum l.op ∧ l.operand.IsReference := by
  rw [stops_text, ← sumMeetsReference_flatMap_linkStops_iff]
  cases c.first.operand with
  | reference name => exact sumMeetsReference_cons_reference
  | constant => exact Iff.rfl

/-! ### The warning -/

lemma summed_walk_iff (f : List Char → CompoundUnit) (s : List Char) :
    ((matches? stopPattern s).foldl (Walk.step f) {}).summed = true ↔
      SumMeetsReference (matches? stopPattern s) := by
  rw [summed_foldl_iff f (fun _ => operator_mem_stops) (by simp), sumMeetsReference_cons_operator]
  simp

/-- A formula of no exact shape is warned of as the walk says; without references it has no sum
that meets one. -/
lemma warning_deriveUnit {formula : String} {columnUnits scalarUnits : List (String × String)}
    (h : exactUnit? (unitOf columnUnits scalarUnits) (withoutAggregates formula) = none) :
    (deriveUnit formula columnUnits scalarUnits).warning =
      (walkedUnit (unitOf columnUnits scalarUnits) (withoutAggregates formula)).warning := by
  rw [deriveUnit]
  split
  · rename_i hempty
    rw [walkedUnit_of_no_reference _ (List.isEmpty_iff.1 hempty)]
  · rw [h, Option.getD_none]

lemma warning_cases {formula : String} {columnUnits scalarUnits : List (String × String)}
    (h : exactUnit? (unitOf columnUnits scalarUnits) (withoutAggregates formula) = none) :
    (deriveUnit formula columnUnits scalarUnits).warning = some complexSumWarning ∧
        SumMeetsReference (matches? stopPattern (withoutAggregates formula)) ∨
      (deriveUnit formula columnUnits scalarUnits).warning = none ∧
        ¬ SumMeetsReference (matches? stopPattern (withoutAggregates formula)) := by
  rw [warning_deriveUnit h, ← summed_walk_iff (unitOf columnUnits scalarUnits), walkedUnit]
  dsimp only
  split
  · exact Or.inl ⟨rfl, ‹_›⟩
  · exact Or.inr ⟨rfl, ‹_›⟩

/-- **When a sum is warned of.**  A formula of no exact shape is warned of exactly if a reference is
the next stop behind some `+` or `-` of it.  A chain is warned of exactly if one of its operators
adds or subtracts a reference, or an aggregate that is no count. -/
theorem warning_iff_sumMeetsReference (columnUnits scalarUnits : List (String × String)) :
    (∀ formula : String,
      exactUnit? (unitOf columnUnits scalarUnits) (withoutAggregates formula) = none →
      (deriveUnit formula columnUnits scalarUnits).warning = some complexSumWarning ∧
          SumMeetsReference (matches? stopPattern (withoutAggregates formula)) ∨
        (deriveUnit formula columnUnits scalarUnits).warning = none ∧
          ¬ SumMeetsReference (matches? stopPattern (withoutAggregates formula))) ∧
    ∀ c : Chain ChainOperand,
      exactUnit? (unitOf columnUnits scalarUnits)
        (withoutAggregates (String.ofList (c.text ChainOperand.text))) = none →
      ((deriveUnit (String.ofList (c.text ChainOperand.text)) columnUnits scalarUnits).warning =
          some complexSumWarning ↔
        ∃ l ∈ c.links, IsSum l.op ∧ l.operand.IsReference) := by
  refine ⟨fun _ => warning_cases, fun c hc => ?_⟩
  rw [← sumMeetsReference_text_iff, ← withoutAggregates_text]
  rcases warning_cases hc with ⟨hwarning, hsum⟩ | ⟨hwarning, hsum⟩
  · exact iff_of_true hwarning hsum
  · exact iff_of_false (by rw [hwarning]; simp) hsum

/-- A mass, a volume and a density. -/
def massUnits : List (String × String) := [("Mass", "kg"), ("Volume", "L"), ("Density", "kg/L")]

/-- A product with a mass added to it. -/
def addedMass : Chain ChainOperand where
  lead := noBlank
  first := .reference "Volume" (by decide) (by decide)
  links :=
    [⟨oneBlank, .mul, oneBlank, .reference "Density" (by decide) (by decide)⟩,
      ⟨oneBlank, .add, oneBlank, .reference "Mass" (by decide) (by decide)⟩]
  trail := noBlank

/-- A mass is added to a product with a warning, and twice a volume to a mass without one. -/
theorem warning_iff_sumMeetsReference_masses :
    exactUnit? (unitOf massUnits [])
      (withoutAggregates (String.ofList (addedMass.text ChainOperand.text))) = none ∧
    String.ofList (addedMass.text ChainOperand.text) = "[Volume] * [Density] + [Mass]" ∧
    (deriveUnit "[Volume] * [Density] + [Mass]" massUnits []).warning = some complexSumWarning ∧
    exactUnit? (unitOf massUnits []) (withoutAggregates "[Mass] + 2 * [Volume]") = none ∧
    deriveUnit "[Mass] + 2 * [Volume]" massUnits [] = ⟨"kg·L", none⟩ ∧
    ¬ SumMeetsReference (matches? stopPattern (withoutAggregates "[Mass] + 2 * [Volume]")) := by
  obtain ⟨hformula, hchain⟩ := warning_iff_sumMeetsReference massUnits []
  have htext : String.ofList (addedMass.text ChainOperand.text) =
      "[Volume] * [Density] + [Mass]" := by decide
  have hexact : exactUnit? (unitOf massUnits [])
      (withoutAggregates (String.ofList (addedMass.text ChainOperand.text))) = none := by
    decide +kernel
  have hexact' : exactUnit? (unitOf massUnits []) (withoutAggregates "[Mass] + 2 * [Volume]") =
      none := by
    decide +kernel
  have hderived : deriveUnit "[Mass] + 2 * [Volume]" massUnits [] = ⟨"kg·L", none⟩ := by
    decide +kernel
  have hwarned := (hchain addedMass hexact).2
    ⟨_, List.mem_cons_of_mem _ List.mem_cons_self, Or.inl rfl, _, rfl⟩
  rw [htext] at hwarned
  refine ⟨hexact, htext, hwarned, hexact', hderived, ?_⟩
  rcases hformula _ hexact' with ⟨hwarning, -⟩ | ⟨-, hsum⟩
  · rw [hderived] at hwarning
    exact absurd hwarning (by simp)
  · exact hsum

end Worksheet.Table
