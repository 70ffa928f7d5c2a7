import Worksheet.Proofs.Dimensional.Chain
import Worksheet.Proofs.Table.UnitWalk

/-!
# Units of chains

The unit of a column is derived from the text of its formula, past two replacements of aggregates,
some exact shapes and a walk.  On a chain of numbers, references and aggregates that multiplies and
divides all of this comes to one thing: the units of the operands are multiplied and divided from
left to right.  That is the unit which the quantity of the chain has, once names with these units
stand for the operands.
-/

namespace Worksheet.Table

open Worksheet.Text
open Dimensional (Blanks Chain Op)

/-! ### Operands of a chain -/

/-- An operand as a formula can write it: a number, a reference, or an aggregate of a column, whose
names can be written in brackets. -/
inductive ChainOperand where
  | constant (text : List Char) (htext : IsWhole text ∨ IsDecimal text)
  | reference (name : String) (hne : name ≠ "") (hfree : BracketFree name)
  | aggregate (a : Aggregate) (hproper : a.Proper) (hne : a.column ≠ "")
    (hfree : BracketFree a.column)

/-- What an operand of an exact shape contributes to a unit. -/
def Operand.unit (f : List Char → CompoundUnit) : Operand → CompoundUnit
  | reference name => f name
  | constant => .unitless

namespace ChainOperand

/-- An operand as it is written. -/
def text : ChainOperand → List Char
  | constant text _ => text
  | reference name _ _ => (bracket name).toList
  | aggregate a _ _ _ => a.text.toList

/-- An operand once counts have become constants. -/
def uncounted : ChainOperand → List Char
  | aggregate a _ _ _ => if a.function = "COUNT" then ['1'] else a.text.toList
  | x => x.text

/-- An operand once the other aggregates have become references. -/
def plain : ChainOperand → List Char
  | aggregate a _ _ _ => if a.function = "COUNT" then ['1'] else (bracket a.column).toList
  | x => x.text

/-- The operand that is left of it: a count is a constant, and any other aggregate is a reference to
its column. -/
def operand : ChainOperand → Operand
  | constant _ _ => .constant
  | reference name _ _ => .reference name.toList
  | aggregate a _ _ _ => if a.function = "COUNT" then .constant else .reference a.column.toList

/-- The unit of an operand: a number and a count have none, and any other has that of its column, or
else of the single value of that name. -/
def unit (columnUnits scalarUnits : List (String × String)) (x : ChainOperand) : CompoundUnit :=
  x.operand.unit (unitOf columnUnits scalarUnits)

lemma unit_reduced (columnUnits scalarUnits : List (String × String)) (x : ChainOperand) :
    (x.unit columnUnits scalarUnits).Reduced := by
  unfold unit Operand.unit
  split
  · exact unitOf_reduced columnUnits scalarUnits _
  · exact CompoundUnit.unitless_reduced

end ChainOperand

/-! ### Aggregates in a chain -/

lemma not_mem_number {text : List Char} (h : IsWhole text ∨ IsDecimal text) : '$' ∉ text := by
  intro hmem
  rcases isDecimalDigit_or_eq_point_of_mem h hmem with hdigit | hpoint
  · exact absurd hdigit (by decide)
  · exact absurd hpoint (by decide)

/-- The pattern does not look behind, and finds nothing where no aggregate stands. -/
structure FindsAggregates {α : Type} (pattern : Pattern α) : Prop where
  forward : Forward pattern
  eq_none : ∀ s, aggregate? s = none → pattern none s = none

lemma findsAggregates_countPattern : FindsAggregates countPattern where
  forward _ _ _ := rfl
  eq_none s hs := by rw [countPattern, hs]

lemma findsAggregates_aggregatePattern : FindsAggregates aggregatePattern where
  forward := forward_aggregatePattern
  eq_none s hs := by rw [aggregatePattern, hs, Option.map_none]

section Substitution

variable {α : Type} {pattern : Pattern α}

lemma FindsAggregates.substitute_append (h : FindsAggregates pattern) (image : α → List Char)
    {u : List Char} (hu : '$' ∉ u) (s : List Char) :
    substitute pattern image (u ++ s) = u ++ substitute pattern image s := by
  refine substitute_append_of_apart h.forward (fun t hsuffix hne => ?_) image
  obtain ⟨c, t, rfl⟩ := List.exists_cons_of_ne_nil hne
  have hc : c ≠ '$' := fun heq => hu (heq ▸ hsuffix.subset List.mem_cons_self)
  exact h.eq_none _ (aggregate?_eq_none hc _)

/-- A name in brackets is kept, even if it has a dollar sign. -/
lemma FindsAggregates.substitute_bracket (h : FindsAggregates pattern) (image : α → List Char)
    {name : String} (hfree : BracketFree name) (s : List Char) :
    substitute pattern image ((bracket name).toList ++ s) =
      (bracket name).toList ++ substitute pattern image s := by
  refine substitute_append_of_apart h.forward (fun t hsuffix hne => ?_) image
  rw [toList_bracket] at hsuffix
  obtain ⟨c, t, rfl⟩ := List.exists_cons_of_ne_nil hne
  rcases List.suffix_cons_iff.1 hsuffix with heq | htail
  · obtain ⟨rfl, -⟩ := List.cons.inj heq
    exact h.eq_none _ (aggregate?_eq_none (by decide) _)
  · obtain hnil | ⟨v, hv, hsub⟩ := List.suffix_concat_iff.1 htail
    · exact absurd hnil hne
    · -- an aggregate would have to open a bracket before the name is closed
      have hopen : '[' ∉ v ++ [']'] := by
        rw [List.mem_append, not_or]
        exact ⟨fun hc => hfree.1 (hsub.subset hc), by decide⟩
      have hclosed : ']' ∉ v := fun hc => hfree.2 (hsub.subset hc)
      rw [hv, List.append_assoc, List.singleton_append]
      exact h.eq_none _ (aggregate?_append_of_closed hclosed (aggregate?_eq_none_of_not_mem hopen) s)

variable {β : Type} {write write' : β → List Char}

/-- What happens to the operands happens to the chain: blanks and operators are kept. -/
lemma FindsAggregates.substitute_text (h : FindsAggregates pattern) (image : α → List Char)
    (hoperand : ∀ x s, substitute pattern image (write x ++ s) =
      write' x ++ substitute pattern image s) (c : Chain β) :
    substitute pattern image (c.text write) = c.text write' := by
  have hblanks : ∀ (u : Blanks) s, substitute pattern image (u.1 ++ s) =
      u.1 ++ substitute pattern image s := fun u s =>
    h.substitute_append image (fun hmem => absurd (u.2 _ hmem) (by decide)) s
  have hsign : ∀ (op : Op) s, substitute pattern image (op.sign.char :: s) =
      op.sign.char :: substitute pattern image s := fun op s =>
    h.substitute_append image (u := [op.sign.char]) (by cases op <;> decide) s
  exact Chain.read_text (P := fun _ => True) (B := Subtype.val) (S := fun op => [op.sign.char]) rfl
    hblanks hsign (fun _ _ => trivial) c fun x _ s _ => hoperand x s

end Substitution

lemma aggregate?_text_append {a : Aggregate} (hproper : a.Proper) (hne : a.column ≠ "")
    (hfree : BracketFree a.column) (s : List Char) : aggregate? (a.text.toList ++ s) = some a :=
  aggregate?_eq_some_iff.2 ⟨hproper, hne, hfree.2, List.prefix_append _ _⟩

lemma text_ne_nil (a : Aggregate) : a.text.toList ≠ [] := by
  rw [toList_text]
  exact List.cons_ne_nil _ _

lemma substitute_countPattern_operand (x : ChainOperand) (s : List Char) :
    substitute countPattern (fun _ => ['1']) (x.text ++ s) =
      x.uncounted ++ substitute countPattern (fun _ => ['1']) s := by
  have hfinds := findsAggregates_countPattern
  cases x with
  | constant text htext => exact hfinds.substitute_append _ (not_mem_number htext) s
  | reference name hne hfree => exact hfinds.substitute_bracket _ hfree s
  | aggregate a hproper hne hfree =>
    have hread := aggregate?_text_append hproper hne hfree
    rw [ChainOperand.text, ChainOperand.uncounted]
    split
    · rename_i hcount
      refine substitute_append hfinds.forward (text_ne_nil a) (a := ()) ?_ _
      simp [countPattern, hread, hcount, String.length_toList]
    · rename_i hcount
      -- it is no count at its head, and behind that dollar signs can only be in the name
      have hhead : countPattern none (a.text.toList ++ s) = none := by
        simp [countPattern, hread, hcount]
      have hfunction : '$' ∉ a.function.toList ++ ['_'] := by
        rw [List.mem_append, not_or]
        exact ⟨fun hmem => absurd (hproper.2 _ hmem) (by decide), by decide⟩
      have hsplit : ∀ s, a.text.toList ++ s =
          '$' :: (a.function.toList ++ ['_'] ++ ((bracket a.column).toList ++ s)) := by
        intro s
        simp [toList_text, toList_bracket]
      rw [hsplit] at hhead
      rw [hsplit, hsplit, substitute_cons hfinds.forward hhead, hfinds.substitute_append _ hfunction,
        hfinds.substitute_bracket _ hfree]

lemma substitute_aggregatePattern_operand (x : ChainOperand) (s : List Char) :
    substitute aggregatePattern (fun a => (bracket a.column).toList) (x.uncounted ++ s) =
      x.plain ++ substitute aggregatePattern (fun a => (bracket a.column).toList) s := by
  have hfinds := findsAggregates_aggregatePattern
  cases x with
  | constant text htext => exact hfinds.substitute_append _ (not_mem_number htext) s
  | reference name hne hfree => exact hfinds.substitute_bracket _ hfree s
  | aggregate a hproper hne hfree =>
    rw [ChainOperand.plain, ChainOperand.uncounted]
    split
    · exact hfinds.substitute_append _ (by decide) s
    · refine substitute_append hfinds.forward (text_ne_nil a) ?_ _
      rw [aggregatePattern, aggregate?_text_append hproper hne hfree, Option.map_some,
        String.length_toList]

/-- A chain without aggregates: counts are constants, and others are references. -/
lemma withoutAggregates_text (c : Chain ChainOperand) :
    withoutAggregates (String.ofList (c.text ChainOperand.text)) = c.text ChainOperand.plain := by
  rw [withoutAggregates, String.toList_ofList,
    findsAggregates_countPattern.substitute_text _ substitute_countPattern_operand,
    findsAggregates_aggregatePattern.substitute_text _ substitute_aggregatePattern_operand]

/-! ### The walk through a chain -/

lemma stops_plain (x : ChainOperand) (s : List Char) :
    matches? stopPattern (x.plain ++ s) = x.operand.stops ++ matches? stopPattern s := by
  have hbracket : ∀ name : String, name ≠ "" → BracketFree name →
      matches? stopPattern ((bracket name).toList ++ s) =
        .reference name.toList :: matches? stopPattern s := by
    intro name hne hfree
    rw [toList_bracket]
    exact stops_bracketed (mt String.toList_eq_nil_iff.1 hne) hfree.2 s
  cases x with
  | constant text htext => exact stops_append (fun c hc => not_isStop_of_mem_number htext hc) s
  | reference name hne hfree => exact hbracket name hne hfree
  | aggregate a hproper hne hfree =>
    rw [ChainOperand.plain, ChainOperand.operand]
    split
    · exact stops_append (List.forall_mem_singleton.2 rfl) s
    · exact hbracket a.column hne hfree

/-- The stops behind the first operand. -/
def linkStops (l : Chain.Link ChainOperand) : List Stop :=
  .operator l.op.sign.char :: l.operand.operand.stops

lemma sign_mem (op : Op) : op.sign.char ∈ ['*', '/', '+', '-'] := by
  cases op <;> decide

/-- The walk stops at the operators of a chain and at its references, and nowhere else. -/
lemma stops_text (c : Chain ChainOperand) :
    matches? stopPattern (c.text ChainOperand.plain) =
      c.first.operand.stops ++ c.links.flatMap linkStops := by
  have hblanks : ∀ (u : Blanks) s, matches? stopPattern (u.1 ++ s) = matches? stopPattern s :=
    fun u s => stops_append (fun d hd => not_isStop_of_isBlank (u.2 d hd)) s
  have hread := Chain.read_text (P := fun _ => True) (B := fun _ => [])
    (S := fun op => [Stop.operator op.sign.char]) rfl hblanks
    (fun op => stops_operator (sign_mem op)) (fun _ _ => trivial) c fun x _ s _ => stops_plain x s
  rw [List.append_nil] at hread
  exact hread

section Walk

variable (columnUnits scalarUnits : List (String × String))

/-- The walk multiplies or divides by an operand as the operator in front of it says. -/
lemma foldl_step_operand (op : Op) (hop : op = .mul ∨ op = .div) (walk : Walk)
    (hwalk : walk.operator = op.sign.char) (hreduced : walk.unit.Reduced) (x : ChainOperand) :
    x.operand.stops.foldl (Walk.step (unitOf columnUnits scalarUnits)) walk =
      { walk with unit := op.unit walk.unit (x.unit columnUnits scalarUnits) } := by
  unfold ChainOperand.unit
  cases x.operand with
  | reference name =>
    rcases hop with rfl | rfl <;>
      simp [Operand.stops, Operand.unit, Walk.step, hwalk, Dimensional.Op.sign,
        Dimensional.Sign.char, Op.unit]
  | constant =>
    -- a constant is no stop, and its unit changes nothing
    rcases hop with rfl | rfl
    · rw [Operand.unit, Op.unit, hreduced.mul_unitless]
      rfl
    · rw [Operand.unit, Op.unit, hreduced.div_unitless]
      rfl

lemma foldl_step_links {links : List (Chain.Link ChainOperand)}
    (h : ∀ l ∈ links, l.op = .mul ∨ l.op = .div) (walk : Walk) (hreduced : walk.unit.Reduced) :
    ((links.flatMap linkStops).foldl (Walk.step (unitOf columnUnits scalarUnits)) walk).unit =
        links.foldl (fun u l => l.op.unit u (l.operand.unit columnUnits scalarUnits)) walk.unit ∧
      ((links.flatMap linkStops).foldl (Walk.step (unitOf columnUnits scalarUnits)) walk).summed =
        walk.summed := by
  induction links generalizing walk with
  | nil => exact ⟨rfl, rfl⟩
  | cons l links ih =>
    obtain ⟨hl, hlinks⟩ := List.forall_mem_cons.1 h
    have hnext : (linkStops l).foldl (Walk.step (unitOf columnUnits scalarUnits)) walk =
        { walk with
          operator := l.op.sign.char
          unit := l.op.unit walk.unit (l.operand.unit columnUnits scalarUnits) } := by
      rw [linkStops, List.foldl_cons]
      exact foldl_step_operand columnUnits scalarUnits l.op hl
        { walk with operator := l.op.sign.char } rfl hreduced l.operand
    have hreduced' : (l.op.unit walk.unit (l.operand.unit columnUnits scalarUnits)).Reduced := by
      rcases hl with hop | hop <;> rw [hop]
      · exact CompoundUnit.mul_reduced _ _
      · exact CompoundUnit.div_reduced _ _
    rw [List.flatMap_cons, List.foldl_append, hnext, List.foldl_cons]
    exact ih hlinks _ hreduced'

lemma walkedUnit_text {c : Chain ChainOperand} (hc : c.SumFree) :
    walkedUnit (unitOf columnUnits scalarUnits) (c.text ChainOperand.plain) =
      ⟨(c.unit (ChainOperand.unit columnUnits scalarUnits)).text, none⟩ := by
  have hfirst : c.first.operand.stops.foldl (Walk.step (unitOf columnUnits scalarUnits)) {} =
      { unit := c.first.unit columnUnits scalarUnits } := by
    rw [foldl_step_operand columnUnits scalarUnits .mul (Or.inl rfl) {} rfl
      CompoundUnit.unitless_reduced, Op.unit,
      (c.first.unit_reduced columnUnits scalarUnits).unitless_mul]
  obtain ⟨hunit, hsummed⟩ := foldl_step_links columnUnits scalarUnits hc
    { unit := c.first.unit columnUnits scalarUnits } (c.first.unit_reduced columnUnits scalarUnits)
  rw [walkedUnit, stops_text, List.foldl_append, hfirst]
  simp only [hunit, hsummed]
  rfl

end Walk

lemma sumFree_text {c : Chain ChainOperand} (hc : c.SumFree) :
    SumFree (c.text ChainOperand.plain) := by
  have hstops : ∀ x : ChainOperand, ∀ d, .operator d ∉ x.operand.stops := by
    intro x d
    cases x.operand <;> simp [Operand.stops]
  intro d hd
  rw [stops_text, List.mem_append, List.mem_flatMap] at hd
  obtain ⟨l, hl, hd⟩ := hd.resolve_left (hstops c.first d)
  obtain heq := (List.mem_cons.1 hd).resolve_right (hstops l.operand d)
  obtain rfl := Stop.operator.inj heq
  rcases hc l hl with hop | hop <;> simp [hop, Dimensional.Op.sign, Dimensional.Sign.char]

/-! ### The unit of a chain -/

/-- A name stands for an operand: it is an identifier, and its quantity has the unit of the
operand. -/
def StandsFor (columnUnits scalarUnits : List (String × String))
    (scope : Dimensional.QuantityScope) (x : ChainOperand) (name : String) : Prop :=
  Dimensional.IsIdentifier name.toList ∧
    ∃ q, scope name = some q ∧ q.unit = x.unit columnUnits scalarUnits

/-- **The unit of a chain.**  A chain that multiplies and divides numbers, references and aggregates
has the unit that the operators make of the units of its operands from left to right, and there is
nothing to warn of.  Where the formula is of an exact shape, the walk would have found the same.
The same chain over names that stand for the operands has a quantity of this unit. -/
theorem deriveUnit_chain (c : Chain ChainOperand) (hc : c.SumFree)
    (columnUnits scalarUnits : List (String × String)) :
    deriveUnit (String.ofList (c.text ChainOperand.text)) columnUnits scalarUnits =
      ⟨(c.unit (ChainOperand.unit columnUnits scalarUnits)).text, none⟩ ∧
    (∀ unit, exactUnit? (unitOf columnUnits scalarUnits)
        (withoutAggregates (String.ofList (c.text ChainOperand.text))) = some unit →
      unit = walkedUnit (unitOf columnUnits scalarUnits)
        (withoutAggregates (String.ofList (c.text ChainOperand.text)))) ∧
    ∀ (scope : Dimensional.QuantityScope) (strict : Bool) (d : Chain String),
      Chain.Related (StandsFor columnUnits scalarUnits scope) c d →
      ∃ q, Dimensional.evaluate (String.ofList (d.text String.toList)) scope strict = some q ∧
        q.unit = c.unit (ChainOperand.unit columnUnits scalarUnits) := by
  have hwithout := withoutAggregates_text c
  have hsumFree := sumFree_text hc
  rw [← hwithout] at hsumFree
  have hreduced := unitOf_reduced columnUnits scalarUnits
  refine ⟨?_, fun unit => exactUnit?_eq_walkedUnit hreduced hsumFree, fun scope strict d hd => ?_⟩
  · rw [deriveUnit_eq_walkedUnit hsumFree, hwithout, walkedUnit_text columnUnits scalarUnits hc]
  · have hnames : ∀ name ∈ d.operands, Dimensional.IsIdentifier name.toList := by
      intro name hname
      obtain ⟨x, hx⟩ := hd.exists_of_mem hname
      exact hx.1
    have hbound : ∀ name ∈ d.operands, (scope name).isSome := by
      intro name hname
      obtain ⟨x, -, q, hq, -⟩ := hd.exists_of_mem hname
      rw [hq]
      rfl
    obtain ⟨q, hq, hunit⟩ := Chain.exists_evaluate_text (hd.sumFree hc) hnames hbound strict
    refine ⟨q, hq, hunit.trans (hd.unit_eq ?_).symm⟩
    rintro x name ⟨-, q, hq, hunit⟩
    rw [Chain.unitIn, hq, Option.getD_some, hunit]

/-- No blank. -/
def noBlank : Blanks := ⟨[], List.forall_mem_nil _⟩

/-- One blank. -/
def oneBlank : Blanks := ⟨[' '], List.forall_mem_singleton.2 rfl⟩

/-- A number, a reference and two aggregates, multiplied and divided. -/
def dosedFuel : Chain ChainOperand where
  lead := noBlank
  first := .constant ['1', '.', '5'] (Or.inr ⟨['1'], ['5'], rfl, List.forall_mem_singleton.2 rfl,
    List.forall_mem_singleton.2 rfl, Or.inl (by decide)⟩)
  links :=
    [⟨oneBlank, .mul, oneBlank, .reference "Fuel" (by decide) (by decide)⟩,
      ⟨oneBlank, .div, oneBlank, .aggregate ⟨"COUNT", "Fuel"⟩ (by decide) (by decide) (by decide)⟩,
      ⟨oneBlank, .mul, oneBlank, .aggregate ⟨"MAX", "Factor"⟩ (by decide) (by decide) (by decide)⟩]
  trail := noBlank

/-- The same chain over names. -/
def namedDose : Chain String where
  lead := noBlank
  first := "k"
  links := [⟨oneBlank, .mul, oneBlank, "fuel"⟩, ⟨oneBlank, .div, oneBlank, "n"⟩,
    ⟨oneBlank, .mul, oneBlank, "factor"⟩]
  trail := noBlank

/-- The units of the columns that it refers to. -/
def fuelUnits : List (String × String) := [("Fuel", "L"), ("Factor", "kg/L")]

/-- Quantities with the units of its operands. -/
def fuelScope : Dimensional.QuantityScope := fun name =>
  match name with
  | "k" => some ⟨1.5, .unitless⟩
  | "fuel" => some ⟨40, .parse "L"⟩
  | "n" => some ⟨3, .unitless⟩
  | "factor" => some ⟨2.5, .parse "kg/L"⟩
  | _ => none

/-- Litres cancel out. -/
theorem deriveUnit_chain_dosedFuel :
    dosedFuel.SumFree ∧
    String.ofList (dosedFuel.text ChainOperand.text) =
      "1.5 * [Fuel] / $COUNT_[Fuel] * $MAX_[Factor]" ∧
    deriveUnit "1.5 * [Fuel] / $COUNT_[Fuel] * $MAX_[Factor]" fuelUnits [] = ⟨"kg", none⟩ ∧
    Chain.Related (StandsFor fuelUnits [] fuelScope) dosedFuel namedDose ∧
    ∃ q, Dimensional.evaluate "k * fuel / n * factor" fuelScope true = some q ∧
      q.unit.text = "kg" := by
  have hfree : dosedFuel.SumFree := by decide
  have htext : String.ofList (dosedFuel.text ChainOperand.text) =
      "1.5 * [Fuel] / $COUNT_[Fuel] * $MAX_[Factor]" := by decide
  have hnames : String.ofList (namedDose.text String.toList) = "k * fuel / n * factor" := by decide
  have hunit : (dosedFuel.unit (ChainOperand.unit fuelUnits [])).text = "kg" := by decide +kernel
  have hrelated : Chain.Related (StandsFor fuelUnits [] fuelScope) dosedFuel namedDose := by
    refine ⟨⟨?_, _, rfl, rfl⟩, .cons ⟨rfl, ?_, _, rfl, by decide +kernel⟩
      (.cons ⟨rfl, ?_, _, rfl, rfl⟩ (.cons ⟨rfl, ?_, _, rfl, by decide +kernel⟩ .nil))⟩
    · exact ⟨'k', [], rfl, rfl, List.forall_mem_nil _⟩
    · exact ⟨'f', "uel".toList, rfl, rfl, List.all_eq_true.1 (by decide)⟩
    · exact ⟨'n', [], rfl, rfl, List.forall_mem_nil _⟩
    · exact ⟨'f', "actor".toList, rfl, rfl, List.all_eq_true.1 (by decide)⟩
  obtain ⟨hderived, -, hquantity⟩ := deriveUnit_chain dosedFuel hfree fuelUnits []
  obtain ⟨q, hq, hqunit⟩ := hquantity fuelScope true namedDose hrelated
  rw [htext, hunit] at hderived
  rw [hnames] at hq
  exact ⟨hfree, htext, hderived, hrelated, q, hq, by rw [hqunit, hunit]⟩

end Worksheet.Table
