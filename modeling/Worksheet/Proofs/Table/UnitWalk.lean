import Worksheet.Proofs.CompoundUnit.Net
import Worksheet.Proofs.Table.Bracketed
import Worksheet.Table.UnitDerivation

/-!
# The walk through a formula

The walk from left to right sees of a formula only its stops: the operators outside of brackets and
the names in brackets, in the order of the text.  The exact shapes are read from the same stops, so
that a formula of an exact shape that multiplies or divides has the unit that the walk would give
it.  A sum is noticed at a reference only: what counts is whether some `+` or `-` has a reference as
the very next stop.
-/

namespace Worksheet.Table

open Worksheet.Text

/-! ### Where the walk stops -/

/-- The characters at which the walk may stop. -/
def isStop (c : Char) : Bool := c == '[' || c == '*' || c == '/' || c == '+' || c == '-'

lemma forward_stopPattern : Forward stopPattern := fun _ _ _ => rfl

lemma stopPattern_eq_none {c : Char} (h : isStop c = false) (s : List Char) :
    stopPattern none (c :: s) = none := by
  simp only [isStop, Bool.or_eq_false_iff] at h
  obtain ⟨⟨⟨⟨hopen, hstar⟩, hslash⟩, hplus⟩, hminus⟩ := h
  rw [stopPattern, bracketed?_eq_none (by simpa using hopen)]
  simp [hstar, hslash, hplus, hminus]

/-- Text without a stop is passed over. -/
lemma stops_append {u : List Char} (h : ∀ c ∈ u, isStop c = false) (s : List Char) :
    matches? stopPattern (u ++ s) = matches? stopPattern s := by
  induction u with
  | nil => rfl
  | cons c u ih =>
    obtain ⟨hc, hu⟩ := List.forall_mem_cons.1 h
    rw [List.cons_append, matches?_cons forward_stopPattern (stopPattern_eq_none hc _), ih hu]

lemma stops_operator {c : Char} (h : c ∈ ['*', '/', '+', '-']) (s : List Char) :
    matches? stopPattern (c :: s) = .operator c :: matches? stopPattern s := by
  have hfound : stopPattern none ([c] ++ s) = some (.operator c, [c].length) := by
    simp only [List.mem_cons, List.not_mem_nil, or_false] at h
    rcases h with rfl | rfl | rfl | rfl <;> rfl
  exact matches?_append forward_stopPattern (List.cons_ne_nil _ _) hfound

lemma stops_bracketed {name : List Char} (hne : name ≠ []) (hclosed : ']' ∉ name)
    (s : List Char) :
    matches? stopPattern ('[' :: (name ++ [']']) ++ s) =
      .reference name :: matches? stopPattern s := by
  have hname : bracketed? ('[' :: (name ++ [']']) ++ s) = some name :=
    bracketed?_eq_some_iff.2 ⟨hne, hclosed, List.prefix_append _ _⟩
  refine matches?_append forward_stopPattern (List.cons_ne_nil _ _) ?_
  simp only [stopPattern, hname]
  simp

lemma not_isStop_of_isBlank {c : Char} (h : isBlank c = true) : isStop c = false := by
  cases hstop : isStop c with
  | false => rfl
  | true =>
    simp only [isStop, Bool.or_eq_true, beq_iff_eq] at hstop
    rcases hstop with (((rfl | rfl) | rfl) | rfl) | rfl <;> exact absurd h (by decide)

lemma not_isStop_of_mem_number {text : List Char} (h : IsWhole text ∨ IsDecimal text) {c : Char}
    (hc : c ∈ text) : isStop c = false := by
  rcases isDecimalDigit_or_eq_point_of_mem h hc with hdigit | rfl
  · cases hstop : isStop c with
    | false => rfl
    | true =>
      simp only [isStop, Bool.or_eq_true, beq_iff_eq] at hstop
      rcases hstop with (((rfl | rfl) | rfl) | rfl) | rfl <;> exact absurd hdigit (by decide)
  · rfl

lemma stops_trimStart (s : List Char) :
    matches? stopPattern (trimStart s) = matches? stopPattern s := by
  have hblank : ∀ c ∈ s.takeWhile isBlank, isStop c = false := fun c hc =>
    not_isStop_of_isBlank (List.all_eq_true.1 List.all_takeWhile c hc)
  conv_rhs => rw [← List.takeWhile_append_dropWhile (p := isBlank) (l := s), stops_append hblank]
  rfl

/-- The name that a stop refers to. -/
def Stop.name? : Stop → Option (List Char)
  | .reference name => some name
  | .operator _ => none

lemma filterMap_scanFrom_stopPattern (before before' : Option Char) (skip : Nat) (s : List Char) :
    ((scanFrom stopPattern before skip s).filterMap Piece.found?).filterMap Stop.name? =
      (scanFrom bracketPattern before' skip s).filterMap Piece.found? := by
  induction s generalizing before before' skip with
  | nil => rfl
  | cons c s ih =>
    cases skip with
    | succ skip => exact ih _ _ skip
    | zero =>
      cases hname : bracketed? (c :: s) with
      | some name =>
        have hstop : stopPattern before (c :: s) = some (.reference name, name.length + 2) := by
          rw [stopPattern, hname]
        have hbracket : bracketPattern before' (c :: s) = some (name, name.length + 2) := by
          rw [bracketPattern, hname, Option.map_some]
        rw [scanFrom, scanFrom, hstop, hbracket]
        exact congrArg (name :: ·) (ih _ _ _)
      | none =>
        have hbracket : bracketPattern before' (c :: s) = none := by
          rw [bracketPattern, hname, Option.map_none]
        rw [scanFrom, scanFrom, hbracket, stopPattern, hname]
        -- an operator is one character, so both scans go on behind it
        dsimp only
        split_ifs <;> exact ih _ _ 0

/-- The stops of the walk that are references are the names in brackets. -/
lemma filterMap_stops (s : List Char) :
    (matches? stopPattern s).filterMap Stop.name? = matches? bracketPattern s := by
  rw [matches?_eq_filterMap, matches?_eq_filterMap, filterMap_scanFrom_stopPattern none none 0 s]

lemma reference_mem_stops_iff {s name : List Char} :
    Stop.reference name ∈ matches? stopPattern s ↔ name ∈ matches? bracketPattern s := by
  rw [← filterMap_stops, List.mem_filterMap]
  constructor
  · exact fun h => ⟨_, h, rfl⟩
  · rintro ⟨stop, hstop, hname⟩
    cases stop with
    | reference name' =>
      obtain rfl := Option.some.inj hname
      exact hstop
    | operator c => exact absurd hname (by simp [Stop.name?])

/-! ### Exact shapes -/

/-- The stops of an operand of an exact shape. -/
def Operand.stops : Operand → List Stop
  | .reference name => [.reference name]
  | .constant => []

lemma stops_of_operand? {s rest : List Char} {operand : Operand}
    (h : operand? s = some (operand, rest)) :
    matches? stopPattern s = operand.stops ++ matches? stopPattern rest := by
  unfold operand? at h
  split at h
  · rename_i name hname
    obtain ⟨rfl, rfl⟩ := Prod.mk.inj (Option.some.inj h)
    obtain ⟨hne, hclosed, after, rfl⟩ := bracketed?_eq_some_iff.1 hname
    have hlength : name.length + 2 = ('[' :: (name ++ [']'])).length := by simp
    rw [stops_bracketed hne hclosed, stops_trimStart, hlength, List.drop_left]
    rfl
  · rename_i n _ hwidth
    have hwidth : leadingDecimalWidth s = n + 1 := hwidth
    obtain ⟨rfl, rfl⟩ := Prod.mk.inj (Option.some.inj h)
    have hdecimal : decimalWidth s = n + 1 := by simp [decimalWidth, hwidth]
    have hnumber := isWhole_or_isDecimal_take (s := s) (by omega)
    rw [hdecimal] at hnumber
    rw [stops_trimStart]
    conv_lhs => rw [← List.take_append_drop (n + 1) s]
    exact stops_append (fun c hc => not_isStop_of_mem_number hnumber hc) _
  · exact absurd h (by simp)

/-- A formula of an exact shape has no stops but those of its operands and its operator. -/
lemma stops_of_pair? {s : List Char} {left right : Operand} {op : Char}
    (h : pair? s = some (left, op, right)) (hop : op ∈ ['*', '/', '+', '-']) :
    matches? stopPattern s = left.stops ++ .operator op :: right.stops := by
  unfold pair? at h
  obtain ⟨⟨left', rest⟩, hleft, h⟩ := Option.bind_eq_some_iff.1 h
  cases rest with
  | nil => exact absurd h (by simp)
  | cons op' rest =>
    obtain ⟨⟨right', rest'⟩, hright, h⟩ := Option.bind_eq_some_iff.1 h
    simp only at h
    split at h
    · rename_i hempty
      obtain ⟨rfl, rfl, rfl⟩ : left' = left ∧ op' = op ∧ right' = right := by simpa using h
      obtain rfl := List.isEmpty_iff.1 hempty
      have hfirst := stops_of_operand? hleft
      have hsecond := stops_of_operand? hright
      rw [stops_trimStart] at hfirst hsecond
      rw [hfirst, stops_operator hop, hsecond]
      simp [matches?, scan, scanFrom]
    · exact absurd h (by simp)

/-- No exact shape has any other sign between its operands. -/
lemma exactUnit?_of_other {s : List Char} {left right : Operand} {op : Char}
    (hpair : pair? s = some (left, op, right)) (hop : op ∉ ['*', '/', '+', '-'])
    (f : List Char → CompoundUnit) : exactUnit? f s = none := by
  unfold exactUnit?
  rw [hpair]
  split <;> simp_all

/-! ### Where the walk and the exact shapes agree -/

/-- No sum or difference stands outside of brackets. -/
def SumFree (s : List Char) : Prop :=
  ∀ c, .operator c ∈ matches? stopPattern s → c = '*' ∨ c = '/'

/-- Operators alone change neither the unit nor what has been noticed. -/
lemma foldl_step_of_no_reference (f : List Char → CompoundUnit) {stops : List Stop}
    (h : ∀ name, .reference name ∉ stops) (walk : Walk) :
    (stops.foldl (Walk.step f) walk).unit = walk.unit ∧
      (stops.foldl (Walk.step f) walk).summed = walk.summed := by
  induction stops generalizing walk with
  | nil => exact ⟨rfl, rfl⟩
  | cons stop stops ih =>
    cases stop with
    | reference name => exact absurd List.mem_cons_self (h name)
    | operator c => exact ih (fun name hname => h name (List.mem_cons_of_mem _ hname)) _

lemma walkedUnit_of_no_reference (f : List Char → CompoundUnit) {s : List Char}
    (h : matches? bracketPattern s = []) : walkedUnit f s = ⟨"unitless", none⟩ := by
  have hnone : ∀ name, Stop.reference name ∉ matches? stopPattern s := by
    intro name hname
    rw [reference_mem_stops_iff, h] at hname
    exact absurd hname List.not_mem_nil
  obtain ⟨hunit, hsummed⟩ := foldl_step_of_no_reference f hnone {}
  simp only [walkedUnit, hunit, hsummed]
  rfl

/-- The walk finds for a product, a quotient and a multiple what the exact shape says. -/
lemma exactUnit?_eq_walkedUnit {f : List Char → CompoundUnit} (hreduced : ∀ name, (f name).Reduced)
    {s : List Char} (hs : SumFree s) {unit : DerivedUnit} (h : exactUnit? f s = some unit) :
    unit = walkedUnit f s := by
  have hunitless : ∀ name, CompoundUnit.unitless * f name = f name := fun name =>
    (hreduced name).unitless_mul
  unfold exactUnit? at h
  split at h
  · rename_i a b hpair
    obtain rfl := Option.some.inj h
    simp [walkedUnit, stops_of_pair? hpair (by simp), Operand.stops, Walk.step, hunitless]
  · rename_i a b hpair
    obtain rfl := Option.some.inj h
    simp [walkedUnit, stops_of_pair? hpair (by simp), Operand.stops, Walk.step, hunitless]
  · rename_i a b hpair
    exact absurd (hs '+' (by rw [stops_of_pair? hpair (by simp)]; simp)) (by decide)
  · rename_i a b hpair
    exact absurd (hs '-' (by rw [stops_of_pair? hpair (by simp)]; simp)) (by decide)
  · rename_i a hpair
    obtain rfl := Option.some.inj h
    simp [walkedUnit, stops_of_pair? hpair (by simp), Operand.stops, Walk.step, hunitless]
  · rename_i a hpair
    obtain rfl := Option.some.inj h
    simp [walkedUnit, stops_of_pair? hpair (by simp), Operand.stops, Walk.step, hunitless]
  · exact absurd h (by simp)

lemma unitOf_reduced (columnUnits scalarUnits : List (String × String)) (name : List Char) :
    (unitOf columnUnits scalarUnits name).Reduced := by
  unfold unitOf
  dsimp only
  split
  · exact CompoundUnit.parse?_reduced (some _)
  · exact CompoundUnit.parse?_reduced (some _)
  · exact CompoundUnit.unitless_reduced

/-- A formula that multiplies and divides only has the unit of the walk, whatever its shape is. -/
lemma deriveUnit_eq_walkedUnit {formula : String} (h : SumFree (withoutAggregates formula))
    (columnUnits scalarUnits : List (String × String)) :
    deriveUnit formula columnUnits scalarUnits =
      walkedUnit (unitOf columnUnits scalarUnits) (withoutAggregates formula) := by
  unfold deriveUnit
  dsimp only
  split
  · rename_i hempty
    exact (walkedUnit_of_no_reference _ (List.isEmpty_iff.1 hempty)).symm
  · cases hexact : exactUnit? (unitOf columnUnits scalarUnits) (withoutAggregates formula) with
    | none => rfl
    | some unit => exact exactUnit?_eq_walkedUnit (unitOf_reduced columnUnits scalarUnits) h hexact

/-! ### Sums -/

/-- Among the stops some `+` or `-` has a reference next to it. -/
def SumMeetsReference (stops : List Stop) : Prop :=
  ∃ sign name, (sign = '+' ∨ sign = '-') ∧ [.operator sign, .reference name] <:+: stops

lemma sumMeetsReference_cons_operator {c : Char} {stops : List Stop} :
    SumMeetsReference (.operator c :: stops) ↔
      ((c = '+' ∨ c = '-') ∧ ∃ name rest, stops = .reference name :: rest) ∨
        SumMeetsReference stops := by
  simp only [SumMeetsReference, List.infix_cons_iff, List.cons_prefix_cons,
    Stop.operator.injEq]
  constructor
  · rintro ⟨sign, name, hsign, ⟨rfl, rest, hrest⟩ | hinfix⟩
    · exact Or.inl ⟨hsign, name, rest, hrest.symm⟩
    · exact Or.inr ⟨sign, name, hsign, hinfix⟩
  · rintro (⟨hc, name, rest, rfl⟩ | ⟨sign, name, hsign, hinfix⟩)
    · exact ⟨c, name, hc, Or.inl ⟨rfl, rest, rfl⟩⟩
    · exact ⟨sign, name, hsign, Or.inr hinfix⟩

/-- A reference is no operator, so nothing begins at it. -/
lemma sumMeetsReference_cons_reference {name : List Char} {stops : List Stop} :
    SumMeetsReference (.reference name :: stops) ↔ SumMeetsReference stops := by
  simp only [SumMeetsReference, List.infix_cons_iff, List.cons_prefix_cons,
    reduceCtorEq, false_and, false_or]

/-- An operator of the walk is one of four. -/
lemma operator_mem_stops {s : List Char} {c : Char} (h : .operator c ∈ matches? stopPattern s) :
    c ∈ ['*', '/', '+', '-'] := by
  obtain ⟨before, s', width, -, hfound⟩ := foundIn_of_mem_matches? h
  unfold stopPattern at hfound
  split at hfound
  · exact absurd hfound (by simp)
  · split at hfound
    · split at hfound
      · rename_i hsign
        obtain ⟨rfl, -⟩ : _ = c ∧ _ := by simpa using hfound
        simpa [or_assoc] using hsign
      · exact absurd hfound (by simp)
    · exact absurd hfound (by simp)

@[simp] lemma operator_step_reference (f : List Char → CompoundUnit) (walk : Walk)
    (name : List Char) : (walk.step f (.reference name)).operator = walk.operator := by
  unfold Walk.step
  dsimp only
  split_ifs <;> rfl

/-- A reference is summed if neither a product nor a quotient waits for it. -/
lemma summed_step_reference (f : List Char → CompoundUnit) {walk : Walk}
    (hwalk : walk.operator ∈ ['*', '/', '+', '-']) (name : List Char) :
    (walk.step f (.reference name)).summed = true ↔
      walk.summed = true ∨ walk.operator = '+' ∨ walk.operator = '-' := by
  simp only [List.mem_cons, List.not_mem_nil, or_false] at hwalk
  rcases hwalk with hop | hop | hop | hop <;> simp [Walk.step, hop]

/-- **What the walk notices.**  From any state the walk ends with a sum noticed exactly if one was
noticed before, or a `+` or `-`, the last operator before the start counted in, has a reference as
its next stop. -/
lemma summed_foldl_iff (f : List Char → CompoundUnit) {stops : List Stop}
    (hstops : ∀ c, .operator c ∈ stops → c ∈ ['*', '/', '+', '-']) {walk : Walk}
    (hwalk : walk.operator ∈ ['*', '/', '+', '-']) :
    (stops.foldl (Walk.step f) walk).summed = true ↔
      walk.summed = true ∨ SumMeetsReference (.operator walk.operator :: stops) := by
  induction stops generalizing walk with
  | nil =>
    have hnone : ¬ SumMeetsReference [] := by simp [SumMeetsReference]
    simp [sumMeetsReference_cons_operator, hnone]
  | cons stop stops ih =>
    have htail : ∀ c, .operator c ∈ stops → c ∈ ['*', '/', '+', '-'] := fun c hc =>
      hstops c (List.mem_cons_of_mem _ hc)
    rw [List.foldl_cons, sumMeetsReference_cons_operator]
    cases stop with
    | operator c =>
      -- the new operator takes the place of the old one, at which no reference stood
      rw [ih htail (hstops c List.mem_cons_self)]
      simp [Walk.step]
    | reference name =>
      -- the old operator stays; whether it sums has been noticed now
      rw [ih htail (by simpa using hwalk), summed_step_reference f hwalk, operator_step_reference,
        sumMeetsReference_cons_operator, sumMeetsReference_cons_reference]
      have hhead : ∃ name' rest, Stop.reference name :: stops = .reference name' :: rest :=
        ⟨name, stops, rfl⟩
      rw [and_iff_left hhead]
      tauto

end Worksheet.Table
