import Worksheet.Formula.Eval
import Worksheet.Proofs.Double.NoInteger
import Worksheet.Proofs.Value.Oversized

/-!
# Where a call breaks down

A function of doubles reads its arguments as numbers from left to right, so it meets the first that
is an integer without a double.  Once all are read, only three functions have no value for some
doubles: a remainder and a rounding that go through an integer which does not exist, and a logarithm
in base one.  Choices, lookups and connectives compute nothing and never break down.
-/

namespace Worksheet

/-- Of the values, the first that is not read as a double is an integer without one. -/
def OversizedFirst : List Value → Prop
  | [] => False
  | v :: vs => v.Oversized ∨ (∃ x, v.ReadsAs x) ∧ OversizedFirst vs

lemma Value.oversized_iff {v : Value} : v.Oversized ↔ ∃ n, v.toNumber = .ok n ∧ n.Oversized := by
  cases v with
  | number a => cases a <;> simp [Oversized, toNumber, Number.Oversized]
  | text s =>
    refine iff_of_false id ?_
    rintro ⟨n, hn, hlarge⟩
    obtain ⟨k, rfl⟩ := hlarge.exists_int
    cases hblank : Text.isBlankText s <;> cases hnumeral : numeralOf? s <;>
      simp [toNumber, hblank, hnumeral] at hn
  | _ => simp [Oversized, toNumber, Number.Oversized]

namespace Formula

variable {fault : ArithmeticFault} {name : String} {a b v : Value} {values : List Value}

/-! ### Operands and arguments -/

lemma liftArithmetic_eq_error_iff {α : Type} {x : Except ArithmeticFault α} :
    liftArithmetic x = .error (.arithmetic fault) ↔ x = .error fault := by
  rw [liftArithmetic, mapError_eq_error_iff]
  simp

lemma numeric_eq_ok_iff {caller : Option String} {n : Number} :
    numeric caller v = .ok n ↔ v.toNumber = .ok n := mapError_eq_ok_iff

lemma numeric_ne_arithmetic {caller : Option String} :
    ¬numeric caller v = .error (.arithmetic fault) := by
  rw [numeric, mapError_eq_error_iff]
  simp

lemma argument_eq_ok_iff {x : Float} : argument name v = .ok x ↔ v.ReadsAs x := by
  constructor
  · intro h
    obtain ⟨n, hn, hx⟩ := exists_of_bind_eq_ok h
    exact ⟨n, numeric_eq_ok_iff.1 hn, mapError_eq_ok_iff.1 hx⟩
  · rintro ⟨n, hn, hx⟩
    rw [argument, numeric_eq_ok_iff.2 hn]
    exact mapError_eq_ok_iff.2 hx

lemma argument_eq_error_iff :
    argument name v = .error (.arithmetic fault) ↔ v.Oversized ∧ fault = .integerTooLarge := by
  rw [argument, bind_eq_error_iff, or_iff_right numeric_ne_arithmetic, Value.oversized_iff]
  simp only [numeric_eq_ok_iff, liftArithmetic_eq_error_iff, Number.toFloat_eq_error_iff,
    exists_and_right, ← and_assoc]

/-- Arguments that are read one after the other. -/
lemma mapM_argument_eq_error_iff : values.mapM (argument name) = .error (.arithmetic fault) ↔
    OversizedFirst values ∧ fault = .integerTooLarge := by
  induction values with
  | nil => simp [OversizedFirst, pure, Except.pure]
  | cons v values ih =>
    rw [List.mapM_cons, bind_eq_error_iff, argument_eq_error_iff, OversizedFirst]
    simp only [bind_pure_eq_error_iff, ih, argument_eq_ok_iff]
    tauto

/-- What is done with the doubles of two arguments, the second read after the first. -/
lemma bind_arguments_eq_error_iff {α : Type} {g : Float → Float → Outcome α} :
    (do g (← argument name a) (← argument name b)) = .error (.arithmetic fault) ↔
      OversizedFirst [a, b] ∧ fault = .integerTooLarge ∨
        ∃ x y, a.ReadsAs x ∧ b.ReadsAs y ∧ g x y = .error (.arithmetic fault) := by
  simp only [bind_eq_error_iff, argument_eq_error_iff, argument_eq_ok_iff, OversizedFirst,
    and_false, or_false]
  constructor
  · rintro (⟨ha, hfault⟩ | ⟨x, hx, ⟨hb, hfault⟩ | ⟨y, hy, h⟩⟩)
    · exact Or.inl ⟨Or.inl ha, hfault⟩
    · exact Or.inl ⟨Or.inr ⟨⟨x, hx⟩, hb⟩, hfault⟩
    · exact Or.inr ⟨x, y, hx, hy, h⟩
  · rintro (⟨ha | ⟨⟨x, hx⟩, hb⟩, hfault⟩ | ⟨x, y, hx, hy, h⟩)
    · exact Or.inl ⟨ha, hfault⟩
    · exact Or.inr ⟨x, hx, Or.inl ⟨hb, hfault⟩⟩
    · exact Or.inr ⟨x, hx, Or.inr ⟨y, hy, h⟩⟩

/-- A double that is computed last. -/
lemma float_eq_error_iff {z : Except ArithmeticFault Float} :
    (do return Value.float (← liftArithmetic z)) = .error (.arithmetic fault) ↔ z = .error fault :=
  bind_pure_eq_error_iff.trans liftArithmetic_eq_error_iff

/-! ### Calls -/

/-- A call with these arguments comes to a fault of arithmetic.  A rounding without a count of places
is to whole numbers, and a logarithm whose base is nothing is the natural one. -/
inductive CallBreaks : String → List Value → ArithmeticFault → Prop
  | elementary {name : String} {f : Float → Float} {a : Value} (hname : (name, f) ∈ elementary)
      (h : a.Oversized) : CallBreaks name [a] .integerTooLarge
  | pair {name : String} {a b : Value} (hname : name ∈ ["pow", "mod", "atan2"])
      (h : OversizedFirst [a, b]) : CallBreaks name [a, b] .integerTooLarge
  | extremum {name : String} {values : List Value} (hname : name ∈ ["min", "max"])
      (h : OversizedFirst (flatten values)) : CallBreaks name values .integerTooLarge
  | remainder {a b : Value} {x y : Float} {fault : ArithmeticFault} (ha : a.ReadsAs x)
      (hb : b.ReadsAs y) (hne : (y == 0) = false) (h : Double.NoInteger (x / y) fault) :
      CallBreaks "mod" [a, b] fault
  | roundArgument {a : Value} {rest : List Value} (hcount : rest.length ≤ 1)
      (h : OversizedFirst [a, rest.head?.getD (.int 0)]) :
      CallBreaks "round" (a :: rest) .integerTooLarge
  | round {a : Value} {rest : List Value} {x places : Float} {fault : ArithmeticFault}
      (hcount : rest.length ≤ 1) (ha : a.ReadsAs x)
      (hplaces : (rest.head?.getD (.int 0)).ReadsAs places) (hfinite : x.isFinite = true)
      (h : Double.RoundBreaks x places fault) :
      CallBreaks "round" (a :: rest) fault
  | logArgument {a : Value} {rest : List Value} (hcount : rest.length ≤ 1)
      (h : OversizedFirst [a, rest.head?.getD .null]) :
      CallBreaks "log" (a :: rest) .integerTooLarge
  | log {a : Value} {rest : List Value} {x base : Float} (hcount : rest.length ≤ 1) (ha : a.ReadsAs x)
      (hbase : (rest.head?.getD .null).ReadsAs base) (hx : ¬x ≤ 0) (hpos : ¬base ≤ 0)
      (hone : (Float.log base == 0) = true) : CallBreaks "log" (a :: rest) .divisionByZero

lemma ofUnary_apply_eq_error_iff {f : Float → Float} :
    (ofUnary name f).apply [a] = .error (.arithmetic fault) ↔
      a.Oversized ∧ fault = .integerTooLarge :=
  bind_pure_eq_error_iff.trans argument_eq_error_iff

lemma ofBinary_apply_eq_error_iff {f : Float → Float → Except ArithmeticFault Float} :
    (ofBinary name f).apply [a, b] = .error (.arithmetic fault) ↔
      OversizedFirst [a, b] ∧ fault = .integerTooLarge ∨
        ∃ x y, a.ReadsAs x ∧ b.ReadsAs y ∧ f x y = .error fault := by
  simp only [← float_eq_error_iff (z := f _ _)]
  exact bind_arguments_eq_error_iff

lemma round_apply_eq_error_iff {rest : List Value} :
    round.apply (a :: rest) = .error (.arithmetic fault) ↔
      OversizedFirst [a, rest.head?.getD (.int 0)] ∧ fault = .integerTooLarge ∨
        ∃ x y, a.ReadsAs x ∧ (rest.head?.getD (.int 0)).ReadsAs y ∧
          Double.roundTo x y = .error fault := by
  simp only [← float_eq_error_iff (z := Double.roundTo _ _)]
  exact bind_arguments_eq_error_iff

lemma logBase_zero {x : Float} : Double.logBase x 0 = .ok Double.nan := by
  have hzero : (0 : Float) ≤ 0 := by decide
  rw [Double.logBase, if_pos]
  simp [hzero]

lemma logarithm_apply_eq_error_iff {rest : List Value} :
    logarithm.apply (a :: rest) = .error (.arithmetic fault) ↔
      OversizedFirst [a, rest.head?.getD .null] ∧ fault = .integerTooLarge ∨
        ∃ x y, a.ReadsAs x ∧ (rest.head?.getD .null).ReadsAs y ∧
          Double.logBase x y = .error fault := by
  by_cases hnull : rest.head?.getD .null = .null
  · have happly : logarithm.apply (a :: rest) =
        (do return .float (Double.ln (← argument "log" a))) := by
      simp only [logarithm, hnull]
    rw [happly, bind_pure_eq_error_iff, argument_eq_error_iff, hnull]
    simp [OversizedFirst, Value.Oversized, Value.readsAs_null, logBase_zero]
  · have happly : logarithm.apply (a :: rest) = (do
        let x ← argument "log" a
        let base ← argument "log" (rest.head?.getD .null)
        return .float (← liftArithmetic (Double.logBase x base))) := by
      simp only [logarithm]
    rw [happly]
    simp only [← float_eq_error_iff (z := Double.logBase _ _)]
    exact bind_arguments_eq_error_iff

lemma extremum_apply_eq_error_iff {best? : List Float → Option Float} :
    (extremum name best?).apply values = .error (.arithmetic fault) ↔
      OversizedFirst (flatten values) ∧ fault = .integerTooLarge := by
  rw [extremum, bind_eq_error_iff, mapM_argument_eq_error_iff]
  refine or_iff_left ?_
  rintro ⟨xs, -, h⟩
  cases hbest : best? xs <;> simp [hbest, pure, Except.pure] at h

lemma firstHolding_ne_arithmetic : firstHolding values ≠ .error (.arithmetic fault) := by
  fun_induction firstHolding values with
  | case4 condition value rest hcondition ih => exact ih
  | _ => simp

/-- Choices, lookups and connectives compute nothing. -/
lemma apply_ne_arithmetic {f : Function} (h : (name, f) ∈ choiceFunctions ++ logicalFunctions) :
    f.apply values ≠ .error (.arithmetic fault) := by
  simp only [choiceFunctions, logicalFunctions, List.cons_append, List.nil_append, List.mem_cons,
    Prod.mk.injEq, List.not_mem_nil, or_false] at h
  rcases h with ⟨-, rfl⟩ | ⟨-, rfl⟩ | ⟨-, rfl⟩ | ⟨-, rfl⟩ | ⟨-, rfl⟩ | ⟨-, rfl⟩ | ⟨-, rfl⟩ |
    ⟨-, rfl⟩
  · show choose values ≠ _
    fun_cases choose values <;> simp
  · show chooseFirst values ≠ _
    fun_cases chooseFirst values <;> simp [firstHolding_ne_arithmetic]
  · show chooseMatching values ≠ _
    fun_cases chooseMatching values <;> simp
  · show lookup values ≠ _
    fun_cases lookup values <;> simp
  all_goals
    simp only [connective, negation]
    split <;> simp

lemma function?_elementary {f : Float → Float} (h : (name, f) ∈ elementary) :
    function? name = some (ofUnary name f) := by
  simp only [elementary, List.mem_cons, Prod.mk.injEq, List.not_mem_nil, or_false] at h
  rcases h with ⟨rfl, rfl⟩ | ⟨rfl, rfl⟩ | ⟨rfl, rfl⟩ | ⟨rfl, rfl⟩ | ⟨rfl, rfl⟩ | ⟨rfl, rfl⟩ |
    ⟨rfl, rfl⟩ | ⟨rfl, rfl⟩ | ⟨rfl, rfl⟩ | ⟨rfl, rfl⟩ | ⟨rfl, rfl⟩ | ⟨rfl, rfl⟩ | ⟨rfl, rfl⟩ |
    ⟨rfl, rfl⟩ | ⟨rfl, rfl⟩ | ⟨rfl, rfl⟩ <;> rfl

lemma call_eq_arithmetic_iff {f : Function} : f.call name values = .error (.arithmetic fault) ↔
    f.accepts values.length = true ∧ f.apply values = .error (.arithmetic fault) := by
  rw [Function.call]
  split <;> simp [*]

lemma exists_call_of_callBreaks (h : CallBreaks name values fault) :
    ∃ f, function? name = some f ∧ f.call name values = .error (.arithmetic fault) := by
  simp only [call_eq_arithmetic_iff]
  cases h with
  | elementary hname h =>
    exact ⟨_, function?_elementary hname, rfl, ofUnary_apply_eq_error_iff.2 ⟨h, rfl⟩⟩
  | pair hname h =>
    simp only [List.mem_cons, List.not_mem_nil, or_false] at hname
    rcases hname with rfl | rfl | rfl <;>
      exact ⟨_, rfl, rfl, ofBinary_apply_eq_error_iff.2 (Or.inl ⟨h, rfl⟩)⟩
  | extremum hname h =>
    simp only [List.mem_cons, List.not_mem_nil, or_false] at hname
    rcases hname with rfl | rfl <;>
      exact ⟨_, rfl, by simp [Function.accepts, Formula.extremum],
        extremum_apply_eq_error_iff.2 ⟨h, rfl⟩⟩
  | remainder ha hb hne h =>
    exact ⟨_, rfl, rfl, ofBinary_apply_eq_error_iff.2
      (Or.inr ⟨_, _, ha, hb, Double.modulo_eq_error_iff.2 ⟨hne, h⟩⟩)⟩
  | roundArgument hcount h =>
    refine ⟨_, rfl, ?_, round_apply_eq_error_iff.2 (Or.inl ⟨h, rfl⟩)⟩
    simp [Function.accepts, Formula.round, hcount]
  | round hcount ha hplaces hfinite h =>
    refine ⟨_, rfl, ?_, round_apply_eq_error_iff.2
      (Or.inr ⟨_, _, ha, hplaces, Double.roundTo_eq_error_iff.2 ⟨hfinite, h⟩⟩)⟩
    simp [Function.accepts, Formula.round, hcount]
  | logArgument hcount h =>
    refine ⟨_, rfl, ?_, logarithm_apply_eq_error_iff.2 (Or.inl ⟨h, rfl⟩)⟩
    simp [Function.accepts, logarithm, hcount]
  | log hcount ha hbase hx hpos hone =>
    refine ⟨_, rfl, ?_, logarithm_apply_eq_error_iff.2
      (Or.inr ⟨_, _, ha, hbase, Double.logBase_eq_error_iff.2 ⟨⟨hx, hpos, hone⟩, rfl⟩⟩)⟩
    simp [Function.accepts, logarithm, hcount]

lemma accepts_iff {f : Function} {count : Nat} :
    f.accepts count = true ↔ f.fewest ≤ count ∧ ∀ most, f.most = some most → count ≤ most := by
  rw [Function.accepts]
  cases f.most <;> simp

lemma exists_single {f : Float → Float} (h : (ofUnary name f).accepts values.length = true) :
    ∃ a, values = [a] := by
  obtain ⟨hfewest, hmost⟩ := accepts_iff.1 h
  exact List.length_eq_one_iff.1 (le_antisymm (hmost 1 rfl) hfewest)

lemma exists_pair {f : Float → Float → Except ArithmeticFault Float}
    (h : (ofBinary name f).accepts values.length = true) : ∃ a b, values = [a, b] := by
  obtain ⟨hfewest, hmost⟩ := accepts_iff.1 h
  exact List.length_eq_two.1 (le_antisymm (hmost 2 rfl) hfewest)

lemma exists_one_or_two {f : Function} (hfewest : f.fewest = 1) (hmost : f.most = some 2)
    (h : f.accepts values.length = true) : ∃ a rest, values = a :: rest ∧ rest.length ≤ 1 := by
  obtain ⟨hfew, hmany⟩ := accepts_iff.1 h
  rw [hfewest] at hfew
  obtain ⟨a, rest, rfl⟩ := List.exists_cons_of_length_pos hfew
  exact ⟨a, rest, rfl, Nat.le_of_succ_le_succ (hmany 2 hmost)⟩

/-- A function that has a value for any two doubles breaks down only before it has both. -/
lemma callBreaks_of_total {f : Float → Float → Float} (hname : name ∈ ["pow", "mod", "atan2"])
    (haccepts : (ofBinary name fun x y => .ok (f x y)).accepts values.length = true)
    (h : (ofBinary name fun x y => .ok (f x y)).apply values = .error (.arithmetic fault)) :
    CallBreaks name values fault := by
  obtain ⟨a, b, rfl⟩ := exists_pair haccepts
  rcases ofBinary_apply_eq_error_iff.1 h with ⟨hlarge, rfl⟩ | ⟨x, y, -, -, h⟩
  · exact .pair hname hlarge
  · exact absurd h (by simp)

/-- A function of doubles breaks down where it is said to. -/
lemma callBreaks_of_numeric {f : Function} (hf : (name, f) ∈ numericFunctions)
    (haccepts : f.accepts values.length = true)
    (h : f.apply values = .error (.arithmetic fault)) : CallBreaks name values fault := by
  rcases List.mem_append.1 hf with hf | hf
  · obtain ⟨⟨name', g⟩, hmem, heq⟩ := List.mem_map.1 hf
    obtain ⟨rfl, rfl⟩ := Prod.mk.inj heq
    obtain ⟨a, rfl⟩ := exists_single haccepts
    obtain ⟨ha, rfl⟩ := ofUnary_apply_eq_error_iff.1 h
    exact .elementary hmem ha
  · simp only [List.mem_cons, Prod.mk.injEq, List.not_mem_nil, or_false] at hf
    rcases hf with ⟨rfl, rfl⟩ | ⟨rfl, rfl⟩ | ⟨rfl, rfl⟩ | ⟨rfl, rfl⟩ | ⟨rfl, rfl⟩ | hf
    · exact callBreaks_of_total (by simp) haccepts h
    · obtain ⟨a, b, rfl⟩ := exists_pair haccepts
      rcases ofBinary_apply_eq_error_iff.1 h with ⟨hlarge, rfl⟩ | ⟨x, y, hx, hy, h⟩
      · exact .pair (by simp) hlarge
      · obtain ⟨hne, hinteger⟩ := Double.modulo_eq_error_iff.1 h
        exact .remainder hx hy hne hinteger
    · obtain ⟨a, rest, rfl, hcount⟩ := exists_one_or_two rfl rfl haccepts
      rcases round_apply_eq_error_iff.1 h with ⟨hlarge, rfl⟩ | ⟨x, places, hx, hplaces, h⟩
      · exact .roundArgument hcount hlarge
      · obtain ⟨hfinite, hbreaks⟩ := Double.roundTo_eq_error_iff.1 h
        exact .round hcount hx hplaces hfinite hbreaks
    · obtain ⟨a, rest, rfl, hcount⟩ := exists_one_or_two rfl rfl haccepts
      rcases logarithm_apply_eq_error_iff.1 h with ⟨hlarge, rfl⟩ | ⟨x, base, hx, hbase, h⟩
      · exact .logArgument hcount hlarge
      · obtain ⟨⟨hpos, hbasepos, hone⟩, rfl⟩ := Double.logBase_eq_error_iff.1 h
        exact .log hcount hx hbase hpos hbasepos hone
    · exact callBreaks_of_total (by simp) haccepts h
    · rcases hf with ⟨rfl, rfl⟩ | ⟨rfl, rfl⟩ <;>
        obtain ⟨hlarge, rfl⟩ := extremum_apply_eq_error_iff.1 h <;>
        exact .extremum (by simp) hlarge

/-- **Where a call has no value.** -/
lemma callBreaks_iff : CallBreaks name values fault ↔
    ∃ f, function? name = some f ∧ f.call name values = .error (.arithmetic fault) := by
  refine ⟨exists_call_of_callBreaks, ?_⟩
  rintro ⟨f, hf, h⟩
  obtain ⟨haccepts, happly⟩ := call_eq_arithmetic_iff.1 h
  obtain ⟨before, after, hsplit, -⟩ := List.lookup_eq_some_iff.1 hf
  have hmem : (name, f) ∈ functions := hsplit ▸ List.mem_append_right before List.mem_cons_self
  simp only [functions, List.mem_append] at hmem
  rcases hmem with (hmem | hmem) | hmem
  · exact absurd happly (apply_ne_arithmetic (List.mem_append_left _ hmem))
  · exact callBreaks_of_numeric hmem haccepts happly
  · exact absurd happly (apply_ne_arithmetic (List.mem_append_right _ hmem))

end Formula

end Worksheet
