import Worksheet.Dimensional.Eval
import Worksheet.Formula.Eval
import Worksheet.Proofs.Dimensional.Simulation
import Worksheet.Proofs.Outcome

/-!
# Numbers with and without units

Units never touch the numbers.  The quantity of a term, if its units allow one, has as its number
what the same operations make of the numbers alone, and that is what the formula of the term
computes over plain values.
-/

namespace Worksheet

/-! ### Doubles among numbers -/

/-- The number is a double and no integer; what is not a number may carry the mark of its
occurrence. -/
inductive Number.Denotes : Number → Float → Prop
  | float (x : Float) : Denotes (.float x) x
  | nan (mark : Nat) : Denotes (.nan mark) Double.nan

namespace Number.Denotes

variable {m n : Number} {x y : Float}

lemma lift (hm : m.Denotes x) (hn : n.Denotes y) (onInts : Int → Int → Int)
    (onFloats : Float → Float → Float) :
    Number.lift onInts onFloats m n = .ok (.float (onFloats x y)) := by
  cases hm <;> cases hn <;> rfl

lemma divide (hm : m.Denotes x) (hn : n.Denotes y) :
    Number.divide m n = .ok (.float (Double.divide x y)) := by
  cases hm <;> cases hn <;> rfl

lemma neg (hn : n.Denotes x) : n.neg.Denotes (-x) := by
  cases hn with
  | float x => exact .float (-x)
  | nan mark =>
    have hsign : -Double.nan = Double.nan := by decide
    rw [hsign]
    exact .float Double.nan

end Number.Denotes

namespace Dimensional

open Worksheet.Text

/-! ### The number of a term -/

/-- The operator on doubles. -/
def Op.onDoubles : Op → Float → Float → Float
  | add => (· + ·)
  | sub => (· - ·)
  | mul => (· * ·)
  | div => Double.divide

/-- What the operations of a term make of the numbers of its names. -/
def Term.value (numbers : String → Float) : Term → Float
  | name text => numbers text
  | number text => (Double.read? text).getD 0
  | neg a => -a.value numbers
  | binary op a b => op.onDoubles (a.value numbers) (b.value numbers)

lemma number_combine {op : Float → Float → Float} {a b q : Quantity}
    (h : Quantity.combine op a b = .ok q) : q.number = op a.number b.number := by
  rw [Quantity.combine] at h
  split at h
  · exact (Except.ok.inj h) ▸ rfl
  · exact absurd h (by simp)

lemma Op.number_apply {op : Op} {a b q : Quantity} (h : op.apply a b = .ok q) :
    q.number = op.onDoubles a.number b.number := by
  cases op with
  | add => exact number_combine h
  | sub => exact number_combine h
  | mul => exact (Except.ok.inj h) ▸ rfl
  | div => exact (Except.ok.inj h) ▸ rfl

/-- The names of a term, as they stand in its leaves, have the given numbers. -/
def Numbered (quantities : QuantityScope) (numbers : String → Float) (t : Term) : Prop :=
  ∀ text, .name text ∈ t.leaves →
    ∃ q, quantities (String.ofList text) = some q ∧ q.number = numbers (String.ofList text)

/-- If a term has a quantity, the number of it is the value of the term. -/
lemma number_of_eval {strict : Bool} {quantities : QuantityScope} {numbers : String → Float}
    {t : Term} (hnumbers : Numbered quantities numbers t) {q : Quantity}
    (h : t.eval strict quantities = .ok q) : q.number = t.value numbers := by
  induction t generalizing q with
  | name text =>
    obtain ⟨q', hq', hnumber⟩ := hnumbers text.toList (List.mem_singleton_self _)
    rw [String.ofList_toList] at hq' hnumber
    rw [Term.eval, resolve, hq'] at h
    obtain rfl := Except.ok.inj h
    exact hnumber
  | number text =>
    rw [Term.eval] at h
    exact (Except.ok.inj h) ▸ rfl
  | neg a ih =>
    rw [Term.eval] at h
    obtain ⟨x, hx, h⟩ := exists_of_bind_eq_ok h
    obtain rfl := Except.ok.inj h
    rw [Term.value, ← ih hnumbers hx]
    rfl
  | binary op a b iha ihb =>
    rw [Term.eval] at h
    obtain ⟨x, hx, h⟩ := exists_of_bind_eq_ok h
    obtain ⟨y, hy, h⟩ := exists_of_bind_eq_ok h
    have hleft : Numbered quantities numbers a :=
      fun text hmem => hnumbers text (List.mem_append_left _ hmem)
    have hright : Numbered quantities numbers b :=
      fun text hmem => hnumbers text (List.mem_append_right _ hmem)
    cases happly : op.apply x y with
    | error mismatch => rw [happly] at h; exact absurd h (by simp [Except.mapError])
    | ok z =>
      rw [happly] at h
      obtain rfl : z = q := Except.ok.inj h
      rw [Term.value, ← iha hleft hx, ← ihb hright hy, Op.number_apply happly]

/-! ### The value of the formula of a term -/

/-- The names of a term have values that are the given numbers. -/
def Valued (values : Scope) (numbers : String → Float) (t : Term) : Prop :=
  ∀ text, .name text ∈ t.leaves →
    ∃ n : Number, values (String.ofList text) = some (.number n) ∧
      n.Denotes (numbers (String.ofList text))

lemma numberValue_decimal {text : List Char} (h : IsDecimal text) :
    Formula.numberValue text = .float ((Double.read? text).getD 0) := by
  obtain ⟨whole, fraction, rfl, -⟩ := h
  have hpoint : (whole ++ '.' :: fraction).any
      (fun c => c == '.' || c == 'e' || c == 'E') = true := by
    rw [List.any_append, List.any_cons]
    simp
  rw [Formula.numberValue, if_pos hpoint]

lemma arithmetic_of_ok {f : Number → Number → Except ArithmeticFault Number} {m n k : Number}
    (h : f m n = .ok k) : Formula.arithmetic f (.number m) (.number n) = .ok (.number k) := by
  simp [Formula.arithmetic, Formula.numeric, Value.toNumber, h, Formula.liftArithmetic, bind,
    Except.bind, Except.mapError, pure, Except.pure]

lemma apply_binary {op : Op} {m n : Number} {x y : Float} (hm : m.Denotes x) (hn : n.Denotes y) :
    op.binary.apply (.number m) (.number n) = .ok (.float (op.onDoubles x y)) := by
  cases op with
  | add => exact arithmetic_of_ok (hm.lift hn _ _)
  | sub => exact arithmetic_of_ok (hm.lift hn _ _)
  | mul => exact arithmetic_of_ok (hm.lift hn _ _)
  | div => exact arithmetic_of_ok (hm.divide hn)

/-- The formula of a term always has a value, and that is the value of the term. -/
lemma eval_expr {values : Scope} {numbers : String → Float} {t : Term}
    (hvalues : Valued values numbers t) (hplain : ∀ leaf ∈ t.leaves, leaf.Plain) :
    ∃ n : Number, t.expr.eval values = .ok (.number n) ∧ n.Denotes (t.value numbers) := by
  induction t with
  | name text =>
    obtain ⟨n, hn, hdenotes⟩ := hvalues text.toList (List.mem_singleton_self _)
    rw [String.ofList_toList] at hn hdenotes
    refine ⟨n, ?_, hdenotes⟩
    rw [Term.expr, Formula.Expr.eval, Formula.resolve, hn]
  | number text =>
    have hdecimal : IsDecimal text := hplain (.number text) (List.mem_singleton_self _)
    refine ⟨_, ?_, .float _⟩
    rw [Term.expr, Formula.Expr.eval, numberValue_decimal hdecimal]
    rfl
  | neg a ih =>
    obtain ⟨n, hn, hdenotes⟩ := ih hvalues hplain
    refine ⟨n.neg, ?_, hdenotes.neg⟩
    rw [Term.expr, Formula.Expr.eval, hn]
    rfl
  | binary op a b iha ihb =>
    obtain ⟨m, hm, hdenotes⟩ := iha (fun text h => hvalues text (List.mem_append_left _ h))
      fun leaf h => hplain leaf (List.mem_append_left _ h)
    obtain ⟨n, hn, hdenotes'⟩ := ihb (fun text h => hvalues text (List.mem_append_right _ h))
      fun leaf h => hplain leaf (List.mem_append_right _ h)
    refine ⟨_, ?_, .float _⟩
    rw [Term.expr, Formula.Expr.eval, hm, hn]
    exact apply_binary hdenotes hdenotes'

/-! ### Both readings of one text -/

/-- A name has a quantity in the one scope and the number of it in the other. -/
def Carries (quantities : QuantityScope) (values : Scope) (name : String) : Prop :=
  ∃ q n, quantities name = some q ∧ values name = some (.number n) ∧ n.Denotes q.number

/-- **Reading with units and reading without agree.**  A phrase over names and decimals, with any
number of spaces between its tokens, has a double as its value as a formula over the numbers alone;
and whenever it has a quantity over the quantities, strictly read or not, the number of that
quantity is this double. -/
theorem number_of_evaluate_eq {a : Phrase} (hproper : a.Proper) {text : String}
    (htext : Spaced a.tokens text.toList) {quantities : QuantityScope} {values : Scope}
    (hscope : ∀ name ∈ a.names, Carries quantities values name) :
    ∃ (n : Number) (x : Float), Formula.evaluate text values = .ok (.number n) ∧ n.Denotes x ∧
      ∀ strict q, evaluate text quantities strict = some q → q.number = x := by
  obtain ⟨t, hparse⟩ := exists_parse?_tokens a
  have hplain : ∀ token ∈ a.tokens, token.Plain := fun token hmem => hproper.plain hmem
  have hnames : ∀ text, .name text ∈ t.leaves → Carries quantities values (String.ofList text) :=
    fun text hmem => hscope _ (Phrase.mem_names (leaves_parse? hparse hmem))
  -- the induction on the term needs numbers for all names, bound or not
  let numbers : String → Float := fun name => ((quantities name).map Quantity.number).getD 0
  have hnumbers : Numbered quantities numbers t := by
    intro name hmem
    obtain ⟨q, n, hq, -, -⟩ := hnames name hmem
    exact ⟨q, hq, by simp only [numbers, hq, Option.map_some, Option.getD_some]⟩
  have hvalues : Valued values numbers t := by
    intro name hmem
    obtain ⟨q, n, hq, hn, hdenotes⟩ := hnames name hmem
    refine ⟨n, hn, ?_⟩
    simp only [numbers, hq, Option.map_some, Option.getD_some]
    exact hdenotes
  obtain ⟨n, heval, hdenotes⟩ :=
    eval_expr hvalues fun leaf h => hplain leaf (leaves_parse? hparse h)
  refine ⟨n, t.value numbers, ?_, hdenotes, fun strict q h => ?_⟩
  · rw [Formula.evaluate, parse_of_parse? htext hplain hparse]
    change (t.expr.eval values).mapError _ = _
    rw [heval]
    rfl
  · rw [evaluate, tokenize_eq htext hplain hparse, hparse, Option.bind_some] at h
    cases hq : t.eval strict quantities with
    | error fault => rw [hq] at h; exact absurd h (by simp [Except.toOption])
    | ok q' =>
      rw [hq] at h
      obtain rfl : q' = q := Option.some.inj h
      exact number_of_eval hnumbers hq

/-- Two masses. -/
def masses : QuantityScope := fun name =>
  if name = "a" then some ⟨10.0, { numerator := ["kg"] }⟩
  else if name = "b" then some ⟨4.0, { numerator := ["kg"] }⟩
  else none

/-- Two subtractions, with a quotient of a twice negated name between them. -/
def stacked : Phrase :=
  .binary .sub
    (.binary .sub (.name ['a']) (.binary .div (.neg (.neg (.name ['b']))) (.decimal ['2', '.'])))
    (.group (.binary .mul (.decimal ['.', '5']) (.name ['b'])))

lemma stacked_proper : stacked.Proper := by
  have ha : IsName ['a'] := ⟨'a', [], rfl, rfl, List.forall_mem_nil _, by decide⟩
  have hb : IsName ['b'] := ⟨'b', [], rfl, rfl, List.forall_mem_nil _, by decide⟩
  have htwo : IsDecimal ['2', '.'] :=
    ⟨['2'], [], rfl, List.forall_mem_singleton.2 rfl, List.forall_mem_nil _, Or.inl (by decide)⟩
  have hhalf : IsDecimal ['.', '5'] :=
    ⟨[], ['5'], rfl, List.forall_mem_nil _, List.forall_mem_singleton.2 rfl, Or.inr (by decide)⟩
  exact ⟨⟨ha, hb, htwo⟩, hhalf, hb⟩

lemma stacked_spaced : Spaced stacked.tokens "a-  - -b / 2. -(.5*b )".toList := by
  have htext : "a-  - -b / 2. -(.5*b )".toList =
      ['a', '-', ' ', ' ', '-', ' ', '-', 'b', ' ', '/', ' ', '2', '.', ' ', '-', '(', '.', '5',
        '*', 'b', ' ', ')'] := by decide
  rw [htext]
  exact .token (.name ['a']) (.token (.sign .minus) (.space (.space (.token (.sign .minus)
    (.space (.token (.sign .minus) (.token (.name ['b']) (.space (.token (.sign .slash) (.space
    (.token (.number ['2', '.']) (.space (.token (.sign .minus) (.token (.sign .openParen)
    (.token (.number ['.', '5']) (.token (.sign .star) (.token (.name ['b']) (.space
    (.token (.sign .closeParen) .nil)))))))))))))))))))

/-- The differences group to the left: `10 - 4 / 2 - 0.5 · 4` is six, with units and without. -/
theorem number_of_evaluate_eq_stacked :
    stacked.Proper ∧ Spaced stacked.tokens "a-  - -b / 2. -(.5*b )".toList ∧
    (∀ name ∈ stacked.names,
      Carries masses (fun name => (masses name).map (.float ·.number)) name) ∧
    (evaluate "a-  - -b / 2. -(.5*b )" masses false).map Quantity.number = some 6.0 ∧
    ∃ n : Number, Formula.evaluate "a-  - -b / 2. -(.5*b )"
        (fun name => (masses name).map (.float ·.number)) = .ok (.number n) ∧ n.Denotes 6.0 := by
  have hscope : ∀ name ∈ stacked.names,
      Carries masses (fun name => (masses name).map (.float ·.number)) name := by
    have ha : Carries masses (fun name => (masses name).map (.float ·.number)) "a" :=
      ⟨_, _, rfl, rfl, .float 10.0⟩
    have hb : Carries masses (fun name => (masses name).map (.float ·.number)) "b" :=
      ⟨_, _, rfl, rfl, .float 4.0⟩
    have hnames : stacked.names = ["a", "b", "b"] := rfl
    rw [hnames]
    intro name hmem
    obtain rfl | rfl : name = "a" ∨ name = "b" := by simpa using hmem
    · exact ha
    · exact hb
  have hquantity : (evaluate "a-  - -b / 2. -(.5*b )" masses false).map Quantity.number =
      some 6.0 := rfl
  obtain ⟨n, x, hvalue, hdenotes, hagree⟩ :=
    number_of_evaluate_eq stacked_proper stacked_spaced hscope
  obtain ⟨q, hq, hnumber⟩ := Option.map_eq_some_iff.1 hquantity
  obtain rfl : (6.0 : Float) = x := hnumber ▸ hagree false q hq
  exact ⟨stacked_proper, stacked_spaced, hscope, hquantity, n, hvalue, hdenotes⟩

end Dimensional

end Worksheet
