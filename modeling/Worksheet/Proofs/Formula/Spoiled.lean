import Worksheet.Formula.Eval
import Worksheet.Proofs.Double.NaN
import Worksheet.Proofs.Outcome
import Worksheet.Proofs.Value.Oversized

/-!
# Where what is not a number gets lost

A value is spoiled if it counts as a number and is not one.  Arithmetic with a spoiled operand gives
a spoiled value or a fault, and so do signs, roundings, remainders, roots and logarithms; a
comparison, a connective and a condition make a truth value of it, and nothing shows any more.  So a
spoiled name spoils an expression to which it is carried: by operators and functions that keep what
is not a number next to their other operands, and along the branches that are chosen.
-/

namespace Worksheet

/-- Not a number, given or computed. -/
inductive Number.Spoiled : Number → Prop
  | float {x : Float} (h : x.isNaN = true) : Spoiled (.float x)
  | nan (mark : Nat) : Spoiled (.nan mark)

/-- A value that counts as a number and is not one. -/
inductive Value.Spoiled : Value → Prop
  | number {n : Number} (h : n.Spoiled) : Spoiled (.number n)

/-! ### Numbers -/

namespace Number

variable {a b : Number}

/-- Only two integers are not taken for doubles. -/
lemma not_bothIntegers_of_spoiled (h : a.Spoiled ∨ b.Spoiled) : ¬a.BothIntegers b := by
  rintro ⟨⟨n, rfl⟩, m, rfl⟩
  rcases h with h | h <;> cases h

namespace Spoiled

lemma isNaN_of_toFloat (h : a.Spoiled) {x : Float} (hx : a.toFloat = .ok x) : x.isNaN = true := by
  cases h with
  | float h => exact Except.ok.inj hx ▸ h
  | nan mark => exact Except.ok.inj hx ▸ Double.isNaN_nan

lemma neg (h : a.Spoiled) : a.neg.Spoiled := by
  cases h with
  | float h => exact .float (Double.isNaN_neg h)
  | nan mark => exact .float Double.isNaN_nan

end Spoiled

lemma gives_onDoubles {f : Float → Float → Float} (hf : Double.KeepsNaN f)
    (h : a.Spoiled ∨ b.Spoiled) : Gives Spoiled (onDoubles f a b) := by
  refine .bind fun x hx => .bind fun y hy => .ok (.float ?_)
  rcases h with h | h
  · exact hf.left y (h.isNaN_of_toFloat hx)
  · exact hf.right x (h.isNaN_of_toFloat hy)

/-- The four operations keep what is not a number, on whichever side it stands. -/
lemma gives_of_mem_operations {op : Number → Number → Except ArithmeticFault Number}
    (hop : op ∈ [add, sub, mul, divide]) (h : a.Spoiled ∨ b.Spoiled) : Gives Spoiled (op a b) := by
  simp only [List.mem_cons, List.not_mem_nil, or_false] at hop
  rcases hop with rfl | rfl | rfl | rfl
  · rw [add, lift_eq_onDoubles (not_bothIntegers_of_spoiled h)]
    exact gives_onDoubles Double.keepsNaN_add h
  · rw [sub, lift_eq_onDoubles (not_bothIntegers_of_spoiled h)]
    exact gives_onDoubles Double.keepsNaN_sub h
  · rw [mul, lift_eq_onDoubles (not_bothIntegers_of_spoiled h)]
    exact gives_onDoubles Double.keepsNaN_mul h
  · rw [divide_eq_onDoubles (not_bothIntegers_of_spoiled h)]
    exact gives_onDoubles Double.keepsNaN_divide h

end Number

namespace Formula

/-! ### Functions -/

section Functions

variable {name : String} {f : Function} {a : Value} {values : List Value}

/-- What is not a number at a place among the arguments of a function is kept. -/
def Function.KeepsAt (name : String) (f : Function) (i : Nat) (values : List Value) : Prop :=
  ∀ v, values[i]? = some v → v.Spoiled → Gives Value.Spoiled (f.call name values)

lemma gives_numeric (h : a.Spoiled) (caller : Option String) :
    Gives Number.Spoiled (numeric caller a) := by
  obtain ⟨hn⟩ := h
  exact .ok hn

lemma gives_argument (h : a.Spoiled) :
    Gives (fun x : Float => x.isNaN = true) (argument name a) :=
  .bind fun n hn => .mapError _ fun _ hx => (gives_numeric h _ n hn).isNaN_of_toFloat hx

/-- A call with another count of arguments than the function takes is a fault. -/
lemma Function.KeepsAt.of_apply {i : Nat}
    (h : f.accepts values.length = true → ∀ v, values[i]? = some v → v.Spoiled →
      Gives Value.Spoiled (f.apply values)) : f.KeepsAt name i values := by
  intro v hv hspoiled
  rw [Function.call]
  split
  · exact h ‹_› v hv hspoiled
  · exact .error _

lemma keepsAt_ofUnary {g : Float → Float} (hg : ∀ {x : Float}, x.isNaN = true → (g x).isNaN = true)
    (caller : String) (values : List Value) : (ofUnary name g).KeepsAt caller 0 values := by
  refine .of_apply fun haccepts v hv hspoiled => ?_
  rcases values with _ | ⟨a, _ | ⟨b, rest⟩⟩
  · exact absurd hv (by simp)
  · obtain rfl := Option.some.inj hv
    exact .bind fun x hx => .ok (.number (.float (hg (gives_argument hspoiled x hx))))
  · exact absurd haccepts (by simp [Function.accepts, ofUnary])

/-- A remainder keeps what is not a number on either side. -/
lemma gives_modulo {a b : Value} (h : a.Spoiled ∨ b.Spoiled) :
    Gives Value.Spoiled (modulo.apply [a, b]) := by
  refine .bind fun x hx => .bind fun y hy => .bind fun z hz => .ok (.number (.float ?_))
  have hgives : Gives (fun z : Float => z.isNaN = true) (Double.modulo x y) := by
    rcases h with h | h
    · exact Double.gives_modulo_left (gives_argument h x hx) y
    · exact Double.gives_modulo_right x (gives_argument h y hy)
  exact hgives.mapError _ z hz

lemma keepsAt_modulo {i : Nat} (hi : i < 2) (caller : String) (values : List Value) :
    modulo.KeepsAt caller i values := by
  refine .of_apply fun haccepts v hv hspoiled => ?_
  rcases values with _ | ⟨a, _ | ⟨b, _ | ⟨c, rest⟩⟩⟩
  · exact absurd hv (by simp)
  · exact absurd haccepts (by simp [Function.accepts, modulo, ofBinary])
  · refine gives_modulo ?_
    obtain rfl | rfl : i = 0 ∨ i = 1 := by omega
    · exact Or.inl (Option.some.inj hv ▸ hspoiled)
    · exact Or.inr (Option.some.inj hv ▸ hspoiled)
  · exact absurd haccepts (by simp [Function.accepts, modulo, ofBinary])

lemma keepsAt_round (caller : String) (values : List Value) : round.KeepsAt caller 0 values := by
  refine .of_apply fun _ v hv hspoiled => ?_
  rcases values with _ | ⟨a, rest⟩
  · exact absurd hv (by simp)
  · obtain rfl := Option.some.inj hv
    refine .bind fun x hx => .bind fun places _ => .bind fun z hz => .ok (.number (.float ?_))
    exact Gives.mapError _ (Double.gives_roundTo (gives_argument hspoiled x hx) places) z hz

/-- The natural logarithm; of a logarithm in a base nothing is known. -/
lemma keepsAt_logarithm (caller : String) {values : List Value} (hvalues : values.length = 1) :
    logarithm.KeepsAt caller 0 values := by
  refine .of_apply fun _ v hv hspoiled => ?_
  obtain ⟨a, rfl⟩ := List.length_eq_one_iff.1 hvalues
  obtain rfl := Option.some.inj hv
  exact .bind fun x hx =>
    .ok (.number (.float (Double.isNaN_onPositive Float.log (gives_argument hspoiled x hx))))

/-- The first argument is where the search for the best one starts. -/
lemma keepsAt_extremum {best? : List Float → Option Float}
    (hbest : ∀ {x : Float}, x.isNaN = true → ∀ xs, best? (x :: xs) = some x)
    (caller : String) (values : List Value) : (extremum name best?).KeepsAt caller 0 values := by
  refine .of_apply fun _ v hv hspoiled => ?_
  rcases values with _ | ⟨a, rest⟩
  · exact absurd hv (by simp)
  · obtain rfl := Option.some.inj hv
    have hflat : flatten (a :: rest) = a :: flatten rest := by
      obtain ⟨hn⟩ := hspoiled
      rfl
    rw [extremum]
    simp only [hflat, List.mapM_cons]
    refine .bind fun xs hxs => ?_
    obtain ⟨x, hx, hxs⟩ := exists_of_bind_eq_ok hxs
    obtain ⟨ys, -, hxs⟩ := exists_of_bind_eq_ok hxs
    obtain rfl := Except.ok.inj hxs
    have hnan := gives_argument hspoiled x hx
    rw [hbest hnan ys]
    exact .ok (.number (.float hnan))

/-- Functions with a place where they keep what is not a number whatever else they are given. -/
def keeping : List (String × Nat) :=
  [("sqrt", 0), ("abs", 0), ("ceil", 0), ("floor", 0), ("trunc", 0), ("sign", 0), ("log2", 0),
   ("log10", 0), ("mod", 0), ("mod", 1), ("round", 0), ("min", 0), ("max", 0)]

/-- Whether a function of `count` arguments is known to keep what is not a number at a place. -/
def keepsPlace (name : String) (count i : Nat) : Bool :=
  keeping.contains (name, i) || (name == "log" && count == 1 && i == 0)

lemma keepsAt_of_mem_keeping {i : Nat} (h : (name, i) ∈ keeping) (hf : function? name = some f)
    (values : List Value) : f.KeepsAt name i values := by
  simp only [keeping, List.mem_cons, Prod.mk.injEq, List.not_mem_nil, or_false] at h
  rcases h with ⟨rfl, rfl⟩ | ⟨rfl, rfl⟩ | ⟨rfl, rfl⟩ | ⟨rfl, rfl⟩ | ⟨rfl, rfl⟩ | ⟨rfl, rfl⟩ |
    ⟨rfl, rfl⟩ | ⟨rfl, rfl⟩ | ⟨rfl, rfl⟩ | ⟨rfl, rfl⟩ | ⟨rfl, rfl⟩ | ⟨rfl, rfl⟩ | ⟨rfl, rfl⟩ <;>
    obtain rfl := Option.some.inj hf
  · exact keepsAt_ofUnary Double.isNaN_sqrt _ values
  · exact keepsAt_ofUnary Double.isNaN_abs _ values
  · exact keepsAt_ofUnary Double.isNaN_ceil _ values
  · exact keepsAt_ofUnary Double.isNaN_floor _ values
  · exact keepsAt_ofUnary Double.isNaN_truncate _ values
  · exact keepsAt_ofUnary Double.isNaN_sign _ values
  · exact keepsAt_ofUnary (Double.isNaN_onPositive Float.log2) _ values
  · exact keepsAt_ofUnary (Double.isNaN_onPositive Float.log10) _ values
  · exact keepsAt_modulo (by decide) _ values
  · exact keepsAt_modulo (by decide) _ values
  · exact keepsAt_round _ values
  · exact keepsAt_extremum Double.least?_of_isNaN _ values
  · exact keepsAt_extremum Double.greatest?_of_isNaN _ values

lemma keepsAt_of_keepsPlace {i : Nat} (h : keepsPlace name values.length i = true)
    (hf : function? name = some f) : f.KeepsAt name i values := by
  rcases Bool.or_eq_true_iff.1 h with h | h
  · exact keepsAt_of_mem_keeping (List.contains_iff_mem.1 h) hf values
  · simp only [Bool.and_eq_true, beq_iff_eq] at h
    obtain ⟨⟨rfl, hcount⟩, rfl⟩ := h
    obtain rfl := Option.some.inj hf
    exact keepsAt_logarithm _ hcount

end Functions

/-! ### Operators -/

/-- What is not a number on the left of an operator is kept beside `b`. -/
def BinaryOp.KeepsLeft (op : BinaryOp) (b : Value) : Prop :=
  ∀ a : Value, a.Spoiled → Gives Value.Spoiled (op.apply a b)

/-- What is not a number on the right of an operator is kept beside `a`. -/
def BinaryOp.KeepsRight (op : BinaryOp) (a : Value) : Prop :=
  ∀ b : Value, b.Spoiled → Gives Value.Spoiled (op.apply a b)

/-- What is not a number behind an operator is kept. -/
def UnaryOp.Keeps (op : UnaryOp) : Prop :=
  ∀ a : Value, a.Spoiled → Gives Value.Spoiled (op.apply a)

/-- Whether the values of an operator are truth values. -/
def BinaryOp.isTest : BinaryOp → Bool
  | equal | notEqual | less | greater | atMost | atLeast | and | or | xor => true
  | _ => false

section Operators

variable {op : BinaryOp} {a b : Value}

lemma gives_arithmetic {onNumbers : Number → Number → Except ArithmeticFault Number}
    (hop : onNumbers ∈ [Number.add, Number.sub, Number.mul, Number.divide])
    (h : a.Spoiled ∨ b.Spoiled) : Gives Value.Spoiled (arithmetic onNumbers a b) := by
  refine .bind fun m hm => .bind fun n hn => .bind fun k hk => .ok (.number ?_)
  have hspoiled : m.Spoiled ∨ n.Spoiled :=
    h.imp (fun h => gives_numeric h none m hm) fun h => gives_numeric h none n hn
  exact (Number.gives_of_mem_operations hop hspoiled).mapError _ k hk

/-- Except for powers, an operator that makes no truth value keeps what is not a number. -/
lemma gives_apply (htest : op.isTest = false) (hpow : op ≠ .pow) (h : a.Spoiled ∨ b.Spoiled) :
    Gives Value.Spoiled (op.apply a b) := by
  cases op with
  | add => exact gives_arithmetic (by simp) h
  | sub => exact gives_arithmetic (by simp) h
  | mul => exact gives_arithmetic (by simp) h
  | div => exact gives_arithmetic (by simp) h
  | mod => exact gives_modulo h
  | pow => exact absurd rfl hpow
  | other symbol => exact .error _
  | _ => exact absurd htest Bool.noConfusion

/-- Comparisons and connectives have truth values for their values. -/
lemma gives_bool (htest : op.isTest = true) (a b : Value) :
    Gives (fun v => ∃ truth, v = .bool truth) (op.apply a b) := by
  have hmap : ∀ (f : Bool → Bool) (x : Outcome Bool),
      Gives (fun v => ∃ truth, v = .bool truth) ((fun truth => Value.bool (f truth)) <$> x) := by
    intro f x
    cases x with
    | error fault => exact .error fault
    | ok truth => exact .ok ⟨f truth, rfl⟩
  cases op with
  | equal => exact hmap id _
  | notEqual => exact hmap not _
  | less => exact hmap id _
  | greater => exact hmap id _
  | atMost => exact hmap id _
  | atLeast => exact hmap id _
  | and => exact .ok ⟨_, rfl⟩
  | or => exact .ok ⟨_, rfl⟩
  | xor => exact .ok ⟨_, rfl⟩
  | _ => exact absurd htest Bool.false_ne_true

lemma not_spoiled_bool (truth : Bool) : ¬(Value.bool truth).Spoiled := fun h => nomatch h

lemma spoiled_nan : (Value.float Double.nan).Spoiled := .number (.float Double.isNaN_nan)

/-- A test that has a value has lost what is not a number. -/
lemma not_gives_spoiled (htest : op.isTest = true) (h : ∃ v, op.apply a b = .ok v) :
    ¬Gives Value.Spoiled (op.apply a b) := by
  intro hspoiled
  obtain ⟨v, hv⟩ := h
  obtain ⟨truth, rfl⟩ := gives_bool htest a b v hv
  exact not_spoiled_bool truth (hspoiled _ hv)

/-- Powers apart, exactly the tests lose what is not a number on the left of an operator. -/
lemma keepsLeft_iff (hpow : op ≠ .pow) : (∀ b, op.KeepsLeft b) ↔ op.isTest = false := by
  constructor
  · intro h
    by_contra htest
    rw [Bool.not_eq_false] at htest
    have hvalue : ∃ v, op.apply (.float Double.nan) (.int 0) = .ok v := by
      cases op <;> first | exact ⟨_, rfl⟩ | exact absurd htest Bool.false_ne_true
    exact not_gives_spoiled htest hvalue (h _ _ spoiled_nan)
  · exact fun htest b a ha => gives_apply htest hpow (Or.inl ha)

/-- The same holds on the right. -/
lemma keepsRight_iff (hpow : op ≠ .pow) : (∀ a, op.KeepsRight a) ↔ op.isTest = false := by
  constructor
  · intro h
    by_contra htest
    rw [Bool.not_eq_false] at htest
    have hvalue : ∃ v, op.apply (.int 0) (.float Double.nan) = .ok v := by
      cases op <;> first | exact ⟨_, rfl⟩ | exact absurd htest Bool.false_ne_true
    exact not_gives_spoiled htest hvalue (h _ _ spoiled_nan)
  · exact fun htest a b hb => gives_apply htest hpow (Or.inr hb)

lemma UnaryOp.keeps_iff {op : UnaryOp} : op.Keeps ↔ op ≠ .not := by
  constructor
  · rintro h rfl
    exact not_spoiled_bool _ (h _ spoiled_nan _ rfl)
  · intro hnot a ha
    cases op with
    | neg => exact .bind fun n hn => .ok (.number (gives_numeric ha none n hn).neg)
    | plus => exact .bind fun n hn => .ok (.number (gives_numeric ha none n hn))
    | not => exact absurd rfl hnot
    | other symbol => exact .error _

end Operators

/-! ### Expressions -/

section Carries

variable (scope : Scope) (name : String)

mutual

/-- On the way from a name to the value of the expression every operator and function keeps what is
not a number, next to the values of its other operands, and every condition chooses a branch that
goes on with it. -/
def Expr.Carries : Expr → Prop
  | .literal _ => False
  | .symbol other => other = name
  | .call function arguments => ∃ i, CarriesAt arguments i ∧
    ∀ f values, function? function = some f → evalAll scope arguments = .ok values →
      f.KeepsAt function i values
  | .binary op left right =>
    (left.Carries ∧ ∀ b, right.eval scope = .ok b → op.KeepsLeft b) ∨
      (right.Carries ∧ ∀ a, left.eval scope = .ok a → op.KeepsRight a)
  | .unary op operand => operand.Carries ∧ op.Keeps
  | .conditional condition ifTrue ifFalse =>
    ∀ v, condition.eval scope = .ok v → if v.isTrue then ifTrue.Carries else ifFalse.Carries

/-- The expression at a place of a list carries the name to its value. -/
def CarriesAt : List Expr → Nat → Prop
  | [], _ => False
  | e :: _, 0 => e.Carries
  | _ :: es, i + 1 => CarriesAt es i

end

end Carries

variable {scope : Scope} {name : String}

mutual

/-- What carries a spoiled name is spoiled. -/
lemma Expr.gives_of_carries {w : Value} (hscope : scope name = some w) (hw : w.Spoiled) :
    ∀ {e : Expr}, e.Carries scope name → Gives Value.Spoiled (e.eval scope)
  | .symbol other, h => by
    rw [Expr.Carries] at h
    rw [h, Expr.eval, resolve, hscope]
    exact .ok hw
  | .call function arguments, h => by
    obtain ⟨i, hcarries, hkeeps⟩ := h
    rw [Expr.eval]
    cases hf : function? function with
    | none => exact .error _
    | some f =>
      refine .bind fun values hvalues => ?_
      obtain ⟨v, hv, hspoiled⟩ := exists_spoiled_of_carriesAt hscope hw hcarries hvalues
      exact hkeeps f values hf hvalues v hv hspoiled
  | .binary op left right, h => by
    rw [Expr.eval]
    refine .bind fun a ha => .bind fun b hb => ?_
    rcases h with ⟨hleft, hkeeps⟩ | ⟨hright, hkeeps⟩
    · exact hkeeps b hb a (Expr.gives_of_carries hscope hw hleft a ha)
    · exact hkeeps a ha b (Expr.gives_of_carries hscope hw hright b hb)
  | .unary op operand, h => by
    rw [Expr.eval]
    exact .bind fun a ha => h.2 a (Expr.gives_of_carries hscope hw h.1 a ha)
  | .conditional condition ifTrue ifFalse, h => by
    rw [Expr.eval]
    refine .bind fun v hv => ?_
    have hchosen := h v hv
    split at hchosen
    · rw [if_pos ‹_›]
      exact Expr.gives_of_carries hscope hw hchosen
    · rw [if_neg ‹_›]
      exact Expr.gives_of_carries hscope hw hchosen

lemma exists_spoiled_of_carriesAt {w : Value} (hscope : scope name = some w) (hw : w.Spoiled) :
    ∀ {es : List Expr} {i : Nat} {values : List Value}, CarriesAt scope name es i →
      evalAll scope es = .ok values → ∃ v, values[i]? = some v ∧ v.Spoiled
  | e :: es, 0, values, h, hvalues => by
    obtain ⟨v, hv, hvalues⟩ := exists_of_bind_eq_ok hvalues
    obtain ⟨vs, -, hvalues⟩ := exists_of_bind_eq_ok hvalues
    obtain rfl := Except.ok.inj hvalues
    exact ⟨v, rfl, Expr.gives_of_carries hscope hw h v hv⟩
  | e :: es, i + 1, values, h, hvalues => by
    obtain ⟨v, -, hvalues⟩ := exists_of_bind_eq_ok hvalues
    obtain ⟨vs, hvs, hvalues⟩ := exists_of_bind_eq_ok hvalues
    obtain rfl := Except.ok.inj hvalues
    have hrest : CarriesAt scope name es i := h
    obtain ⟨u, hu, hspoiled⟩ := exists_spoiled_of_carriesAt hscope hw hrest hvs
    exact ⟨u, hu, hspoiled⟩

end

/-! ### What the text of an expression shows -/

mutual

/-- Whether an expression is known to carry a name to its value without looking at any values. -/
def Expr.passes (name : String) : Expr → Bool
  | .literal _ => false
  | .symbol other => other == name
  | .call function arguments => passesAt name function arguments.length 0 arguments
  | .binary op left right => !op.isTest && op != .pow && (left.passes name || right.passes name)
  | .unary op operand => op != .not && operand.passes name
  | .conditional _ ifTrue ifFalse => ifTrue.passes name && ifFalse.passes name

/-- Whether one of the arguments from a place on passes a name to a function of `count`
arguments. -/
def passesAt (name function : String) (count : Nat) : Nat → List Expr → Bool
  | _, [] => false
  | i, e :: es =>
    (keepsPlace function count i && e.passes name) || passesAt name function count (i + 1) es

end

lemma length_of_evalAll {es : List Expr} {values : List Value}
    (h : evalAll scope es = .ok values) : values.length = es.length := by
  induction es generalizing values with
  | nil =>
    rw [← Except.ok.inj h]
    rfl
  | cons e es ih =>
    obtain ⟨v, -, h⟩ := exists_of_bind_eq_ok h
    obtain ⟨vs, hvs, h⟩ := exists_of_bind_eq_ok h
    rw [← Except.ok.inj h, List.length_cons, List.length_cons, ih hvs]

mutual

/-- What passes a name carries it in every scope. -/
lemma Expr.carries_of_passes : ∀ {e : Expr}, e.passes name = true → e.Carries scope name
  | .symbol other, h => beq_iff_eq.1 h
  | .call function arguments, h => by
    obtain ⟨j, hj, hcarries⟩ := exists_carriesAt_of_passesAt h
    rw [Nat.zero_add] at hj
    refine ⟨j, hcarries, fun f values hf hvalues => keepsAt_of_keepsPlace ?_ hf⟩
    rwa [length_of_evalAll hvalues]
  | .binary op left right, h => by
    rw [Expr.passes, Bool.and_eq_true, Bool.and_eq_true, Bool.not_eq_true', bne_iff_ne,
      Bool.or_eq_true] at h
    obtain ⟨⟨htest, hpow⟩, h⟩ := h
    refine h.imp (fun h => ⟨Expr.carries_of_passes h, fun b _ => ?_⟩)
      fun h => ⟨Expr.carries_of_passes h, fun a _ => ?_⟩
    · exact (keepsLeft_iff hpow).2 htest b
    · exact (keepsRight_iff hpow).2 htest a
  | .unary op operand, h => by
    rw [Expr.passes, Bool.and_eq_true, bne_iff_ne] at h
    exact ⟨Expr.carries_of_passes h.2, UnaryOp.keeps_iff.2 h.1⟩
  | .conditional condition ifTrue ifFalse, h => by
    rw [Expr.passes, Bool.and_eq_true] at h
    intro v _
    split
    · exact Expr.carries_of_passes h.1
    · exact Expr.carries_of_passes h.2

lemma exists_carriesAt_of_passesAt {function : String} {count : Nat} :
    ∀ {es : List Expr} {i : Nat}, passesAt name function count i es = true →
      ∃ j, keepsPlace function count (i + j) = true ∧ CarriesAt scope name es j
  | e :: es, i, h => by
    rw [passesAt, Bool.or_eq_true, Bool.and_eq_true] at h
    rcases h with ⟨hplace, he⟩ | h
    · exact ⟨0, hplace, Expr.carries_of_passes he⟩
    · obtain ⟨j, hj, hcarries⟩ := exists_carriesAt_of_passesAt h
      rw [Nat.add_right_comm, Nat.add_assoc] at hj
      exact ⟨j + 1, hj, hcarries⟩

end

end Formula

end Worksheet
