import Mathlib.Order.MinMax
import Worksheet.Dimensional.Eval
import Worksheet.Proofs.Dimensional.Phrase
import Worksheet.Proofs.Outcome

/-!
# The grammar of terms over quantities

    expression := term (('+' | '-') term)*
    term       := factor (('*' | '/') factor)*
    factor     := '(' expression ')' | name | number | '-' factor

A phrase is derived from a nonterminal when it is built by these rules, operands in a row being
joined from the left.  The reader of terms reads exactly what the grammar derives from an
expression, and reads it as the phrase without its parentheses: reading a phrase is followed along
its derivation, and what a reader has read is kept as phrases that its open frames are derived from.
-/

namespace Worksheet.Dimensional

/-- The parts that a formula over quantities is made of. -/
inductive Nonterminal where
  | expression | term | factor
  deriving DecidableEq, Repr

/-- A phrase is derived from a nonterminal. -/
inductive Derives : Nonterminal → Phrase → Prop
  | ofTerm {a : Phrase} (ha : Derives .term a) : Derives .expression a
  | sum {op : Op} {a b : Phrase} (hop : op.level = 1) (ha : Derives .expression a)
    (hb : Derives .term b) : Derives .expression (.binary op a b)
  | ofFactor {a : Phrase} (ha : Derives .factor a) : Derives .term a
  | product {op : Op} {a b : Phrase} (hop : op.level = 2) (ha : Derives .term a)
    (hb : Derives .factor b) : Derives .term (.binary op a b)
  | group {a : Phrase} (ha : Derives .expression a) : Derives .factor (.group a)
  | name (text : List Char) : Derives .factor (.name text)
  | decimal (text : List Char) : Derives .factor (.decimal text)
  | neg {a : Phrase} (ha : Derives .factor a) : Derives .factor (.neg a)

/-- The term that a phrase is written for: parentheses leave no trace. -/
def Phrase.term : Phrase → Term
  | name text => .name (String.ofList text)
  | decimal text => .number text
  | neg a => .neg a.term
  | binary op a b => .binary op a.term b.term
  | group a => a.term

/-! ### Levels -/

/-- How tightly the operators bind that a nonterminal joins its operands with; nothing is joined in
a factor. -/
def Nonterminal.level : Nonterminal → Nat
  | expression => 1
  | term => 2
  | factor => 3

/-- The nonterminal that has the phrases of an operator. -/
def Op.nonterminal : Op → Nonterminal
  | add | sub => .expression
  | mul | div => .term

/-- The nonterminal on the right of an operator. -/
def Op.operand : Op → Nonterminal
  | add | sub => .term
  | mul | div => .factor

lemma Op.level_nonterminal (op : Op) : op.nonterminal.level = op.level := by
  cases op <;> rfl

lemma Op.level_operand (op : Op) : op.operand.level = op.level + 1 := by
  cases op <;> rfl

lemma Op.level_pos (op : Op) : 0 < op.level := by
  cases op <;> decide

lemma Op.level_le (op : Op) : op.level ≤ Nonterminal.factor.level := by
  cases op <;> decide

lemma Nonterminal.level_le (n : Nonterminal) : n.level ≤ 3 := by
  cases n <;> decide

/-- What is derived from a nonterminal that binds more tightly is derived from one that binds
less. -/
lemma Derives.lift {m n : Nonterminal} {a : Phrase} (h : Derives m a) (hle : n.level ≤ m.level) :
    Derives n a := by
  cases m with
  | expression =>
    cases n with
    | expression => exact h
    | _ => exact absurd hle (by decide)
  | term =>
    cases n with
    | expression => exact h.ofTerm
    | term => exact h
    | factor => exact absurd hle (by decide)
  | factor =>
    cases n with
    | expression => exact h.ofFactor.ofTerm
    | term => exact h.ofFactor
    | factor => exact h

lemma Derives.binary {op : Op} {a b : Phrase} (ha : Derives op.nonterminal a)
    (hb : Derives op.operand b) : Derives op.nonterminal (.binary op a b) := by
  cases op with
  | add => exact .sum rfl ha hb
  | sub => exact .sum rfl ha hb
  | mul => exact .product rfl ha hb
  | div => exact .product rfl ha hb

/-! ### What the grammar derives is read -/

/-- The innermost frame is left open by operators of a level. -/
def Admits (level : Nat) : List Frame → Prop
  | [] => True
  | .group :: _ => True
  | .neg :: _ => False
  | .binary op _ :: _ => op.level < level

lemma Admits.mono {level level' : Nat} {frames : List Frame} (h : Admits level frames)
    (hle : level ≤ level') : Admits level' frames := by
  cases frames with
  | nil => trivial
  | cons frame frames =>
    cases frame with
    | neg => exact h
    | binary op left => exact lt_of_lt_of_le h hle
    | group => trivial

lemma Admits.unwind_eq {level : Nat} {frames : List Frame} (h : Admits level frames) (t : Term) :
    unwind level frames t = (frames, t) := by
  cases frames with
  | nil => rfl
  | cons frame frames =>
    cases frame with
    | neg => exact h.elim
    | binary op left => rw [unwind, if_neg (Nat.not_le.2 h)]
    | group => rfl

/-- Tokens that are read as an operand leave a state that closes like the one with the term of a
phrase in their place. -/
def ReadAs (n : Nonterminal) (a : Phrase) (frames : List Frame) : Prop :=
  ∃ t frames', a.tokens.foldlM Reader.step ⟨none, frames⟩ = some ⟨some t, frames'⟩ ∧
    ∀ level ≤ n.level, unwind level frames' t = unwind level frames a.term

lemma ReadAs.mono {m n : Nonterminal} {a : Phrase} {frames : List Frame} (h : ReadAs m a frames)
    (hle : n.level ≤ m.level) : ReadAs n a frames := by
  obtain ⟨t, frames', hread, hclose⟩ := h
  exact ⟨t, frames', hread, fun level hlevel => hclose level (hlevel.trans hle)⟩

/-- Behind the left operand an operator closes just the frames that its phrase has opened. -/
lemma ReadAs.binary {op : Op} {a b : Phrase} {frames : List Frame}
    (hadmits : Admits op.level frames) (ha : ReadAs op.nonterminal a frames)
    (hb : ReadAs op.operand b (.binary op a.term :: frames)) :
    ReadAs op.nonterminal (.binary op a b) frames := by
  obtain ⟨t, frames', hread, hclose⟩ := ha
  obtain ⟨t', frames'', hread', hclose'⟩ := hb
  have hclosed := hclose op.level op.level_nonterminal.ge
  rw [hadmits.unwind_eq] at hclosed
  refine ⟨t', frames'', ?_, fun level hlevel => ?_⟩
  · rw [Phrase.tokens, List.foldlM_append, hread, Option.bind_eq_bind, Option.bind_some,
      List.foldlM_cons, step_complete, continueWith_op, hclosed]
    exact hread'
  · rw [op.level_nonterminal] at hlevel
    rw [hclose' level (op.level_operand ▸ hlevel.trans (Nat.le_succ _)), unwind, if_pos hlevel]
    rfl

lemma Derives.readAs {n : Nonterminal} {a : Phrase} (h : Derives n a) {frames : List Frame}
    (hadmits : n ≠ .factor → Admits n.level frames) : ReadAs n a frames := by
  induction h generalizing frames with
  | ofTerm ha ih =>
    have hterm := (hadmits (by decide)).mono (show 1 ≤ Nonterminal.term.level by decide)
    exact (ih fun _ => hterm).mono (by decide)
  | @sum op a b hop ha hb iha ihb =>
    have hframes := hadmits (by decide)
    have hright : ReadAs .term b (.binary op a.term :: frames) :=
      ihb fun _ => show op.level < 2 by omega
    cases op with
    | add => exact ReadAs.binary hframes (iha hadmits) hright
    | sub => exact ReadAs.binary hframes (iha hadmits) hright
    | mul => exact absurd hop (by decide)
    | div => exact absurd hop (by decide)
  | ofFactor ha ih => exact (ih fun h => absurd rfl h).mono (by decide)
  | @product op a b hop ha hb iha ihb =>
    have hframes := hadmits (by decide)
    have hright : ReadAs .factor b (.binary op a.term :: frames) := ihb fun h => absurd rfl h
    cases op with
    | add => exact absurd hop (by decide)
    | sub => exact absurd hop (by decide)
    | mul => exact ReadAs.binary hframes (iha hadmits) hright
    | div => exact ReadAs.binary hframes (iha hadmits) hright
  | @group a ha ih =>
    obtain ⟨t, frames', hread, hclose⟩ := @ih (.group :: frames) fun _ => trivial
    have hclosed : unwind 0 frames' t = (.group :: frames, a.term) := hclose 0 (Nat.zero_le _)
    refine ⟨a.term, frames, ?_, fun _ _ => rfl⟩
    have hopen : Reader.step ⟨none, frames⟩ (.sign .openParen) =
        some ⟨none, .group :: frames⟩ := rfl
    rw [Phrase.tokens, List.foldlM_cons, hopen, Option.bind_eq_bind, Option.bind_some,
      List.foldlM_append, hread, Option.bind_eq_bind, Option.bind_some, List.foldlM_cons,
      step_complete, continueWith, hclosed]
    rfl
  | name text => exact ⟨_, frames, rfl, fun _ _ => rfl⟩
  | decimal text => exact ⟨_, frames, rfl, fun _ _ => rfl⟩
  | @neg a ha ih =>
    obtain ⟨t, frames', hread, hclose⟩ := @ih (.neg :: frames) fun h => absurd rfl h
    refine ⟨t, frames', ?_, fun level hlevel => hclose level hlevel⟩
    rw [Phrase.tokens, List.foldlM_cons]
    exact hread

lemma parse?_of_derives {a : Phrase} (h : Derives .expression a) :
    parse? a.tokens = some a.term := by
  obtain ⟨t, frames, hread, hclose⟩ := @Derives.readAs .expression a h [] fun _ => trivial
  have hclosed : unwind 0 frames t = ([], a.term) := hclose 0 (Nat.zero_le _)
  rw [parse?, hread, Option.bind_some, Reader.finish?, Option.bind_some, hclosed]

/-! ### What is read has been derived -/

/-- Frames that wait for what is derived from a nonterminal, and the tokens that have opened
them. -/
inductive Opened : Nonterminal → List Frame → List Token → Prop
  | nil : Opened .expression [] []
  | group {n : Nonterminal} {frames : List Frame} {tokens : List Token}
    (h : Opened n frames tokens) :
    Opened .expression (.group :: frames) (tokens ++ [.sign .openParen])
  | neg {n : Nonterminal} {frames : List Frame} {tokens : List Token} (h : Opened n frames tokens) :
    Opened .factor (.neg :: frames) (tokens ++ [.sign .minus])
  | binary {n : Nonterminal} {frames : List Frame} {tokens : List Token} {op : Op} {a : Phrase}
    (h : Opened n frames tokens) (hle : n.level ≤ op.level) (ha : Derives op.nonterminal a) :
    Opened op.operand (.binary op a.term :: frames) (tokens ++ a.tokens ++ [.sign op.sign])

/-- The tokens spell a term inside of frames that wait for it, none of which an operator of the
level closes. -/
def Inside (level : Nat) (frames : List Frame) (t : Term) (tokens : List Token) : Prop :=
  ∃ n m a opened, Opened n frames opened ∧ Derives m a ∧ a.term = t ∧ opened ++ a.tokens = tokens ∧
    n.level ≤ m.level ∧ level ≤ m.level ∧ n.level ≤ max 1 level

/-- Closing frames joins phrases. -/
lemma Opened.inside_unwind {n : Nonterminal} {frames : List Frame} {opened : List Token}
    (h : Opened n frames opened) {m : Nonterminal} {a : Phrase} (ha : Derives m a)
    (hfit : n.level ≤ m.level) {level : Nat} (hlevel : level ≤ m.level) :
    Inside level (unwind level frames a.term).1 (unwind level frames a.term).2
      (opened ++ a.tokens) := by
  induction h generalizing m a with
  | nil => exact ⟨_, m, a, _, .nil, ha, rfl, rfl, hfit, hlevel, le_max_left _ _⟩
  | group h ih => exact ⟨_, m, a, _, h.group, ha, rfl, rfl, hfit, hlevel, le_max_left _ _⟩
  | @neg n frames tokens h ih =>
    have hneg : Derives .factor (.neg a) := .neg (ha.lift hfit)
    have htokens : tokens ++ [.sign .minus] ++ a.tokens = tokens ++ (Phrase.neg a).tokens := by
      rw [List.append_assoc]
      rfl
    rw [htokens]
    exact ih hneg n.level_le (hlevel.trans m.level_le)
  | @binary n frames tokens op left h hle hleft ih =>
    rw [unwind]
    split
    · rename_i hclose
      have hbinary : Derives op.nonterminal (.binary op left a) := hleft.binary (ha.lift hfit)
      have htokens : tokens ++ left.tokens ++ [.sign op.sign] ++ a.tokens =
          tokens ++ (Phrase.binary op left a).tokens := by
        simp only [Phrase.tokens, List.append_assoc, List.singleton_append]
      rw [htokens]
      refine ih hbinary ?_ ?_
      · rwa [op.level_nonterminal]
      · rwa [op.level_nonterminal]
    · rename_i hopen
      refine ⟨_, m, a, _, h.binary hle hleft, ha, rfl, rfl, hfit, hlevel, le_max_of_le_right ?_⟩
      rw [op.level_operand]
      exact Nat.not_le.1 hopen

/-- The tokens spell what a reader has read: the open frames, and a factor inside of them where a
term is complete. -/
inductive Spelled : Reader → List Token → Prop
  | operand {n : Nonterminal} {frames : List Frame} {tokens : List Token}
    (h : Opened n frames tokens) : Spelled ⟨none, frames⟩ tokens
  | complete {n : Nonterminal} {frames : List Frame} {opened : List Token} {a : Phrase}
    (h : Opened n frames opened) (ha : Derives .factor a) :
    Spelled ⟨some a.term, frames⟩ (opened ++ a.tokens)

section Step

variable {n : Nonterminal} {frames : List Frame} {opened : List Token} {a : Phrase} {token : Token}
  {r r' : Reader}

lemma Opened.startOperand (h : Opened n frames opened)
    (hstep : startOperand frames token = some r) : Spelled r (opened ++ [token]) := by
  cases token with
  | name text =>
    obtain rfl := Option.some.inj hstep
    exact .complete h (.name text)
  | number text =>
    obtain rfl := Option.some.inj hstep
    exact .complete h (.decimal text)
  | sign s =>
    cases s with
    | minus =>
      obtain rfl := Option.some.inj hstep
      exact .operand h.neg
    | openParen =>
      obtain rfl := Option.some.inj hstep
      exact .operand h.group
    | _ => exact absurd hstep (by simp [Dimensional.startOperand])

lemma Opened.continueWith_op (h : Opened n frames opened) (ha : Derives .factor a) (op : Op)
    (hstep : continueWith frames a.term (.sign op.sign) = some r) :
    Spelled r (opened ++ a.tokens ++ [.sign op.sign]) := by
  rw [Dimensional.continueWith_op] at hstep
  obtain rfl := Option.some.inj hstep
  obtain ⟨n', m, b, opened', hopened, hb, hterm, htokens, -, hlevel, hnext⟩ :=
    h.inside_unwind ha n.level_le op.level_le
  rw [← hterm, ← htokens]
  refine .operand (hopened.binary (hnext.trans (max_le op.level_pos le_rfl)) (hb.lift ?_))
  rwa [op.level_nonterminal]

lemma Opened.continueWith_closeParen (h : Opened n frames opened) (ha : Derives .factor a)
    (hstep : continueWith frames a.term (.sign .closeParen) = some r) :
    Spelled r (opened ++ a.tokens ++ [.sign .closeParen]) := by
  obtain ⟨n', m, b, opened', hopened, hb, hterm, htokens, hfit, -, hnext⟩ :=
    h.inside_unwind ha n.level_le (Nat.zero_le _)
  rw [continueWith] at hstep
  generalize unwind 0 frames a.term = closed at *
  obtain ⟨closed, t⟩ := closed
  -- of the frames that wait for an expression the innermost is a parenthesis, if there is one
  cases hopened with
  | nil => exact absurd hstep (by simp)
  | @group n'' outer opened'' houter =>
    obtain rfl := Option.some.inj hstep
    have hgroup : opened ++ a.tokens ++ [.sign .closeParen] =
        opened'' ++ (Phrase.group b).tokens := by
      rw [← htokens]
      simp only [Phrase.tokens, List.append_assoc, List.cons_append, List.nil_append]
    obtain rfl : b.term = t := hterm
    rw [hgroup]
    exact .complete houter (.group (hb.lift hfit))
  | neg houter => exact absurd hnext (by decide)
  | @binary _ _ _ op left houter hle hleft =>
    rw [op.level_operand] at hnext
    have := op.level_pos
    omega

lemma Opened.continueWith (h : Opened n frames opened) (ha : Derives .factor a)
    (hstep : continueWith frames a.term token = some r) :
    Spelled r (opened ++ a.tokens ++ [token]) := by
  cases token with
  | name text => exact absurd hstep (by simp [Dimensional.continueWith])
  | number text => exact absurd hstep (by simp [Dimensional.continueWith])
  | sign s =>
    cases s with
    | plus => exact h.continueWith_op ha .add hstep
    | minus => exact h.continueWith_op ha .sub hstep
    | star => exact h.continueWith_op ha .mul hstep
    | slash => exact h.continueWith_op ha .div hstep
    | closeParen => exact h.continueWith_closeParen ha hstep
    | openParen => exact absurd hstep (by simp [Dimensional.continueWith, Sign.op?])
    | caret => exact absurd hstep (by simp [Dimensional.continueWith, Sign.op?])

lemma Spelled.step {tokens : List Token} (h : Spelled r tokens) (hstep : r.step token = some r') :
    Spelled r' (tokens ++ [token]) := by
  cases h with
  | operand h => exact h.startOperand hstep
  | complete h ha => exact h.continueWith ha hstep

lemma Spelled.foldlM {tokens rest : List Token} (h : Spelled r tokens)
    (hread : rest.foldlM Reader.step r = some r') : Spelled r' (tokens ++ rest) := by
  induction rest generalizing r tokens with
  | nil =>
    obtain rfl := Option.some.inj hread
    rwa [List.append_nil]
  | cons token rest ih =>
    rw [List.foldlM_cons] at hread
    obtain ⟨next, hstep, hrest⟩ := Option.bind_eq_some_iff.1 hread
    rw [List.append_cons]
    exact ih (h.step hstep) hrest

lemma Spelled.finish {tokens : List Token} {t : Term} (h : Spelled r tokens)
    (hfinish : r.finish? = some t) :
    ∃ a, Derives .expression a ∧ a.tokens = tokens ∧ a.term = t := by
  cases h with
  | operand h => exact absurd hfinish (by simp [Reader.finish?])
  | @complete n frames opened a h ha =>
    obtain ⟨n', m, b, opened', hopened, hb, hterm, htokens, hfit, -, -⟩ :=
      h.inside_unwind ha n.level_le (Nat.zero_le _)
    rw [Reader.finish?, Option.bind_some] at hfinish
    generalize unwind 0 frames a.term = closed at *
    obtain ⟨closed, t'⟩ := closed
    cases hopened with
    | nil =>
      obtain rfl := Option.some.inj hfinish
      exact ⟨b, hb.lift hfit, htokens, hterm⟩
    | _ => exact absurd hfinish (by simp)

end Step

/-- A term is read from the tokens of the phrases that the grammar derives, and from no others. -/
lemma parse?_eq_some_iff {tokens : List Token} {t : Term} : parse? tokens = some t ↔
    ∃ a, Derives .expression a ∧ a.tokens = tokens ∧ a.term = t := by
  constructor
  · intro h
    obtain ⟨r, hread, hfinish⟩ := Option.bind_eq_some_iff.1 h
    exact ((Spelled.operand .nil).foldlM hread).finish hfinish
  · rintro ⟨a, ha, rfl, rfl⟩
    exact parse?_of_derives ha

/-! ### What a phrase denotes -/

/-- What an operator makes of two quantities that it may be applied to. -/
def Op.result (op : Op) (x y : Quantity) : Quantity :=
  match op with
  | add => ⟨x.number + y.number, x.unit⟩
  | sub => ⟨x.number - y.number, x.unit⟩
  | mul => ⟨x.number * y.number, x.unit * y.unit⟩
  | div => ⟨Double.divide x.number y.number, x.unit / y.unit⟩

/-- The quantity of a phrase, in which a name without a quantity is zero without a unit. -/
def Phrase.quantity (scope : QuantityScope) : Phrase → Quantity
  | name text => (scope (String.ofList text)).getD .zero
  | decimal text => ⟨(Double.read? text).getD 0.0, .unitless⟩
  | neg a => (a.quantity scope).neg
  | binary op a b => op.result (a.quantity scope) (b.quantity scope)
  | group a => a.quantity scope

/-- No sum or difference in the phrase is one of incompatible units, and in strict reading no name
is without a quantity. -/
def Phrase.Admissible (strict : Bool) (scope : QuantityScope) : Phrase → Prop
  | name text => strict = true → (scope (String.ofList text)).isSome
  | decimal _ => True
  | neg a => a.Admissible strict scope
  | binary op a b => a.Admissible strict scope ∧ b.Admissible strict scope ∧
    (op = .add ∨ op = .sub → (a.quantity scope).unit.compatible (b.quantity scope).unit = true)
  | group a => a.Admissible strict scope

section Denotation

variable {strict : Bool} {scope : QuantityScope} {q : Quantity}

lemma Op.apply_eq_ok_iff {op : Op} {x y : Quantity} : op.apply x y = .ok q ↔
    (op = .add ∨ op = .sub → x.unit.compatible y.unit = true) ∧ op.result x y = q := by
  cases op with
  | mul => simp [Op.apply, Op.result, Quantity.mul]
  | div => simp [Op.apply, Op.result, Quantity.div]
  | _ =>
    by_cases h : x.unit.compatible y.unit = true <;>
      simp [Op.apply, Op.result, Quantity.add, Quantity.sub, Quantity.combine, h]

lemma resolve_eq_ok_iff {name : String} : resolve strict scope name = .ok q ↔
    (strict = true → (scope name).isSome) ∧ (scope name).getD .zero = q := by
  rw [resolve]
  cases scope name with
  | some q' => simp
  | none => cases strict <;> simp

/-- The term of a phrase has a value if the phrase is admissible, and that is its quantity. -/
lemma Phrase.eval_term_eq_ok_iff {a : Phrase} : a.term.eval strict scope = .ok q ↔
    a.Admissible strict scope ∧ a.quantity scope = q := by
  induction a generalizing q with
  | name text => exact resolve_eq_ok_iff
  | decimal text => simp [Phrase.term, Term.eval, Phrase.Admissible, Phrase.quantity]
  | neg a ih =>
    rw [Phrase.term, Term.eval]
    constructor
    · intro h
      obtain ⟨x, hx, h⟩ := exists_of_bind_eq_ok h
      obtain ⟨ha, rfl⟩ := ih.1 hx
      exact ⟨ha, Except.ok.inj h⟩
    · rintro ⟨ha, rfl⟩
      rw [ih.2 ⟨ha, rfl⟩]
      rfl
  | binary op a b iha ihb =>
    rw [Phrase.term, Term.eval]
    constructor
    · intro h
      obtain ⟨x, hx, h⟩ := exists_of_bind_eq_ok h
      obtain ⟨y, hy, h⟩ := exists_of_bind_eq_ok h
      obtain ⟨ha, rfl⟩ := iha.1 hx
      obtain ⟨hb, rfl⟩ := ihb.1 hy
      obtain ⟨hunits, hq⟩ := Op.apply_eq_ok_iff.1 (mapError_eq_ok_iff.1 h)
      exact ⟨⟨ha, hb, hunits⟩, hq⟩
    · rintro ⟨⟨ha, hb, hunits⟩, hq⟩
      rw [iha.2 ⟨ha, rfl⟩, ihb.2 ⟨hb, rfl⟩]
      exact mapError_eq_ok_iff.2 (Op.apply_eq_ok_iff.2 ⟨hunits, hq⟩)
  | group a ih => exact ih

end Denotation

end Worksheet.Dimensional
