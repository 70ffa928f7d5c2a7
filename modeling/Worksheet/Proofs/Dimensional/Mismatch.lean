import Worksheet.Proofs.Dimensional.Stepwise
import Worksheet.Proofs.Text.Scan

/-!
# Where mismatches come from

A calculation comes upon no mismatch as long as all its quantities stay in a set of which the
operators never leave and in which they are always defined.  There are two such sets.  Without
bound names every quantity is unitless, and without a plus or a minus every quantity will do.  So a
mismatch needs a bound name and a plus or minus sign in the formula.
-/

namespace Worksheet.Dimensional

open Worksheet.Text

/-! ### Computations without a mismatch -/

/-- The computation comes upon no mismatch, and its result, if it has one, satisfies `P`. -/
def Matched {α : Type} (x : Except Stop α) (P : α → Prop) : Prop :=
  match x with
  | .ok a => P a
  | .error stop => ∀ units, stop ≠ .fault (.mismatch units)

section Matched

variable {α β : Type} {x : Except Stop α} {P : α → Prop}

lemma Matched.bind (h : Matched x P) {f : α → Except Stop β} {Q : β → Prop}
    (hf : ∀ a, P a → Matched (f a) Q) : Matched (x >>= f) Q := by
  cases x with
  | error stop => exact h
  | ok a => exact hf a h

lemma matched_malformed : Matched (.error .malformed : Except Stop α) P :=
  fun _ h => Stop.noConfusion h

lemma Matched.ne (h : Matched x P) (units : UnitMismatch) :
    x ≠ .error (.fault (.mismatch units)) := by
  rintro rfl
  exact h units rfl

end Matched

/-! ### Operators that are always defined -/

/-- On the quantities of a set, to which the quantities of all operands belong, these operators are
always defined and stay in the set. -/
structure Harmonious (scope : QuantityScope) (ops : Op → Prop) (quantities : Quantity → Prop) :
    Prop where
  bound : ∀ name q, scope name = some q → quantities q
  unitless : ∀ x, quantities ⟨x, .unitless⟩
  neg : ∀ q, quantities q → quantities q.neg
  apply : ∀ op a b, ops op → quantities a → quantities b →
    ∃ q, op.apply a b = .ok q ∧ quantities q

namespace Harmonious

variable {strict : Bool} {scope : QuantityScope} {ops : Op → Prop} {quantities : Quantity → Prop}

/-- What waits is among the operators and holds quantities of the set. -/
def Waits (ops : Op → Prop) (quantities : Quantity → Prop) (waiting : List Waiting) : Prop :=
  ∀ op left, .binary op left ∈ waiting → ops op ∧ quantities left

/-- The operators and the quantities of a calculator are as they should be. -/
def Keeps (ops : Op → Prop) (quantities : Quantity → Prop) (c : Calculator) : Prop :=
  (∀ q ∈ c.complete, quantities q) ∧ Waits ops quantities c.waiting

lemma matched_resolve (h : Harmonious scope ops quantities) (name : String) :
    Matched ((resolve strict scope name).mapError .fault) quantities := by
  rw [resolve]
  cases hname : scope name with
  | some q => exact h.bound name q hname
  | none =>
    cases strict with
    | true => exact fun units hunits => by simp at hunits
    | false => exact h.unitless 0.0

lemma matched_perform (h : Harmonious scope ops quantities) {op : Op} {a b : Quantity}
    (hop : ops op) (ha : quantities a) (hb : quantities b) :
    Matched (op.perform a b) quantities := by
  obtain ⟨q, hq, hmem⟩ := h.apply op a b hop ha hb
  rw [Op.perform, hq]
  exact hmem

lemma matched_settle (h : Harmonious scope ops quantities) (level : Nat) {waiting : List Waiting}
    (hwaiting : Waits ops quantities waiting) {q : Quantity} (hq : quantities q) :
    Matched (settle level waiting q) fun settled =>
      Waits ops quantities settled.1 ∧ quantities settled.2 := by
  -- what is carried out gives a quantity of the set again, on which the rest is carried out
  induction waiting generalizing q with
  | nil => exact ⟨hwaiting, hq⟩
  | cons first rest ih =>
    have hrest : Waits ops quantities rest :=
      fun op left hmem => hwaiting op left (List.mem_cons_of_mem first hmem)
    cases first with
    | neg => exact ih hrest (h.neg q hq)
    | group => exact ⟨hwaiting, hq⟩
    | binary op left =>
      obtain ⟨hop, hleft⟩ := hwaiting op left List.mem_cons_self
      rw [settle]
      split
      · exact (h.matched_perform hop hleft hq).bind fun z hz => ih hrest hz
      · exact ⟨hwaiting, hq⟩

lemma matched_startQuantity (h : Harmonious scope ops quantities) {waiting : List Waiting}
    (hwaiting : Waits ops quantities waiting) (token : Token) :
    Matched (startQuantity strict scope waiting token) (Keeps ops quantities) := by
  -- a negation and a parenthesis wait without an operator or a quantity
  have hopen : ∀ first, (∀ op left, first ≠ .binary op left) →
      Keeps ops quantities ⟨none, first :: waiting⟩ := by
    refine fun first hfirst => ⟨by simp, fun op left hmem => ?_⟩
    rcases List.mem_cons.1 hmem with rfl | hmem
    · exact absurd rfl (hfirst op left)
    · exact hwaiting op left hmem
  cases token with
  | name text =>
    exact (h.matched_resolve _).bind fun q hq => ⟨by simpa using hq, hwaiting⟩
  | number text => exact ⟨by simpa using h.unitless _, hwaiting⟩
  | sign s =>
    cases s with
    | minus => exact hopen .neg (by simp)
    | openParen => exact hopen .group (by simp)
    | _ => exact matched_malformed

lemma matched_proceed {token : Token}
    (htoken : ∀ s op, token = .sign s → s.op? = some op → ops op) {waiting : List Waiting}
    (hwaiting : Waits ops quantities waiting) {q : Quantity} (hq : quantities q) :
    Matched (proceed token waiting q) (Keeps ops quantities) := by
  cases token with
  | name text => exact matched_malformed
  | number text => exact matched_malformed
  | sign s =>
    have hop : ∀ op, s.op? = some op → Keeps ops quantities ⟨none, .binary op q :: waiting⟩ := by
      refine fun op hs => ⟨by simp, fun op' left hmem => ?_⟩
      rcases List.mem_cons.1 hmem with heq | hmem
      · obtain ⟨rfl, rfl⟩ := Waiting.binary.inj heq
        exact ⟨htoken s _ rfl hs, hq⟩
      · exact hwaiting op' left hmem
    cases s with
    | plus => exact hop .add rfl
    | minus => exact hop .sub rfl
    | star => exact hop .mul rfl
    | slash => exact hop .div rfl
    | openParen => exact matched_malformed
    | caret => exact matched_malformed
    | closeParen =>
      cases waiting with
      | nil => exact matched_malformed
      | cons first rest =>
        cases first with
        | group =>
          exact ⟨by simpa using hq,
            fun op left hmem => hwaiting op left (List.mem_cons_of_mem _ hmem)⟩
        | _ => exact matched_malformed

lemma matched_step (h : Harmonious scope ops quantities) {token : Token}
    (htoken : ∀ s op, token = .sign s → s.op? = some op → ops op) {c : Calculator}
    (hc : Keeps ops quantities c) :
    Matched (c.step strict scope token) (Keeps ops quantities) := by
  obtain ⟨complete, waiting⟩ := c
  cases complete with
  | none => exact h.matched_startQuantity hc.2 token
  | some q =>
    exact (h.matched_settle token.level hc.2 (hc.1 q rfl)).bind fun settled hsettled =>
      matched_proceed htoken hsettled.1 hsettled.2

lemma matched_foldlM (h : Harmonious scope ops quantities) {tokens : List Token}
    (htokens : ∀ s op, .sign s ∈ tokens → s.op? = some op → ops op) {c : Calculator}
    (hc : Keeps ops quantities c) :
    Matched (tokens.foldlM (Calculator.step strict scope) c) (Keeps ops quantities) := by
  induction tokens generalizing c with
  | nil => exact hc
  | cons token tokens ih =>
    rw [List.foldlM_cons]
    exact (h.matched_step (fun s op htoken => htokens s op (htoken ▸ List.mem_cons_self)) hc).bind
      fun c' hc' => ih (fun s op hmem => htokens s op (List.mem_cons_of_mem token hmem)) hc'

lemma matched_finish (h : Harmonious scope ops quantities) {c : Calculator}
    (hc : Keeps ops quantities c) : Matched c.finish quantities := by
  obtain ⟨complete, waiting⟩ := c
  cases complete with
  | none => exact matched_malformed
  | some q =>
    refine (h.matched_settle 0 hc.2 (hc.1 q rfl)).bind fun settled hsettled => ?_
    unfold conclude
    split
    · exact hsettled.2
    · exact matched_malformed

/-- A calculation that only meets these operators comes upon no mismatch. -/
lemma matched_calculate (h : Harmonious scope ops quantities) {tokens : List Token}
    (htokens : ∀ s op, .sign s ∈ tokens → s.op? = some op → ops op) :
    Matched (calculate strict scope tokens) quantities :=
  (h.matched_foldlM htokens ⟨by simp, fun op left hmem => absurd hmem List.not_mem_nil⟩).bind
    fun _ hc => h.matched_finish hc

end Harmonious

/-! ### Two harmonious sets -/

/-- Without bound names all quantities are unitless. -/
lemma harmonious_unitless {scope : QuantityScope} (hscope : ∀ name, scope name = none) :
    Harmonious scope (fun _ => True) fun q => q.unit = .unitless where
  bound name q hq := absurd hq (by simp [hscope])
  unitless x := rfl
  neg q hq := hq
  apply op a b _ ha hb := by
    obtain ⟨x, u⟩ := a
    obtain ⟨y, v⟩ := b
    obtain rfl : u = .unitless := ha
    obtain rfl : v = .unitless := hb
    cases op <;> exact ⟨_, rfl, rfl⟩

/-- Products and quotients are always defined. -/
lemma harmonious_mul_div (scope : QuantityScope) :
    Harmonious scope (fun op => op = .mul ∨ op = .div) fun _ => True where
  bound _ _ _ := trivial
  unitless _ := trivial
  neg _ _ := trivial
  apply op a b hop _ _ := by
    rcases hop with rfl | rfl <;> exact ⟨_, rfl, trivial⟩

section Mismatch

variable {strict : Bool} {scope : QuantityScope} {units : UnitMismatch}

lemma exists_bound_of_mismatch {tokens : List Token}
    (h : calculate strict scope tokens = .error (.fault (.mismatch units))) :
    ∃ name q, scope name = some q := by
  by_contra hnone
  have hscope : ∀ name, scope name = none := fun name =>
    Option.eq_none_iff_forall_ne_some.2 fun q hq => hnone ⟨name, q, hq⟩
  exact ((harmonious_unitless hscope).matched_calculate fun _ _ _ _ => trivial).ne units h

lemma exists_sum_of_mismatch {tokens : List Token}
    (h : calculate strict scope tokens = .error (.fault (.mismatch units))) :
    .sign .plus ∈ tokens ∨ .sign .minus ∈ tokens := by
  by_contra hnone
  rw [not_or] at hnone
  refine ((harmonious_mul_div scope).matched_calculate fun s op hmem hop => ?_).ne units h
  cases s with
  | plus => exact absurd hmem hnone.1
  | minus => exact absurd hmem hnone.2
  | star => exact Or.inl (Option.some.inj hop).symm
  | slash => exact Or.inr (Option.some.inj hop).symm
  | _ => exact absurd hop (by simp [Sign.op?])

end Mismatch

/-! ### The signs of a text -/

lemma sign?_eq_some {c : Char} {s : Sign} (h : sign? c = some s) : c = s.char := by
  unfold sign? at h
  split at h <;> cases h <;> rfl

/-- A sign among the tokens stands in the text. -/
lemma char_mem_of_mem_tokenize {s : Sign} {formula : String}
    (h : .sign s ∈ tokenize formula) : s.char ∈ formula.toList := by
  obtain ⟨before, rest, width, hsuffix, hmatch⟩ := foundIn_of_mem_matches? h
  obtain ⟨token, htoken, heq⟩ := Option.map_eq_some_iff.1 hmatch
  obtain rfl : token = .sign s := (Prod.mk.inj heq).1
  refine hsuffix.subset ?_
  unfold token? at htoken
  split at htoken
  · exact absurd htoken (by simp)
  · exact absurd htoken (by simp)
  · obtain ⟨s', hs', heq⟩ := Option.map_eq_some_iff.1 htoken
    obtain rfl : s' = s := Token.sign.inj heq
    obtain ⟨c, hc, hsign⟩ := Option.bind_eq_some_iff.1 hs'
    exact sign?_eq_some hsign ▸ List.mem_of_head? hc

end Worksheet.Dimensional
