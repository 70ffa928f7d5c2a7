import Worksheet.Proofs.Formula.FirstMatch
import Worksheet.Proofs.Formula.Spoiled
import Worksheet.Proofs.Value.NumberText

/-!
# The two equalities of formulas

The operator `==` compares texts as texts and all else by number; the lookups take what is equal by
content or has the same text.  Between values that are no lists or records the two differ in two
ways only: nothing is equal to zero and to false for the operator, and matches neither; what is not
a number is equal to nothing for the operator, and matches what is not a number either.
-/

namespace Worksheet

variable {x y : Value}

/-! ### Figures -/

namespace Value

/-- A value with a number of its own: nothing, a truth value or a number. -/
def IsFigure : Value → Prop
  | null => True
  | bool _ => True
  | number _ => True
  | _ => False

/-- What a figure counts as exactly; nothing and false count as zero. -/
def exactValue? : Value → Option Double.Exact
  | null => some (.finite 0)
  | bool b => some (.finite (if b then 1 else 0))
  | number a => a.value?
  | _ => none

/-- A value that is no list and no record is a text or a figure. -/
lemma eq_text_or_isFigure (h : x.isCompound = false) : (∃ s, x = .text s) ∨ x.IsFigure := by
  cases x with
  | text s => exact Or.inl ⟨s, rfl⟩
  | list items => exact absurd h (by simp [isCompound])
  | record fields => exact absurd h (by simp [isCompound])
  | _ => exact Or.inr trivial

lemma value?_zero : Double.value? 0.0 = some (.finite 0) := by
  have hparts : Double.parts? 0.0 = some ⟨false, 0, -1074⟩ := by decide
  rw [Double.value?_of_parts? hparts, Double.Parts.value_of_zero]

lemma value?_one : Double.value? 1.0 = some (.finite 1) := by
  have hparts : Double.parts? 1.0 = some ⟨false, 2 ^ 52, -52⟩ := by decide
  have hvalue : Double.Parts.value ⟨false, 2 ^ 52, -52⟩ = 1 := by norm_num [Double.Parts.value]
  rw [Double.value?_of_parts? hparts, hvalue]

lemma IsFigure.exists_toNumber (h : x.IsFigure) :
    ∃ a, x.toNumber = .ok a ∧ a.value? = x.exactValue? := by
  cases x with
  | null => exact ⟨_, rfl, value?_zero⟩
  | bool b =>
    refine ⟨_, rfl, ?_⟩
    cases b with
    | true => exact value?_one
    | false => exact value?_zero
  | number a => exact ⟨a, rfl, rfl⟩
  | _ => exact h.elim

end Value

/-! ### The operator -/

lemma Formula.equal_text_left (s : String) (v : Value) :
    equal (.text s) v = .ok (s == v.toText) := rfl

lemma Formula.equal_text_right (v : Value) (s : String) :
    equal v (.text s) = .ok (v.toText == s) := by
  cases v <;> rfl

/-- Figures are equal exactly if both count as the same. -/
lemma Formula.equal_of_isFigure (hx : x.IsFigure) (hy : y.IsFigure) :
    ∃ b, equal x y = .ok b ∧ (b = true ↔ Coincide x.exactValue? y.exactValue?) := by
  obtain ⟨n, hn, hvalue⟩ := hx.exists_toNumber
  obtain ⟨m, hm, hvalue'⟩ := hy.exists_toNumber
  refine ⟨Number.equal n m, ?_, ?_⟩
  · have heq : equal x y = do
        let a ← numeric none x
        let b ← numeric none y
        return Number.equal a b := by
      cases x <;> cases y <;> first | rfl | exact hx.elim | exact hy.elim
    rw [heq, numeric, hn, numeric, hm]
    rfl
  · rw [Number.equal_iff, hvalue, hvalue']
    rfl

/-! ### Matches -/

namespace Value

/-- A text matches what has this text. -/
lemma matches?_text_left (s : String) (h : y.isCompound = false) :
    (Value.text s).matches? y = (s == y.toText) := by
  rw [matches?, h]
  cases y with
  | text t =>
    have hsame : (Value.text s).same (.text t) = (s == t) := by
      rw [same, alike]
      rfl
    rw [hsame]
    exact Bool.or_self _
  | _ => simp [same, alike, numeral?, isCompound, toText]

lemma matches?_text_right (h : x.isCompound = false) (s : String) :
    x.matches? (.text s) = (x.toText == s) := by
  rw [matches?, h]
  cases x with
  | text t =>
    have hsame : (Value.text t).same (.text s) = (t == s) := by
      rw [same, alike]
      rfl
    rw [hsame]
    exact Bool.or_self _
  | _ => simp [same, alike, numeral?, isCompound, toText]

lemma IsFigure.isCompound_eq_false (h : x.IsFigure) : x.isCompound = false := by
  cases x with
  | list items => exact h.elim
  | record fields => exact h.elim
  | _ => rfl

/-- What a number shows is none of the words of nothing and of the truth values. -/
lemma toText_number_ne (a : Number) :
    (number a).toText ≠ "null" ∧ (number a).toText ≠ "true" ∧ (number a).toText ≠ "false" :=
  ⟨a.toText_ne_word (by decide) (by decide), a.toText_ne_word (by decide) (by decide),
    a.toText_ne_word (by decide) (by decide)⟩

lemma value?_of_numeral? {a : Number} (h : x.numeral? = some a) : a.value? = x.exactValue? := by
  cases x with
  | bool b =>
    obtain rfl := Option.some.inj h
    cases b <;> simp [Number.value?, exactValue?]
  | number a =>
    obtain rfl := Option.some.inj h
    rfl
  | _ => exact absurd h (by simp [numeral?])

/-- Figures that show the same count as the same. -/
lemma exactValue?_eq_of_toText_eq (hx : x.IsFigure) (hy : y.IsFigure) (h : x.toText = y.toText) :
    x.exactValue? = y.exactValue? := by
  cases x with
  | null =>
    cases y with
    | null => rfl
    | bool b => cases b <;> exact absurd h (by decide)
    | number a => exact absurd h.symm (toText_number_ne a).1
    | _ => exact hy.elim
  | bool b =>
    cases y with
    | null => cases b <;> exact absurd h (by decide)
    | bool c => cases b <;> cases c <;> first | rfl | exact absurd h (by decide)
    | number a =>
      cases b with
      | true => exact absurd h.symm (toText_number_ne a).2.1
      | false => exact absurd h.symm (toText_number_ne a).2.2
    | _ => exact hy.elim
  | number a =>
    cases y with
    | null => exact absurd h (toText_number_ne a).1
    | bool b =>
      cases b with
      | true => exact absurd h (toText_number_ne a).2.1
      | false => exact absurd h (toText_number_ne a).2.2
    | number c => exact Number.toText_eq_iff.1 h
    | _ => exact hy.elim
  | _ => exact hx.elim

/-- What counts as no number is a number that is none, and all of these show one word. -/
lemma toText_eq_of_exactValue?_eq_none (hx : x.IsFigure) (hy : y.IsFigure)
    (h : x.exactValue? = none)
    (h' : y.exactValue? = none) : x.toText = y.toText := by
  cases x with
  | number a =>
    cases y with
    | number c => exact Number.toText_eq_iff.2 (h.trans h'.symm)
    | null => exact absurd h' (Option.some_ne_none _)
    | bool b => exact absurd h' (Option.some_ne_none _)
    | _ => exact hy.elim
  | null => exact absurd h (Option.some_ne_none _)
  | bool b => exact absurd h (Option.some_ne_none _)
  | _ => exact hx.elim

/-- Figures other than nothing match exactly if they count as the same. -/
lemma matches?_of_numeral? {a c : Number} (hx : x.numeral? = some a) (hy : y.numeral? = some c)
    (hfigure : x.IsFigure) (hfigure' : y.IsFigure) :
    x.matches? y = true ↔ x.exactValue? = y.exactValue? := by
  have hsame : x.same y = true ↔ Coincide x.exactValue? y.exactValue? := by
    rw [same, hx, hy, ← value?_of_numeral? hx, ← value?_of_numeral? hy]
    exact Number.equal_iff
  rw [matches?, hfigure.isCompound_eq_false, hfigure'.isCompound_eq_false, Bool.or_eq_true, hsame]
  simp only [Bool.not_false, Bool.true_and, beq_iff_eq]
  constructor
  · rintro (⟨e, he, he'⟩ | htext)
    · rw [he, he']
    · exact exactValue?_eq_of_toText_eq hfigure hfigure' htext
  · intro h
    cases he : x.exactValue? with
    | none => exact Or.inr (toText_eq_of_exactValue?_eq_none hfigure hfigure' he (h.symm.trans he))
    | some e => exact Or.inl ⟨e, rfl, h.symm.trans he⟩

lemma IsFigure.eq_null_or_numeral? (h : x.IsFigure) : x = .null ∨ ∃ a, x.numeral? = some a := by
  cases x with
  | null => exact Or.inl rfl
  | bool b => exact Or.inr ⟨_, rfl⟩
  | number a => exact Or.inr ⟨a, rfl⟩
  | _ => exact h.elim

/-- Nothing matches nothing else. -/
lemma matches?_null_left (hy : y.IsFigure) : Value.null.matches? y = true ↔ y = .null := by
  cases y with
  | null => exact iff_of_true (by decide) rfl
  | bool b => cases b <;> exact iff_of_false (by decide) (by simp)
  | number a =>
    have htext := (toText_number_ne a).1.symm
    have hnull : Value.null.toText = "null" := rfl
    simp [matches?, same, alike, numeral?, isCompound, hnull, htext]
  | _ => exact hy.elim

lemma matches?_null_right (hx : x.IsFigure) : x.matches? .null = true ↔ x = .null := by
  cases x with
  | null => exact iff_of_true (by decide) rfl
  | bool b => cases b <;> exact iff_of_false (by decide) (by simp)
  | number a =>
    have htext := (toText_number_ne a).1
    have hnull : Value.null.toText = "null" := rfl
    simp [matches?, same, alike, numeral?, isCompound, hnull, htext]
  | _ => exact hx.elim

/-- Figures match exactly if they count as the same and both are nothing or none is. -/
lemma matches?_of_isFigure (hx : x.IsFigure) (hy : y.IsFigure) :
    x.matches? y = true ↔ (x = .null ↔ y = .null) ∧ x.exactValue? = y.exactValue? := by
  rcases hx.eq_null_or_numeral? with rfl | ⟨a, ha⟩
  · rw [matches?_null_left hy]
    constructor
    · rintro rfl
      exact ⟨Iff.rfl, rfl⟩
    · exact fun h => h.1.1 rfl
  · have hne : x ≠ .null := by
      rintro rfl
      exact absurd ha (by simp [numeral?])
    rcases hy.eq_null_or_numeral? with rfl | ⟨c, hc⟩
    · rw [matches?_null_right hx]
      exact ⟨fun h => absurd h hne, fun h => h.1.2 rfl⟩
    · have hne' : y ≠ .null := by
        rintro rfl
        exact absurd hc (by simp [numeral?])
      rw [matches?_of_numeral? ha hc hx hy]
      exact ⟨fun h => ⟨iff_of_false hne hne', h⟩, fun h => h.2⟩

lemma matches?_comm (hx : x.isCompound = false) (hy : y.isCompound = false) :
    x.matches? y = y.matches? x := by
  rcases eq_text_or_isFigure hx with ⟨s, rfl⟩ | hfigure
  · rw [matches?_text_left s hy, matches?_text_right hy s, Bool.beq_comm]
  · rcases eq_text_or_isFigure hy with ⟨s, rfl⟩ | hfigure'
    · rw [matches?_text_left s hx, matches?_text_right hx s, Bool.beq_comm]
    · rw [Bool.eq_iff_iff, matches?_of_isFigure hfigure hfigure',
        matches?_of_isFigure hfigure' hfigure]
      exact and_congr Iff.comm eq_comm

end Value

/-! ### Where they differ -/

lemma Number.isZero_iff {a : Number} : a.isZero = true ↔ a.value? = some (.finite 0) := by
  cases a with
  | int n => simp [isZero, value?]
  | float x =>
    have hzero : Double.value? 0 = some (.finite 0) := Value.value?_zero
    rw [isZero, Double.beq_iff, hzero]
    constructor
    · rintro ⟨v, hx, hv⟩
      rw [Option.some.inj hv]
      exact hx
    · exact fun hx => ⟨_, hx, rfl⟩
  | nan mark => simp [isZero, value?]

lemma Number.spoiled_of_value?_eq_none {a : Number} (h : a.value? = none) : a.Spoiled := by
  cases a with
  | int n => exact absurd h (Option.some_ne_none _)
  | float x =>
    refine .float ?_
    by_contra hnan
    have hsome := Double.isSome_value? (Bool.not_eq_true _ ▸ hnan)
    rw [show Double.value? x = none from h] at hsome
    exact absurd hsome (by decide)
  | nan mark => exact .nan mark

namespace Value

/-- A zero of either sign or false. -/
def IsZero (v : Value) : Prop := v.numeral?.any Number.isZero = true

/-- One of the two values is nothing, and the other a zero or false. -/
def NothingAndZero (x y : Value) : Prop := x = .null ∧ y.IsZero ∨ x.IsZero ∧ y = .null

lemma Spoiled.isFigure (h : x.Spoiled) : x.IsFigure := by
  obtain ⟨h⟩ := h
  trivial

lemma Spoiled.exactValue?_eq_none (h : x.Spoiled) : x.exactValue? = none := by
  obtain ⟨h⟩ := h
  cases h with
  | float h => exact Double.value?_of_isNaN h
  | nan mark => rfl

lemma spoiled_of_exactValue?_eq_none (hx : x.IsFigure) (h : x.exactValue? = none) : x.Spoiled := by
  cases x with
  | number a => exact ⟨Number.spoiled_of_value?_eq_none h⟩
  | null => exact absurd h (Option.some_ne_none _)
  | bool b => exact absurd h (Option.some_ne_none _)
  | _ => exact hx.elim

lemma isZero_iff (hx : x.IsFigure) : x.IsZero ↔ x ≠ .null ∧ x.exactValue? = some (.finite 0) := by
  cases x with
  | null => simp [IsZero, numeral?]
  | bool b => cases b <;> simp [IsZero, numeral?, Number.isZero, exactValue?]
  | number a =>
    have hany : (number a).IsZero ↔ a.isZero = true := Iff.rfl
    rw [hany, Number.isZero_iff]
    simp [exactValue?]
  | _ => exact hx.elim

lemma IsZero.isFigure (h : x.IsZero) : x.IsFigure := by
  cases x with
  | text s => exact absurd h (by simp [IsZero, numeral?])
  | list items => exact absurd h (by simp [IsZero, numeral?])
  | record fields => exact absurd h (by simp [IsZero, numeral?])
  | _ => trivial

end Value

namespace Formula

/-- What is not a number is never equal, and always matches its like. -/
lemma equal_of_spoiled (hx : x.Spoiled) (hy : y.Spoiled) :
    equal x y = .ok false ∧ x.matches? y = true := by
  obtain ⟨b, hb, hiff⟩ := equal_of_isFigure hx.isFigure hy.isFigure
  have hfalse : b = false := by
    rw [← Bool.not_eq_true, hiff, hx.exactValue?_eq_none]
    rintro ⟨v, hv, -⟩
    exact Option.some_ne_none v hv.symm
  refine ⟨hfalse ▸ hb, (Value.matches?_of_isFigure hx.isFigure hy.isFigure).2 ⟨?_, ?_⟩⟩
  · obtain ⟨-⟩ := hx
    obtain ⟨-⟩ := hy
    simp
  · rw [hx.exactValue?_eq_none, hy.exactValue?_eq_none]

/-- Nothing is equal to a zero and to false, and matches neither. -/
lemma equal_of_nothingAndZero (h : Value.NothingAndZero x y) :
    equal x y = .ok true ∧ x.matches? y = false := by
  have hkey : x.IsFigure ∧ y.IsFigure ∧ ¬(x = .null ↔ y = .null) ∧
      x.exactValue? = some (.finite 0) ∧ y.exactValue? = some (.finite 0) := by
    rcases h with ⟨rfl, hzero⟩ | ⟨hzero, rfl⟩
    · have hy := (Value.isZero_iff hzero.isFigure).1 hzero
      exact ⟨trivial, hzero.isFigure, fun hiff => hy.1 (hiff.1 rfl), rfl, hy.2⟩
    · have hx := (Value.isZero_iff hzero.isFigure).1 hzero
      exact ⟨hzero.isFigure, trivial, fun hiff => hx.1 (hiff.2 rfl), hx.2, rfl⟩
  obtain ⟨hx, hy, hnull, hex, hey⟩ := hkey
  obtain ⟨b, hb, hiff⟩ := equal_of_isFigure hx hy
  have htrue : b = true := hiff.2 ⟨_, hex, hey⟩
  refine ⟨htrue ▸ hb, ?_⟩
  rw [← Bool.not_eq_true, Value.matches?_of_isFigure hx hy]
  exact fun h => hnull h.1

/-- Everywhere else the operator and the lookups agree. -/
lemma equal_eq_matches? (hx : x.isCompound = false) (hy : y.isCompound = false)
    (hspoiled : ¬(x.Spoiled ∧ y.Spoiled)) (hzero : ¬Value.NothingAndZero x y) :
    equal x y = .ok (x.matches? y) := by
  rcases Value.eq_text_or_isFigure hx with ⟨s, rfl⟩ | hfigure
  · rw [equal_text_left, Value.matches?_text_left s hy]
  rcases Value.eq_text_or_isFigure hy with ⟨s, rfl⟩ | hfigure'
  · rw [equal_text_right, Value.matches?_text_right hx s]
  obtain ⟨b, hb, hiff⟩ := equal_of_isFigure hfigure hfigure'
  rw [hb, Except.ok.injEq, Bool.eq_iff_iff, hiff, Value.matches?_of_isFigure hfigure hfigure']
  constructor
  · rintro ⟨v, hv, hv'⟩
    refine ⟨?_, hv.trans hv'.symm⟩
    -- if only one of the two is nothing, the other counts as zero
    constructor
    · rintro rfl
      by_contra hne
      obtain rfl := Option.some.inj hv
      exact hzero (Or.inl ⟨rfl, (Value.isZero_iff hfigure').2 ⟨hne, hv'⟩⟩)
    · rintro rfl
      by_contra hne
      obtain rfl := Option.some.inj hv'
      exact hzero (Or.inr ⟨(Value.isZero_iff hfigure).2 ⟨hne, hv⟩, rfl⟩)
  · rintro ⟨-, heq⟩
    cases hv : x.exactValue? with
    | some v => exact ⟨v, rfl, heq.symm.trans hv⟩
    | none =>
      exact absurd ⟨Value.spoiled_of_exactValue?_eq_none hfigure hv,
        Value.spoiled_of_exactValue?_eq_none hfigure' (heq.symm.trans hv)⟩ hspoiled

/-- **The operator and the lookups.**  Let `==` between two values that are no lists or records have
a value.  A choice between true and false by the second value as its only key, and a lookup of the
first in a column of the second alone, say whether the two match.  So does the operator, except that
it holds between nothing and a zero or false, which do not match, and does not hold between two
values that are not numbers, which match. -/
theorem equal_and_lookups {scope : Scope} {a b : Expr} {x y v : Value}
    (ha : a.eval scope = .ok x) (hb : b.eval scope = .ok y) (hx : x.isCompound = false)
    (hy : y.isCompound = false) (hv : (Expr.binary .equal a b).eval scope = .ok v) :
    (Expr.call "SWITCH" [a, b, .literal (.bool true), .literal (.bool false)]).eval scope =
        .ok (.bool (x.matches? y)) ∧
    (∀ keys results, keys.eval scope = .ok (.list [y]) →
      results.eval scope = .ok (.list [.bool true]) →
      (Expr.call "XLOOKUP" [a, keys, results, .literal (.bool false)]).eval scope =
        .ok (.bool (x.matches? y))) ∧
    (¬(x.Spoiled ∧ y.Spoiled) → ¬x.NothingAndZero y → v = .bool (x.matches? y)) ∧
    (x.NothingAndZero y → v = .bool true ∧ x.matches? y = false) ∧
    (x.Spoiled → y.Spoiled → v = .bool false ∧ x.matches? y = true) := by
  have hverdict : ∀ c, equal x y = .ok c → v = .bool c := by
    intro c hc
    have heval : (Expr.binary .equal a b).eval scope = .ok (.bool c) := by
      rw [Expr.eval, ha, hb]
      show Value.bool <$> equal x y = _
      rw [hc]
      rfl
    exact Except.ok.inj (hv.symm.trans heval)
  refine ⟨?_, fun keys results hkeys hresults => ?_,
    fun hspoiled hzero => hverdict _ (equal_eq_matches? hx hy hspoiled hzero),
    fun hzero => ⟨hverdict _ (equal_of_nothingAndZero hzero).1, (equal_of_nothingAndZero hzero).2⟩,
    fun hspoiled hspoiled' => ⟨hverdict _ (equal_of_spoiled hspoiled hspoiled').1,
      (equal_of_spoiled hspoiled hspoiled').2⟩⟩
  · have hvalues : evalAll scope [a, b, .literal (.bool true), .literal (.bool false)] =
        .ok (x :: paired [(y, .bool true)] (some (.bool false))) := by
      simp only [evalAll, ha, hb]
      rfl
    rw [eval_switch hvalues (List.cons_ne_nil _ _), paired_cons, firstMatching]
    cases x.matches? y <;> rfl
  · have hvalues : evalAll scope [a, keys, results, .literal (.bool false)] =
        .ok (x :: .list [y] :: .list [.bool true] :: (some (Value.bool false)).toList) := by
      simp only [evalAll, ha, hkeys, hresults]
      rfl
    rw [eval_xlookup hvalues, Value.matches?_comm hx hy, lookupIn]
    cases y.matches? x <;> rfl

/-- A column of a zero beside a column of true. -/
def zeroScope : Scope
  | "keys" => some (.list [.int 0])
  | "results" => some (.list [.bool true])
  | _ => none

/-- Nothing is equal to zero, but a choice and a lookup do not find it among zeros. -/
theorem equal_and_lookups_nothing :
    (Expr.binary .equal (.literal .null) (.literal (.int 0))).eval zeroScope = .ok (.bool true) ∧
    (Expr.call "SWITCH" ([Value.null, .int 0, .bool true, .bool false].map .literal)).eval
      zeroScope = .ok (.bool false) ∧
    (Expr.call "XLOOKUP" [.literal .null, .symbol "keys", .symbol "results",
      .literal (.bool false)]).eval zeroScope = .ok (.bool false) := by
  have hpair : Value.null.NothingAndZero (.int 0) := Or.inl ⟨rfl, rfl⟩
  have hequal : (Expr.binary .equal (.literal .null) (.literal (.int 0))).eval zeroScope =
      .ok (.bool true) := by
    show Value.bool <$> equal .null (.int 0) = _
    rw [(equal_of_nothingAndZero hpair).1]
    rfl
  obtain ⟨hswitch, hlookup, -, hzero, -⟩ := equal_and_lookups (a := .literal .null)
    (b := .literal (.int 0)) rfl rfl rfl rfl hequal
  have hmatches := (hzero hpair).2
  rw [hmatches] at hswitch hlookup
  exact ⟨hequal, hswitch, hlookup (.symbol "keys") (.symbol "results") rfl rfl⟩

end Formula

end Worksheet
