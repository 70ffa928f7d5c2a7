import Worksheet.Proofs.Double.Exact
import Worksheet.Value.Basic

/-!
# Values as keys

What makes two cells the same key: a text its characters, a truth value or a number its exact value,
so that `1`, `1.0` and `true` are one key, what is not a number its occurrence, and a list or a
record its written form.  An empty cell is no key, and neither is a computed double that is not a
number.  Among values that are no lists or records this is equality as members of lists, and between
any two cells with plain keys it is equality by content.
-/

namespace Worksheet

/-! ### Numbers -/

/-- The exact value of a number, unless it is none. -/
def Number.value? : Number → Option Double.Exact
  | int n => some (.finite n)
  | float x => Double.value? x
  | nan _ => none

lemma Number.equal_iff {a b : Number} :
    Number.equal a b = true ↔ ∃ v, a.value? = some v ∧ b.value? = some v := by
  cases a with
  | int n =>
    cases b with
    | int m =>
      simp only [Number.equal, Number.value?, beq_iff_eq, Option.some.injEq, exists_eq_left',
        Double.Exact.finite.injEq, Int.cast_inj]
      exact eq_comm
    | float y => simp [Number.equal, Number.value?, Double.compareInt?_eq_iff]
    | nan mark => simp [Number.equal, Number.value?]
  | float x =>
    cases b with
    | int m => simp [Number.equal, Number.value?, Double.compareInt?_eq_iff]
    | float y => exact Double.beq_iff
    | nan mark => simp [Number.equal, Number.value?]
  | nan mark => cases b <;> simp [Number.equal, Number.value?]

/-! ### Keys -/

/-- What a key is known by. -/
inductive Key where
  | text (s : String)
  | exact (v : Double.Exact)
  | occurrence (mark : Nat)
  deriving DecidableEq

/-- The key that a number is, if any. -/
def Number.key? : Number → Option Key
  | nan mark => some (.occurrence mark)
  | x => x.value?.map .exact

/-- The key that a value is, if any. -/
def Value.key? : Value → Option Key
  | null => none
  | bool b => Number.key? (.int (if b then 1 else 0))
  | number x => x.key?
  | text s => some (.text s)
  | v => some (.text v.written)

/-- Two options hold the same. -/
def Coincide {α : Type} (x y : Option α) : Prop := ∃ a, x = some a ∧ y = some a

namespace Coincide

variable {α : Type} {x y z : Option α}

lemma symm (h : Coincide x y) : Coincide y x := by
  obtain ⟨a, hx, hy⟩ := h
  exact ⟨a, hy, hx⟩

lemma trans (h : Coincide x y) (h' : Coincide y z) : Coincide x z := by
  obtain ⟨a, hx, hy⟩ := h
  obtain ⟨b, hy', hz⟩ := h'
  obtain rfl : a = b := Option.some.inj (hy.symm.trans hy')
  exact ⟨a, hx, hz⟩

lemma iff_left (h : Coincide x y) : Coincide x z ↔ Coincide y z := ⟨h.symm.trans, h.trans⟩

lemma map_iff {β : Type} {f : α → β} (hf : Function.Injective f) :
    Coincide (x.map f) (y.map f) ↔ Coincide x y := by
  constructor
  · rintro ⟨b, hx, hy⟩
    obtain ⟨a, rfl, ha⟩ := Option.map_eq_some_iff.1 hx
    obtain ⟨a', rfl, ha'⟩ := Option.map_eq_some_iff.1 hy
    exact ⟨a, rfl, congrArg some (hf (ha'.trans ha.symm))⟩
  · rintro ⟨a, rfl, rfl⟩
    exact ⟨f a, rfl, rfl⟩

lemma not_none (x : Option α) : ¬Coincide x none := by
  rintro ⟨a, -, ha⟩
  exact Option.some_ne_none a ha.symm

end Coincide

/-- What is not a number is known by its occurrence, which is no exact value. -/
lemma Number.not_coincide_nan {x : Number} (hx : ∀ mark, x ≠ nan mark) (mark : Nat) :
    ¬Coincide x.key? (nan mark).key? := by
  rintro ⟨k, hxk, hk⟩
  obtain rfl := Option.some.inj hk
  cases x with
  | nan i => exact hx i rfl
  | _ => simp [Number.key?] at hxk

lemma Number.alike_iff {a b : Number} : Number.alike a b = true ↔ Coincide a.key? b.key? := by
  have hexact : Number.equal a b = true ↔
      Coincide (a.value?.map Key.exact) (b.value?.map Key.exact) :=
    Number.equal_iff.trans (Coincide.map_iff fun _ _ => Key.exact.inj).symm
  cases a with
  | nan i =>
    cases b with
    | nan j =>
      simp only [Number.alike, Number.key?, Coincide, beq_iff_eq, Option.some.injEq,
        exists_eq_left', Key.occurrence.injEq]
      exact eq_comm
    | _ =>
      refine iff_of_false (by simp [Number.alike, Number.equal]) fun h => ?_
      exact Number.not_coincide_nan (by simp) i h.symm
  | _ =>
    cases b with
    | nan j =>
      exact iff_of_false (by simp [Number.alike, Number.equal])
        (Number.not_coincide_nan (by simp) j)
    | _ => exact hexact

/-! ### Values -/

lemma Value.key?_of_numeral? {v : Value} {x : Number} (h : v.numeral? = some x) :
    v.key? = x.key? := by
  cases v with
  | bool b =>
    obtain rfl := Option.some.inj h
    rfl
  | number y =>
    obtain rfl := Option.some.inj h
    rfl
  | _ => exact absurd h (by simp [Value.numeral?])

lemma Value.alike_eq_of_numeral? {a b : Value} {x : Number} (h : a.numeral? = some x) :
    a.alike b = b.numeral?.any (Number.alike x) := by
  cases a with
  | bool c =>
    obtain rfl := Option.some.inj h
    rw [Value.alike]
    cases b.numeral? <;> rfl
  | number y =>
    obtain rfl := Option.some.inj h
    rw [Value.alike]
    cases b.numeral? <;> rfl
  | _ => exact absurd h (by simp [Value.numeral?])

lemma Number.not_coincide_text (x : Number) (s : String) :
    ¬Coincide x.key? (some (.text s)) := by
  rintro ⟨k, hx, hk⟩
  obtain rfl := Option.some.inj hk
  cases x <;> simp [Number.key?] at hx

/-- Between cells that are no lists or records, being equal as members of lists is being the same
key, but for two empty cells. -/
lemma Value.alike_iff {a b : Value} (ha : a.isCompound = false) (hb : b.isCompound = false)
    (hne : a ≠ .null) : a.alike b = true ↔ Coincide a.key? b.key? := by
  cases hx : a.numeral? with
  | some x =>
    rw [Value.alike_eq_of_numeral? hx, Value.key?_of_numeral? hx]
    cases b with
    | bool c => exact Number.alike_iff
    | number y => exact Number.alike_iff
    | null => exact iff_of_false (by simp [Value.numeral?]) (Coincide.not_none _)
    | text s => exact iff_of_false (by simp [Value.numeral?]) (x.not_coincide_text s)
    | list items => exact absurd hb (by simp [Value.isCompound])
    | record fields => exact absurd hb (by simp [Value.isCompound])
  | none =>
    cases a with
    | null => exact absurd rfl hne
    | text s =>
      cases b with
      | text t =>
        simp only [Value.alike, Value.key?, Coincide, beq_iff_eq, Option.some.injEq,
          exists_eq_left', Key.text.injEq]
        exact eq_comm
      | null => exact iff_of_false (by simp [Value.alike]) (Coincide.not_none _)
      | bool c =>
        refine iff_of_false (by simp [Value.alike]) fun h => ?_
        exact Number.not_coincide_text (.int (if c then 1 else 0)) s h.symm
      | number y => exact iff_of_false (by simp [Value.alike]) fun h => y.not_coincide_text s h.symm
      | list items => exact absurd hb (by simp [Value.isCompound])
      | record fields => exact absurd hb (by simp [Value.isCompound])
    | bool c => exact absurd hx (by simp [Value.numeral?])
    | number y => exact absurd hx (by simp [Value.numeral?])
    | list items => exact absurd ha (by simp [Value.isCompound])
    | record fields => exact absurd ha (by simp [Value.isCompound])

/-! ### Plain keys -/

/-- A value that is nothing, a truth value, a text or a number. -/
def Value.IsPlainKey : Value → Prop
  | null => True
  | bool _ => True
  | number (.int _) => True
  | number (.float x) => x.isNaN = false
  | number (.nan _) => False
  | text _ => True
  | list _ => False
  | record _ => False

instance (v : Value) : Decidable v.IsPlainKey :=
  match v with
  | .null => isTrue trivial
  | .bool _ => isTrue trivial
  | .number (.int _) => isTrue trivial
  | .number (.float x) => inferInstanceAs (Decidable (x.isNaN = false))
  | .number (.nan _) => isFalse id
  | .text _ => isTrue trivial
  | .list _ => isFalse id
  | .record _ => isFalse id

namespace Value.IsPlainKey

variable {a b : Value}

lemma isCompound_eq_false (h : a.IsPlainKey) : a.isCompound = false := by
  cases a with
  | list items => exact h.elim
  | record fields => exact h.elim
  | _ => rfl

lemma ne_nan {mark : Nat} (h : a.IsPlainKey) : a.numeral? ≠ some (.nan mark) := by
  cases a with
  | number x =>
    rintro hx
    obtain rfl := Option.some.inj hx
    exact h
  | _ => simp [Value.numeral?]

lemma isSome_key? (h : a.IsPlainKey) (hne : a ≠ .null) : a.key?.isSome := by
  cases a with
  | null => exact absurd rfl hne
  | bool c => rfl
  | number x =>
    cases x with
    | int n => rfl
    | float x =>
      have hkey : (Value.float x).key? = (Double.value? x).map Key.exact := rfl
      rw [hkey, Option.isSome_map]
      exact Double.isSome_value? h
    | nan mark => exact h.elim
  | text s => rfl
  | list items => exact h.elim
  | record fields => exact h.elim

lemma same_eq_alike (ha : a.IsPlainKey) : a.same b = a.alike b := by
  rw [Value.same]
  cases hx : a.numeral? with
  | none => rfl
  | some x =>
    cases hy : b.numeral? with
    | none => rfl
    | some y =>
      rw [Value.alike_eq_of_numeral? hx, hy]
      cases x with
      | nan mark => exact absurd hx ha.ne_nan
      | _ => rfl

/-- Equality by content is being the same key. -/
lemma same_iff (ha : a.IsPlainKey) (hb : b.IsPlainKey) : a.same b = true ↔ a.key? = b.key? := by
  rw [ha.same_eq_alike]
  by_cases hne : a = .null
  · subst hne
    by_cases hb' : b = .null
    · subst hb'
      exact iff_of_true rfl rfl
    · obtain ⟨k, hk⟩ := Option.isSome_iff_exists.1 (hb.isSome_key? hb')
      refine iff_of_false ?_ fun heq => Option.some_ne_none k (hk.symm.trans heq.symm)
      cases b with
      | null => exact absurd rfl hb'
      | _ => simp [Value.alike]
  · obtain ⟨k, hk⟩ := Option.isSome_iff_exists.1 (ha.isSome_key? hne)
    rw [Value.alike_iff ha.isCompound_eq_false hb.isCompound_eq_false hne, hk]
    constructor
    · rintro ⟨k', hk', hb'⟩
      rw [hb', hk']
    · exact fun hb' => ⟨k, rfl, hb'.symm⟩

end Value.IsPlainKey

end Worksheet
