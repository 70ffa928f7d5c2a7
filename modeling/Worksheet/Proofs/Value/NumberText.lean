import Worksheet.Proofs.Double.ReadBack
import Worksheet.Proofs.Value.Key

/-!
# What the text of a number tells

Two numbers have one text in comparisons exactly if they are the same exactly, where all that is
not a number counts as the same: an integral double shows the digits of its integer, any other
double a point, an exponent or a word, and this text is read as that double again.  No number shows
the word of a value that is none.
-/

namespace Worksheet

/-! ### Texts of integers and of doubles -/

/-- An integer shows only digits behind its sign. -/
lemma isDigit_or_minus_of_mem_toString (n : Int) :
    ∀ c ∈ (toString n).toList, c.isDigit = true ∨ c = '-' := by
  intro c hc
  rw [Int.toString_eq_repr, Int.repr_eq_if] at hc
  split at hc
  · rw [Nat.repr_eq_ofList_toDigits, String.toList_ofList] at hc
    exact Or.inl (Double.isDigit_of_mem_toDigits c hc)
  · rw [Nat.repr_eq_ofList_toDigits, String.toList_append, List.mem_append] at hc
    rcases hc with hc | hc
    · exact Or.inr (List.mem_singleton.1 hc)
    · rw [String.toList_ofList] at hc
      exact Or.inl (Double.isDigit_of_mem_toDigits c hc)

/-- The text has a character that is neither a digit nor a sign. -/
def IsMarked (s : List Char) : Prop := ∃ c ∈ s, c.isDigit = false ∧ c ≠ '-'

instance (s : List Char) : Decidable (IsMarked s) := List.decidableBEx _ s

lemma not_isMarked_toString (n : Int) : ¬IsMarked (toString n).toList := by
  rintro ⟨c, hc, hdigit, hminus⟩
  rcases isDigit_or_minus_of_mem_toString n c hc with h | h
  · rw [h] at hdigit
    exact absurd hdigit (by decide)
  · exact hminus h

namespace Double

lemma isMarked_positional (ds : List Char) (e : Int) : IsMarked (positional ds e) := by
  refine ⟨'.', ?_, by decide⟩
  rw [positional]
  split <;> simp

lemma isMarked_scientificLayout {ds : List Char} (e : Int) (hne : ds ≠ []) :
    IsMarked (scientificLayout ds e) := by
  obtain ⟨d, rest, rfl⟩ := List.exists_cons_of_ne_nil hne
  refine ⟨'e', ?_, by decide⟩
  rw [scientificLayout]
  simp

/-- Any double shows a point, an exponent or a word. -/
lemma isMarked_text (x : Float) : IsMarked (text x).toList := by
  cases hx : parts? x with
  | none =>
    refine ⟨'n', ?_, by decide⟩
    rw [text, hx]
    simp only
    split
    · exact List.mem_cons_self
    · split <;> simp
  | some p =>
    have hsigned : ∀ s : List Char, IsMarked s →
        IsMarked (if p.negative then '-' :: s else s) := by
      rintro s ⟨c, hc, hmark⟩
      refine ⟨c, ?_, hmark⟩
      split
      · exact List.mem_cons_of_mem _ hc
      · exact hc
    rcases Nat.eq_zero_or_pos p.mantissa with hzero | hpos
    · rw [text, hx]
      simp only [hzero, beq_self_eq_true, if_true, String.toList_ofList]
      exact hsigned _ ⟨'.', by simp, by decide⟩
    · rw [text_of_parts? hx hpos, String.toList_ofList]
      refine hsigned _ ?_
      have hnear := Parts.near_shortest (normal_of_parts? hx) hpos
      rw [Parts.magnitude]
      split
      · exact isMarked_positional _ _
      · exact isMarked_scientificLayout _ (significant_spec (hnear.digits_ne_zero hpos)).2.1

lemma text_injective : Function.Injective text := by
  intro x y h
  have hread := read?_text x
  rw [h, read?_text y] at hread
  exact (Option.some.inj hread).symm

end Double

/-! ### Numbers -/

namespace Number

/-- How a number is shown: as the integer that it is exactly, or as a double that is none. -/
inductive Shows (a : Number) : Prop
  | integer (n : Int) (hvalue : a.value? = some (.finite n))
      (htext : (Value.number a).toText = toString n) : Shows a
  | double (x : Float) (hvalue : a.value? = Double.value? x)
      (hnone : ∀ n : Int, a.value? ≠ some (.finite n))
      (htext : (Value.number a).toText = Double.text x) : Shows a

lemma shows (a : Number) : Shows a := by
  cases a with
  | int n => exact .integer n rfl rfl
  | float x =>
    cases hx : Double.integer? x with
    | some n =>
      refine .integer n (Double.integer?_eq_some_iff.1 hx) ?_
      rw [Value.toText, hx]
    | none =>
      refine .double x rfl (fun n hn => ?_) ?_
      · rw [Double.integer?_eq_some_iff.2 hn] at hx
        exact Option.some_ne_none n hx
      · rw [Value.toText, hx]
  | nan mark =>
    refine .double Double.nan ?_ (fun n hn => Option.some_ne_none _ hn.symm) rfl
    rw [Double.value?_of_isNaN Double.isNaN_nan]
    rfl

lemma toString_ne_text (n : Int) (x : Float) : toString n ≠ Double.text x := fun h =>
  not_isMarked_toString n (h ▸ Double.isMarked_text x)

/-- **Two numbers have one text exactly if they are the same exactly.** -/
lemma toText_eq_iff {a b : Number} :
    (Value.number a).toText = (Value.number b).toText ↔ a.value? = b.value? := by
  cases a.shows with
  | integer n hvalue htext =>
    cases b.shows with
    | integer m hvalue' htext' =>
      rw [htext, htext', hvalue, hvalue', Int.toString_eq_repr, Int.toString_eq_repr,
        Int.repr_inj, Option.some.injEq, Double.Exact.finite.injEq, Int.cast_inj]
    | double y _ hnone htext' =>
      rw [htext, htext']
      exact iff_of_false (toString_ne_text n y) fun h => hnone n (h.symm.trans hvalue)
  | double x hvalue hnone htext =>
    cases b.shows with
    | integer m hvalue' htext' =>
      rw [htext, htext']
      exact iff_of_false (toString_ne_text m x).symm fun h => hnone m (h.trans hvalue')
    | double y hvalue' _ htext' =>
      have hne : Double.value? x ≠ some (.finite 0) := by
        have := hnone 0
        rwa [hvalue, Int.cast_zero] at this
      rw [htext, htext', hvalue, hvalue']
      constructor
      · intro h
        rw [Double.text_injective h]
      · intro h
        rw [Double.value?_inj h hne]

/-- The words of nothing and of the truth values are shown by no number. -/
lemma toText_ne_word (a : Number) {w : String} (hmark : IsMarked w.toList)
    (hread : Double.read? w.toList = none) : (Value.number a).toText ≠ w := by
  rintro rfl
  cases a.shows with
  | integer n _ htext =>
    rw [htext] at hmark
    exact not_isMarked_toString n hmark
  | double x _ _ htext =>
    rw [htext, Double.read?_text] at hread
    exact Option.some_ne_none x hread

end Number

end Worksheet
