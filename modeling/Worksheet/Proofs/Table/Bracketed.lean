import Mathlib.Data.List.Infix
import Worksheet.Proofs.Table.Identifier
import Worksheet.Proofs.Text.Numeral
import Worksheet.Proofs.Text.Scan

/-!
# Names in brackets

A name in brackets goes on to the next closing bracket, so that any name without brackets can be
written in them and is read back.  An aggregate is a dollar sign, a word of capitals and an
underscore in front of such a name.
-/

namespace Worksheet.Table

open Worksheet.Text

/-! ### Brackets -/

/-- The brackets around names. -/
def isBracket (c : Char) : Bool := c == '[' || c == ']'

lemma isBracket_eq_false_iff {c : Char} : isBracket c = false ↔ c ≠ '[' ∧ c ≠ ']' := by
  rw [isBracket, Bool.or_eq_false_iff, beq_eq_false_iff_ne, beq_eq_false_iff_ne]

/-- A name that can be written in brackets as it is. -/
def BracketFree (x : String) : Prop := '[' ∉ x.toList ∧ ']' ∉ x.toList

instance (x : String) : Decidable (BracketFree x) := inferInstanceAs (Decidable (_ ∧ _))

lemma BracketFree.isBracket_eq_false {x : String} (hx : BracketFree x) :
    ∀ c ∈ x.toList, isBracket c = false := fun _ hc =>
  isBracket_eq_false_iff.2 ⟨fun h => hx.1 (h ▸ hc), fun h => hx.2 (h ▸ hc)⟩

lemma toList_bracket (x : String) : (bracket x).toList = '[' :: (x.toList ++ [']']) := by
  simp [bracket]

/-- A name goes on to the next closing bracket. -/
lemma takeWhile_of_closed {name after : List Char} (h : ']' ∉ name) :
    (name ++ ']' :: after).takeWhile (· != ']') = name := by
  refine takeWhile_append_of_stops (fun c hc => bne_iff_ne.2 fun heq => h (heq ▸ hc)) ?_
  rintro c hc
  obtain rfl : ']' = c := Option.mem_some_iff.1 hc
  rfl

/-! ### Brackets that are not nested -/

/-- Between an opening bracket and the next closing one no other is opened. -/
def Unnested (s : List Char) : Prop :=
  ∀ before inside after, s = before ++ '[' :: (inside ++ ']' :: after) → ']' ∉ inside →
    '[' ∉ inside

lemma Unnested.suffix {s t : List Char} (hs : Unnested s) (h : t <:+ s) : Unnested t := by
  obtain ⟨u, rfl⟩ := h
  intro before inside after ht
  exact hs (u ++ before) inside after (by rw [ht, List.append_assoc])

/-- A character behind an opening bracket that does not close it can be left out. -/
lemma Unnested.of_open {c : Char} {s : List Char} (hs : Unnested ('[' :: c :: s)) (hc : c ≠ ']') :
    Unnested ('[' :: s) := by
  intro before inside after h hclosed
  cases before with
  | nil =>
    obtain rfl : s = inside ++ ']' :: after := (List.cons.inj h).2
    have hmem : ']' ∉ c :: inside := by
      rw [List.mem_cons, not_or]
      exact ⟨Ne.symm hc, hclosed⟩
    exact fun hopen => hs [] (c :: inside) after rfl hmem (List.mem_cons_of_mem c hopen)
  | cons b before =>
    obtain ⟨rfl, rfl⟩ := List.cons.inj h
    exact hs ('[' :: c :: before) inside after rfl hclosed

/-- It is enough to look from each opening bracket to the next closing one. -/
lemma unnested_iff {s : List Char} :
    Unnested s ↔ ∀ t ∈ s.tails, t.head? = some '[' → ']' ∈ t →
      '[' ∉ t.tail.takeWhile (· != ']') := by
  constructor
  · intro hs t ht hopen hclose
    rw [List.mem_tails] at ht
    obtain ⟨before, rfl⟩ := ht
    cases t with
    | nil => exact absurd hclose List.not_mem_nil
    | cons c t =>
      obtain rfl : c = '[' := Option.some.inj hopen
      obtain ⟨inside, after, rfl, hclosed⟩ :=
        List.eq_append_cons_of_mem ((List.mem_cons.1 hclose).resolve_left (by decide))
      rw [List.tail_cons, takeWhile_of_closed hclosed]
      exact hs before inside after rfl hclosed
  · rintro h before inside after rfl hclosed
    have hinside := h ('[' :: (inside ++ ']' :: after))
      ((List.mem_tails _ _).2 (List.suffix_append _ _)) rfl (by simp)
    rwa [List.tail_cons, takeWhile_of_closed hclosed] at hinside

instance : DecidablePred Unnested := fun _ => decidable_of_iff' _ unnested_iff

/-! ### Readers -/

lemma bracketed?_eq_some_iff {s name : List Char} :
    bracketed? s = some name ↔ name ≠ [] ∧ ']' ∉ name ∧ '[' :: (name ++ [']']) <+: s := by
  constructor
  · intro h
    unfold bracketed? at h
    split at h
    · rename_i rest
      simp only at h
      split at h
      · exact absurd h (by simp)
      · rename_i hcond
        obtain rfl := Option.some.inj h
        rw [Bool.or_eq_true_iff, not_or, List.isEmpty_iff, beq_iff_eq] at hcond
        -- the name stops before the end of the text, so a closing bracket follows
        obtain ⟨hclosed, after, hafter⟩ := exists_of_takeWhile_ne hcond.2
        refine ⟨hcond.1, hclosed, List.cons_prefix_cons.2 ⟨rfl, after, ?_⟩⟩
        rw [List.append_assoc, List.singleton_append, ← hafter]
    · exact absurd h (by simp)
  · rintro ⟨hne, hclosed, after, rfl⟩
    rw [List.cons_append, List.append_assoc, List.singleton_append, bracketed?]
    simp [takeWhile_of_closed hclosed, hne]

lemma forward_bracketPattern : Forward bracketPattern := fun _ _ _ => rfl

lemma bracketed?_eq_none {c : Char} (h : c ≠ '[') (s : List Char) : bracketed? (c :: s) = none := by
  unfold bracketed?
  split
  · rename_i heq
    exact absurd (List.cons.inj heq).1 h
  · rfl

/-- What the reader of aggregates reads. -/
lemma aggregate?_eq_some_iff {s : List Char} {a : Aggregate} :
    aggregate? s = some a ↔
      a.Proper ∧ a.column ≠ "" ∧ ']' ∉ a.column.toList ∧ a.text.toList <+: s := by
  constructor
  · intro h
    unfold aggregate? at h
    split at h
    · rename_i rest
      simp only at h
      split at h
      · rename_i after hdrop
        split at h
        · exact absurd h (by simp)
        · rename_i hfunction
          obtain ⟨column, hcolumn, rfl⟩ := Option.map_eq_some_iff.1 h
          obtain ⟨hne, hclosed, hhead⟩ := bracketed?_eq_some_iff.1 hcolumn
          have hupper : ∀ c ∈ rest.takeWhile Char.isUpper, c.isUpper = true :=
            List.all_eq_true.1 List.all_takeWhile
          have hrest : rest = rest.takeWhile Char.isUpper ++ '_' :: after := by
            rw [← hdrop, List.takeWhile_append_dropWhile]
          rw [Aggregate.Proper, toList_text, String.toList_ofList, String.toList_ofList]
          refine ⟨⟨mt List.isEmpty_iff.2 hfunction, hupper⟩, mt String.ofList_inj.1 hne, hclosed,
            List.cons_prefix_cons.2 ⟨rfl, ?_⟩⟩
          conv_rhs => rw [hrest]
          rw [List.prefix_append_right_inj]
          exact List.cons_prefix_cons.2 ⟨rfl, hhead⟩
      · exact absurd h (by simp)
    · exact absurd h (by simp)
  · rintro ⟨⟨hfunction, hupper⟩, hne, hclosed, after, rfl⟩
    have hcolumn : bracketed? ('[' :: (a.column.toList ++ ']' :: after)) =
        some a.column.toList := by
      refine bracketed?_eq_some_iff.2 ⟨mt String.toList_eq_nil_iff.1 hne, hclosed, after, ?_⟩
      rw [List.cons_append, List.append_assoc, List.singleton_append]
    have htake : ∀ t, (a.function.toList ++ '_' :: t).takeWhile Char.isUpper =
        a.function.toList := by
      intro t
      refine takeWhile_append_of_stops hupper fun c hc => ?_
      obtain rfl : '_' = c := Option.mem_some_iff.1 hc
      rfl
    have hdrop : ∀ t, (a.function.toList ++ '_' :: t).dropWhile Char.isUpper = '_' :: t := by
      intro t
      rw [List.dropWhile_append_of_pos hupper]
      rfl
    have hlist : a.text.toList ++ after =
        '$' :: (a.function.toList ++ '_' :: '[' :: (a.column.toList ++ ']' :: after)) := by
      simp [toList_text]
    rw [hlist, aggregate?]
    simp [htake, hdrop, hcolumn, hfunction]

lemma aggregate?_eq_none {c : Char} (h : c ≠ '$') (s : List Char) : aggregate? (c :: s) = none := by
  unfold aggregate?
  split
  · rename_i heq
    exact absurd (List.cons.inj heq).1 h
  · rfl

/-- An aggregate has an opening bracket. -/
lemma aggregate?_eq_none_of_not_mem {s : List Char} (h : '[' ∉ s) : aggregate? s = none := by
  cases ha : aggregate? s with
  | none => rfl
  | some a =>
    obtain ⟨-, -, -, htext⟩ := aggregate?_eq_some_iff.1 ha
    exact absurd (htext.subset (by simp [toList_text])) h

lemma forward_aggregatePattern : Forward aggregatePattern := fun _ _ _ => rfl

lemma aggregatePattern_eq_none {c : Char} (h : c ≠ '$') (s : List Char) :
    aggregatePattern none (c :: s) = none := by
  rw [aggregatePattern, aggregate?_eq_none h, Option.map_none]

lemma noMatch_aggregatePattern {s : List Char} (h : '$' ∉ s) : NoMatch aggregatePattern s :=
  .of_forward forward_aggregatePattern fun _ hc =>
    aggregatePattern_eq_none fun heq => h (heq ▸ hc)

/-- Whether an aggregate ends at a closing bracket does not depend on what comes behind it. -/
lemma aggregate?_append_of_closed {t : List Char} (ht : ']' ∉ t)
    (h : aggregate? (t ++ [']']) = none) (s : List Char) : aggregate? (t ++ ']' :: s) = none := by
  cases ha : aggregate? (t ++ ']' :: s) with
  | none => rfl
  | some a =>
    obtain ⟨hproper, hne, hclosed, rest, hrest⟩ := aggregate?_eq_some_iff.1 ha
    have htext : a.text.toList =
        '$' :: (a.function.toList ++ '_' :: '[' :: a.column.toList) ++ [']'] := by
      rw [toList_text]
      simp
    have hopen : ∀ c ∈ '$' :: (a.function.toList ++ '_' :: '[' :: a.column.toList),
        (c == ']') = false := by
      simp only [List.mem_cons, List.mem_append]
      rintro c (rfl | hc | rfl | rfl | hc)
      · rfl
      · exact beq_false_of_ne (ne_of_class (hproper.2 c hc) (by decide))
      · rfl
      · rfl
      · exact beq_false_of_ne fun heq => hclosed (heq ▸ hc)
    -- the first closing bracket ends the aggregate, and the text `t`
    rw [htext, List.append_assoc, List.singleton_append] at hrest
    obtain ⟨hsame, -, -⟩ := append_cons_inj_of_class hopen
      (fun c hc => beq_false_of_ne fun heq => ht (heq ▸ hc)) rfl rfl hrest
    have hfound : aggregate? (t ++ [']']) = some a :=
      aggregate?_eq_some_iff.2 ⟨hproper, hne, hclosed, by rw [← hsame, ← htext]⟩
    rw [hfound] at h
    exact absurd h (by simp)

/-- An aggregate is known by its text. -/
lemma Aggregate.eq_of_text_eq {a b : Aggregate} (ha : a.Proper) (hb : b.Proper)
    (h : a.text = b.text) : a = b := by
  have hlist := congrArg String.toList h
  rw [toList_text, toList_text] at hlist
  have hlower : ∀ c : Aggregate, c.Proper → ∀ u ∈ c.function.toList, (!u.isUpper) = false :=
    fun c hc u hu => by rw [hc.2 u hu, Bool.not_true]
  obtain ⟨hfunction, -, hrest⟩ := append_cons_inj_of_class (hlower a ha) (hlower b hb)
    (by decide) (by decide) (List.cons.inj hlist).2
  have hcolumn := List.append_cancel_right (List.cons.inj hrest).2
  obtain ⟨f, x⟩ := a
  obtain ⟨g, y⟩ := b
  obtain rfl : f = g := String.toList_inj.1 hfunction
  obtain rfl : x = y := String.toList_inj.1 hcolumn
  rfl

end Worksheet.Table
