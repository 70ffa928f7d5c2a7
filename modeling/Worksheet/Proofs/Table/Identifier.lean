import Mathlib.Data.List.Forall2
import Mathlib.Tactic.Lemma
import Worksheet.Table.Lookup

/-!
# Names that share an identifier

The identifier of a name keeps its letters and digits in their places and has an underscore for
everything else, so it forgets which character the underscore stands for, and whether a first one
was there at all when a digit follows.  That is all it forgets: two names share an identifier
exactly when they are *alike*.  The three families of identifiers, of aggregates, of references
and of whole columns, differ in their second character and never meet.
-/

namespace Worksheet.Table

open Worksheet.Text

/-! ### Character by character -/

/-- What stands for a character in an identifier. -/
def mark (c : Char) : Char := if isNameChar c then c else '_'

/-- Characters that identifiers do not tell apart. -/
def SameMark (c d : Char) : Prop := c = d ∨ (c.isAlphanum = false ∧ d.isAlphanum = false)

instance : DecidableRel SameMark := fun c d => inferInstanceAs (Decidable (c = d ∨ _))

lemma mark_of_isAlphanum {c : Char} (h : c.isAlphanum = true) : mark c = c := by
  rw [mark, isNameChar, h, Bool.true_or, if_pos rfl]

lemma mark_of_not_isAlphanum {c : Char} (h : c.isAlphanum = false) : mark c = '_' := by
  rw [mark, isNameChar, h, Bool.false_or]
  split
  · rename_i hc
    exact beq_iff_eq.1 hc
  · rfl

lemma isAlphanum_mark (c : Char) : (mark c).isAlphanum = c.isAlphanum := by
  cases h : c.isAlphanum
  · rw [mark_of_not_isAlphanum h]
    rfl
  · rw [mark_of_isAlphanum h, h]

lemma isNameChar_mark (c : Char) : isNameChar (mark c) = true := by
  rw [mark]
  split
  · assumption
  · rfl

lemma mark_eq_mark_iff {c d : Char} : mark c = mark d ↔ SameMark c d := by
  constructor
  · intro h
    have halnum : c.isAlphanum = d.isAlphanum := by
      rw [← isAlphanum_mark c, h, isAlphanum_mark]
    cases hc : c.isAlphanum
    · exact Or.inr ⟨hc, halnum ▸ hc⟩
    · rw [mark_of_isAlphanum hc, mark_of_isAlphanum (halnum ▸ hc)] at h
      exact Or.inl h
  · rintro (rfl | ⟨hc, hd⟩)
    · rfl
    · rw [mark_of_not_isAlphanum hc, mark_of_not_isAlphanum hd]

lemma map_mark_eq_iff {s t : List Char} :
    s.map mark = t.map mark ↔ List.Forall₂ SameMark s t := by
  rw [← List.forall₂_eq_eq_eq, List.forall₂_map_left_iff, List.forall₂_map_right_iff]
  constructor <;> exact List.Forall₂.imp fun _ _ => by rw [mark_eq_mark_iff]; exact id

/-! ### Whole names -/

/-- A text with an underscore in front of a leading digit. -/
def padded : List Char → List Char
  | [] => []
  | c :: cs => if c.isDigit then '_' :: c :: cs else c :: cs

/-- The names that identifiers do not tell apart. -/
def Alike (a b : String) : Prop := List.Forall₂ SameMark (padded a.toList) (padded b.toList)

lemma isDigit_mark (c : Char) : (mark c).isDigit = c.isDigit := by
  cases h : c.isAlphanum
  · have hdigit : c.isDigit = false := by
      rw [Char.isAlphanum, Bool.or_eq_false_iff] at h
      exact h.2
    rw [mark_of_not_isAlphanum h, hdigit]
    rfl
  · rw [mark_of_isAlphanum h]

lemma toList_identifier (name : String) :
    (identifier name).toList = (padded name.toList).map mark := by
  have hmap : (fun c => if isNameChar c then c else '_') = mark := rfl
  rw [identifier, hmap]
  cases name.toList with
  | nil => rfl
  | cons c cs =>
    have hfirst : (mark c).isDigit = c.isDigit := isDigit_mark c
    simp only [List.map_cons, padded, hfirst, String.toList_ofList]
    split <;> rfl

lemma identifier_eq_iff {a b : String} : identifier a = identifier b ↔ Alike a b := by
  rw [← String.toList_inj, toList_identifier, toList_identifier, map_mark_eq_iff, Alike]

lemma referenceName_eq_iff {a b : String} : referenceName a = referenceName b ↔ Alike a b := by
  rw [← identifier_eq_iff, referenceName, referenceName, ← String.toList_inj,
    String.toList_append, String.toList_append, List.append_cancel_left_eq, String.toList_inj]

lemma toList_referenceName (name : String) :
    (referenceName name).toList = '_' :: 'c' :: '_' :: (identifier name).toList := by
  rw [referenceName, String.toList_append]
  rfl

lemma toList_arrayName (reference : String) :
    (arrayName reference).toList = '_' :: '_' :: 'c' :: 'o' :: 'l' :: '_' :: reference.toList := by
  rw [arrayName, String.toList_append]
  rfl

/-- All characters of the identifier of a reference may stand in an identifier. -/
lemma isNameChar_of_mem_referenceName {name : String} {c : Char}
    (h : c ∈ (referenceName name).toList) : isNameChar c = true := by
  rw [toList_referenceName, toList_identifier] at h
  simp only [List.mem_cons, List.mem_map] at h
  obtain rfl | rfl | rfl | ⟨d, _, rfl⟩ := h
  · rfl
  · rfl
  · rfl
  · exact isNameChar_mark d

/-! ### Aggregates -/

/-- An aggregate as a formula can write it: its function is a word of capitals. -/
def Aggregate.Proper (a : Aggregate) : Prop :=
  a.function.toList ≠ [] ∧ ∀ c ∈ a.function.toList, c.isUpper = true

instance (a : Aggregate) : Decidable a.Proper :=
  decidable_of_iff (a.function.toList ≠ [] ∧ a.function.toList.all Char.isUpper = true)
    (and_congr_right fun _ => List.all_eq_true)

lemma toList_text (a : Aggregate) :
    a.text.toList = '$' :: (a.function.toList ++ '_' :: '[' :: (a.column.toList ++ [']'])) := by
  simp [Aggregate.text, bracket]

lemma padded_text (a : Aggregate) : padded a.text.toList = a.text.toList := by
  rw [toList_text]
  rfl

lemma isAlphanum_of_isUpper {c : Char} (h : c.isUpper = true) : c.isAlphanum = true := by
  have halnum : c.isAlphanum = ((c.isUpper || c.isLower) || c.isDigit) := rfl
  rw [halnum, h, Bool.true_or, Bool.true_or]

/-- Words of capitals end in the same place if what follows them does not start with a capital. -/
lemma forall₂_capitals_iff {f g s t : List Char} (hf : ∀ c ∈ f, c.isUpper = true)
    (hg : ∀ c ∈ g, c.isUpper = true) :
    List.Forall₂ SameMark (f ++ '_' :: s) (g ++ '_' :: t) ↔
      f = g ∧ List.Forall₂ SameMark s t := by
  have apart : ∀ c : Char, c.isUpper = true → ¬ SameMark c '_' ∧ ¬ SameMark '_' c := by
    intro c hc
    have halnum := isAlphanum_of_isUpper hc
    constructor
    · rintro (rfl | ⟨hfalse, _⟩)
      · exact absurd halnum (by decide)
      · exact absurd halnum (by rw [hfalse]; decide)
    · rintro (rfl | ⟨_, hfalse⟩)
      · exact absurd halnum (by decide)
      · exact absurd halnum (by rw [hfalse]; decide)
  -- a capital and the underscore are never alike, so neither word can end before the other
  induction f generalizing g with
  | nil =>
    cases g with
    | nil => simp [SameMark]
    | cons d g =>
      have := (apart d (hg d List.mem_cons_self)).2
      simp [this]
  | cons c f ih =>
    have hc := hf c List.mem_cons_self
    cases g with
    | nil =>
      have := (apart c hc).1
      simp [this]
    | cons d g =>
      have hsame : SameMark c d ↔ c = d := by
        refine ⟨?_, Or.inl⟩
        rintro (rfl | ⟨hfalse, _⟩)
        · rfl
        · exact absurd (isAlphanum_of_isUpper hc) (by rw [hfalse]; decide)
      have hrest : List.Forall₂ SameMark (f ++ '_' :: s) (g ++ '_' :: t) ↔
          f = g ∧ List.Forall₂ SameMark s t :=
        ih (fun c' h => hf c' (List.mem_cons_of_mem c h)) fun c' h =>
          hg c' (List.mem_cons_of_mem d h)
      rw [List.cons_append, List.cons_append, List.forall₂_cons, hsame, hrest, List.cons.injEq,
        and_assoc]

lemma alike_text_iff {a b : Aggregate} (ha : a.Proper) (hb : b.Proper) :
    Alike a.text b.text ↔
      a.function = b.function ∧ List.Forall₂ SameMark a.column.toList b.column.toList := by
  have hend : ∀ s t : List Char,
      List.Forall₂ SameMark (s ++ [']']) (t ++ [']']) ↔ List.Forall₂ SameMark s t := by
    intro s t
    rw [← map_mark_eq_iff, ← map_mark_eq_iff, List.map_append, List.map_append,
      List.append_cancel_right_eq]
  have hdollar : SameMark '$' '$' := Or.inl rfl
  have hopen : SameMark '[' '[' := Or.inl rfl
  rw [Alike, padded_text, padded_text, toList_text, toList_text, List.forall₂_cons,
    forall₂_capitals_iff ha.2 hb.2, List.forall₂_cons, hend, String.toList_inj]
  simp only [hdollar, hopen, true_and]

/-! ### All that is bound to identifiers -/

/-- What a compiled formula binds to an identifier. -/
inductive Bound where
  /-- The value of an aggregate. -/
  | aggregate (a : Aggregate)
  /-- The cell of a column, or a single value. -/
  | reference (name : String)
  /-- All cells of a column. -/
  | cells (name : String)
  deriving DecidableEq, Repr

namespace Bound

/-- The identifier that something is bound to. -/
def identifier : Bound → String
  | aggregate a => Table.identifier a.text
  | reference name => referenceName name
  | cells name => arrayName (referenceName name)

/-- What identifiers do not tell apart: names of one family that are alike. -/
def Alike : Bound → Bound → Prop
  | aggregate a, aggregate b =>
    a.function = b.function ∧ List.Forall₂ SameMark a.column.toList b.column.toList
  | reference a, reference b => Table.Alike a b
  | cells a, cells b => Table.Alike a b
  | _, _ => False

/-- Aggregates are as a formula can write them. -/
def Proper : Bound → Prop
  | aggregate a => a.Proper
  | _ => True

/-- The second character of the identifiers of a family. -/
def Second (c : Char) : Bound → Prop
  | aggregate _ => c.isUpper = true
  | reference _ => c = 'c'
  | cells _ => c = '_'

lemma exists_second {p : Bound} (h : p.Proper) :
    ∃ c rest, p.identifier.toList = '_' :: c :: rest ∧ Second c p := by
  cases p with
  | aggregate a =>
    obtain ⟨c, cs, hfunction⟩ := List.exists_cons_of_ne_nil h.1
    have hc : c.isUpper = true := h.2 c (hfunction ▸ List.mem_cons_self)
    rw [identifier, toList_identifier, padded_text, toList_text, hfunction, List.map_cons,
      List.cons_append, List.map_cons, mark_of_isAlphanum (isAlphanum_of_isUpper hc)]
    exact ⟨c, _, rfl, hc⟩
  | reference name => exact ⟨'c', _, toList_referenceName name, rfl⟩
  | cells name => exact ⟨'_', _, toList_arrayName _, rfl⟩

lemma exists_common_second {p q : Bound} (hp : p.Proper) (hq : q.Proper)
    (h : p.identifier = q.identifier) : ∃ c, Second c p ∧ Second c q := by
  obtain ⟨c, rest, hlist, hc⟩ := exists_second hp
  obtain ⟨d, rest', hlist', hd⟩ := exists_second hq
  rw [h, hlist'] at hlist
  obtain rfl : d = c := (List.cons.inj (List.cons.inj hlist).2).1
  exact ⟨d, hc, hd⟩

/-- **Two things share an identifier exactly when they are alike**, and the families never meet. -/
lemma identifier_eq_iff {p q : Bound} (hp : p.Proper) (hq : q.Proper) :
    p.identifier = q.identifier ↔ p.Alike q := by
  have apart := exists_common_second hp hq
  cases p <;> cases q
  case aggregate.aggregate a b =>
    rw [identifier, identifier, Table.identifier_eq_iff, alike_text_iff hp hq, Alike]
  case reference.reference a b => rw [identifier, identifier, referenceName_eq_iff, Alike]
  case cells.cells a b =>
    rw [identifier, identifier, Alike, ← referenceName_eq_iff, ← String.toList_inj,
      toList_arrayName, toList_arrayName]
    simp only [List.cons.injEq, true_and, String.toList_inj]
  -- two families: no character is the second one of both
  all_goals
    refine iff_of_false (fun h => ?_) (fun h => h)
    obtain ⟨c, hc, hc'⟩ := apart h
    simp only [Second] at hc hc'
    subst_vars
    first
      | exact absurd hc (by decide)
      | exact absurd hc' (by decide)

end Bound

lemma referenceName_ne_identifier_text {a : Aggregate} (h : a.Proper) (x : String) :
    referenceName x ≠ identifier a.text := by
  intro heq
  have hreference : (Bound.reference x).Proper := trivial
  have haggregate : (Bound.aggregate a).Proper := h
  exact (Bound.identifier_eq_iff hreference haggregate).1 heq

lemma arrayName_ne_identifier_text {a : Aggregate} (h : a.Proper) (x : String) :
    arrayName (referenceName x) ≠ identifier a.text := by
  intro heq
  have hcells : (Bound.cells x).Proper := trivial
  have haggregate : (Bound.aggregate a).Proper := h
  exact (Bound.identifier_eq_iff hcells haggregate).1 heq

lemma referenceName_ne_arrayName (x y : String) :
    referenceName x ≠ arrayName (referenceName y) := by
  intro heq
  have hreference : (Bound.reference x).Proper := trivial
  have hcells : (Bound.cells y).Proper := trivial
  exact (Bound.identifier_eq_iff hreference hcells).1 heq

end Worksheet.Table
