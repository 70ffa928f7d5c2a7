import Worksheet.Proofs.Table.Binding
import Worksheet.Proofs.Text.Scan

/-!
# What a table formula mentions

A formula mentions aggregates, and columns and single values by their names in brackets.  One pass
over the formula finds all of them, an aggregate before the column inside of it, and can put the
identifiers in their places at once.

Where brackets are not nested the first bracket behind any place tells what can start there: of two
mentions that run into each other one is the bracketed name at the end of an aggregate.
-/

namespace Worksheet.Table

open Worksheet.Text

/-- What a formula mentions. -/
inductive Mention where
  /-- An aggregate. -/
  | aggregate (a : Aggregate)
  /-- A column or a single value. -/
  | name (x : String)
  deriving DecidableEq

namespace Mention

/-- A mention as it stands in a formula. -/
def text : Mention → List Char
  | aggregate a => a.text.toList
  | name x => (bracket x).toList

/-- The identifier that takes its place. -/
def image : Mention → List Char
  | aggregate a => (identifier a.text).toList
  | name x => (referenceName x).toList

end Mention

/-- The mention at the head of a text: an aggregate, or else one of the names in brackets. -/
def mention? (names : List String) (s : List Char) : Option Mention :=
  ((aggregate? s).map .aggregate).or
    ((names.find? fun x => (bracket x).toList.isPrefixOf s).map .name)

/-- The mentions as a pattern. -/
def mentionPattern (names : List String) : Pattern Mention := fun _ s =>
  (mention? names s).map fun m => (m, m.text.length)

/-- A formula with the identifiers of all mentions in their places, put there at once. -/
def rewriting (names : List String) (formula : String) : String :=
  String.ofList (substitute (mentionPattern names) Mention.image formula.toList)

/-- A suffix of a text in two parts starts in one of them. -/
lemma suffix_append_cases {s t u : List Char} (h : t <:+ u ++ s) :
    t <:+ s ∨ ∃ v, v <:+ u ∧ v ≠ [] ∧ t = v ++ s := by
  obtain ⟨w, hw⟩ := h
  rcases List.append_eq_append_iff.1 hw with ⟨v, hu, rfl⟩ | ⟨v, -, hs⟩
  · cases v with
    | nil => exact Or.inl List.suffix_rfl
    | cons c v => exact Or.inr ⟨c :: v, ⟨w, hu.symm⟩, List.cons_ne_nil c v, rfl⟩
  · exact Or.inl ⟨v, hs.symm⟩

/-! ### The parts of a mention -/

namespace Mention

/-- What stands in front of the opening bracket. -/
def lead : Mention → List Char
  | aggregate a => '$' :: (a.function.toList ++ ['_'])
  | name _ => []

/-- The name in the brackets. -/
def inner : Mention → String
  | aggregate a => a.column
  | name x => x

/-- A formula can write the mention, with one of the names if it is no aggregate. -/
def Of (names : List String) : Mention → Prop
  | aggregate a => a.Proper ∧ a.column ≠ "" ∧ BracketFree a.column
  | name x => x ∈ names ∧ BracketFree x

variable {names : List String} {m m' : Mention} {r s t : List Char}

lemma text_eq (m : Mention) : m.text = m.lead ++ '[' :: (m.inner.toList ++ [']']) := by
  cases m with
  | aggregate a => simp [text, lead, inner, toList_text]
  | name x => exact toList_bracket x

lemma text_ne_nil (m : Mention) : m.text ≠ [] := by
  rw [text_eq]
  simp

lemma Of.bracketFree (hm : m.Of names) : BracketFree m.inner := by
  cases m with
  | aggregate a => exact hm.2.2
  | name x => exact hm.2

/-- The characters in front of the bracket of an aggregate. -/
lemma Of.lead_char (hm : m.Of names) :
    ∀ c ∈ m.lead, c = '$' ∨ c = '_' ∨ c.isUpper = true := by
  cases m with
  | name x => exact fun c hc => absurd hc List.not_mem_nil
  | aggregate a =>
    intro c hc
    rw [lead, List.mem_cons, List.mem_append, List.mem_singleton] at hc
    obtain rfl | hc | rfl := hc
    · exact Or.inl rfl
    · exact Or.inr (Or.inr (hm.1.2 c hc))
    · exact Or.inr (Or.inl rfl)

lemma Of.isBracket_lead (hm : m.Of names) : ∀ c ∈ m.lead, isBracket c = false := by
  intro c hc
  obtain rfl | rfl | hupper := hm.lead_char c hc
  · rfl
  · rfl
  · rw [isBracket_eq_false_iff]
    exact ⟨ne_of_class hupper (by decide), ne_of_class hupper (by decide)⟩

/-- An aggregate is known by what stands in front of the bracket and inside. -/
lemma eq_of_lead_eq {a : Aggregate} (hlead : (aggregate a).lead = m.lead)
    (hinner : a.column = m.inner) : aggregate a = m := by
  cases m with
  | name x => exact absurd hlead (List.cons_ne_nil _ _)
  | aggregate b =>
    obtain ⟨f, x⟩ := a
    obtain ⟨g, y⟩ := b
    obtain rfl : f = g :=
      String.toList_inj.1 (List.append_cancel_right (List.cons.inj hlead).2)
    obtain rfl : x = y := hinner
    rfl

lemma isNameChar_of_mem_image {c : Char} (hc : c ∈ m.image) : isNameChar c = true := by
  cases m with
  | name x => exact isNameChar_of_mem_referenceName hc
  | aggregate a =>
    rw [image, toList_identifier] at hc
    obtain ⟨d, _, rfl⟩ := List.mem_map.1 hc
    exact isNameChar_mark d

/-- An identifier starts with an underscore, and has more behind it. -/
lemma Of.image_eq (hm : m.Of names) : ∃ c rest, m.image = '_' :: c :: rest := by
  cases m with
  | name x => exact ⟨'c', _, toList_referenceName x⟩
  | aggregate a =>
    have hproper : (Bound.aggregate a).Proper := hm.1
    obtain ⟨c, rest, hlist, -⟩ := Bound.exists_second hproper
    exact ⟨c, rest, hlist⟩

/-! ### Mentions that run into each other -/

/-- The bracket of a mention is the first one, so it ends the part in front. -/
lemma Of.eq_of_starts (hm : m.Of names) {v : List Char} {x : String}
    (hv : ∀ c ∈ v, isBracket c = false) (hx : BracketFree x)
    (h : m.text <+: v ++ '[' :: (x.toList ++ ']' :: r)) : m.lead = v ∧ m.inner = x := by
  obtain ⟨u, h⟩ := h
  rw [text_eq, List.append_assoc, List.cons_append, List.append_assoc, List.singleton_append] at h
  obtain ⟨hlead, -, hrest⟩ := append_cons_inj_of_class hm.isBracket_lead hv rfl rfl h
  have hinner := append_cons_inj_of_class hm.bracketFree.isBracket_eq_false
    hx.isBracket_eq_false rfl rfl hrest
  exact ⟨hlead, String.toList_inj.1 hinner.1⟩

/-- A mention does not start where the first bracket is a closing one. -/
lemma Of.not_starts_of_closed (hm : m.Of names) {v : List Char}
    (hv : ∀ c ∈ v, isBracket c = false) : ¬ m.text <+: v ++ ']' :: r := by
  rintro ⟨u, h⟩
  rw [text_eq, List.append_assoc, List.cons_append] at h
  have hclash := append_cons_inj_of_class hm.isBracket_lead hv rfl rfl h
  exact absurd hclash.2.1 (by decide)

/-- Where a mention can start inside of another one. -/
lemma Of.eq_or_of_overlap (hm : m.Of names) (hm' : m'.Of names) (ht : t <:+ m'.text)
    (hne : t ≠ []) (h : m.text <+: t ++ r) :
    m = m' ∨ ∃ x a, m = name x ∧ m' = aggregate a := by
  -- a place inside the name is followed by its closing bracket
  have hinside : ∀ v, v <:+ m'.inner.toList → t ≠ v ++ [']'] := by
    rintro v hv rfl
    rw [List.append_assoc, List.singleton_append] at h
    exact hm.not_starts_of_closed
      (fun c hc => hm'.bracketFree.isBracket_eq_false c (hv.subset hc)) h
  -- any other place is in front of the opening bracket
  have hfront : ∃ v, v <:+ m'.lead ∧ t = v ++ '[' :: (m'.inner.toList ++ [']']) := by
    rw [text_eq] at ht
    rcases suffix_append_cases ht with hbehind | ⟨v, hv, -, rfl⟩
    · rcases List.suffix_cons_iff.1 hbehind with rfl | hname
      · exact ⟨[], List.nil_suffix, rfl⟩
      · obtain hnil | ⟨v, hv, hmem⟩ := List.suffix_concat_iff.1 hname
        · exact absurd hnil hne
        · exact absurd hv (hinside v hmem)
    · exact ⟨v, hv, rfl⟩
  obtain ⟨v, hv, rfl⟩ := hfront
  rw [List.append_assoc, List.cons_append, List.append_assoc, List.singleton_append] at h
  obtain ⟨hlead, hinner⟩ := hm.eq_of_starts (fun c hc => hm'.isBracket_lead c (hv.subset hc))
    hm'.bracketFree h
  rw [← hlead] at hv
  cases m with
  | aggregate a =>
    -- a dollar sign is at the very beginning or nowhere
    cases m' with
    | name y => exact absurd (List.suffix_nil.1 hv) (List.cons_ne_nil _ _)
    | aggregate b =>
      rcases List.suffix_cons_iff.1 hv with heq | htail
      · exact Or.inl (eq_of_lead_eq heq hinner)
      · have hmem := htail.subset List.mem_cons_self
        rw [List.mem_append, List.mem_singleton] at hmem
        obtain hmem | hmem := hmem
        · exact absurd (hm'.1.2 _ hmem) (by decide)
        · exact absurd hmem (by decide)
  | name x =>
    cases m' with
    | name y => exact Or.inl (congrArg name hinner)
    | aggregate b => exact Or.inr ⟨x, b, rfl, rfl⟩

end Mention

/-! ### Finding mentions -/

section Finding

variable {names : List String} {m : Mention} {a : Aggregate} {x : String} {s : List Char}

lemma mention?_eq_aggregate_iff :
    mention? names s = some (.aggregate a) ↔ aggregate? s = some a := by
  rw [mention?, Option.or_eq_some_iff, Option.map_eq_some_iff]
  constructor
  · rintro (⟨b, hb, heq⟩ | ⟨-, hname⟩)
    · exact Mention.aggregate.inj heq ▸ hb
    · obtain ⟨y, -, heq⟩ := Option.map_eq_some_iff.1 hname
      exact absurd heq (by simp)
  · exact fun h => Or.inl ⟨a, h, rfl⟩

lemma of_find? (h : (names.find? fun x => (bracket x).toList.isPrefixOf s) = some x) :
    x ∈ names ∧ (bracket x).toList <+: s := by
  have hhead := List.find?_some h
  exact ⟨List.mem_of_find?_eq_some h, List.isPrefixOf_iff_prefix.1 hhead⟩

/-- Of names without brackets at most one is in the brackets at the head of a text. -/
lemma mention?_eq_name_iff (hfree : ∀ x ∈ names, BracketFree x) :
    mention? names s = some (.name x) ↔
      aggregate? s = none ∧ x ∈ names ∧ (bracket x).toList <+: s := by
  rw [mention?, Option.or_eq_some_iff, Option.map_eq_none_iff]
  constructor
  · rintro (haggregate | ⟨hnone, hname⟩)
    · obtain ⟨b, -, heq⟩ := Option.map_eq_some_iff.1 haggregate
      exact absurd heq (by simp)
    · obtain ⟨y, hfind, heq⟩ := Option.map_eq_some_iff.1 hname
      obtain rfl := Mention.name.inj heq
      exact ⟨hnone, of_find? hfind⟩
  · rintro ⟨hnone, hx, hhead⟩
    refine Or.inr ⟨hnone, Option.map_eq_some_iff.2 ⟨x, ?_, rfl⟩⟩
    have hsome : (names.find? fun x => (bracket x).toList.isPrefixOf s).isSome :=
      List.find?_isSome.2 ⟨x, hx, List.isPrefixOf_iff_prefix.2 hhead⟩
    obtain ⟨y, hfind⟩ := Option.isSome_iff_exists.1 hsome
    obtain ⟨hy, t, rfl⟩ := of_find? hfind
    have hof : (Mention.name x).Of names := ⟨hx, hfree x hx⟩
    rw [toList_bracket y, List.cons_append, List.append_assoc] at hhead
    obtain rfl : x = y :=
      (hof.eq_of_starts (v := []) (fun c hc => absurd hc List.not_mem_nil) (hfree y hy) hhead).2
    exact hfind

lemma text_prefix_of_mention? (h : mention? names s = some m) : m.text <+: s := by
  rcases Option.or_eq_some_iff.1 h with haggregate | ⟨-, hname⟩
  · obtain ⟨a, ha, rfl⟩ := Option.map_eq_some_iff.1 haggregate
    exact (aggregate?_eq_some_iff.1 ha).2.2.2
  · obtain ⟨x, hfind, rfl⟩ := Option.map_eq_some_iff.1 hname
    exact (of_find? hfind).2

/-- What is found where brackets are not nested is a mention with one name in its brackets. -/
lemma of_mention? (hfree : ∀ x ∈ names, BracketFree x) (hs : Unnested s)
    (h : mention? names s = some m) : m.Of names := by
  cases m with
  | name x =>
    have hx := ((mention?_eq_name_iff hfree).1 h).2.1
    exact ⟨hx, hfree x hx⟩
  | aggregate a =>
    obtain ⟨hproper, hne, hclosed, t, ht⟩ :=
      aggregate?_eq_some_iff.1 (mention?_eq_aggregate_iff.1 h)
    refine ⟨hproper, hne, ?_, hclosed⟩
    refine hs (Mention.aggregate a).lead a.column.toList t ?_ hclosed
    have htext : a.text.toList = (Mention.aggregate a).lead ++ '[' :: (a.column.toList ++ [']']) :=
      Mention.text_eq (.aggregate a)
    simp [← ht, htext]

/-- Where a mention stands, one is found. -/
lemma mention?_ne_none (hm : m.Of names) (hhead : m.text <+: s) : mention? names s ≠ none := by
  intro hnone
  obtain ⟨haggregate, hname⟩ := Option.or_eq_none_iff.1 hnone
  cases m with
  | aggregate a =>
    have hfound : aggregate? s = some a :=
      aggregate?_eq_some_iff.2 ⟨hm.1, hm.2.1, hm.2.2.2, hhead⟩
    rw [hfound] at haggregate
    exact absurd haggregate (by simp)
  | name x =>
    have hfind := List.find?_eq_none.1 (Option.map_eq_none_iff.1 hname) x hm.1
    exact hfind (List.isPrefixOf_iff_prefix.2 hhead)

/-- A text is a mention with a text behind it, or a character with a text behind it, or empty. -/
theorem mention_induction (names : List String) {motive : List Char → Prop} (nil : motive [])
    (plain : ∀ c s, mention? names (c :: s) = none → motive s → motive (c :: s))
    (found : ∀ m s, mention? names (Mention.text m ++ s) = some m → motive s →
      motive (m.text ++ s))
    (s : List Char) : motive s :=
  head_induction (fun _ m hm => ⟨m.text_ne_nil, text_prefix_of_mention? hm⟩) nil plain found s

end Finding

end Worksheet.Table
