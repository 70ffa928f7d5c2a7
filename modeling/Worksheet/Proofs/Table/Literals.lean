import Worksheet.Proofs.Table.Cut
import Worksheet.Proofs.Table.QuotedArguments

/-!
# String literals of table formulas

Compiling replaces aggregates, references and lookup calls in the text of a formula, literals
included.  The texts of the compiled expression are the contents of the literals as these
replacements leave them.  So a literal is kept if no replacement touches it; where names have no
quotes, this is so exactly if no aggregate and no reference stands in the literal.
-/

namespace Worksheet.Table

open Worksheet.Text
open Worksheet.Formula (isQuote isMark isQuote_of_isMark isMark_of_class quotedTexts content
  texts_of_parse)

/-- No replacement touches a literal, each applied to the code that those before have left. -/
def Untouched : List Mention → Cut → Prop
  | [], _ => True
  | m :: ms, cut => cut.Avoids m.text ∧ Untouched ms (cut.map (replaceAll m.text m.image) id)

/-- Whether the replacements touch a literal can be found out. -/
def decidableUntouched : (ms : List Mention) → (cut : Cut) → Decidable (Untouched ms cut)
  | [], _ => isTrue trivial
  | _ :: ms, _ =>
    have := decidableUntouched ms
    inferInstanceAs (Decidable (_ ∧ _))

instance (ms : List Mention) : DecidablePred (Untouched ms) := decidableUntouched ms

variable {ms : List Mention} {m : Mention} {s : List Char}

/-! ### Replacing one after the other -/

lemma replaceAllOf_of_untouched {cut : Cut} (h : Untouched ms cut) :
    replaceAllOf ms cut.text = (cut.map (replaceAllOf ms) id).text := by
  induction ms generalizing cut with
  | nil => exact congrArg Cut.text (Cut.map_id cut).symm
  | cons m ms ih =>
    have hrest := ih h.2
    rw [Cut.map_map] at hrest
    rw [replaceAllOf, List.foldl_cons, Mention.replace, replaceAll_text m.text_ne_nil h.1]
    exact hrest

/-- Without quotes in what is replaced a literal keeps its quotes. -/
lemma replace_literal (hm : ∀ c ∈ m.text, isQuote c = false) {c : Char} (hc : isQuote c = true)
    (s : List Char) :
    Mention.replace (c :: s ++ [c]) m = c :: Mention.replace s m ++ [c] := by
  have hnil : replaceAll m.text m.image [] = [] := rfl
  have hliteral := replaceAll_literal m.text_ne_nil hm hc m.image s []
  rwa [List.append_nil, hnil, List.append_nil] at hliteral

lemma replaceAllOf_literal (hms : ∀ m ∈ ms, ∀ c ∈ m.text, isQuote c = false) {c : Char}
    (hc : isQuote c = true) (s : List Char) :
    replaceAllOf ms (c :: s ++ [c]) = c :: replaceAllOf ms s ++ [c] := by
  induction ms generalizing s with
  | nil => rfl
  | cons m ms ih =>
    obtain ⟨hm, hms⟩ := List.forall_mem_cons.1 hms
    rw [replaceAllOf, List.foldl_cons, replace_literal hm hc]
    exact ih hms _

/-- Replacing puts no quotes into a text. -/
lemma isQuote_of_mem_image {c : Char} (hc : c ∈ m.image) : isQuote c = false :=
  isQuote_of_isMark (isMark_of_class (Mention.isNameChar_of_mem_image hc) rfl)

lemma mem_of_mem_replaceAllOf {c : Char} (hc : isQuote c = true) (h : c ∈ replaceAllOf ms s) :
    c ∈ s := by
  induction ms generalizing s with
  | nil => exact h
  | cons m ms ih =>
    refine (of_mem_replaceAll (ih h)).resolve_right fun himage => ?_
    rw [isQuote_of_mem_image himage] at hc
    exact Bool.noConfusion hc

lemma enclosed_replaceAllOf (h : Enclosed false s) : Enclosed false (replaceAllOf ms s) := by
  induction ms generalizing s with
  | nil => exact h
  | cons m ms ih => exact ih (h.replace m id)

/-- Without quotes in what is replaced each literal is changed by itself. -/
lemma replaceAllOf_of_unquoted (hms : ∀ m ∈ ms, ∀ c ∈ m.text, isQuote c = false) {cut : Cut}
    (h : ∀ literal ∈ cut.literals, (Part.literal literal).Proper) :
    replaceAllOf ms cut.text = (cut.map (replaceAllOf ms) (replaceAllOf ms)).text := by
  induction ms generalizing cut with
  | nil => exact congrArg Cut.text (Cut.map_id cut).symm
  | cons m ms ih =>
    obtain ⟨hm, hms⟩ := List.forall_mem_cons.1 hms
    have hreplaced : ∀ literal ∈ (cut.map (replaceAll m.text m.image)
        (replaceAll m.text m.image)).literals, (Part.literal literal).Proper := by
      rw [Cut.literals_map]
      intro literal hliteral
      obtain ⟨old, hold, rfl⟩ := List.mem_map.1 hliteral
      obtain ⟨quote, inner, hquote, hinner, rfl⟩ := h old hold
      have hc := Formula.isQuote_iff.2 hquote
      refine ⟨quote, Mention.replace inner m, hquote, fun hmem => ?_, replace_literal hm hc inner⟩
      have hreplaced : quote ∈ replaceAllOf [m] inner := hmem
      exact hinner (mem_of_mem_replaceAllOf hc hreplaced)
    have hrest := ih hms hreplaced
    rw [Cut.map_map] at hrest
    rw [replaceAllOf, List.foldl_cons, Mention.replace,
      replaceAll_text_of_unquoted m.text_ne_nil hm h]
    exact hrest

/-- Without quotes in what is replaced a literal stays one, with its contents replaced. -/
lemma replaceAllOf_part (hms : ∀ m ∈ ms, ∀ c ∈ m.text, isQuote c = false) {literal : List Char}
    (h : (Part.literal literal).Proper) : (Part.literal (replaceAllOf ms literal)).Proper ∧
      content (replaceAllOf ms literal) =
        String.ofList (replaceAllOf ms (content literal).toList) := by
  obtain ⟨quote, inner, hquote, hinner, rfl⟩ := h
  have hc := Formula.isQuote_iff.2 hquote
  rw [replaceAllOf_literal hms hc]
  refine ⟨⟨quote, _, hquote, fun hmem => hinner (mem_of_mem_replaceAllOf hc hmem), rfl⟩, ?_⟩
  simp [content]

/-! ### What is not replaced -/

lemma count_image (m : Mention) : m.image.count '[' = 0 :=
  List.count_eq_zero.2 fun hc => absurd (Mention.isNameChar_of_mem_image hc) (by decide)

lemma count_replace_le (m : Mention) (s : List Char) :
    (Mention.replace s m).count '[' ≤ s.count '[' := by
  induction s using replace_induction m.text_ne_nil with
  | nil => exact le_rfl
  | plain c s hnone ih =>
    rw [Mention.replace, replaceAll_cons hnone, List.count_cons, List.count_cons]
    exact Nat.add_le_add_right ih _
  | found s ih =>
    rw [Mention.replace, replaceAll_append m.text_ne_nil, List.count_append, List.count_append,
      count_image, Nat.zero_add]
    exact ih.trans (Nat.le_add_left _ _)

/-- Replacing takes opening brackets away wherever it changes anything. -/
lemma replace_dichotomy (m : Mention) (s : List Char) : ¬ m.text <:+: s ∨
    (Mention.replace s m).count '[' < s.count '[' := by
  have htext : 0 < m.text.count '[' := by
    rw [List.count_pos_iff, Mention.text_eq]
    simp
  induction s using replace_induction m.text_ne_nil with
  | nil => exact Or.inl fun h => m.text_ne_nil (List.infix_nil.1 h)
  | plain c s hnone ih =>
    refine ih.imp (fun hs hinfix => ?_) fun hlt => ?_
    · rcases List.infix_cons_iff.1 hinfix with hhead | htail
      · exact hnone hhead
      · exact hs htail
    · rw [Mention.replace, replaceAll_cons hnone, List.count_cons, List.count_cons]
      exact Nat.add_lt_add_right hlt _
  | found s ih =>
    refine Or.inr ?_
    rw [Mention.replace, replaceAll_append m.text_ne_nil, List.count_append, List.count_append,
      count_image, Nat.zero_add]
    exact (count_replace_le m s).trans_lt (Nat.lt_add_of_pos_left htext)

lemma count_replaceAllOf_le (ms : List Mention) (s : List Char) :
    (replaceAllOf ms s).count '[' ≤ s.count '[' := by
  induction ms generalizing s with
  | nil => exact le_rfl
  | cons m ms ih => exact (ih _).trans (count_replace_le m s)

/-- **A text is kept exactly if nothing that is replaced stands in it.** -/
lemma replaceAllOf_eq_self_iff : replaceAllOf ms s = s ↔ ∀ m ∈ ms, ¬ m.text <:+: s := by
  induction ms with
  | nil => exact iff_of_true rfl fun m hm => absurd hm List.not_mem_nil
  | cons m ms ih =>
    rw [List.forall_mem_cons, ← ih, replaceAllOf, List.foldl_cons]
    constructor
    · intro h
      rcases replace_dichotomy m s with hnone | hlt
      · refine ⟨hnone, ?_⟩
        rwa [Mention.replace, replaceAll_of_not_infix hnone] at h
      · have hle := count_replaceAllOf_le ms (Mention.replace s m)
        rw [replaceAllOf, h] at hle
        exact absurd hlt (not_lt.2 hle)
    · rintro ⟨hnone, h⟩
      rwa [Mention.replace, replaceAll_of_not_infix hnone]

/-- Texts are all kept exactly if nothing that is replaced stands in one. -/
lemma map_replaceAllOf_eq_self_iff {texts : List String} :
    texts.map (fun text => String.ofList (replaceAllOf ms text.toList)) = texts ↔
      ∀ text ∈ texts, ∀ m ∈ ms, ¬ m.text <:+: text.toList := by
  have hself : ∀ text : String, String.ofList (replaceAllOf ms text.toList) = text ↔
      ∀ m ∈ ms, ¬ m.text <:+: text.toList := fun text => by
    rw [← replaceAllOf_eq_self_iff, ← String.toList_inj, String.toList_ofList]
  induction texts with
  | nil => simp
  | cons text texts ih =>
    rw [List.map_cons, List.cons.injEq, List.forall_mem_cons]
    exact and_congr (hself text) ih

/-! ### The texts of the compiled formula -/

variable {formula : String} {d : Dataset} {scalars : List (String × ScalarInput)}

/-- What is read is what the replacements leave, with its literals kept if lookups stand apart from
them. -/
lemma texts_of_compile (hcalls : hasLookup formula = true → CallsApart
      ((columnReferences d).map (·.2)) (replaceAllOf (mentions formula d scalars) formula.toList))
    {c : Compiled} (hc : compile formula d scalars = .ok (.ok c)) :
    c.expr.texts = quotedTexts (replaceAllOf (mentions formula d scalars) formula.toList) ∧
      ∀ a ∈ Formula.unquotedText (replaceAllOf (mentions formula d scalars) formula.toList),
        isMark a = false := by
  obtain ⟨-, -, hparse⟩ := compile_eq_ok hc
  rw [substituteReferences_eq] at hparse
  obtain ⟨expression, hshows, hread⟩ : ∃ expression,
      Shows (replaceAllOf (mentions formula d scalars) formula.toList) expression ∧
        Formula.parse (String.ofList expression) = .ok c.expr := by
    cases hlookup : hasLookup formula with
    | true =>
      rw [hlookup, if_pos rfl] at hparse
      exact ⟨_, shows_withWholeColumns (hcalls hlookup), hparse⟩
    | false =>
      rw [hlookup, if_neg Bool.false_ne_true] at hparse
      exact ⟨_, .refl _, hparse⟩
  obtain ⟨htexts, hmarks⟩ := texts_of_parse hread
  rw [String.toList_ofList] at htexts hmarks
  refine ⟨htexts.trans hshows.texts, fun a ha => ?_⟩
  cases hmark : isMark a with
  | false => rfl
  | true =>
    have hread := hmarks a (hshows.marks a ha hmark)
    rwa [hmark] at hread

/-- **String literals are kept where nothing is replaced in them.**  Let every quote and bracket of
a formula be closed, and let its lookup calls stand apart from the literals.  If no replacement
touches a literal, then the texts of the compiled expression are the contents of the literals, each
as it is written in the formula.  If no aggregate of the formula and no name has a quote, then they
are the contents with the same replacements made in each of them; so the literals are kept exactly
if no aggregate and no reference stands in one of them. -/
theorem literals_of_compile (formula : String) (d : Dataset)
    (scalars : List (String × ScalarInput)) (hclosed : Closed formula)
    (hcalls : hasLookup formula = true → CallsApart ((columnReferences d).map (·.2))
      (replaceAllOf (mentions formula d scalars) formula.toList))
    (c : Compiled) (hc : compile formula d scalars = .ok (.ok c)) :
    (Untouched (mentions formula d scalars) (cut (parts formula)) →
      c.expr.texts = literals formula) ∧
    ((∀ m ∈ mentions formula d scalars, ∀ a ∈ m.text, isQuote a = false) →
      c.expr.texts = (literals formula).map (fun text =>
        String.ofList (replaceAllOf (mentions formula d scalars) text.toList)) ∧
      (c.expr.texts = literals formula ↔
        ∀ text ∈ literals formula, ∀ m ∈ mentions formula d scalars, ¬ m.text <:+: text.toList)) := by
  obtain ⟨htexts, hmarks⟩ := texts_of_compile hcalls hc
  generalize mentions formula d scalars = ms at *
  have hproper : (cut (parts formula)).Proper :=
    proper_cut (fun a ha => (hclosed.of_mem ha).1) fun part hpart => proper_of_mem_scan hpart
  have hliterals : (cut (parts formula)).literals.map content = literals formula := literals_cut _
  have htext : formula.toList = (cut (parts formula)).text := by
    rw [text_cut, textOf_parts]
  rw [htext] at htexts hmarks
  constructor
  · intro huntouched
    rw [replaceAllOf_of_untouched huntouched] at htexts hmarks
    have hmapped : ((cut (parts formula)).map (replaceAllOf ms) id).Proper :=
      hproper.map (fun s hs => enclosed_replaceAllOf hs) fun s hs => hs
    rw [htexts, hmapped.quotedTexts_text hmarks, Cut.literals_map, List.map_id, hliterals]
  · intro hquotes
    rw [replaceAllOf_of_unquoted hquotes fun literal hliteral => hproper.of_mem_literals hliteral]
      at htexts hmarks
    have hmapped : ((cut (parts formula)).map (replaceAllOf ms) (replaceAllOf ms)).Proper :=
      hproper.map (fun s hs => enclosed_replaceAllOf hs) fun s hs => (replaceAllOf_part hquotes hs).1
    have hreplaced : c.expr.texts = (literals formula).map (fun text =>
        String.ofList (replaceAllOf ms text.toList)) := by
      rw [htexts, hmapped.quotedTexts_text hmarks, Cut.literals_map, ← hliterals, List.map_map,
        List.map_map]
      exact List.map_congr_left fun literal hmem =>
        (replaceAllOf_part hquotes (hproper.of_mem_literals hmem)).2
    exact ⟨hreplaced, by rw [hreplaced, map_replaceAllOf_eq_self_iff]⟩

/-- Prices of goods. -/
def prices : Dataset :=
  { rows := [[("Code", .text "a"), ("Price", .int 2)], [("Code", .text "b"), ("Price", .int 3)]]
    columns := [⟨"Code", "Code", .string, none⟩, ⟨"Price", "Price", .number, none⟩] }

/-- An unknown name, a bracket that is not closed and the word of an aggregate are kept, and so is
the comma in a default; the name of a column is not. -/
theorem literals_of_compile_prices :
    (∃ c, compile
      "IF([Code] == \"[Fuel]\", XLOOKUP([Code], [Code], [Price], \"none, [Code\"), 'a $MAX_')"
      prices [] = .ok (.ok c) ∧ c.expr.texts = ["[Fuel]", "none, [Code", "a $MAX_"]) ∧
    ∃ c, compile "concat([Code], \" of [Code]\")" prices [] = .ok (.ok c) ∧
      c.expr.texts = [" of _c_Code"] := by
  constructor
  · obtain ⟨c, hc⟩ : ∃ c, compile
        "IF([Code] == \"[Fuel]\", XLOOKUP([Code], [Code], [Price], \"none, [Code\"), 'a $MAX_')"
        prices [] = .ok (.ok c) := ⟨_, rfl⟩
    refine ⟨c, hc, ?_⟩
    rw [(literals_of_compile _ prices [] (by decide +kernel) (fun _ => by decide +kernel) c hc).1
      (by decide +kernel)]
    decide +kernel
  · obtain ⟨c, hc⟩ : ∃ c, compile "concat([Code], \" of [Code]\")" prices [] = .ok (.ok c) :=
      ⟨_, rfl⟩
    have hplain : ((mentions "concat([Code], \" of [Code]\")" prices []).all fun m =>
        m.text.all fun a => !isQuote a) = true := by
      decide +kernel
    have hquotes : ∀ m ∈ mentions "concat([Code], \" of [Code]\")" prices [], ∀ a ∈ m.text,
        isQuote a = false := fun m hm a ha => by
      simpa using List.all_eq_true.1 (List.all_eq_true.1 hplain m hm) a ha
    refine ⟨c, hc, ?_⟩
    rw [((literals_of_compile _ prices [] (by decide +kernel)
      (fun h => absurd h (by decide +kernel)) c hc).2 hquotes).1]
    decide +kernel

end Worksheet.Table
