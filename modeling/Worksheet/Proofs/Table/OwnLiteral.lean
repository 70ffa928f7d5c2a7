import Worksheet.Proofs.Table.BareWords
import Worksheet.Proofs.Table.Comparison
import Worksheet.Proofs.Table.LookupLexemes
import Worksheet.Proofs.Table.Mention
import Worksheet.Proofs.Table.OwnCell
import Worksheet.Proofs.Table.RowMap

/-!
# A text cell against its own literal

The formula `[x] == "s"` compares the cell of a column with a text.  The cell enters the row's scope
as a number if its text is a numeral, and goes back to text for the comparison, while the literal
stays what it is.  So a cell with the text `s` equals the literal exactly if no number is read off
`s`, or one that has `s` for its text again: `7` equals its literal and `007` does not.  A filter
turns both sides into numbers or neither, and always finds them equal.
-/

namespace Worksheet.Table

open Worksheet.Text
open Worksheet.Formula (IsWord Phrase Spelled)

variable {x s : String} {d : Dataset} {row : Row}

/-- The formula that compares a column with a text. -/
def ownLiteral (x s : String) : String := bracket x ++ " == \"" ++ s ++ "\""

/-- A text off which no number is read, or one that has this very text. -/
def KeepsText (s : String) : Prop :=
  ∀ y, (Value.text s).ofCell = .float y → (Value.float y).toText = s

lemma ofCell_text (s : String) :
    (Value.text s).ofCell = .text s ∨ ∃ y, (Value.text s).ofCell = .float y := by
  rw [Value.ofCell]
  split
  · exact Or.inl rfl
  · cases Value.numeralOf? s with
    | none => exact Or.inl rfl
    | some y => exact Or.inr ⟨y, rfl⟩

lemma keepsText_iff : KeepsText s ↔ (Value.text s).ofCell.toText = s := by
  constructor
  · intro h
    rcases ofCell_text s with hcell | ⟨y, hcell⟩
    · rw [hcell, Value.toText]
    · rw [hcell, h y hcell]
  · intro h y hcell
    rwa [hcell] at h

/-! ### The text of the formula -/

/-- A comparison of a name with a text in quotes, as characters. -/
def comparison (name s : List Char) : List Char :=
  name ++ ' ' :: '=' :: '=' :: ' ' :: '"' :: (s ++ ['"'])

lemma toList_ownLiteral (x s : String) :
    (ownLiteral x s).toList = comparison (bracket x).toList s.toList := by
  simp [ownLiteral, comparison]

lemma mem_comparison {name s : List Char} {c : Char} :
    c ∈ comparison name s ↔ c ∈ name ∨ c ∈ s ∨ c ∈ [' ', '=', '"'] := by
  simp only [comparison, List.mem_append, List.mem_cons, List.not_mem_nil, or_false]
  tauto

/-- A reference to a word has no quote and no dollar sign in it. -/
lemma unmarked_of_mem_bracket (hx : IsWord x.toList) {c : Char} (hc : c ∈ (bracket x).toList) :
    Formula.isQuote c = false ∧ c ≠ '$' := by
  rw [toList_bracket, List.mem_cons, List.mem_append, List.mem_singleton] at hc
  rcases hc with rfl | hc | rfl
  · decide
  · have hmark := hx.isMark_of_mem hc
    exact ⟨Formula.isQuote_of_isMark hmark, fun heq => absurd hmark (by rw [heq]; decide)⟩
  · decide

lemma aggregates_ownLiteral (hx : IsWord x.toList) (hdollar : '$' ∉ s.toList) :
    aggregates (ownLiteral x s) = [] := by
  have hnone : '$' ∉ (ownLiteral x s).toList := by
    rw [toList_ownLiteral, mem_comparison]
    rintro (h | h | h)
    · exact (unmarked_of_mem_bracket hx h).2 rfl
    · exact hdollar h
    · exact absurd h (by decide)
  rw [aggregates, matches?_of_noMatch (noMatch_aggregatePattern hnone), List.foldl_nil]

/-- Only the reference has a bracket, so nothing but the reference is replaced. -/
lemma replaceReference_ownLiteral (hopen : '[' ∉ s.toList) :
    replaceReference (ownLiteral x s).toList x =
      comparison (referenceName x).toList s.toList := by
  have hrest : ¬ (bracket x).toList <:+: (comparison [] s.toList) := by
    intro h
    have hmem : '[' ∈ comparison [] s.toList := h.subset (by rw [toList_bracket]; simp)
    rcases mem_comparison.1 hmem with hnil | hs | hmark
    · exact absurd hnil List.not_mem_nil
    · exact hopen hs
    · exact absurd hmark (by decide)
  have hsplit : ∀ name, comparison name s.toList = name ++ comparison [] s.toList := fun _ => rfl
  rw [replaceReference, toList_ownLiteral, hsplit, hsplit (referenceName x).toList,
    replaceAll_append (by rw [toList_bracket]; simp), replaceAll_of_not_infix hrest]

/-! ### Lookup calls -/

/-- No call goes on over a character that stands neither in its name nor behind it. -/
lemma lookupCall?_eq_none_of_equals {front : List Char} (hopen : '(' ∉ front) (rest : List Char) :
    lookupCall? (front ++ '=' :: rest) = none := by
  refine lookupCall?_eq_none ?_
  rintro ⟨blanks, after, hblanks, hsplit⟩
  have hhead : '=' ∉ lookupName ++ blanks := by
    rw [List.mem_append, not_or]
    exact ⟨by decide, fun h => absurd (hblanks _ h) (by decide)⟩
  rw [← List.append_assoc] at hsplit
  rcases List.append_eq_append_iff.1 hsplit with ⟨t, hfront, hrest⟩ | ⟨t, hfront, hrest⟩
  · cases t with
    | nil => exact absurd (List.cons.inj hrest).1 (by decide)
    | cons c t =>
      refine absurd ?_ hhead
      rw [hfront, ← (List.cons.inj hrest).1]
      simp
  · cases t with
    | nil => exact absurd (List.cons.inj hrest).1 (by decide)
    | cons c t =>
      refine absurd ?_ hopen
      rw [hfront, ← (List.cons.inj hrest).1]
      simp

lemma lookupPattern_eq_none {c : Char} (hc : c ≠ 'X') (s : List Char) :
    lookupPattern none (c :: s) = none :=
  lookupCall?_eq_none fun h => hc (Option.some.inj h.head?)

lemma noMatch_lookupPattern {s : List Char} (h : 'X' ∉ s) : NoMatch lookupPattern s :=
  .of_forward forward_lookupPattern fun _ hc => lookupPattern_eq_none fun heq => h (heq ▸ hc)

lemma LookupCall.exists_source_eq (blanks : List Char) (call : LookupCall) :
    ∃ front, call.source blanks = front ++ [')'] := by
  unfold source
  simp only [← List.append_assoc, ← List.cons_append]
  exact ⟨_, rfl⟩

/-- The quote behind a text ends no call. -/
lemma noMatch_lookupPattern_quote {s : List Char} (h : NoMatch lookupPattern s) :
    NoMatch lookupPattern (s ++ ['"']) := by
  intro before c rest hsuffix
  rcases suffix_append_cases hsuffix with hquote | ⟨t, ht, hne, hsplit⟩
  · have hmem := hquote.subset List.mem_cons_self
    exact lookupPattern_eq_none (fun heq => by rw [heq] at hmem; simp at hmem) rest
  · cases hcall : lookupCall? (c :: rest) with
    | none => exact hcall
    | some found =>
      obtain ⟨hproper, blanks, after, hblanks, hsource, -⟩ := exists_of_lookupCall? hcall
      rw [hsplit] at hsource
      rcases List.eq_nil_or_concat after with hafter | ⟨behind, last, hafter⟩
      · -- a call ends with a parenthesis
        obtain ⟨front, hfront⟩ := found.1.exists_source_eq blanks
        rw [hafter, List.append_nil, hfront] at hsource
        exact absurd (List.append_inj' hsource rfl).2 (by decide)
      · rw [hafter, List.concat_eq_append, ← List.append_assoc] at hsource
        obtain ⟨htext, -⟩ := List.append_inj' hsource rfl
        obtain ⟨e, more, hcons⟩ := List.exists_cons_of_ne_nil hne
        have hnone : lookupCall? t = none := by
          rw [hcons] at ht ⊢
          exact h none e more ht
        rw [htext, lookupCall?_append hproper hblanks] at hnone
        exact absurd hnone (by simp)

lemma withWholeColumns_comparison {references : List String} {name s : List Char}
    (hname : '(' ∉ name) (h : NoMatch lookupPattern s) :
    withWholeColumns references (comparison name s) = comparison name s := by
  have hfront : ∀ rest, withWholeColumns references (name ++ [' '] ++ '=' :: rest) =
      name ++ [' '] ++ withWholeColumns references ('=' :: rest) := by
    intro rest
    refine substitute_append_of_apart forward_lookupPattern (fun t ht _ => ?_) _
    refine lookupCall?_eq_none_of_equals (fun hmem => ?_) rest
    have hmem := ht.subset hmem
    rw [List.mem_append, List.mem_singleton] at hmem
    exact hmem.elim hname (by decide)
  have hcons : ∀ c rest, c ≠ 'X' →
      withWholeColumns references (c :: rest) = c :: withWholeColumns references rest :=
    fun c rest hc => substitute_cons forward_lookupPattern (lookupPattern_eq_none hc rest) _
  have hquoted : withWholeColumns references (s ++ ['"']) = s ++ ['"'] :=
    substitute_of_noMatch (noMatch_lookupPattern_quote h) _
  have hsplit : comparison name s =
      name ++ [' '] ++ '=' :: '=' :: ' ' :: '"' :: (s ++ ['"']) := by simp [comparison]
  rw [hsplit, hfront, hcons _ _ (by decide), hcons _ _ (by decide), hcons _ _ (by decide),
    hcons _ _ (by decide), hquoted]

lemma substituteReferences_ownLiteral (hids : d.columnIds = [x]) (hx : IsWord x.toList)
    (hopen : '[' ∉ s.toList) (hdollar : '$' ∉ s.toList) (hcalls : NoMatch lookupPattern s.toList) :
    (substituteReferences (ownLiteral x s) d []).toList =
      comparison (referenceName x).toList s.toList := by
  have hcolumns : columnReferences d = [(x, referenceName x)] := by
    rw [columnReferences, hids]
    rfl
  have haggregates : replaceAggregates (ownLiteral x s) = (ownLiteral x s).toList := by
    rw [replaceAggregates, aggregates_ownLiteral hx hdollar, List.foldl_nil]
  have hname : '(' ∉ (referenceName x).toList := not_mem_referenceName (by decide) x
  simp only [substituteReferences, haggregates, hcolumns, List.map_cons, List.map_nil,
    List.append_nil, List.foldl_cons, List.foldl_nil, replaceReference_ownLiteral hopen,
    withWholeColumns_comparison hname hcalls, ite_self, String.toList_ofList]

/-! ### What is read and computed -/

/-- The comparison as a phrase. -/
def comparisonPhrase (name s : List Char) : Phrase := .binary .equal (.symbol name) (.string '"' s)

/-- The formula is the phrase with one space between any two of its lexemes. -/
lemma spelled_comparison (name s : List Char) :
    Spelled (comparisonPhrase name s).lexemes (comparison name s) :=
  (Formula.spaced_spell (comparisonPhrase name s).lexemes).spelled

lemma parse_ownLiteral (hids : d.columnIds = [x]) (hx : IsWord x.toList)
    (hquote : '"' ∉ s.toList) (hopen : '[' ∉ s.toList) (hdollar : '$' ∉ s.toList)
    (hcalls : NoMatch lookupPattern s.toList) :
    Formula.parse (substituteReferences (ownLiteral x s) d []) =
      .ok (.binary .equal (.symbol (referenceName x)) (.literal (.text s))) := by
  have hproper : (comparisonPhrase (referenceName x).toList s.toList).Proper :=
    ⟨fun _ => Formula.BinaryOp.noConfusion, isName_referenceName x, Or.inl rfl, hquote⟩
  have hfits : (comparisonPhrase (referenceName x).toList s.toList).Fits :=
    ⟨⟨Formula.Kind.level_le_atom _, trivial⟩, Formula.Kind.level_le_atom _, trivial⟩
  have hspelled := spelled_comparison (referenceName x).toList s.toList
  rw [← substituteReferences_ownLiteral hids hx hopen hdollar hcalls] at hspelled
  rw [Phrase.parse_of_spelled hproper hfits hspelled]
  simp [comparisonPhrase, Phrase.expr]

lemma compile_ownLiteral (hids : d.columnIds = [x]) (hx : IsWord x.toList)
    (hquote : '"' ∉ s.toList) (hopen : '[' ∉ s.toList) (hdollar : '$' ∉ s.toList)
    (hcalls : NoMatch lookupPattern s.toList) :
    ∃ c, compile (ownLiteral x s) d [] = .ok (.ok c) ∧
      c.expr = .binary .equal (.symbol (referenceName x)) (.literal (.text s)) := by
  have hvalues : aggregateBindings (ownLiteral x s) d.rows = .ok [] := by
    rw [aggregateBindings, aggregates_ownLiteral hx hdollar]
    rfl
  simp only [compile, tableBindings, hvalues, parse_ownLiteral hids hx hquote hopen hdollar hcalls]
  exact ⟨_, rfl, rfl⟩

/-- The cell goes through its number, the literal does not. -/
lemma computes_ownLiteral (hids : d.columnIds = [x]) (hcell : row.lookup x = some (.text s))
    {c : Compiled} (hc : compile (ownLiteral x s) d [] = .ok (.ok c))
    (hexpr : c.expr = .binary .equal (.symbol (referenceName x)) (.literal (.text s))) :
    c.Computes row (.bool ((Value.text s).ofCell.toText == s)) := by
  have hmem : x ∈ d.columnIds := by rw [hids]; exact List.mem_singleton_self x
  have hread := (reads_own_cell_iff hc hmem).2 (unshadowed_of_alone hids) row
  have hvalue : cellOf row x = (Value.text s).ofCell := by rw [cellOf, hcell]
  have hequal : Formula.equal (Value.text s).ofCell (.text s) =
      .ok ((Value.text s).ofCell.toText == s) := by
    rcases ofCell_text s with hcell | ⟨y, hcell⟩ <;> rw [hcell] <;> rfl
  refine ⟨?_, by simp [Valid, Value.isCompound]⟩
  rw [hexpr, Formula.Expr.eval, hread, hvalue, Formula.Expr.eval]
  simp only [bind, Except.bind, Formula.BinaryOp.apply, hequal]
  rfl

/-! ### Validation -/

lemma without_bracketPattern_bracket (hx : IsWord x.toList) (rest : List Char) :
    without bracketPattern ((bracket x).toList ++ rest) = without bracketPattern rest := by
  have hne : x.toList ≠ [] := by
    obtain ⟨c, cs, hcons, -⟩ := hx
    rw [hcons]
    exact List.cons_ne_nil c cs
  have hclosed : ']' ∉ x.toList := fun h => absurd (hx.isMark_of_mem h) (by decide)
  have hfound := bracketed?_eq_some_iff.2 ⟨hne, hclosed, List.prefix_append _ rest⟩
  rw [← toList_bracket] at hfound
  have hreference : bracketPattern none ((bracket x).toList ++ rest) =
      some (x.toList, (bracket x).toList.length) := by
    rw [bracketPattern, hfound, toList_bracket]
    simp
  exact substitute_append forward_bracketPattern (by rw [toList_bracket]; simp) hreference _

/-- Of the formula only the operator stands outside of references and literals. -/
lemma bareText_ownLiteral (hx : IsWord x.toList) (hquote : '"' ∉ s.toList) :
    bareText (ownLiteral x s) = [' ', '=', '=', ' '] := by
  have hfront : ∀ c ∈ (bracket x).toList ++ [' ', '=', '=', ' '],
      Formula.isQuote c = false ∧ c ≠ '$' :=
    List.forall_mem_append.2 ⟨fun _ => unmarked_of_mem_bracket hx, by simp [Formula.isQuote]⟩
  have hliteral := Formula.string?_append (Or.inl rfl) hquote []
  have hsplit : (ownLiteral x s).toList =
      ((bracket x).toList ++ [' ', '=', '=', ' ']) ++ ('"' :: s.toList ++ ['"'] ++ []) := by
    rw [toList_ownLiteral, comparison]
    simp
  have hnil : Formula.unquotedText [] = [] := rfl
  have haggregates : without aggregatePattern ((bracket x).toList ++ [' ', '=', '=', ' ']) = _ :=
    substitute_of_noMatch (noMatch_aggregatePattern fun h => (hfront _ h).2 rfl) _
  rw [bareText, without_stringPattern, hsplit,
    Formula.unquotedText_append fun c hc => (hfront c hc).1, Formula.unquotedText_string hliteral,
    hnil, List.append_nil, haggregates, without_bracketPattern_bracket hx]
  rfl

lemma unknownWord?_ownLiteral (hx : IsWord x.toList) (hquote : '"' ∉ s.toList) :
    unknownWord? (ownLiteral x s) = none := by
  have hnone : matches? wordPattern [' ', '=', '=', ' '] = [] := by decide
  rw [unknownWord?, bareText_ownLiteral hx hquote, hnone]
  rfl

lemma isBlankText_ownLiteral (x s : String) : isBlankText (ownLiteral x s) = false := by
  rw [isBlankText, List.isEmpty_eq_false_iff]
  intro hnil
  obtain ⟨left, right, hsplit, hleft, hright⟩ := exists_trimChars (ownLiteral x s).toList
  have hmem : '=' ∈ (ownLiteral x s).toList := by
    rw [toList_ownLiteral, mem_comparison]
    exact Or.inr (Or.inr (by decide))
  rw [hsplit, hnil, List.append_nil, List.mem_append] at hmem
  rcases hmem with hmem | hmem
  · exact absurd (hleft _ hmem) (by decide)
  · exact absurd (hright _ hmem) (by decide)

lemma validate_ownLiteral (hx : IsWord x.toList) (hquote : '"' ∉ s.toList) {name : String}
    (hname : isBlankText name = false) : validate (ownLiteral x s) name = none := by
  simp [validate, isBlankText_ownLiteral, unknownWord?_ownLiteral hx hquote, hname]

/-! ### The filter -/

/-- Two equal texts are equal as numbers if they are numerals, and as texts otherwise. -/
lemma matches?_hasText (hcell : row.lookup x = some (.text s)) :
    (hasText x s).matches? row = .ok true := by
  obtain ⟨reading, hreading⟩ : ∃ reading, readingOf (some (.text s)) = .ok reading := ⟨_, rfl⟩
  obtain ⟨sides, hsides, hequal⟩ : ∃ sides,
      sidesOf (some (.text s)) (some (.text s)) = .ok sides ∧ sides.equal = true := by
    cases reading with
    | some y =>
      refine ⟨.numbers y y, ?_, Double.beq_self (isNaN_of_readingOf hreading)⟩
      simp [sidesOf, hreading, bind, Except.bind, pure, Except.pure]
    | none =>
      refine ⟨.texts s s, ?_, beq_self_eq_true s⟩
      simp [sidesOf, hreading, bind, Except.bind, pure, Except.pure]
  have hright : (hasText x s).right row = some (.text s) := rfl
  have hcolumn : (hasText x s).column = x := rfl
  rw [Criteria.matches?, hright, hcolumn, hcell, hsides]
  exact congrArg Except.ok hequal

/-- **A text cell equals its own literal exactly if it keeps its text.**  Let a column be alone in
its dataset, and let the cell of a row be a text without double quotes, opening brackets and dollar
signs in which no lookup call is spelled.  The comparison of the column with that text passes
validation and compiles, and in this row it is true if no number is read off the text, or the
number has that very text, and false otherwise.  A filter by the text keeps the row in either
case. -/
theorem ownLiteral_true_iff (hids : d.columnIds = [x]) (hx : IsWord x.toList)
    (hquote : '"' ∉ s.toList) (hopen : '[' ∉ s.toList) (hdollar : '$' ∉ s.toList)
    (hcalls : NoMatch lookupPattern s.toList) (hcell : row.lookup x = some (.text s)) :
    (∀ name, isBlankText name = false → validate (ownLiteral x s) name = none) ∧
    (∃ c, compile (ownLiteral x s) d [] = .ok (.ok c) ∧
      (c.Computes row (.bool true) ↔ KeepsText s) ∧
      (c.Computes row (.bool false) ↔ ¬KeepsText s)) ∧
    (hasText x s).matches? row = .ok true := by
  obtain ⟨c, hc, hexpr⟩ := compile_ownLiteral hids hx hquote hopen hdollar hcalls
  have hcomputes := computes_ownLiteral hids hcell hc hexpr
  have htruth : ∀ b, c.Computes row (.bool b) ↔ ((Value.text s).ofCell.toText == s) = b := by
    intro b
    constructor
    · intro h
      simpa using hcomputes.1.symm.trans h.1
    · rintro rfl
      exact hcomputes
  refine ⟨fun name hname => validate_ownLiteral hx hquote hname, ⟨c, hc, ?_, ?_⟩,
    matches?_hasText hcell⟩
  · rw [htruth, beq_iff_eq, keepsText_iff]
  · rw [htruth, beq_eq_false_iff_ne, keepsText_iff]

/-- Agents with their numbers as texts. -/
def agents : Dataset where
  rows := [[("Code", .text "7")], [("Code", .text "007")]]
  columns := [⟨"Code", "Code", .string, none⟩]

lemma keepsText_seven : KeepsText "7" := keepsText_iff.2 rfl

lemma not_keepsText_zeroPadded : ¬KeepsText "007" := by
  have hseven : (Value.text "007").ofCell.toText = "7" := rfl
  rw [keepsText_iff, hseven]
  decide

lemma isWord_code : IsWord "Code".toList := ⟨'C', ['o', 'd', 'e'], rfl, rfl, List.all_eq_true.1 rfl⟩

/-- The text of a number equals its literal, and the same number with zeros in front does not. -/
theorem ownLiteral_true_iff_agents :
    (∃ c, compile "[Code] == \"7\"" agents [] = .ok (.ok c) ∧
      c.Computes [("Code", .text "7")] (.bool true)) ∧
    (∃ c, compile "[Code] == \"007\"" agents [] = .ok (.ok c) ∧
      c.Computes [("Code", .text "007")] (.bool false)) ∧
    (hasText "Code" "007").matches? [("Code", .text "007")] = .ok true := by
  have hseven : List.lookup "Code" [("Code", Value.text "7")] = some (.text "7") := rfl
  have hpadded : List.lookup "Code" [("Code", Value.text "007")] = some (.text "007") := rfl
  have hids : agents.columnIds = ["Code"] := rfl
  obtain ⟨-, ⟨c, hc, htrue, -⟩, -⟩ := ownLiteral_true_iff hids isWord_code (by decide)
    (by decide) (by decide) (noMatch_lookupPattern (by decide)) hseven
  obtain ⟨-, ⟨c', hc', -, hfalse⟩, hfilter⟩ := ownLiteral_true_iff hids isWord_code (by decide)
    (by decide) (by decide) (noMatch_lookupPattern (by decide)) hpadded
  exact ⟨⟨c, hc, htrue.2 keepsText_seven⟩, ⟨c', hc', hfalse.2 not_keepsText_zeroPadded⟩, hfilter⟩

/-- The number of the second agent does not equal its own literal, although the filter keeps it. -/
theorem not_ownLiteral_true_zeroPadded :
    agents.columnIds = ["Code"] ∧ [("Code", .text "007")] ∈ agents.rows ∧
    (∃ c, compile "[Code] == \"007\"" agents [] = .ok (.ok c) ∧
      c.Computes [("Code", .text "007")] (.bool false) ∧
      ¬c.Computes [("Code", .text "007")] (.bool true)) ∧
    (hasText "Code" "007").matches? [("Code", .text "007")] = .ok true := by
  have hids : agents.columnIds = ["Code"] := rfl
  have hpadded : List.lookup "Code" [("Code", Value.text "007")] = some (.text "007") := rfl
  have hseven : ((Value.text "007").ofCell.toText == "007") = false := rfl
  obtain ⟨c, hc, hexpr⟩ : ∃ c, compile (ownLiteral "Code" "007") agents [] = .ok (.ok c) ∧ _ :=
    compile_ownLiteral hids isWord_code (by decide) (by decide) (by decide)
      (noMatch_lookupPattern (by decide))
  have hcomputes := computes_ownLiteral hids hpadded hc hexpr
  rw [hseven] at hcomputes
  refine ⟨hids, by simp [agents], ⟨c, hc, hcomputes, fun htrue => ?_⟩, matches?_hasText hpadded⟩
  exact absurd (hcomputes.1.symm.trans htrue.1) (by simp)

end Worksheet.Table
