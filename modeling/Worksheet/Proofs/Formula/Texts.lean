import Worksheet.Proofs.Formula.Spelling
import Worksheet.Proofs.Text.Scan

/-!
# The texts of a formula

The reader makes a text of each string literal and of nothing else.  So a formula that can be read
has the contents of its literals as the texts of its expression, in this order.  Quotes, brackets
and dollar signs stand in literals only, since no other lexeme has any.
-/

namespace Worksheet.Formula

open Worksheet.Text

/-! ### What lexemes are made of -/

/-- Whether a character is a quotation mark. -/
def isQuote (c : Char) : Bool := c == '"' || c == '\''

/-- Whether a character stands in string literals only. -/
def isMark (c : Char) : Bool := isQuote c || c == '$' || c == '[' || c == ']'

/-- A word as it is written. -/
def IsWord (text : List Char) : Prop :=
  ∃ c cs, text = c :: cs ∧ isNameStart c = true ∧ ∀ d ∈ cs, isNameChar d = true

section Marks

variable {c : Char}

lemma isQuote_iff : isQuote c = true ↔ Phrase.IsQuote c := by
  rw [isQuote, Bool.or_eq_true_iff, beq_iff_eq, beq_iff_eq, Phrase.IsQuote]

lemma isQuote_of_isMark (h : isMark c = false) : isQuote c = false := by
  rw [isMark, Bool.or_eq_false_iff, Bool.or_eq_false_iff, Bool.or_eq_false_iff] at h
  exact h.1.1.1

/-- A class without marks has none. -/
lemma isMark_of_class {p : Char → Bool} (hc : p c = true)
    (hp : (['"', '\'', '$', '[', ']'].all fun d => !p d) = true) : isMark c = false := by
  have hne : ∀ d ∈ ['"', '\'', '$', '[', ']'], (c == d) = false := fun d hd =>
    beq_false_of_ne (ne_of_class hc (by simpa using List.all_eq_true.1 hp d hd))
  simp only [List.forall_mem_cons] at hne
  obtain ⟨hdouble, hsingle, hdollar, hopen, hclose, -⟩ := hne
  rw [isMark, isQuote, hdouble, hsingle, hdollar, hopen, hclose]
  rfl

lemma isNameChar_of_isAlphanum (h : c.isAlphanum = true) : isNameChar c = true := by
  rw [isNameChar, h, Bool.true_or]

lemma isNameChar_of_isNameStart (h : isNameStart c = true) : isNameChar c = true := by
  rcases Bool.or_eq_true_iff.1 h with h | h
  · exact isNameChar_of_isAlphanum (by rw [Char.isAlphanum, h, Bool.true_or])
  · rw [isNameChar, h, Bool.or_true]

lemma IsWord.isNameChar_of_mem {text : List Char} (h : IsWord text) (hc : c ∈ text) :
    isNameChar c = true := by
  obtain ⟨d, cs, rfl, hd, hcs⟩ := h
  rcases List.mem_cons.1 hc with rfl | hc
  · exact isNameChar_of_isNameStart hd
  · exact hcs c hc

lemma IsWord.isMark_of_mem {text : List Char} (h : IsWord text) (hc : c ∈ text) :
    isMark c = false :=
  isMark_of_class (h.isNameChar_of_mem hc) rfl

lemma isMark_of_mem_numeral {text : List Char} (h : IsNumeral text) (hc : c ∈ text) :
    isMark c = false :=
  isMark_of_class (h.isNumeralChar_of_mem hc) (by decide)

end Marks

section Readers

variable {s t : List Char}

lemma exists_of_string? (h : string? s = some t) :
    ∃ quote content, Phrase.IsQuote quote ∧ quote ∉ content ∧ t = quote :: content ++ [quote] ∧
      t <+: s := by
  unfold string? at h
  split at h
  · rename_i c s
    split at h
    · rename_i hquote
      simp only at h
      split at h
      · exact absurd h (by simp)
      · rename_i hopen
        obtain ⟨hclosed, after, hafter⟩ := exists_of_takeWhile_ne (mt beq_iff_eq.2 hopen)
        obtain rfl := Option.some.inj h
        refine ⟨c, _, isQuote_iff.1 hquote, hclosed, rfl, List.cons_prefix_cons.2 ⟨rfl, after, ?_⟩⟩
        rw [List.append_eq, List.append_assoc, List.singleton_append, ← hafter]
    · exact absurd h (by simp)
  · exact absurd h (by simp)

lemma string?_eq_none {c : Char} (hc : isQuote c = false) (s : List Char) :
    string? (c :: s) = none := by
  rw [string?, if_neg (by rw [isQuote] at hc; simp [hc])]

lemma string?_cons_eq_none_iff {c : Char} :
    string? (c :: s) = none ↔ isQuote c = false ∨ c ∉ s := by
  constructor
  · intro h
    cases hc : isQuote c with
    | false => exact Or.inl rfl
    | true =>
      refine Or.inr fun hs => ?_
      obtain ⟨inner, rest, rfl, hinner⟩ := List.eq_append_cons_of_mem hs
      have hfound := string?_append (isQuote_iff.1 hc) hinner rest
      rw [List.append_assoc, List.singleton_append, List.cons_append, h] at hfound
      exact absurd hfound (by simp)
  · rintro (hc | hs)
    · exact string?_eq_none hc s
    · cases hfound : string? (c :: s) with
      | none => rfl
      | some text =>
        obtain ⟨quote, inner, -, -, rfl, rest, hrest⟩ := exists_of_string? hfound
        obtain ⟨rfl, rfl⟩ := List.cons.inj hrest
        exact absurd (by simp) hs

lemma exists_of_word? (h : word? s = some t) : IsWord t ∧ t <+: s := by
  unfold word? at h
  split at h
  · rename_i c s
    split at h
    · obtain rfl := Option.some.inj h
      exact ⟨⟨c, _, rfl, ‹_›, fun d hd => List.all_eq_true.1 List.all_takeWhile d hd⟩,
        List.cons_prefix_cons.2 ⟨rfl, List.takeWhile_prefix _⟩⟩
    · exact absurd h (by simp)
  · exact absurd h (by simp)

lemma exists_of_number? (h : number? s = some t) : IsNumeral t ∧ t <+: s := by
  unfold number? at h
  split at h
  · exact absurd h (by simp)
  · rename_i n hwidth
    obtain rfl := Option.some.inj h
    have hne : numeralWidth s ≠ 0 := by omega
    have hnumeral := isNumeral_take hne
    rw [hwidth] at hnumeral
    exact ⟨hnumeral, List.take_prefix _ _⟩

lemma exists_of_sign? {lexeme : Lexeme} (h : sign? s = some lexeme) :
    (lexeme.text, lexeme.terminal) ∈ signs ∧ lexeme.text <+: s := by
  obtain ⟨sign, hfind, rfl⟩ := Option.map_eq_some_iff.1 h
  have hhead := List.find?_some hfind
  exact ⟨List.mem_of_find?_eq_some hfind, List.isPrefixOf_iff_prefix.1 hhead⟩

end Readers

/-- A lexeme is a string literal, or it has no marks. -/
structure Lexeme.Stands (lexeme : Lexeme) (s : List Char) : Prop where
  ne_nil : lexeme.text ≠ []
  starts : lexeme.text <+: s
  string_or : lexeme.terminal = .string ∧ string? s = some lexeme.text ∨
    lexeme.terminal ≠ .string ∧ ∀ c ∈ lexeme.text, isMark c = false

section Stands

variable {s : List Char} {lexeme : Lexeme}

lemma stands_of_lexeme? {words : List (String × Terminal)}
    (hwords : (words.all fun word => word.2 != .string) = true)
    (h : lexeme? words s = some lexeme) : lexeme.Stands s := by
  unfold lexeme? at h
  split at h
  · rename_i w hword
    obtain rfl := Option.some.inj h
    obtain ⟨hw, hhead⟩ := exists_of_word? hword
    have hterminal : (words.lookup (String.ofList w)).getD .name ≠ .string := by
      cases hlookup : words.lookup (String.ofList w) with
      | none => simp
      | some terminal =>
        obtain ⟨before, after, rfl, -⟩ := List.lookup_eq_some_iff.1 hlookup
        simpa using (List.all_eq_true.1 hwords) (String.ofList w, terminal) (by simp)
    refine ⟨?_, hhead, Or.inr ⟨hterminal, fun c hc => hw.isMark_of_mem hc⟩⟩
    obtain ⟨_, _, rfl, -⟩ := hw
    exact List.cons_ne_nil _ _
  · rename_i n _ hnumber
    obtain rfl := Option.some.inj h
    obtain ⟨hn, hhead⟩ := exists_of_number? hnumber
    refine ⟨?_, hhead, Or.inr ⟨by simp, fun c hc => isMark_of_mem_numeral hn hc⟩⟩
    obtain ⟨_, _, rfl, -⟩ := hn.exists_cons
    exact List.cons_ne_nil _ _
  · rename_i t _ _ hstring
    obtain rfl := Option.some.inj h
    obtain ⟨_, _, -, -, rfl, hhead⟩ := exists_of_string? hstring
    exact ⟨List.cons_ne_nil _ _, hhead, Or.inl ⟨rfl, hstring⟩⟩
  · obtain ⟨hsign, hhead⟩ := exists_of_sign? h
    have hall : (signs.all fun sign => !sign.1.isEmpty && sign.2 != .string &&
        sign.1.all fun c => !isMark c) = true := by
      decide
    have hmem := List.all_eq_true.1 hall _ hsign
    simp only [Bool.and_eq_true, Bool.not_eq_true', bne_iff_ne, List.all_eq_true] at hmem
    exact ⟨by simpa using hmem.1.1, hhead, Or.inr ⟨hmem.1.2, hmem.2⟩⟩

lemma Reader.stands {r : Reader} (h : r.lexeme? s = some lexeme) : lexeme.Stands s := by
  obtain ⟨focus, frames⟩ := r
  have hoperator : ∀ {lexeme}, operatorLexeme? s = some lexeme → lexeme.Stands s := by
    intro lexeme h
    unfold operatorLexeme? at h
    split at h
    · rename_i word hword
      obtain rfl := Option.some.inj h
      have hall : (logicalWords.all fun word => !word.1.toList.isEmpty && word.2 != .string &&
          word.1.toList.all fun c => !isMark c) = true := by
        decide
      have hmem := List.all_eq_true.1 hall word (List.mem_of_find?_eq_some hword)
      simp only [Bool.and_eq_true, Bool.not_eq_true', bne_iff_ne, List.all_eq_true] at hmem
      have hhead := List.find?_some hword
      exact ⟨by simpa using hmem.1.1, List.isPrefixOf_iff_prefix.1 hhead, Or.inr ⟨hmem.1.2, hmem.2⟩⟩
    · exact stands_of_lexeme? (by decide) h
  cases focus with
  | operand =>
    refine stands_of_lexeme? ?_ h
    cases admitsNegation frames <;> decide
  | named name => exact hoperator h
  | complete e => exact hoperator h

end Stands

/-! ### The texts of what has been read -/

mutual

/-- The texts of an expression, from left to right. -/
def Expr.texts : Expr → List String
  | .literal (.text s) => [s]
  | .literal _ => []
  | .symbol _ => []
  | .call _ arguments => textsAll arguments
  | .binary _ left right => left.texts ++ right.texts
  | .unary _ operand => operand.texts
  | .conditional condition ifTrue ifFalse => condition.texts ++ ifTrue.texts ++ ifFalse.texts

/-- The texts of expressions, from left to right. -/
def textsAll : List Expr → List String
  | [] => []
  | e :: es => e.texts ++ textsAll es

end

lemma textsAll_append (es es' : List Expr) : textsAll (es ++ es') = textsAll es ++ textsAll es' := by
  induction es with
  | nil => rfl
  | cons e es ih => rw [List.cons_append, textsAll, ih, textsAll, List.append_assoc]

/-- The texts of an unfinished expression. -/
def Frame.texts : Frame → List String
  | .unary _ => []
  | .binary _ left => left.texts
  | .group => []
  | .call _ arguments => textsAll arguments
  | .choice condition => condition.texts
  | .alternative condition ifTrue => condition.texts ++ ifTrue.texts

/-- The texts of frames, the outermost first. -/
def framesTexts : List Frame → List String
  | [] => []
  | frame :: frames => framesTexts frames ++ frame.texts

/-- The texts of what has just been read. -/
def Focus.texts : Focus → List String
  | .operand => []
  | .named _ => []
  | .complete e => e.texts

/-- The texts of all that has been read. -/
def Reader.texts (r : Reader) : List String := framesTexts r.frames ++ r.focus.texts

/-- The content of a string literal. -/
def content (text : List Char) : String := String.ofList (text.drop 1).dropLast

/-- The texts that a lexeme brings. -/
def Lexeme.texts (lexeme : Lexeme) : List String :=
  if lexeme.terminal = .string then [content lexeme.text] else []

lemma Lexeme.texts_of_ne {lexeme : Lexeme} (h : lexeme.terminal ≠ .string) : lexeme.texts = [] :=
  if_neg h

/-- Closing frames moves texts, but loses none. -/
lemma texts_unwind (level : Nat) (frames : List Frame) (e : Expr) :
    framesTexts (unwind level frames e).1 ++ (unwind level frames e).2.texts =
      framesTexts frames ++ e.texts := by
  fun_induction unwind level frames e with
  | case1 op frames e hlevel ih => simpa [framesTexts, Frame.texts, Expr.texts] using ih
  | case2 => rfl
  | case3 op left frames e hlevel ih => simpa [framesTexts, Frame.texts, Expr.texts] using ih
  | case4 => rfl
  | case5 condition ifTrue frames e hlevel ih =>
    simpa [framesTexts, Frame.texts, Expr.texts] using ih
  | case6 => rfl
  | case7 => rfl

lemma texts_numberValue (text : List Char) : (Expr.literal (numberValue text)).texts = [] := by
  unfold numberValue
  simp only
  split
  · rfl
  · split <;> rfl

/-- Where an operand is expected only a literal brings a text. -/
lemma texts_startOperand {frames : List Frame} {lexeme : Lexeme} {next : Reader}
    (h : startOperand frames lexeme = some next) :
    next.texts = framesTexts frames ++ lexeme.texts := by
  unfold startOperand at h
  split at h <;> rename_i hterminal
  case h_1 =>
    obtain rfl := Option.some.inj h
    rw [Reader.texts, Focus.texts, texts_numberValue, Lexeme.texts_of_ne (by simp [hterminal])]
  case h_2 =>
    obtain rfl := Option.some.inj h
    rw [Lexeme.texts, if_pos hterminal]
    rfl
  case h_11 =>
    split at h
    · obtain rfl := Option.some.inj h
      simp [Reader.texts, Focus.texts, framesTexts, Frame.texts, Expr.texts, textsAll,
        Lexeme.texts, hterminal]
    · exact absurd h (by simp)
  case h_12 => exact absurd h (by simp)
  all_goals
    obtain rfl := Option.some.inj h
    simp [Reader.texts, Focus.texts, framesTexts, Frame.texts, Expr.texts, Lexeme.texts, hterminal]

section Closing

variable {frames outer : List Frame} {e closed : Expr} {next : Reader}

lemma texts_of_unwind (h : unwind 0 frames e = (outer, closed)) :
    framesTexts frames ++ e.texts = framesTexts outer ++ closed.texts := by
  rw [← texts_unwind 0 frames e, h]

lemma texts_nextBranch (h : nextBranch frames e = some next) :
    next.texts = framesTexts frames ++ e.texts := by
  unfold nextBranch at h
  split at h
  · rename_i heq
    obtain rfl := Option.some.inj h
    rw [texts_of_unwind heq]
    simp [Reader.texts, Focus.texts, framesTexts, Frame.texts]
  · exact absurd h (by simp)

lemma texts_nextArgument (h : nextArgument frames e = some next) :
    next.texts = framesTexts frames ++ e.texts := by
  unfold nextArgument at h
  split at h
  · rename_i heq
    obtain rfl := Option.some.inj h
    rw [texts_of_unwind heq]
    simp [Reader.texts, Focus.texts, framesTexts, Frame.texts, textsAll_append, textsAll]
  · exact absurd h (by simp)

lemma texts_closeParen (h : closeParen frames e = some next) :
    next.texts = framesTexts frames ++ e.texts := by
  unfold closeParen at h
  split at h
  · rename_i heq
    obtain rfl := Option.some.inj h
    rw [texts_of_unwind heq]
    simp [Reader.texts, Focus.texts, framesTexts, Frame.texts]
  · rename_i heq
    obtain rfl := Option.some.inj h
    rw [texts_of_unwind heq]
    simp [Reader.texts, Focus.texts, framesTexts, Frame.texts, Expr.texts, textsAll_append,
      textsAll]
  · exact absurd h (by simp)

/-- What closes the frames and goes on brings no text. -/
lemma texts_continueWith {lexeme : Lexeme} (h : continueWith frames e lexeme = some next) :
    next.texts = framesTexts frames ++ e.texts ∧ lexeme.texts = [] := by
  unfold continueWith at h
  split at h
  · rename_i op hop
    have hunwind := texts_unwind op.leftLevel frames e
    obtain rfl := Option.some.inj h
    refine ⟨?_, Lexeme.texts_of_ne fun hstring => ?_⟩
    · rw [← hunwind]
      simp [Reader.texts, Focus.texts, framesTexts, Frame.texts]
    · rw [hstring] at hop
      exact absurd hop (by simp [Terminal.binary?])
  · split at h <;> rename_i hterminal
    · have hunwind := texts_unwind BinaryOp.or.level frames e
      obtain rfl := Option.some.inj h
      refine ⟨?_, Lexeme.texts_of_ne (by simp [hterminal])⟩
      rw [← hunwind]
      simp [Reader.texts, Focus.texts, framesTexts, Frame.texts]
    · exact ⟨texts_nextBranch h, Lexeme.texts_of_ne (by simp [hterminal])⟩
    · exact ⟨texts_nextArgument h, Lexeme.texts_of_ne (by simp [hterminal])⟩
    · exact ⟨texts_closeParen h, Lexeme.texts_of_ne (by simp [hterminal])⟩
    · exact absurd h (by simp)

end Closing

/-- **A step of the reader adds the text of its lexeme.** -/
lemma Reader.texts_step {r next : Reader} {lexeme : Lexeme} (h : r.step lexeme = some next) :
    next.texts = r.texts ++ lexeme.texts := by
  obtain ⟨focus, frames⟩ := r
  cases focus with
  | operand =>
    rw [texts_startOperand h, Reader.texts, Focus.texts, List.append_nil]
  | named name =>
    simp only [Reader.step] at h
    split at h
    · rename_i hopen
      obtain rfl := Option.some.inj h
      rw [beq_iff_eq] at hopen
      simp [Reader.texts, Focus.texts, framesTexts, Frame.texts, textsAll, Lexeme.texts, hopen]
    · obtain ⟨hnext, hlexeme⟩ := texts_continueWith h
      rw [hnext, hlexeme, Reader.texts, Focus.texts, List.append_nil]
      rfl
  | complete e =>
    obtain ⟨hnext, hlexeme⟩ := texts_continueWith h
    rw [hnext, hlexeme, List.append_nil, Reader.texts, Focus.texts]

/-- At the end all texts are those of the expression. -/
lemma Reader.texts_finish? {r : Reader} {e : Expr} (h : r.finish? = some e) :
    e.texts = r.texts := by
  obtain ⟨focus, frames⟩ := r
  have hclosed : ∀ {e' : Expr}, unwind 0 frames e' = ([], e) →
      e.texts = framesTexts frames ++ e'.texts := fun heq => (texts_of_unwind heq).symm
  cases focus with
  | operand => exact absurd h (by simp [finish?])
  | named name =>
    simp only [finish?] at h
    split at h
    · rename_i heq
      obtain rfl := Option.some.inj h
      exact hclosed heq
    · exact absurd h (by simp)
  | complete e' =>
    simp only [finish?] at h
    split at h
    · rename_i heq
      obtain rfl := Option.some.inj h
      exact hclosed heq
    · exact absurd h (by simp)

/-! ### The literals of a text -/

/-- The string literals as a pattern, with their quotes. -/
def quotedPattern : Pattern (List Char) := fun _ s =>
  (string? s).map fun text => (text, text.length)

/-- The texts that stand in quotes, found from left to right whatever stands between them. -/
def quotedTexts (s : List Char) : List String := (matches? quotedPattern s).map content

/-- What stands outside of quotes. -/
def unquotedText (s : List Char) : List Char := substitute quotedPattern (fun _ => []) s

lemma forward_quotedPattern : Forward quotedPattern := fun _ _ _ => rfl

section Quoted

variable {s t cs : List Char}

lemma quotedPattern_eq_none {c : Char} (hc : isQuote c = false) (s : List Char) :
    quotedPattern none (c :: s) = none := by
  rw [quotedPattern, string?_eq_none hc, Option.map_none]

lemma scan_quotedPattern_append (h : ∀ c ∈ cs, isQuote c = false) (s : List Char) :
    scan quotedPattern (cs ++ s) = cs.map .plain ++ scan quotedPattern s := by
  refine scan_append_of_apart forward_quotedPattern fun t hsuffix hne => ?_
  obtain ⟨c, t, rfl⟩ := List.exists_cons_of_ne_nil hne
  exact quotedPattern_eq_none (h c (hsuffix.subset List.mem_cons_self)) _

lemma scan_quotedPattern_string (h : string? (t ++ s) = some t) :
    scan quotedPattern (t ++ s) = .found t :: scan quotedPattern s := by
  obtain ⟨_, _, -, -, rfl, -⟩ := exists_of_string? h
  exact scan_append forward_quotedPattern (by simp) (by rw [quotedPattern, h, Option.map_some])

/-- Where no quote stands there are no texts. -/
lemma quotedTexts_append (h : ∀ c ∈ cs, isQuote c = false) (s : List Char) :
    quotedTexts (cs ++ s) = quotedTexts s := by
  have hnone : (cs.map Piece.plain).filterMap Piece.found? = ([] : List (List Char)) := by
    rw [List.filterMap_map, List.filterMap_eq_nil_iff]
    exact fun _ _ => rfl
  rw [quotedTexts, quotedTexts, matches?_eq_filterMap, matches?_eq_filterMap, ← scan, ← scan,
    scan_quotedPattern_append h, List.filterMap_append, hnone, List.nil_append]

lemma quotedTexts_string (h : string? (t ++ s) = some t) :
    quotedTexts (t ++ s) = content t :: quotedTexts s := by
  rw [quotedTexts, quotedTexts, matches?_eq_filterMap, matches?_eq_filterMap, ← scan, ← scan,
    scan_quotedPattern_string h]
  rfl

lemma unquotedText_append (h : ∀ c ∈ cs, isQuote c = false) (s : List Char) :
    unquotedText (cs ++ s) = cs ++ unquotedText s := by
  rw [unquotedText, substitute, scan_quotedPattern_append h, List.flatMap_append,
    List.flatMap_map]
  exact congrArg (· ++ _) (List.flatMap_singleton' cs)

lemma unquotedText_string (h : string? (t ++ s) = some t) :
    unquotedText (t ++ s) = unquotedText s := by
  rw [unquotedText, substitute, scan_quotedPattern_string h]
  rfl

/-! ### Quotes that close -/

/-- Every quote in a text closes in it. -/
def QuotesClosed (s : List Char) : Prop := ∀ c ∈ unquotedText s, isQuote c = false

instance : DecidablePred QuotesClosed := fun _ => List.decidableBAll _ _

/-- A text is a literal with a text behind it, or a character with a text behind it, or empty. -/
theorem quoted_induction {motive : List Char → Prop} (nil : motive [])
    (plain : ∀ c s, string? (c :: s) = none → motive s → motive (c :: s))
    (found : ∀ t s, (∀ s, string? (t ++ s) = some t) → motive s → motive (t ++ s))
    (s : List Char) : motive s := by
  have hfind : ∀ s t, string? s = some t → id t ≠ [] ∧ id t <+: s := by
    intro s t ht
    obtain ⟨_, _, -, -, rfl, hhead⟩ := exists_of_string? ht
    exact ⟨List.cons_ne_nil _ _, hhead⟩
  refine head_induction hfind nil plain (fun t s ht hs => found t s ?_ hs) s
  obtain ⟨quote, inner, hquote, hinner, rfl, -⟩ := exists_of_string? ht
  exact string?_append hquote hinner

lemma scan_quotedPattern_cons (h : string? (c :: s) = none) :
    scan quotedPattern (c :: s) = .plain c :: scan quotedPattern s :=
  scan_cons forward_quotedPattern (by rw [quotedPattern, h, Option.map_none])

lemma quotesClosed_cons_iff (h : string? (c :: s) = none) :
    QuotesClosed (c :: s) ↔ isQuote c = false ∧ QuotesClosed s := by
  have hunquoted : unquotedText (c :: s) = c :: unquotedText s := by
    rw [unquotedText, substitute, scan_quotedPattern_cons h]
    rfl
  rw [QuotesClosed, hunquoted, List.forall_mem_cons, QuotesClosed]

lemma quotesClosed_string_iff (h : string? (t ++ s) = some t) :
    QuotesClosed (t ++ s) ↔ QuotesClosed s := by
  rw [QuotesClosed, unquotedText_string h, QuotesClosed]

lemma unquotedText_of_forall (h : ∀ c ∈ s, isQuote c = false) : unquotedText s = s := by
  have hnil : unquotedText [] = [] := rfl
  have happend := unquotedText_append h []
  rwa [hnil, List.append_nil] at happend

lemma quotesClosed_of_forall (h : ∀ c ∈ s, isQuote c = false) : QuotesClosed s := by
  rwa [QuotesClosed, unquotedText_of_forall h]

namespace QuotesClosed

/-- Literals that close in the front of a text are those that are found there. -/
lemma scan_append (h : QuotesClosed s) (t : List Char) :
    scan quotedPattern (s ++ t) = scan quotedPattern s ++ scan quotedPattern t := by
  induction s using quoted_induction with
  | nil => rfl
  | plain c s hnone ih =>
    obtain ⟨hc, hs⟩ := (quotesClosed_cons_iff hnone).1 h
    rw [List.cons_append, scan_quotedPattern_cons (string?_eq_none hc _),
      scan_quotedPattern_cons hnone, ih hs, List.cons_append]
  | found text s hfound ih =>
    rw [List.append_assoc, scan_quotedPattern_string (hfound _),
      scan_quotedPattern_string (hfound _), ih ((quotesClosed_string_iff (hfound s)).1 h),
      List.cons_append]

lemma quotedTexts_append (h : QuotesClosed s) (t : List Char) :
    quotedTexts (s ++ t) = quotedTexts s ++ quotedTexts t := by
  simp only [quotedTexts, matches?, h.scan_append, List.filterMap_append, List.map_append]

lemma unquotedText_append (h : QuotesClosed s) (t : List Char) :
    unquotedText (s ++ t) = unquotedText s ++ unquotedText t := by
  simp only [unquotedText, substitute, h.scan_append, List.flatMap_append]

lemma append_iff (h : QuotesClosed s) : QuotesClosed (s ++ t) ↔ QuotesClosed t := by
  rw [QuotesClosed, h.unquotedText_append, List.forall_mem_append, QuotesClosed]
  exact and_iff_right h

/-- What has no quotes closes none. -/
lemma of_append (h : QuotesClosed (s ++ t)) (ht : ∀ c ∈ t, isQuote c = false) :
    QuotesClosed s := by
  induction s using quoted_induction with
  | nil => exact fun c hc => absurd hc List.not_mem_nil
  | plain c s hnone ih =>
    have hopen : string? (c :: (s ++ t)) = none := by
      rw [string?_cons_eq_none_iff] at hnone ⊢
      by_cases hmem : c ∈ t
      · exact Or.inl (ht c hmem)
      · exact hnone.imp_right fun hs => by rw [List.mem_append, not_or]; exact ⟨hs, hmem⟩
    obtain ⟨hc, hs⟩ := (quotesClosed_cons_iff hopen).1 h
    exact (quotesClosed_cons_iff hnone).2 ⟨hc, ih hs⟩
  | found text s hfound ih =>
    rw [List.append_assoc] at h
    exact (quotesClosed_string_iff (hfound s)).2
      (ih ((quotesClosed_string_iff (hfound _)).1 h))

end QuotesClosed

/-- A text is made of stretches without quotes and of literals if it closes its quotes. -/
theorem closed_induction {motive : List Char → Prop}
    (stretch : ∀ cs, (∀ c ∈ cs, isQuote c = false) → motive cs)
    (quoted : ∀ cs quote inner s, (∀ c ∈ cs, isQuote c = false) → Phrase.IsQuote quote → quote ∉ inner →
      QuotesClosed s → motive s → motive (cs ++ quote :: (inner ++ quote :: s)))
    (h : QuotesClosed s) : motive s := by
  -- the stretch in front of the rest of the text is carried along
  suffices hfront : ∀ cs, (∀ c ∈ cs, isQuote c = false) → motive (cs ++ s) from
    hfront [] fun c hc => absurd hc List.not_mem_nil
  induction s using quoted_induction with
  | nil =>
    intro cs hcs
    rw [List.append_nil]
    exact stretch cs hcs
  | plain c s hnone ih =>
    intro cs hcs
    obtain ⟨hc, hs⟩ := (quotesClosed_cons_iff hnone).1 h
    rw [List.append_cons]
    refine ih hs (cs ++ [c]) fun d hd => ?_
    rcases List.mem_append.1 hd with hd | hd
    · exact hcs d hd
    · exact List.mem_singleton.1 hd ▸ hc
  | found text s hfound ih =>
    intro cs hcs
    have hs := (quotesClosed_string_iff (hfound s)).1 h
    obtain ⟨quote, inner, hquote, hinner, rfl, -⟩ := exists_of_string? (hfound s)
    rw [List.append_assoc, List.singleton_append, List.cons_append]
    exact quoted cs quote inner s hcs hquote hinner hs (ih hs [] fun c hc => absurd hc List.not_mem_nil)

end Quoted

/-- A lexeme that stands somewhere brings its own text, and no marks outside of it. -/
lemma Lexeme.Stands.texts {lexeme : Lexeme} {rest : List Char}
    (h : lexeme.Stands (lexeme.text ++ rest)) :
    quotedTexts (lexeme.text ++ rest) = lexeme.texts ++ quotedTexts rest ∧
      ((∀ c ∈ unquotedText rest, isMark c = false) →
        ∀ c ∈ unquotedText (lexeme.text ++ rest), isMark c = false) := by
  rcases h.string_or with ⟨hterminal, hstring⟩ | ⟨hterminal, hchars⟩
  · rw [quotedTexts_string hstring, unquotedText_string hstring, Lexeme.texts, if_pos hterminal]
    exact ⟨rfl, id⟩
  · have hquote : ∀ c ∈ lexeme.text, isQuote c = false :=
      fun c hc => isQuote_of_isMark (hchars c hc)
    rw [quotedTexts_append hquote, unquotedText_append hquote, Lexeme.texts_of_ne hterminal]
    exact ⟨rfl, fun hmarks => List.forall_mem_append.2 ⟨hchars, hmarks⟩⟩

/-- The reader goes from lexeme to lexeme, and each brings its own texts. -/
lemma Reader.texts_run {s : List Char} {r : Reader} {last position : Position} {skip : Nat}
    {e : Expr} (h : r.run last position skip s = .ok e) :
    e.texts = r.texts ++ quotedTexts (s.drop skip) ∧
      ∀ c ∈ unquotedText (s.drop skip), isMark c = false := by
  induction s generalizing r last position skip with
  | nil =>
    rw [Reader.run] at h
    split at h
    · rename_i e' hfinish
      obtain rfl := Except.ok.inj h
      rw [List.drop_nil, Reader.texts_finish? hfinish]
      exact ⟨(List.append_nil _).symm, fun c hc => absurd hc List.not_mem_nil⟩
    · exact absurd h (by simp)
  | cons c s ih =>
    cases skip with
    | succ skip => exact ih h
    | zero =>
      rw [Reader.run] at h
      split at h
      · rename_i hlayout
        have hmark : isMark c = false := isMark_of_class hlayout (by decide)
        have hquote : ∀ d ∈ [c], isQuote d = false :=
          List.forall_mem_singleton.2 (isQuote_of_isMark hmark)
        obtain ⟨htexts, hmarks⟩ := ih h
        rw [List.drop_zero] at htexts hmarks ⊢
        rw [← List.singleton_append, quotedTexts_append hquote, unquotedText_append hquote]
        refine ⟨htexts, ?_⟩
        rw [List.singleton_append, List.forall_mem_cons]
        exact ⟨hmark, hmarks⟩
      · split at h
        · exact absurd h (by simp)
        · rename_i lexeme hlexeme
          split at h
          · exact absurd h (by simp)
          · rename_i next hstep
            obtain ⟨htexts, hmarks⟩ := ih h
            have hstands := Reader.stands hlexeme
            obtain ⟨rest, hrest⟩ := hstands.starts
            have hdrop : s.drop (lexeme.text.length - 1) = rest := by
              obtain ⟨d, text, htext⟩ := List.exists_cons_of_ne_nil hstands.ne_nil
              rw [htext] at hrest ⊢
              rw [← (List.cons.inj hrest).2, List.length_cons, Nat.add_sub_cancel,
                List.append_eq, List.drop_left]
            rw [hdrop, Reader.texts_step hstep, List.append_assoc] at htexts
            rw [hdrop] at hmarks
            rw [← hrest] at hstands
            rw [List.drop_zero, ← hrest, hstands.texts.1]
            exact ⟨htexts, hstands.texts.2 hmarks⟩

/-- **The texts of an expression are those in the quotes of the formula**, and outside of quotes the
formula has no marks. -/
lemma texts_of_parse {formula : String} {e : Expr} (h : parse formula = .ok e) :
    e.texts = quotedTexts formula.toList ∧
      ∀ c ∈ unquotedText formula.toList, isMark c = false :=
  Reader.texts_run h

end Worksheet.Formula
