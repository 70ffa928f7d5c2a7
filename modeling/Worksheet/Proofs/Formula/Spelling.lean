import Mathlib.Data.List.Find
import Worksheet.Proofs.Formula.Phrase
import Worksheet.Proofs.Formula.Reading

/-!
# Lexemes one behind the other

Where a text does not go on with a character that would belong to a lexeme as well, the reader takes
just that lexeme from it: a name, a literal or a sign where an operand is expected, an operator or a
mark behind an operand.  So a sequence of lexemes that the reader takes and steps along, one by one,
is read from any text that spells them and keeps them apart, and from any that puts layout between
them.
-/

namespace Worksheet.Formula

open Worksheet.Text

/-- The text ends or goes on with layout. -/
def Parted (s : List Char) : Prop := ∀ c ∈ s.head?, isLayout c = true

lemma Parted.stops {s : List Char} (h : Parted s) {p : Char → Bool}
    (hp : (layoutChars.all fun c => !p c) = true) : Stops p s := by
  intro c hc
  cases hclass : p c with
  | false => rfl
  | true =>
    have hlayout := not_isLayout_of_class hclass hp
    rw [h c hc] at hlayout
    exact absurd hlayout (by decide)

/-- Whether a character behind a lexeme belongs to it as well. -/
def Terminal.runsOn : Terminal → Char → Bool
  | number, c => isDecimalDigit c || isPoint c || startsExponent c
  | name, c | not, c | true, c | false, c | null, c => isNameChar c
  | less, c | greater, c => c == '='
  | _, _ => Bool.false

/-- The text ends or goes on with a character that does not belong to the lexeme. -/
def Lexeme.Apart (lexeme : Lexeme) (s : List Char) : Prop := Stops lexeme.terminal.runsOn s

lemma Parted.apart {s : List Char} (h : Parted s) (lexeme : Lexeme) : lexeme.Apart s := by
  obtain ⟨terminal, text⟩ := lexeme
  exact h.stops (by cases terminal <;> rfl)

/-! ### The lexeme at the head of a text -/

lemma lexeme?_word {words : List (String × Terminal)} {c : Char} {cs s : List Char}
    (hc : isNameStart c = true) (hcs : ∀ d ∈ cs, isNameChar d = true) (hs : Stops isNameChar s) :
    lexeme? words (c :: cs ++ s) =
      some ⟨(words.lookup (String.ofList (c :: cs))).getD .name, c :: cs⟩ := by
  rw [lexeme?, word?_append hc hcs hs]

lemma word?_eq_none {c : Char} (hc : isNameStart c = false) (s : List Char) :
    word? (c :: s) = none := by
  rw [word?, hc, if_neg Bool.false_ne_true]

lemma number?_eq_none {c : Char} (hc : isDecimalDigit c = false) (hpoint : isPoint c = false)
    (s : List Char) : number? (c :: s) = none := by
  have hdigits : digitsWidth (c :: s) = 0 := by
    rw [digitsWidth, List.takeWhile_cons_of_neg (by simp [hc]), List.length_nil]
  have hfraction : fractionWidth (c :: s) = 0 := fractionWidth_of_stops (by simpa [Stops])
  simp [number?, numeralWidth, decimalWidth, leadingDecimalWidth, hdigits, hfraction]

lemma lexeme?_number {words : List (String × Terminal)} {text s : List Char} (h : IsNumeral text)
    (hs : Stops (Terminal.runsOn .number) s) :
    lexeme? words (text ++ s) = some ⟨.number, text⟩ := by
  have hclasses : ∀ c ∈ s.head?,
      (isDecimalDigit c = false ∧ isPoint c = false) ∧ startsExponent c = false := fun c hc => by
    simpa only [Terminal.runsOn, Bool.or_eq_false_iff] using hs c hc
  have hwidth : numeralWidth (text ++ s) = text.length :=
    numeralWidth_append_of_isNumeral h (fun c hc => (hclasses c hc).1.1)
      (fun c hc => (hclasses c hc).1.2) fun c hc => (hclasses c hc).2
  obtain ⟨c, cs, rfl, hc⟩ := h.exists_cons
  have hstart : isNameStart c = false := by
    rcases hc with hc | rfl
    · exact not_isNameStart_of_isDecimalDigit hc
    · rfl
  have htake : (c :: cs ++ s).take (cs.length + 1) = c :: cs := List.take_left' rfl
  have hnumber : number? (c :: cs ++ s) = some (c :: cs) := by
    rw [number?, hwidth, List.length_cons]
    simp only [htake]
  rw [lexeme?, hnumber, List.cons_append, word?_eq_none hstart]

/-- The classes of a character that a literal starts with. -/
lemma Phrase.IsQuote.classes {quote : Char} (h : Phrase.IsQuote quote) :
    isNameStart quote = false ∧ isDecimalDigit quote = false ∧ isPoint quote = false ∧
      (quote == '"' || quote == '\'') = true := by
  rcases h with rfl | rfl <;> decide

/-- A literal goes on to the next quote of its kind. -/
lemma string?_append {quote : Char} {content : List Char} (hquote : Phrase.IsQuote quote)
    (hcontent : quote ∉ content) (s : List Char) :
    string? (quote :: content ++ [quote] ++ s) = some (quote :: content ++ [quote]) := by
  have hbody : (content ++ quote :: s).takeWhile (· != quote) = content := by
    refine takeWhile_append_of_stops (fun d hd => ?_) fun d hd => ?_
    · rw [bne_iff_ne]
      rintro rfl
      exact hcontent hd
    · obtain rfl : quote = d := by simpa using hd
      simp
  have hsplit : quote :: content ++ [quote] ++ s = quote :: (content ++ quote :: s) := by simp
  rw [hsplit, string?, if_pos hquote.classes.2.2.2, hbody]
  simp

lemma lexeme?_string {words : List (String × Terminal)} {quote : Char} {content s : List Char}
    (hquote : Phrase.IsQuote quote) (hcontent : quote ∉ content) :
    lexeme? words (quote :: content ++ [quote] ++ s) =
      some ⟨.string, quote :: content ++ [quote]⟩ := by
  have hstring := string?_append hquote hcontent s
  obtain ⟨hstart, hdigit, hpoint, -⟩ := hquote.classes
  have hsplit : quote :: content ++ [quote] ++ s = quote :: (content ++ [quote] ++ s) := by simp
  rw [hsplit] at hstring ⊢
  rw [lexeme?, hstring, word?_eq_none hstart, number?_eq_none hdigit hpoint]

/-- Whether a word stands at the head of a text is decided in its front, unless the word runs over
the end of that. -/
lemma isPrefixOf_append {word t s : List Char}
    (h : ∀ c rest, word = t ++ c :: rest → c ∉ s.head?) :
    word.isPrefixOf (t ++ s) = word.isPrefixOf t := by
  rw [Bool.eq_iff_iff, List.isPrefixOf_iff_prefix, List.isPrefixOf_iff_prefix]
  refine ⟨fun hprefix => ?_, fun hprefix => hprefix.trans (List.prefix_append t s)⟩
  obtain ⟨r, hr⟩ := hprefix
  rcases List.append_eq_append_iff.1 hr with ⟨u, rfl, -⟩ | ⟨u, rfl, rfl⟩
  · exact List.prefix_append _ _
  · cases u with
    | nil => simp
    | cons c u => exact absurd rfl (h c u rfl)

lemma sign?_append {sign : List Char × Terminal} (h : sign ∈ signs) {s : List Char}
    (hs : Stops sign.2.runsOn s) : sign? (sign.1 ++ s) = some ⟨sign.2, sign.1⟩ := by
  have hlonger : ∀ sign ∈ signs, ∀ word ∈ signs, sign.1 <+: word.1 →
      word.1 = sign.1 ∨ word.1 = sign.1 ++ ['='] ∧ sign.2.runsOn '=' = true := by
    decide
  have halone : ∀ sign ∈ signs, sign? sign.1 = some ⟨sign.2, sign.1⟩ := by decide
  have hfind : (signs.find? fun word => word.1.isPrefixOf (sign.1 ++ s)) =
      signs.find? fun word => word.1.isPrefixOf sign.1 := by
    refine List.find?_congr fun word hword => isPrefixOf_append fun c rest hsplit hc => ?_
    rcases hlonger sign h word hword ⟨_, hsplit.symm⟩ with hsame | ⟨hequal, hruns⟩
    · rw [hsame] at hsplit
      exact absurd (List.append_right_eq_self.1 hsplit.symm) (List.cons_ne_nil _ _)
    · rw [hequal] at hsplit
      obtain ⟨rfl, -⟩ := List.cons.inj (List.append_cancel_left hsplit)
      rw [hs _ hc] at hruns
      exact absurd hruns (by decide)
  rw [← halone sign h, sign?, sign?, hfind]

lemma exists_cons_of_any_head {p : Char → Bool} {s : List Char} (h : s.head?.any p = true) :
    ∃ c cs, s = c :: cs ∧ p c = true := by
  cases s with
  | nil => exact absurd h (by simp)
  | cons c cs => exact ⟨c, cs, rfl, h⟩

/-- What the first characters of signs are not. -/
lemma exists_cons_of_mem_signs {sign : List Char × Terminal} (h : sign ∈ signs) :
    ∃ c cs, sign.1 = c :: cs ∧ isLayout c = false ∧ isNameStart c = false ∧
      isDecimalDigit c = false ∧ isPoint c = false ∧ (c == '"' || c == '\'') = false := by
  have hall : ∀ sign ∈ signs, (sign.1.head?.any fun c => decide (isLayout c = false ∧
      isNameStart c = false ∧ isDecimalDigit c = false ∧ isPoint c = false ∧
      (c == '"' || c == '\'') = false)) = true := by
    decide
  obtain ⟨c, cs, htext, hc⟩ := exists_cons_of_any_head (hall sign h)
  exact ⟨c, cs, htext, of_decide_eq_true hc⟩

lemma lexeme?_sign {words : List (String × Terminal)} {sign : List Char × Terminal}
    (h : sign ∈ signs) {s : List Char} (hs : Stops sign.2.runsOn s) :
    lexeme? words (sign.1 ++ s) = some ⟨sign.2, sign.1⟩ := by
  have hsign := sign?_append h hs
  obtain ⟨c, cs, htext, -, hstart, hdigit, hpoint, hquote⟩ := exists_cons_of_mem_signs h
  rw [htext, List.cons_append] at hsign ⊢
  have hstring : string? (c :: (cs ++ s)) = none := by
    rw [string?, hquote, if_neg Bool.false_ne_true]
  rw [lexeme?, word?_eq_none hstart, number?_eq_none hdigit hpoint, hstring]
  exact hsign

/-- Behind an operand, the words `or`, `xor` and `and` come before all else. -/
lemma operatorLexeme?_word {word : String × Terminal} (h : word ∈ logicalWords) (s : List Char) :
    operatorLexeme? (word.1.toList ++ s) = some ⟨word.2, word.1.toList⟩ := by
  have hlonger : ∀ word ∈ logicalWords, ∀ other ∈ logicalWords,
      word.1.toList <+: other.1.toList → other.1.toList = word.1.toList := by
    decide
  have halone : ∀ word ∈ logicalWords,
      (logicalWords.find? fun other => other.1.toList.isPrefixOf word.1.toList) = some word := by
    decide
  have hfind : (logicalWords.find? fun other => other.1.toList.isPrefixOf (word.1.toList ++ s)) =
      logicalWords.find? fun other => other.1.toList.isPrefixOf word.1.toList := by
    refine List.find?_congr fun other hother => isPrefixOf_append fun c rest hsplit _ => ?_
    rw [hlonger word h other hother ⟨_, hsplit.symm⟩] at hsplit
    exact absurd (List.append_right_eq_self.1 hsplit.symm) (List.cons_ne_nil _ _)
  rw [operatorLexeme?, hfind, halone word h]

lemma operatorLexeme?_sign {sign : List Char × Terminal} (h : sign ∈ signs) {s : List Char}
    (hs : Stops sign.2.runsOn s) : operatorLexeme? (sign.1 ++ s) = some ⟨sign.2, sign.1⟩ := by
  have hapart : ∀ sign ∈ signs, ∀ word ∈ logicalWords, ¬ sign.1 <+: word.1.toList := by decide
  have halone : ∀ sign ∈ signs,
      (logicalWords.find? fun word => word.1.toList.isPrefixOf sign.1) = none := by
    decide
  have hfind : (logicalWords.find? fun word => word.1.toList.isPrefixOf (sign.1 ++ s)) =
      logicalWords.find? fun word => word.1.toList.isPrefixOf sign.1 :=
    List.find?_congr fun word hword => isPrefixOf_append fun c rest hsplit _ =>
      hapart sign h word hword ⟨_, hsplit.symm⟩
  rw [operatorLexeme?, hfind, halone sign h]
  exact lexeme?_sign h hs

/-! ### What the reader takes -/

/-- The reader takes the lexeme from the head of a text wherever the text keeps it apart. -/
structure Reader.Takes (r : Reader) (lexeme : Lexeme) : Prop where
  starts : ∃ c cs, lexeme.text = c :: cs ∧ isLayout c = false
  taken : ∀ s, lexeme.Apart s → r.lexeme? (lexeme.text ++ s) = some lexeme

namespace Reader

/-- The expression that has just been read. -/
def value? (r : Reader) : Option Expr :=
  match r.focus with
  | .operand => none
  | .named name => some (.symbol name)
  | .complete e => some e

lemma lexeme?_of_value {r : Reader} {e : Expr} (h : r.value? = some e) (s : List Char) :
    r.lexeme? s = operatorLexeme? s := by
  obtain ⟨focus, frames⟩ := r
  cases focus with
  | operand => exact absurd h (by simp [value?])
  | named name => rfl
  | complete e => rfl

variable {frames : List Frame}

lemma takes_name {name : List Char} (h : Phrase.IsName name) :
    Takes ⟨.operand, frames⟩ ⟨.name, name⟩ := by
  obtain ⟨c, cs, rfl, hc, hcs, hplain⟩ := h
  exact ⟨⟨c, cs, rfl, not_isLayout_of_class hc rfl⟩,
    fun s hs => operandLexeme?_name hc hcs hs hplain⟩

lemma takes_number {text : List Char} (h : IsNumeral text) :
    Takes ⟨.operand, frames⟩ ⟨.number, text⟩ := by
  obtain ⟨c, cs, rfl, hc⟩ := h.exists_cons
  refine ⟨⟨c, cs, rfl, ?_⟩, fun s hs => lexeme?_number h hs⟩
  rcases hc with hc | rfl
  · exact not_isLayout_of_class hc rfl
  · rfl

lemma takes_string {quote : Char} {content : List Char} (hquote : Phrase.IsQuote quote)
    (hcontent : quote ∉ content) :
    Takes ⟨.operand, frames⟩ ⟨.string, quote :: content ++ [quote]⟩ := by
  refine ⟨⟨quote, content ++ [quote], rfl, ?_⟩, fun s hs => lexeme?_string hquote hcontent⟩
  rcases hquote with rfl | rfl <;> rfl

/-- A word that is more than a name where an operand is expected. -/
lemma takes_word {word : String} {terminal : Terminal}
    (h : (word, terminal) ∈ operandWords (admitsNegation frames)) :
    Takes ⟨.operand, frames⟩ ⟨terminal, word.toList⟩ := by
  have hwords : ∀ negation, ∀ word ∈ operandWords negation,
      word.1.toList.head?.any isNameStart = true ∧ word.1.toList.tail.all isNameChar = true ∧
      (operandWords negation).lookup word.1 = some word.2 := by
    decide
  obtain ⟨hhead, htail, hlookup⟩ := hwords _ (word, terminal) h
  obtain ⟨c, cs, htext, hstart⟩ := exists_cons_of_any_head hhead
  simp only at htext hlookup
  rw [htext, List.tail_cons] at htail
  have hchars : ∀ d ∈ cs, isNameChar d = true := List.all_eq_true.1 htail
  have hword : String.ofList (c :: cs) = word := by rw [← htext, String.ofList_toList]
  have hruns : ∀ negation, ∀ word ∈ operandWords negation,
      word.2 = .not ∨ word.2 = .true ∨ word.2 = .false ∨ word.2 = .null := by
    decide
  refine ⟨⟨c, cs, htext, not_isLayout_of_class hstart rfl⟩, fun s hs => ?_⟩
  have hstops : Stops isNameChar s := by
    rcases hruns _ (word, terminal) h with rfl | rfl | rfl | rfl <;> exact hs
  have hlexeme : operandLexeme? (admitsNegation frames) (c :: cs ++ s) =
      some ⟨((operandWords (admitsNegation frames)).lookup (String.ofList (c :: cs))).getD .name,
        c :: cs⟩ :=
    lexeme?_word hstart hchars hstops
  rw [hword, hlookup, Option.getD_some, ← htext] at hlexeme
  exact hlexeme

lemma takes_sign {text : List Char} {terminal : Terminal} (h : (text, terminal) ∈ signs) :
    Takes ⟨.operand, frames⟩ ⟨terminal, text⟩ := by
  obtain ⟨c, cs, htext, hlayout, -⟩ := exists_cons_of_mem_signs h
  exact ⟨⟨c, cs, htext, hlayout⟩, fun s hs => lexeme?_sign h hs⟩

variable {r : Reader} {e : Expr}

lemma takes_sign_of_value (hvalue : r.value? = some e) {text : List Char} {terminal : Terminal}
    (h : (text, terminal) ∈ signs) : r.Takes ⟨terminal, text⟩ := by
  obtain ⟨c, cs, htext, hlayout, -⟩ := exists_cons_of_mem_signs h
  refine ⟨⟨c, cs, htext, hlayout⟩, fun s hs => ?_⟩
  rw [lexeme?_of_value hvalue]
  exact operatorLexeme?_sign h hs

lemma takes_word_of_value (hvalue : r.value? = some e) {word : String} {terminal : Terminal}
    (h : (word, terminal) ∈ logicalWords) : r.Takes ⟨terminal, word.toList⟩ := by
  have hwords : ∀ word ∈ logicalWords,
      (word.1.toList.head?.any fun c => !isLayout c) = true := by
    decide
  obtain ⟨c, cs, htext, hlayout⟩ := exists_cons_of_any_head (hwords (word, terminal) h)
  refine ⟨⟨c, cs, htext, by simpa using hlayout⟩, fun s hs => ?_⟩
  rw [lexeme?_of_value hvalue]
  exact operatorLexeme?_word h s

end Reader

/-! ### Reading lexemes that are kept apart -/

/-- A text is a sequence of lexemes that it keeps apart; there may be layout in front of each and at
the end. -/
inductive Spelled : List Lexeme → List Char → Prop
  | nil : Spelled [] []
  | layout {c : Char} {lexemes : List Lexeme} {text : List Char} (hc : isLayout c = true)
      (h : Spelled lexemes text) : Spelled lexemes (c :: text)
  | lexeme (lexeme : Lexeme) {lexemes : List Lexeme} {text : List Char}
      (hapart : lexeme.Apart text) (h : Spelled lexemes text) :
      Spelled (lexeme :: lexemes) (lexeme.text ++ text)

/-- A text is a sequence of lexemes with layout between them; there may be more layout in front of
each and at the end. -/
inductive Spaced : List Lexeme → List Char → Prop
  | nil : Spaced [] []
  | layout {c : Char} {lexemes : List Lexeme} {text : List Char} (hc : isLayout c = true)
      (h : Spaced lexemes text) : Spaced lexemes (c :: text)
  | lexeme (lexeme : Lexeme) {lexemes : List Lexeme} {text : List Char} (hparted : Parted text)
      (h : Spaced lexemes text) : Spaced (lexeme :: lexemes) (lexeme.text ++ text)

lemma Spaced.spelled {lexemes : List Lexeme} {text : List Char} (h : Spaced lexemes text) :
    Spelled lexemes text := by
  induction h with
  | nil => exact .nil
  | layout hc _ ih => exact .layout hc ih
  | lexeme lexeme hparted _ ih => exact .lexeme lexeme (hparted.apart lexeme) ih

/-- Lexemes with one space between any two. -/
def spell : List Lexeme → List Char
  | [] => []
  | [lexeme] => lexeme.text
  | lexeme :: next :: lexemes => lexeme.text ++ ' ' :: spell (next :: lexemes)

lemma spaced_spell (lexemes : List Lexeme) : Spaced lexemes (spell lexemes) := by
  fun_induction spell lexemes with
  | case1 => exact .nil
  | case2 lexeme =>
    rw [← List.append_nil lexeme.text]
    exact .lexeme lexeme (fun c hc => absurd hc (by simp)) .nil
  | case3 lexeme next lexemes ih =>
    refine .lexeme lexeme (fun c hc => ?_) (.layout rfl ih)
    obtain rfl : ' ' = c := by simpa using hc
    rfl

/-- The reader takes the lexemes one after the other and comes to a final state. -/
inductive Reader.Path : Reader → List Lexeme → Reader → Prop
  | nil (r : Reader) : Path r [] r
  | cons {r next final : Reader} {lexeme : Lexeme} {lexemes : List Lexeme}
      (htakes : r.Takes lexeme) (hstep : r.step lexeme = some next)
      (h : Path next lexemes final) : Path r (lexeme :: lexemes) final

namespace Reader.Path

variable {r middle final : Reader} {lexemes more : List Lexeme}

lemma append (h : Path r lexemes middle) (hmore : Path middle more final) :
    Path r (lexemes ++ more) final := by
  induction h with
  | nil r => exact hmore
  | cons htakes hstep h ih => exact .cons htakes hstep (ih hmore)

/-- **A sequence of lexemes is read from any text that spells them.** -/
lemma reads (h : Path r lexemes final) {e : Expr} (hfinish : final.finish? = some e)
    {text : List Char} (hspelled : Spelled lexemes text) : r.Reads text e := by
  induction hspelled generalizing r with
  | nil =>
    cases h
    exact .nil hfinish
  | layout hc _ ih => exact .layout hc (ih h)
  | lexeme lexeme hapart _ ih =>
    cases h with
    | cons htakes hstep h =>
      obtain ⟨c, cs, htext, hlayout⟩ := htakes.starts
      obtain ⟨terminal, text⟩ := lexeme
      obtain rfl : text = c :: cs := htext
      exact .lexeme hlayout (htakes.taken _ hapart) hstep (ih h)

end Reader.Path

end Worksheet.Formula
