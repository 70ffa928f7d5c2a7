import Worksheet.Proofs.Formula.Precedence
import Worksheet.Proofs.Formula.Texts
import Worksheet.Proofs.Text.Split

/-!
# Texts cut between lexemes

A text that spells lexemes can be cut at a mark, a lexeme of one character that nothing runs on to,
and what stands on either side spells the lexemes there; texts that spell lexemes are joined by a
mark as well.  No lexeme has a blank at its ends, so trimming such a text leaves it spelling the
same.
-/

namespace Worksheet.Formula

open Worksheet.Text

variable {lexeme : Lexeme} {lexemes more : List Lexeme} {s t : List Char}

/-! ### Lexemes as they are written -/

/-- A lexeme as it is written. -/
inductive Lexeme.Proper : Lexeme → Prop
  | name {text : List Char} (h : IsWord text) : Proper ⟨.name, text⟩
  | number {text : List Char} (h : IsNumeral text) : Proper ⟨.number, text⟩
  | string {quote : Char} {content : List Char} (hquote : Phrase.IsQuote quote)
    (hcontent : quote ∉ content) : Proper ⟨.string, quote :: content ++ [quote]⟩
  | word {word : String} {terminal : Terminal} (h : (word, terminal) ∈ allWords) :
    Proper ⟨terminal, word.toList⟩
  | sign {text : List Char} {terminal : Terminal} (h : (text, terminal) ∈ signs) :
    Proper ⟨terminal, text⟩

/-- No blank stands at either end of a lexeme. -/
lemma Lexeme.Proper.edges (h : lexeme.Proper) : lexeme.text ≠ [] ∧
    (∀ c ∈ lexeme.text.head?, isBlank c = false) ∧
      ∀ c ∈ lexeme.text.getLast?, isBlank c = false := by
  have hvisible : ∀ text : List Char, text ≠ [] → (∀ c ∈ text, isBlank c = false) →
      text ≠ [] ∧ (∀ c ∈ text.head?, isBlank c = false) ∧
        ∀ c ∈ text.getLast?, isBlank c = false :=
    fun text hne hall => ⟨hne, fun c hc => hall c (List.mem_of_mem_head? hc),
      fun c hc => hall c (List.mem_of_mem_getLast? hc)⟩
  cases h with
  | name h =>
    refine hvisible _ ?_ fun c hc => not_isBlank_of_isNameChar (h.isNameChar_of_mem hc)
    obtain ⟨c, cs, rfl, -⟩ := h
    exact List.cons_ne_nil c cs
  | number h =>
    refine hvisible _ ?_ fun c hc => not_isBlank_of_isNumeralChar (h.isNumeralChar_of_mem hc)
    obtain ⟨c, cs, rfl, -⟩ := h.exists_cons
    exact List.cons_ne_nil c cs
  | @string quote content hquote hcontent =>
    have hblank : isBlank quote = false := by rcases hquote with rfl | rfl <;> decide
    refine ⟨List.cons_ne_nil _ _, fun c hc => ?_, fun c hc => ?_⟩
    · obtain rfl : quote = c := by simpa using hc
      exact hblank
    · rw [List.getLast?_concat] at hc
      obtain rfl := Option.mem_some_iff.1 hc
      exact hblank
  | word h =>
    have hall : ∀ word ∈ allWords, word.1.toList ≠ [] ∧
        (word.1.toList.all fun c => !isBlank c) = true := by
      decide
    exact hvisible _ (hall _ h).1 fun c hc => by simpa using List.all_eq_true.1 (hall _ h).2 c hc
  | sign h =>
    have hall : ∀ sign ∈ signs, sign.1 ≠ [] ∧ (sign.1.all fun c => !isBlank c) = true := by decide
    exact hvisible _ (hall _ h).1 fun c hc => by simpa using List.all_eq_true.1 (hall _ h).2 c hc

lemma Lexeme.Proper.isWord {text : List Char} (h : Lexeme.Proper ⟨.name, text⟩) : IsWord text := by
  cases h with
  | name h => exact h
  | @word word _ h =>
    have hall : ∀ word ∈ allWords, word.2 ≠ .name := by decide
    exact absurd rfl (hall (word, .name) h)
  | sign h =>
    have hall : ∀ sign ∈ signs, sign.2 ≠ .name := by decide
    exact absurd rfl (hall (text, .name) h)

lemma isBlank_of_isLayout {c : Char} (h : isLayout c = true) : isBlank c = true := by
  simp only [isLayout, Bool.or_eq_true, beq_iff_eq] at h
  rcases h with (((rfl | rfl) | rfl) | rfl) | rfl <;> decide

namespace Phrase

lemma IsName.isWord {name : List Char} (h : IsName name) : IsWord name := by
  obtain ⟨c, cs, rfl, hc, hcs, -⟩ := h
  exact ⟨c, cs, rfl, hc, hcs⟩

lemma proper_unaryLexeme {op : UnaryOp} (h : ∀ s, op ≠ .other s) : op.lexeme.Proper := by
  cases op with
  | neg => exact .sign (by decide)
  | plus => exact .sign (by decide)
  | not => exact .word (by decide)
  | other s => exact absurd rfl (h s)

lemma proper_binaryLexeme {op : BinaryOp} (h : ∀ s, op ≠ .other s) : op.lexeme.Proper := by
  cases op with
  | or | xor | and => exact .word (by decide)
  | other s => exact absurd rfl (h s)
  | _ => exact .sign (by decide)

/-- The lexemes of a phrase are as they are written. -/
lemma proper_of_mem_lexemes {a : Phrase} (h : a.Proper) : ∀ lexeme ∈ a.lexemes, lexeme.Proper := by
  have hclose : ∀ lexeme ∈ [(⟨.closeParen, [')']⟩ : Lexeme)], lexeme.Proper :=
    List.forall_mem_singleton.2 (.sign (by decide))
  have hopen : (⟨.openParen, ['(']⟩ : Lexeme).Proper := .sign (by decide)
  have hfurther : ∀ arguments : List Phrase,
      (∀ a ∈ arguments, ∀ lexeme ∈ a.lexemes, lexeme.Proper) →
        ∀ lexeme ∈ furtherLexemes arguments, lexeme.Proper := by
    intro arguments hall
    induction arguments with
    | nil => exact hclose
    | cons a arguments ih =>
      rw [List.forall_mem_cons] at hall
      exact List.forall_mem_cons.2 ⟨.sign (by decide),
        List.forall_mem_append.2 ⟨hall.1, ih hall.2⟩⟩
  induction a with
  | number text => exact List.forall_mem_singleton.2 (.number h)
  | string quote content => exact List.forall_mem_singleton.2 (.string h.1 h.2)
  | truth b => cases b <;> exact List.forall_mem_singleton.2 (.word (by decide))
  | null => exact List.forall_mem_singleton.2 (.word (by decide))
  | symbol name => exact List.forall_mem_singleton.2 (.name h.isWord)
  | call name arguments ih =>
    rw [Phrase.Proper, properAll_iff] at h
    have hall := fun a ha => ih a ha (h.2 a ha)
    refine List.forall_mem_cons.2 ⟨.name h.1.isWord, List.forall_mem_cons.2 ⟨hopen, ?_⟩⟩
    cases arguments with
    | nil => exact hclose
    | cons a arguments =>
      rw [List.forall_mem_cons] at hall
      exact List.forall_mem_append.2 ⟨hall.1, hfurther _ hall.2⟩
  | unary op a ih => exact List.forall_mem_cons.2 ⟨proper_unaryLexeme h.1, ih h.2⟩
  | binary op a b iha ihb =>
    exact List.forall_mem_append.2 ⟨iha h.2.1,
      List.forall_mem_cons.2 ⟨proper_binaryLexeme h.1, ihb h.2.2⟩⟩
  | conditional c a b ihc iha ihb =>
    exact List.forall_mem_append.2 ⟨ihc h.1, List.forall_mem_cons.2 ⟨.sign (by decide),
      List.forall_mem_append.2 ⟨iha h.2.1, List.forall_mem_cons.2 ⟨.sign (by decide), ihb h.2.2⟩⟩⟩⟩
  | group a ih =>
    exact List.forall_mem_cons.2 ⟨hopen, List.forall_mem_append.2 ⟨ih h, hclose⟩⟩

/-! ### Calls in a phrase -/

mutual

/-- The calls in a phrase, those in arguments included, by name and arguments. -/
def calls : Phrase → List (List Char × List Phrase)
  | call name arguments => (name, arguments) :: callsAll arguments
  | unary _ a => a.calls
  | binary _ a b => a.calls ++ b.calls
  | conditional c a b => c.calls ++ (a.calls ++ b.calls)
  | group a => a.calls
  | _ => []

/-- The calls in arguments. -/
def callsAll : List Phrase → List (List Char × List Phrase)
  | [] => []
  | a :: arguments => a.calls ++ callsAll arguments

end

lemma mem_callsAll {arguments : List Phrase} {found : List Char × List Phrase} :
    found ∈ callsAll arguments ↔ ∃ a ∈ arguments, found ∈ a.calls := by
  induction arguments with
  | nil => simp [callsAll]
  | cons a arguments ih => simp [callsAll, ih]

variable {arguments : List Phrase} {a : Phrase}

lemma mem_furtherLexemes (ha : a ∈ arguments) (h : lexeme ∈ a.lexemes) :
    lexeme ∈ furtherLexemes arguments := by
  induction arguments with
  | nil => exact absurd ha List.not_mem_nil
  | cons b arguments ih =>
    rw [furtherLexemes, List.mem_cons, List.mem_append]
    rcases List.mem_cons.1 ha with rfl | ha
    · exact Or.inr (Or.inl h)
    · exact Or.inr (Or.inr (ih ha))

lemma mem_argumentLexemes (ha : a ∈ arguments) (h : lexeme ∈ a.lexemes) :
    lexeme ∈ argumentLexemes arguments := by
  cases arguments with
  | nil => exact absurd ha List.not_mem_nil
  | cons b arguments =>
    rw [argumentLexemes, List.mem_append]
    rcases List.mem_cons.1 ha with rfl | ha
    · exact Or.inl h
    · exact Or.inr (mem_furtherLexemes ha h)

/-- The arguments of a call in a phrase stand in the phrase. -/
lemma mem_lexemes_of_mem_calls {name : List Char} (hcall : (name, arguments) ∈ a.calls)
    (h : lexeme ∈ argumentLexemes arguments) : lexeme ∈ a.lexemes := by
  induction a with
  | call name' arguments' ih =>
    refine List.mem_cons_of_mem _ (List.mem_cons_of_mem _ ?_)
    rcases List.mem_cons.1 hcall with heq | hcall
    · obtain ⟨rfl, rfl⟩ := Prod.mk.inj heq
      exact h
    · obtain ⟨a, ha, hcall⟩ := mem_callsAll.1 hcall
      exact mem_argumentLexemes ha (ih a ha hcall)
  | unary op a ih => exact List.mem_cons_of_mem _ (ih hcall)
  | binary op a b iha ihb =>
    rw [calls, List.mem_append] at hcall
    rw [lexemes, List.mem_append, List.mem_cons]
    exact hcall.imp iha fun hcall => Or.inr (ihb hcall)
  | conditional c a b ihc iha ihb =>
    rw [calls, List.mem_append, List.mem_append] at hcall
    rw [lexemes, List.mem_append, List.mem_cons, List.mem_append, List.mem_cons]
    exact hcall.imp ihc fun hcall => Or.inr (hcall.imp iha fun hcall => Or.inr (ihb hcall))
  | group a ih => exact List.mem_cons_of_mem _ (List.mem_append_left _ (ih hcall))
  | _ => exact absurd hcall List.not_mem_nil

/-- The first lexeme of a phrase closes no parenthesis. -/
lemma exists_lexemes_cons (h : a.Proper) :
    ∃ lexeme lexemes, a.lexemes = lexeme :: lexemes ∧ lexeme.terminal ≠ .closeParen := by
  induction a with
  | truth b => cases b <;> exact ⟨_, _, rfl, nofun⟩
  | unary op a =>
    refine ⟨_, _, rfl, ?_⟩
    cases op <;> nofun
  | binary op a b iha =>
    obtain ⟨lexeme, lexemes, ha, hlexeme⟩ := iha h.2.1
    exact ⟨lexeme, _, by rw [Phrase.lexemes, ha]; rfl, hlexeme⟩
  | conditional c a b ihc =>
    obtain ⟨lexeme, lexemes, hc, hlexeme⟩ := ihc h.1
    exact ⟨lexeme, _, by rw [Phrase.lexemes, hc]; rfl, hlexeme⟩
  | _ => exact ⟨_, _, rfl, nofun⟩

end Phrase

/-! ### Cutting and joining -/

namespace Spelled

lemma isLayout_of_nil (h : Spelled [] s) : ∀ c ∈ s, isLayout c = true := by
  generalize hlexemes : ([] : List Lexeme) = lexemes at h
  induction h with
  | nil => exact fun c hc => absurd hc List.not_mem_nil
  | layout hc _ ih => exact List.forall_mem_cons.2 ⟨hc, ih hlexemes⟩
  | lexeme => exact absurd hlexemes (List.cons_ne_nil _ _).symm

/-- The first lexeme stands behind layout. -/
lemma exists_of_cons (h : Spelled (lexeme :: lexemes) s) : ∃ front rest,
    s = front ++ (lexeme.text ++ rest) ∧ (∀ c ∈ front, isLayout c = true) ∧ lexeme.Apart rest ∧
      Spelled lexemes rest := by
  generalize hlexemes : lexeme :: lexemes = all at h
  induction h with
  | nil => exact absurd hlexemes (List.cons_ne_nil _ _)
  | @layout c _ _ hc _ ih =>
    obtain ⟨front, rest, rfl, hfront, hrest⟩ := ih hlexemes
    exact ⟨c :: front, rest, rfl, List.forall_mem_cons.2 ⟨hc, hfront⟩, hrest⟩
  | lexeme lexeme hapart h _ =>
    obtain ⟨rfl, rfl⟩ := List.cons.inj hlexemes
    exact ⟨[], _, rfl, fun c hc => absurd hc List.not_mem_nil, hapart, h⟩

lemma layout_append {front : List Char} (hfront : ∀ c ∈ front, isLayout c = true)
    (h : Spelled lexemes s) : Spelled lexemes (front ++ s) := by
  induction front with
  | nil => exact h
  | cons c front ih =>
    rw [List.forall_mem_cons] at hfront
    exact .layout hfront.1 (ih hfront.2)

/-- A text with a mark in it is cut there. -/
lemma exists_of_mark (lexemes : List Lexeme) {terminal : Terminal} {c : Char}
    (h : Spelled (lexemes ++ ⟨terminal, [c]⟩ :: more) s) :
    ∃ left right, s = left ++ c :: right ∧ Spelled lexemes left ∧ Spelled more right := by
  induction lexemes generalizing s with
  | nil =>
    obtain ⟨front, rest, rfl, hfront, -, hrest⟩ := h.exists_of_cons
    have hleft : Spelled [] front := by
      rw [← List.append_nil front]
      exact layout_append hfront .nil
    exact ⟨front, rest, rfl, hleft, hrest⟩
  | cons lexeme lexemes ih =>
    obtain ⟨front, rest, rfl, hfront, hapart, hrest⟩ := h.exists_of_cons
    obtain ⟨left, right, rfl, hleft, hright⟩ := ih hrest
    have hapart' : lexeme.Apart left := by
      intro d hd
      refine hapart d ?_
      rw [List.head?_append, Option.mem_def.1 hd, Option.some_or]
      rfl
    refine ⟨front ++ (lexeme.text ++ left), right, ?_,
      layout_append hfront (.lexeme lexeme hapart' hleft), hright⟩
    simp only [List.append_assoc]

/-- Texts are joined by a mark that nothing runs on to and that runs on to nothing. -/
lemma mark (terminal : Terminal) {c : Char} (h : Spelled lexemes s) (hmore : Spelled more t)
    (hto : ∀ terminal : Terminal, terminal.runsOn c = false)
    (hfrom : ∀ d, terminal.runsOn d = false) :
    Spelled (lexemes ++ ⟨terminal, [c]⟩ :: more) (s ++ c :: t) := by
  induction h with
  | nil => exact .lexeme ⟨terminal, [c]⟩ (fun d _ => hfrom d) hmore
  | layout hc _ ih => exact .layout hc ih
  | @lexeme lexeme lexemes text hapart _ ih =>
    rw [List.append_assoc, List.cons_append]
    refine .lexeme lexeme (fun d hd => ?_) ih
    cases text with
    | nil =>
      obtain rfl : c = d := by simpa using hd
      exact hto _
    | cons e text => exact hapart d (by simpa using hd)

/-- A character is layout or belongs to a lexeme. -/
lemma of_mem (h : Spelled lexemes s) {c : Char} (hc : c ∈ s) :
    isLayout c = true ∨ ∃ lexeme ∈ lexemes, c ∈ lexeme.text := by
  induction h with
  | nil => exact absurd hc List.not_mem_nil
  | layout hlayout _ ih =>
    rcases List.mem_cons.1 hc with rfl | hc
    · exact Or.inl hlayout
    · exact ih hc
  | lexeme lexeme _ _ ih =>
    rcases List.mem_append.1 hc with hc | hc
    · exact Or.inr ⟨lexeme, List.mem_cons_self, hc⟩
    · refine (ih hc).imp_right fun hmem => ?_
      obtain ⟨other, hother, hc⟩ := hmem
      exact ⟨other, List.mem_cons_of_mem _ hother, hc⟩

/-! ### Trimming -/

lemma trimStart (h : Spelled lexemes s) (hproper : ∀ lexeme ∈ lexemes, lexeme.Proper) :
    Spelled lexemes (Text.trimStart s) := by
  induction h with
  | nil => exact .nil
  | layout hc _ ih =>
    rw [Text.trimStart, List.dropWhile_cons_of_pos (isBlank_of_isLayout hc)]
    exact ih hproper
  | @lexeme lexeme lexemes text hapart h _ =>
    obtain ⟨hne, hfirst, -⟩ := (List.forall_mem_cons.1 hproper).1.edges
    have hkept : Text.trimStart (lexeme.text ++ text) = lexeme.text ++ text := by
      obtain ⟨c, cs, htext⟩ := List.exists_cons_of_ne_nil hne
      rw [htext] at hfirst
      rw [htext, Text.trimStart, List.cons_append, List.dropWhile_cons_of_neg (by simp [hfirst c rfl])]
    rw [hkept]
    exact .lexeme lexeme hapart h

lemma trimEnd (h : Spelled lexemes s) (hproper : ∀ lexeme ∈ lexemes, lexeme.Proper) :
    Spelled lexemes (Text.trimEnd s) := by
  induction h with
  | nil => exact .nil
  | @layout c lexemes text hc h ih =>
    have htrim := ih hproper
    rw [trimEnd_cons]
    split
    · rename_i hblank
      rwa [hblank.1] at htrim
    · exact .layout hc htrim
  | @lexeme lexeme lexemes text hapart h ih =>
    obtain ⟨hlexeme, hproper⟩ := List.forall_mem_cons.1 hproper
    obtain ⟨hne, -, hlast⟩ := hlexeme.edges
    rw [trimEnd_append hne hlast]
    refine .lexeme lexeme (fun d hd => hapart d ?_) (ih hproper)
    obtain ⟨rest, hrest⟩ := trimEnd_prefix_self text
    rw [← hrest, List.head?_append, Option.mem_def.1 hd, Option.some_or]
    rfl

lemma not_mem (h : Spelled lexemes s) {c : Char} (hlayout : isLayout c = false)
    (hnone : ∀ lexeme ∈ lexemes, c ∉ lexeme.text) : c ∉ s := by
  intro hc
  rcases h.of_mem hc with hlayout' | ⟨lexeme, hlexeme, hc⟩
  · rw [hlayout] at hlayout'
    exact absurd hlayout' (by decide)
  · exact hnone lexeme hlexeme hc

/-- A lexeme alone spells itself. -/
lemma self (lexeme : Lexeme) : Spelled [lexeme] lexeme.text := by
  rw [← List.append_nil lexeme.text]
  exact .lexeme lexeme (fun c hc => absurd hc (by simp)) .nil

lemma ne_nil (h : Spelled (lexeme :: lexemes) s) (hlexeme : lexeme.Proper) : s ≠ [] := by
  obtain ⟨front, rest, rfl, -⟩ := h.exists_of_cons
  intro hnil
  exact hlexeme.edges.1 (List.append_eq_nil_iff.1 (List.append_eq_nil_iff.1 hnil).2).1

/-- A lexeme alone is what trimming leaves. -/
lemma trimChars_eq (h : Spelled [lexeme] s) (hlexeme : lexeme.Proper) :
    Text.trimChars s = lexeme.text := by
  obtain ⟨front, rest, rfl, hfront, -, hrest⟩ := h.exists_of_cons
  obtain ⟨hne, hfirst, hlast⟩ := hlexeme.edges
  have hblank : ∀ {t : List Char}, (∀ c ∈ t, isLayout c = true) → ∀ c ∈ t, isBlank c = true :=
    fun ht c hc => isBlank_of_isLayout (ht c hc)
  have hstart : Text.trimStart (front ++ (lexeme.text ++ rest)) = lexeme.text ++ rest := by
    obtain ⟨c, cs, htext⟩ := List.exists_cons_of_ne_nil hne
    rw [htext] at hfirst
    rw [Text.trimStart, List.dropWhile_append_of_pos (hblank hfront), htext, List.cons_append,
      List.dropWhile_cons_of_neg (by simp [hfirst c rfl])]
  have hend : Text.trimEnd rest = [] := by
    rw [Text.trimEnd, List.reverse_eq_nil_iff, List.dropWhile_eq_nil_iff]
    exact fun c hc => hblank hrest.isLayout_of_nil c (List.mem_reverse.1 hc)
  rw [Text.trimChars, hstart, trimEnd_append hne hlast, hend, List.append_nil]

/-- Trimming a text leaves its lexemes alone. -/
lemma trimChars (h : Spelled lexemes s) (hproper : ∀ lexeme ∈ lexemes, lexeme.Proper) :
    Spelled lexemes (Text.trimChars s) :=
  (h.trimStart hproper).trimEnd hproper

end Spelled

/-! ### Finding out what a text spells -/

/-- Whether a text is the lexemes one behind the other, with layout in front of each and at the
end. -/
def spells : List Lexeme → List Char → Bool
  | [], s => s.all isLayout
  | lexeme :: lexemes, s =>
    let rest := s.dropWhile isLayout
    let after := rest.drop lexeme.text.length
    lexeme.text.isPrefixOf rest && !after.head?.any lexeme.terminal.runsOn && spells lexemes after

lemma spelled_of_spells (h : spells lexemes s = true) : Spelled lexemes s := by
  induction lexemes generalizing s with
  | nil =>
    rw [← List.append_nil s]
    exact .layout_append (List.all_eq_true.1 h) .nil
  | cons lexeme lexemes ih =>
    obtain ⟨h, hafter⟩ := Bool.and_eq_true_iff.1 h
    obtain ⟨hhead, hapart⟩ := Bool.and_eq_true_iff.1 h
    obtain ⟨after, hsplit⟩ := List.isPrefixOf_iff_prefix.1 hhead
    rw [← hsplit, List.drop_left] at hapart hafter
    have hfront : ∀ c ∈ s.takeWhile isLayout, isLayout c = true :=
      List.all_eq_true.1 List.all_takeWhile
    rw [← List.takeWhile_append_dropWhile (p := isLayout) (l := s), ← hsplit]
    refine .layout_append hfront (.lexeme lexeme (fun c hc => ?_) (ih hafter))
    rw [Option.mem_def.1 hc] at hapart
    simpa using hapart

end Worksheet.Formula
