import Worksheet.Proofs.Dimensional.Phrase
import Worksheet.Proofs.Text.Numeral
import Worksheet.Proofs.Text.Scan

/-!
# Tokens with spaces between them

Tokens are written one after the other with any number of spaces before and behind each, none
included.  Reading such a text back gives the same tokens as long as no two operands touch, and a
sequence of tokens that makes a term has none that do: behind a complete term only a sign is read.
-/

namespace Worksheet.Dimensional

open Worksheet.Text

/-! ### Written tokens -/

/-- The words that a formula over values does not read as names everywhere. -/
def reservedWords : List String := ["true", "false", "null", "not", "and", "or", "xor"]

/-- A name as it is written: an ASCII letter, then letters, digits and underscores. -/
def IsName (text : List Char) : Prop :=
  ∃ c cs, text = c :: cs ∧ c.isAlpha = true ∧ (∀ d ∈ cs, isNameChar d = true) ∧
    String.ofList text ∉ reservedWords

/-- Names and decimals are as they are written. -/
def Token.Plain : Token → Prop
  | name text => IsName text
  | number text => IsDecimal text
  | sign _ => True

/-- The names and decimals of a phrase are as they are written. -/
def Phrase.Proper : Phrase → Prop
  | name text => IsName text
  | decimal text => IsDecimal text
  | neg a => a.Proper
  | binary _ a b => a.Proper ∧ b.Proper
  | group a => a.Proper

lemma Phrase.Proper.plain {a : Phrase} (h : a.Proper) {token : Token} (hmem : token ∈ a.tokens) :
    token.Plain := by
  induction a with
  | name text => exact List.mem_singleton.1 hmem ▸ h
  | decimal text => exact List.mem_singleton.1 hmem ▸ h
  | neg a ih =>
    rcases List.mem_cons.1 hmem with rfl | hmem
    · trivial
    · exact ih h hmem
  | binary op a b iha ihb =>
    rcases List.mem_append.1 hmem with hmem | hmem
    · exact iha h.1 hmem
    · rcases List.mem_cons.1 hmem with rfl | hmem
      · trivial
      · exact ihb h.2 hmem
  | group a ih =>
    rcases List.mem_cons.1 hmem with rfl | hmem
    · trivial
    · rcases List.mem_append.1 hmem with hmem | hmem
      · exact ih h hmem
      · obtain rfl := List.mem_singleton.1 hmem
        trivial

/-- A text is a sequence of tokens with any number of spaces before and behind each. -/
inductive Spaced : List Token → List Char → Prop
  | nil : Spaced [] []
  | space {tokens : List Token} {text : List Char} (h : Spaced tokens text) :
      Spaced tokens (' ' :: text)
  | token (token : Token) {tokens : List Token} {text : List Char} (h : Spaced tokens text) :
      Spaced (token :: tokens) (token.text ++ text)

/-- The first token, if there is one, is a sign. -/
def StartsWithSign (tokens : List Token) : Prop := ∀ token ∈ tokens.head?, ∃ s, token = .sign s

/-- Every run of characters stops before the text, unless a space or a sign belongs to it. -/
def Breaks (s : List Char) : Prop :=
  ∀ p : Char → Bool, p ' ' = false → (∀ sign : Sign, p sign.char = false) → Stops p s

lemma Spaced.breaks {tokens : List Token} {text : List Char} (h : Spaced tokens text)
    (hfirst : StartsWithSign tokens) : Breaks text := by
  intro p hspace hsign c hc
  cases h with
  | nil => exact absurd hc (by simp)
  | space h =>
    obtain rfl : ' ' = c := by simpa using hc
    exact hspace
  | token token h =>
    obtain ⟨s, rfl⟩ := hfirst token rfl
    obtain rfl : s.char = c := by simpa [Token.text] using hc
    exact hsign s

lemma Breaks.name {s : List Char} (h : Breaks s) : Stops isNameChar s :=
  h isNameChar rfl fun sign => by cases sign <;> rfl

lemma Breaks.digits {s : List Char} (h : Breaks s) : Stops isDecimalDigit s :=
  h isDecimalDigit rfl fun sign => by cases sign <;> rfl

lemma Breaks.exponent {s : List Char} (h : Breaks s) : Stops startsExponent s :=
  h startsExponent rfl fun sign => by cases sign <;> rfl

/-! ### Behind a complete term -/

lemma exists_sign_of_continueWith {frames : List Frame} {t : Term} {token : Token} {r : Reader}
    (h : continueWith frames t token = some r) : ∃ s, token = .sign s := by
  cases token with
  | sign s => exact ⟨s, rfl⟩
  | name text => exact absurd h (by simp [continueWith])
  | number text => exact absurd h (by simp [continueWith])

/-- An operand is followed by a sign or by nothing. -/
lemma startsWithSign_of_step {r next final : Reader} {token : Token} {tokens : List Token}
    (hstep : r.step token = some next) (hoperand : ∀ s, token ≠ .sign s)
    (hread : tokens.foldlM Reader.step next = some final) : StartsWithSign tokens := by
  have hcomplete : ∃ t frames, next = ⟨some t, frames⟩ := by
    obtain ⟨complete, frames⟩ := r
    cases complete with
    | some t =>
      obtain ⟨s, rfl⟩ := exists_sign_of_continueWith hstep
      exact absurd rfl (hoperand s)
    | none =>
      cases token with
      | name text => exact ⟨_, _, (Option.some.inj hstep).symm⟩
      | number text => exact ⟨_, _, (Option.some.inj hstep).symm⟩
      | sign s => exact absurd rfl (hoperand s)
  obtain ⟨t, frames, rfl⟩ := hcomplete
  intro token' hmem
  cases tokens with
  | nil => exact absurd hmem (by simp)
  | cons first tokens =>
    obtain rfl : first = token' := by simpa using hmem
    rw [List.foldlM_cons] at hread
    obtain ⟨_, hfirst, -⟩ := Option.bind_eq_some_iff.1 hread
    exact exists_sign_of_continueWith hfirst

/-- What follows a token that is read: behind an operand only a sign or nothing can come, so all
its characters end there. -/
lemma Spaced.sign_or_breaks {tokens : List Token} {text : List Char} (h : Spaced tokens text)
    {r next final : Reader} {token : Token} (hstep : r.step token = some next)
    (hread : tokens.foldlM Reader.step next = some final) :
    (∃ sign, token = .sign sign) ∨ Breaks text := by
  by_cases hsign : ∃ sign, token = .sign sign
  · exact Or.inl hsign
  · exact Or.inr (h.breaks (startsWithSign_of_step hstep (fun s hs => hsign ⟨s, hs⟩) hread))

/-! ### Reading the tokens back -/

lemma name?_append {c : Char} {cs s : List Char} (hc : c.isAlpha = true)
    (hcs : ∀ d ∈ cs, isNameChar d = true) (hs : Stops isNameChar s) :
    name? (c :: cs ++ s) = some (c :: cs) := by
  rw [List.cons_append, name?, if_pos hc, takeWhile_append_of_stops hcs hs]

lemma isNameStart_of_isAlpha {c : Char} (h : c.isAlpha = true) : isNameStart c = true := by
  rw [isNameStart, h, Bool.true_or]

lemma not_isAlpha_of_not_isNameStart {c : Char} (h : isNameStart c = false) :
    c.isAlpha = false := by
  rw [isNameStart, Bool.or_eq_false_iff] at h
  exact h.1

/-- The first character of a written token. -/
lemma Token.Plain.exists_cons {token : Token} (h : token.Plain) :
    ∃ c cs, token.text = c :: cs ∧
      (isNameStart c = true ∨ isDecimalDigit c = true ∨ c = '.' ∨ ∃ s : Sign, c = s.char) := by
  cases token with
  | name text =>
    obtain ⟨c, cs, rfl, hc, -⟩ := h
    exact ⟨c, cs, rfl, Or.inl (isNameStart_of_isAlpha hc)⟩
  | number text =>
    obtain ⟨c, cs, rfl, hc⟩ := IsDecimal.exists_cons h
    exact ⟨c, cs, rfl, Or.inr (hc.imp_right Or.inl)⟩
  | sign s => exact ⟨s.char, [], rfl, Or.inr (Or.inr (Or.inr ⟨s, rfl⟩))⟩

/-- Where it ends, a written token is what is read. -/
lemma token?_append {token : Token} {s : List Char} (h : token.Plain)
    (hs : (∃ sign, token = .sign sign) ∨ Breaks s) : token? (token.text ++ s) = some token := by
  cases token with
  | name text =>
    obtain ⟨c, cs, rfl, hc, hcs, -⟩ := h
    have hbreaks := hs.resolve_left (by simp)
    rw [token?, Token.text, name?_append hc hcs hbreaks.name]
  | number text =>
    -- a decimal starts with no letter, so it is not read as a name first
    have hbreaks := hs.resolve_left (by simp)
    have hwidth := decimalWidth_append h hbreaks.digits
    obtain ⟨c, cs, rfl, hc⟩ := IsDecimal.exists_cons h
    have halpha : c.isAlpha = false := by
      rcases hc with hc | rfl
      · exact not_isAlpha_of_not_isNameStart (not_isNameStart_of_isDecimalDigit hc)
      · rfl
    have hname : name? (c :: cs ++ s) = none := by
      rw [List.cons_append, name?, halpha, if_neg Bool.false_ne_true]
    have htake : (c :: cs ++ s).take (cs.length + 1) = c :: cs := List.take_left' rfl
    rw [token?, Token.text, hname, hwidth, List.length_cons]
    simp only [htake]
  | sign sign => cases sign <;> rfl

lemma tokenPattern_space (before : Option Char) (s : List Char) :
    tokenPattern before (' ' :: s) = none := rfl

/-- **Tokens that make a term are read back from any text that spaces them.** -/
lemma found?_scanFrom {tokens : List Token} {text : List Char} (h : Spaced tokens text)
    (hplain : ∀ token ∈ tokens, token.Plain) {r final : Reader}
    (hread : tokens.foldlM Reader.step r = some final) (before : Option Char) :
    (scanFrom tokenPattern before 0 text).filterMap Piece.found? = tokens := by
  -- the induction is on how the text is spaced; the reader's state says what may come next
  induction h generalizing r before with
  | nil => rfl
  | space h ih =>
    rw [scanFrom_plain (tokenPattern_space before _)]
    exact ih hplain hread _
  | @token token tokens text h ih =>
    have htoken := hplain token List.mem_cons_self
    rw [List.foldlM_cons] at hread
    obtain ⟨next, hstep, hrest⟩ := Option.bind_eq_some_iff.1 hread
    have hmatch : tokenPattern before (token.text ++ text) = some (token, token.text.length) := by
      rw [tokenPattern, token?_append htoken (h.sign_or_breaks hstep hrest), Option.map_some]
    obtain ⟨c, cs, htext, -⟩ := htoken.exists_cons
    have hne : token.text ≠ [] := by
      rw [htext]
      exact List.cons_ne_nil c cs
    rw [scanFrom_found hne hmatch]
    exact congrArg (token :: ·)
      (ih (fun t ht => hplain t (List.mem_cons_of_mem token ht)) hrest _)

lemma tokenize_eq {tokens : List Token} {text : String} (h : Spaced tokens text.toList)
    (hplain : ∀ token ∈ tokens, token.Plain) {t : Term} (hparse : parse? tokens = some t) :
    tokenize text = tokens := by
  obtain ⟨final, hread, -⟩ := Option.bind_eq_some_iff.1 hparse
  rw [tokenize, matches?_eq_filterMap]
  exact found?_scanFrom h hplain hread none

end Worksheet.Dimensional
