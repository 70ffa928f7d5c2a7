import Mathlib.Data.List.TakeWhile
import Mathlib.Tactic.ByContra
import Mathlib.Tactic.SplitIfs
import Worksheet.CompoundUnit.Parser
import Worksheet.CompoundUnit.Printer
import Worksheet.Proofs.Text.Numeral
import Worksheet.Proofs.Text.Split

/-!
# Tokens that are read again

A token that has been read stands for itself when it is read once more.  With an exponent behind it,
it is read as that many tokens only if it is a symbol, a word of letters and the signs of percent
and degree; the name of a molecule, or any other token, swallows the exponent and becomes one new
token.
-/

namespace Worksheet.CompoundUnit

open Worksheet.Text

/-! ### Words -/

/-- A word that stands for a token: it is not empty, not the `1` of an empty side, and neither a
separator nor a slash is in it. -/
structure IsWord (word : List Char) : Prop where
  ne_nil : word ≠ []
  ne_one : word ≠ ['1']
  not_separator : ∀ c ∈ word, isSeparator c = false
  not_slash : ∀ c ∈ word, (c == '/') = false

/-- A token that has been read: a word that stands for itself. -/
structure IsToken (token : String) : Prop where
  word : IsWord token.toList
  split : splitToken token.toList = (token, 1)

/-- Whether all characters of a token may stand in the base of a power. -/
def isSymbol (token : String) : Bool := token.toList.all isSymbolChar

lemma isSymbolChar_of_isAlpha {c : Char} (h : c.isAlpha = true) : isSymbolChar c = true := by
  rw [isSymbolChar, h, Bool.true_or, Bool.true_or]

lemma not_isDecimalDigit_of_isSymbolChar {c : Char} (h : isSymbolChar c = true) :
    isDecimalDigit c = false := by
  have hcases : (c.isAlpha = true ∨ c = '%') ∨ c = '°' := by simpa [isSymbolChar] using h
  rcases hcases with (halpha | rfl) | rfl
  · by_contra hdigit
    rw [Bool.not_eq_false] at hdigit
    have hstart := not_isNameStart_of_isDecimalDigit hdigit
    rw [isNameStart, halpha] at hstart
    exact absurd hstart (by simp)
  · decide
  · decide

lemma exponentDigits?_eq_none {cs : List Char} (h : ∃ c ∈ cs, isDecimalDigit c = false) :
    exponentDigits? cs = none := by
  obtain ⟨c, hc, hdigit⟩ := h
  have hall : cs.all isDecimalDigit = false := List.all_eq_false.2 ⟨c, hc, by simp [hdigit]⟩
  rw [exponentDigits?, hall, Bool.not_false, Bool.or_true, if_pos rfl]

/-! ### How a word is split -/

/-- What stands behind the base shows no exponent. -/
structure NoExponent (word : List Char) : Prop where
  caret : caretExponent? (word.dropWhile isSymbolChar) = none
  raised : raisedExponent? (word.dropWhile isSymbolChar) = none
  digits : exponentDigits? (word.dropWhile Char.isAlpha) = none

lemma splitToken_of_noExponent {word : List Char} (h : NoExponent word) :
    splitToken word = (String.ofList word, 1) := by
  unfold splitToken
  simp only [h.caret, h.raised, h.digits]
  split_ifs <;> rfl

/-- The base of a word is the word itself or a symbol at its head. -/
lemma splitToken_cases {word : List Char} {token : String} {e : Int}
    (h : splitToken word = (token, e)) :
    (token = String.ofList word ∧ e = 1) ∨ ∃ base, token = String.ofList base ∧ base ≠ [] ∧
      (∀ c ∈ base, isSymbolChar c = true) ∧ base ⊆ word := by
  have hsymbol : ∀ c ∈ word.takeWhile isSymbolChar, isSymbolChar c = true :=
    fun c hc => List.mem_takeWhile_imp hc
  have hletters : ∀ c ∈ word.takeWhile Char.isAlpha, isSymbolChar c = true :=
    fun c hc => isSymbolChar_of_isAlpha (List.mem_takeWhile_imp hc)
  have hwhole (h : (String.ofList word, (1 : Int)) = (token, e)) :
      token = String.ofList word ∧ e = 1 := by
    obtain ⟨rfl, rfl⟩ := Prod.mk.inj h
    exact ⟨rfl, rfl⟩
  unfold splitToken at h
  simp only at h
  split at h
  · exact Or.inl (hwhole h)
  · split at h
    · exact Or.inl (hwhole h)
    · rename_i hempty
      have hne : word.takeWhile isSymbolChar ≠ [] := by simpa using hempty
      split at h
      · exact Or.inr ⟨_, (Prod.mk.inj h).1.symm, hne, hsymbol, List.takeWhile_subset _⟩
      · exact Or.inr ⟨_, (Prod.mk.inj h).1.symm, hne, hsymbol, List.takeWhile_subset _⟩
      · split at h
        · exact Or.inl (hwhole h)
        · rename_i hnone
          exact Or.inr ⟨_, (Prod.mk.inj h).1.symm, by simpa using hnone, hletters,
            List.takeWhile_subset _⟩
      · exact Or.inl (hwhole h)

/-- A symbol without an exponent stands for itself. -/
lemma splitToken_symbol {base : List Char} (h : ∀ c ∈ base, isSymbolChar c = true) :
    splitToken base = (String.ofList base, 1) := by
  have hdrop : base.dropWhile isSymbolChar = [] := List.dropWhile_eq_nil_iff.2 h
  refine splitToken_of_noExponent ⟨?_, ?_, ?_⟩
  · rw [hdrop]
    rfl
  · rw [hdrop]
    rfl
  · cases hdigits : base.dropWhile Char.isAlpha with
    | nil => rfl
    | cons c cs =>
      have hc : c ∈ base := (List.dropWhile_subset _) (hdigits ▸ List.mem_cons_self)
      exact exponentDigits?_eq_none
        ⟨c, List.mem_cons_self, not_isDecimalDigit_of_isSymbolChar (h c hc)⟩

lemma isToken_fst_splitToken {word : List Char} (h : IsWord word) :
    IsToken (splitToken word).1 := by
  obtain ⟨token, e, hsplit⟩ : ∃ token e, splitToken word = (token, e) := ⟨_, _, rfl⟩
  rw [hsplit]
  rcases splitToken_cases hsplit with ⟨rfl, rfl⟩ | ⟨base, rfl, hne, hsymbol, hsubset⟩
  · -- a word that was taken whole is split as it was
    refine ⟨?_, ?_⟩
    · rwa [String.toList_ofList]
    · rwa [String.toList_ofList]
  · -- the base of a power has lost what could be read as an exponent
    refine ⟨?_, ?_⟩
    · rw [String.toList_ofList]
      refine ⟨hne, ?_, fun c hc => h.not_separator c (hsubset hc),
        fun c hc => h.not_slash c (hsubset hc)⟩
      rintro rfl
      exact absurd (hsymbol '1' (List.mem_singleton_self _)) (by decide)
    · rw [String.toList_ofList]
      exact splitToken_symbol hsymbol

/-! ### Powers -/

/-- The characters that an exponent starts with when it is written. -/
def exponentMarks : List Char := ['²', '³', '^']

lemma forall_mem_exponentMarks {motive : Char → Prop} (hsquare : motive '²') (hcube : motive '³')
    (hcaret : motive '^') : ∀ c ∈ exponentMarks, motive c := by
  simp only [exponentMarks, List.forall_mem_cons]
  exact ⟨hsquare, hcube, hcaret, fun _ h => absurd h List.not_mem_nil⟩

lemma caseless_of_mem_exponentMarks : ∀ c ∈ exponentMarks, Caseless c :=
  forall_mem_exponentMarks ⟨by decide, by decide, by decide⟩ ⟨by decide, by decide, by decide⟩
    ⟨by decide, by decide, by decide⟩

/-- A mark in a word tells it from all molecules. -/
lemma not_molecule {word : List Char} {c : Char} (hc : c ∈ exponentMarks) (hword : c ∈ word) :
    molecules.contains (upper (String.ofList word)) = false := by
  have hmarks : ∀ c ∈ exponentMarks, ∀ molecule ∈ molecules, c ∉ molecule.toList :=
    forall_mem_exponentMarks (by decide) (by decide) (by decide)
  by_contra hmolecule
  rw [Bool.not_eq_false, List.contains_iff_mem] at hmolecule
  refine hmarks c hc _ hmolecule ((caseless_of_mem_exponentMarks c hc).mem_upper ?_)
  rwa [String.toList_ofList]

/-- The exponent as it is written behind a token. -/
def exponentText : Nat → List Char
  | 2 => ['²']
  | 3 => ['³']
  | n => '^' :: Nat.toDigits 10 n

lemma toList_powerText (token : String) {n : Nat} (hn : 2 ≤ n) :
    (powerText token n).toList = token.toList ++ exponentText n := by
  unfold powerText exponentText
  split
  · omega
  · simp
  · simp
  · simp

/-- The exponent is told from everything else by its first character. -/
lemma exists_cons_exponentText (n : Nat) :
    ∃ c cs, exponentText n = c :: cs ∧ c ∈ exponentMarks := by
  unfold exponentText
  split
  · exact ⟨'²', [], rfl, by decide⟩
  · exact ⟨'³', [], rfl, by decide⟩
  · exact ⟨'^', _, rfl, by decide⟩

lemma mark_classes : ∀ c ∈ exponentMarks,
    isSymbolChar c = false ∧ c.isAlpha = false ∧ isDecimalDigit c = false ∧ c ≠ '-' :=
  forall_mem_exponentMarks (by decide) (by decide) (by decide)

lemma exponentDigits?_toDigits (n : Nat) : exponentDigits? (Nat.toDigits 10 n) = some n := by
  have hdigits : (Nat.toDigits 10 n).all isDecimalDigit = true :=
    List.all_eq_true.2 fun c hc =>
      isDecimalDigit_of_isDigit (Nat.isDigit_of_mem_toDigits (by omega) (by omega) hc)
  have hne : (Nat.toDigits 10 n).isEmpty = false := by
    simp [Nat.toDigits_ne_nil]
  rw [exponentDigits?, hdigits, hne, digitsValue_toDigits]
  rfl

/-- A written exponent is read with its value. -/
lemma exponent_exponentText {n : Nat} (hn : 2 ≤ n) :
    caretExponent? (exponentText n) = some (n : Int) ∨
      caretExponent? (exponentText n) = none ∧ raisedExponent? (exponentText n) = some (n : Int) := by
  unfold exponentText
  split
  · exact Or.inr ⟨rfl, rfl⟩
  · exact Or.inr ⟨rfl, rfl⟩
  · left
    have hdigits := exponentDigits?_toDigits n
    unfold caretExponent?
    split
    · -- no digit is a minus
      rename_i heq
      have hminus : '-' ∈ Nat.toDigits 10 n := (List.cons.inj heq).2 ▸ List.mem_cons_self
      exact absurd (Nat.isDigit_of_mem_toDigits (by omega) (by omega) hminus) (by decide)
    · rename_i heq
      rw [← (List.cons.inj heq).2, hdigits]
      rfl
    · rename_i hother
      exact absurd rfl (hother _)

/-- A power of a symbol is read as such. -/
lemma splitToken_power_of_isSymbol {token : String} (hsymbol : isSymbol token = true)
    (hne : token.toList ≠ []) {n : Nat} (hn : 2 ≤ n) :
    splitToken (powerText token n).toList = (token, (n : Int)) := by
  have hall : ∀ c ∈ token.toList, isSymbolChar c = true := List.all_eq_true.1 hsymbol
  obtain ⟨mark, cs, htext, hmark⟩ := exists_cons_exponentText n
  -- the base is the whole token, as no mark is a character of a base
  have hstops : Stops isSymbolChar (exponentText n) := by
    intro c hc
    rw [htext] at hc
    obtain rfl : mark = c := by simpa using hc
    exact (mark_classes _ hmark).1
  have htake : (token.toList ++ exponentText n).takeWhile isSymbolChar = token.toList :=
    takeWhile_append_of_stops hall hstops
  have hdrop : (token.toList ++ exponentText n).dropWhile isSymbolChar = exponentText n := by
    rw [List.dropWhile_append_of_pos hall, htext,
      List.dropWhile_cons_of_neg (by simp [(mark_classes _ hmark).1])]
  have hmolecule : molecules.contains (upper (String.ofList (token.toList ++ exponentText n))) =
      false :=
    not_molecule hmark (by simp [htext])
  rw [toList_powerText token hn]
  unfold splitToken
  simp only [hmolecule, htake, hdrop, List.isEmpty_iff, hne, Bool.false_eq_true, if_false,
    String.ofList_toList]
  rcases exponent_exponentText hn with hcaret | ⟨hcaret, hraised⟩
  · simp only [hcaret]
  · simp only [hcaret, hraised]

lemma caretExponent?_eq_none {c mark : Char} {cs : List Char} (hmark : mark ∈ exponentMarks)
    (hmem : mark ∈ cs) : caretExponent? (c :: cs) = none := by
  obtain ⟨-, -, hdigit, hminus⟩ := mark_classes _ hmark
  unfold caretExponent?
  split
  · rename_i heq
    rw [(List.cons.inj heq).2] at hmem
    rw [exponentDigits?_eq_none ⟨mark, List.mem_of_ne_of_mem hminus hmem, hdigit⟩]
    rfl
  · rename_i heq
    rw [(List.cons.inj heq).2] at hmem
    rw [exponentDigits?_eq_none ⟨mark, hmem, hdigit⟩]
    rfl
  · rfl

lemma raisedExponent?_eq_none {c : Char} {cs : List Char} (hne : cs ≠ []) :
    raisedExponent? (c :: cs) = none := by
  obtain ⟨next, rest, rfl⟩ := List.exists_cons_of_ne_nil hne
  rfl

/-- The base of any other token ends within it, so that the written exponent is not what stands
behind the base. -/
lemma noExponent_power {token : String} (hsymbol : isSymbol token = false) (n : Nat) :
    NoExponent (token.toList ++ exponentText n) := by
  obtain ⟨mark, cs, htext, hmark⟩ := exists_cons_exponentText n
  obtain ⟨-, halpha, hdigit, -⟩ := mark_classes _ hmark
  have hbehind : mark ∈ exponentText n := htext ▸ List.mem_cons_self
  obtain ⟨c, rest, hdrop⟩ : ∃ c rest, token.toList.dropWhile isSymbolChar = c :: rest := by
    refine List.exists_cons_of_ne_nil fun hnil => ?_
    rw [isSymbol, List.all_eq_true.2 (List.dropWhile_eq_nil_iff.1 hnil)] at hsymbol
    exact absurd hsymbol (by simp)
  have htail : (token.toList ++ exponentText n).dropWhile isSymbolChar =
      c :: (rest ++ exponentText n) := by
    rw [List.dropWhile_append, hdrop]
    rfl
  have hmem : mark ∈ rest ++ exponentText n := List.mem_append_right _ hbehind
  refine ⟨?_, ?_, ?_⟩
  · rw [htail, caretExponent?_eq_none hmark hmem]
  · rw [htail, raisedExponent?_eq_none (List.ne_nil_of_mem hmem)]
  · exact exponentDigits?_eq_none
      ⟨mark, (mem_dropWhile_iff halpha _).2 (List.mem_append_right _ hbehind), hdigit⟩

/-- A power of any other token is read as one new token. -/
lemma splitToken_power_of_not_isSymbol {token : String} (hsymbol : isSymbol token = false) {n : Nat}
    (hn : 2 ≤ n) : splitToken (powerText token n).toList = (powerText token n, 1) := by
  rw [toList_powerText token hn, splitToken_of_noExponent (noExponent_power hsymbol n),
    ← toList_powerText token hn, String.ofList_toList]

/-- The token and the exponent that a power is read as. -/
def rereadPower (token : String) (n : Nat) : String × Nat :=
  if n = 1 ∨ isSymbol token then (token, n) else (powerText token n, 1)

lemma splitToken_powerText {token : String} (h : IsToken token) {n : Nat} (hn : 0 < n) :
    splitToken (powerText token n).toList =
      ((rereadPower token n).1, ((rereadPower token n).2 : Int)) := by
  rw [rereadPower]
  rcases Nat.lt_or_ge n 2 with hone | htwo
  · obtain rfl : n = 1 := by omega
    rw [if_pos (Or.inl rfl)]
    exact h.split
  · cases hsymbol : isSymbol token with
    | true =>
      rw [if_pos (Or.inr rfl)]
      exact splitToken_power_of_isSymbol hsymbol h.word.ne_nil htwo
    | false =>
      rw [if_neg (by simp; omega)]
      exact splitToken_power_of_not_isSymbol hsymbol htwo

lemma not_separator_of_mem_exponentText {n : Nat} {c : Char} (h : c ∈ exponentText n) :
    isSeparator c = false ∧ (c == '/') = false := by
  have hmarks : ∀ c ∈ exponentMarks, isSeparator c = false ∧ (c == '/') = false :=
    forall_mem_exponentMarks (by decide) (by decide) (by decide)
  have hdigits : ∀ code ∈ List.range' 48 10,
      isSeparator (Char.ofNat code) = false ∧ (Char.ofNat code == '/') = false := by
    decide
  have hcases : c ∈ exponentMarks ∨ c.isDigit = true := by
    unfold exponentText at h
    split at h
    · exact Or.inl (List.mem_singleton.1 h ▸ by decide)
    · exact Or.inl (List.mem_singleton.1 h ▸ by decide)
    · rcases List.mem_cons.1 h with rfl | h
      · exact Or.inl (by decide)
      · exact Or.inr (Nat.isDigit_of_mem_toDigits (by omega) (by omega) h)
  rcases hcases with hmark | hdigit
  · exact hmarks c hmark
  · obtain ⟨hfirst, hlast⟩ := Char.isDigit_iff_toNat.1 hdigit
    have hcode := hdigits c.toNat (List.mem_range'_1.2 ⟨hfirst, Nat.lt_succ_of_le hlast⟩)
    rwa [Char.ofNat_toNat] at hcode

/-- A power is written as one word. -/
lemma isWord_powerText {token : String} (h : IsToken token) {n : Nat} (hn : 0 < n) :
    IsWord (powerText token n).toList := by
  rcases Nat.lt_or_ge n 2 with hone | htwo
  · obtain rfl : n = 1 := by omega
    exact h.word
  · rw [toList_powerText token htwo]
    obtain ⟨mark, cs, htext, hmark⟩ := exists_cons_exponentText n
    refine ⟨by simp [h.word.ne_nil], fun hone => ?_, fun c hc => ?_, fun c hc => ?_⟩
    · have hmem : mark ∈ ['1'] := hone ▸ List.mem_append_right _ (htext ▸ List.mem_cons_self)
      rw [List.mem_singleton.1 hmem] at hmark
      exact absurd hmark (by decide)
    · rcases List.mem_append.1 hc with hc | hc
      · exact h.word.not_separator c hc
      · exact (not_separator_of_mem_exponentText hc).1
    · rcases List.mem_append.1 hc with hc | hc
      · exact h.word.not_slash c hc
      · exact (not_separator_of_mem_exponentText hc).2

end Worksheet.CompoundUnit
