import Mathlib.Data.List.Induction
import Mathlib.Tactic.Lemma
import Worksheet.Text.Blank
import Worksheet.Text.Numeral
import Worksheet.Text.Word

/-!
# Decimals and what stands behind them

A decimal with a point is taken up as a whole from the head of a text, unless the text goes on with
a digit or with an exponent.  So is any numeral, with or without point and exponent, unless the text
goes on with one of these or a digit; and whatever is taken up is a numeral.  No digit of any script
can start a name, and neither names nor numerals have blanks.
-/

namespace Worksheet.Text

/-! ### Where a run of characters stops -/

/-- The text does not go on with a character of which `p` holds. -/
def Stops (p : Char → Bool) (s : List Char) : Prop := ∀ c ∈ s.head?, p c = false

lemma takeWhile_append_of_stops {p : Char → Bool} {s t : List Char} (hs : ∀ c ∈ s, p c = true)
    (ht : Stops p t) : (s ++ t).takeWhile p = s := by
  rw [List.takeWhile_append_of_pos hs]
  cases t with
  | nil => rw [List.takeWhile_nil, List.append_nil]
  | cons c t => rw [List.takeWhile_cons_of_neg (by simp [ht c rfl]), List.append_nil]

lemma drop_length_takeWhile {α : Type} (p : α → Bool) (s : List α) :
    s.drop (s.takeWhile p).length = s.dropWhile p := by
  have hsplit : s.takeWhile p ++ s.dropWhile p = s := List.takeWhile_append_dropWhile
  calc s.drop (s.takeWhile p).length
      = (s.takeWhile p ++ s.dropWhile p).drop (s.takeWhile p).length := by rw [hsplit]
    _ = s.dropWhile p := List.drop_left

/-- A text that goes on behind its run up to a character has this character there. -/
lemma exists_of_takeWhile_ne {c : Char} {s : List Char}
    (h : (s.takeWhile (· != c)).length ≠ s.length) :
    c ∉ s.takeWhile (· != c) ∧ ∃ after, s = s.takeWhile (· != c) ++ c :: after := by
  have hclosed : ∀ d ∈ s.takeWhile (· != c), (d != c) = true :=
    List.all_eq_true.1 List.all_takeWhile
  have hrun : s.takeWhile (· != c) ++ s.dropWhile (· != c) = s := List.takeWhile_append_dropWhile
  have hdrop : s.dropWhile (· != c) ≠ [] := by
    intro hnil
    rw [hnil, List.append_nil] at hrun
    exact h (congrArg List.length hrun)
  have hclose := List.head_dropWhile_not (· != c) hdrop
  obtain ⟨d, after, hafter⟩ := List.exists_cons_of_ne_nil hdrop
  simp only [hafter, List.head_cons, bne_eq_false_iff_eq] at hclose
  refine ⟨fun hmem => bne_iff_ne.1 (hclosed c hmem) rfl, after, ?_⟩
  conv_lhs => rw [← hrun, hafter, hclose]

/-- The first character of a class is in one place only. -/
lemma append_cons_inj_of_class {p : Char → Bool} {s s' t t' : List Char} {c c' : Char}
    (hs : ∀ d ∈ s, p d = false) (hs' : ∀ d ∈ s', p d = false) (hc : p c = true)
    (hc' : p c' = true) (h : s ++ c :: t = s' ++ c' :: t') : s = s' ∧ c = c' ∧ t = t' := by
  have hrun : ∀ u v : List Char, ∀ d, (∀ e ∈ u, p e = false) → p d = true →
      (u ++ d :: v).takeWhile (fun e => !p e) = u := by
    intro u v d hu hd
    refine takeWhile_append_of_stops (fun e he => by rw [hu e he, Bool.not_false]) fun e he => ?_
    obtain rfl : d = e := Option.mem_some_iff.1 he
    rw [hd, Bool.not_true]
  have hsame := congrArg (List.takeWhile fun e => !p e) h
  rw [hrun s t c hs hc, hrun s' t' c' hs' hc'] at hsame
  subst hsame
  exact ⟨rfl, List.cons.inj (List.append_cancel_left h)⟩

/-- A class tells apart the characters inside and outside of it. -/
lemma ne_of_class {p : Char → Bool} {c d : Char} (hc : p c = true) (hd : p d = false) : c ≠ d := by
  rintro rfl
  rw [hc] at hd
  exact absurd hd (by decide)

/-! ### Digits -/

lemma lt_128_of_isAlpha {c : Char} (h : c.isAlpha = true) : c.toNat < 128 ∧ c.isDigit = false := by
  have hrange : (65 ≤ c.toNat ∧ c.toNat ≤ 90) ∨ (97 ≤ c.toNat ∧ c.toNat ≤ 122) := by
    rcases Bool.or_eq_true_iff.1 (show (c.isUpper || c.isLower) = true from h) with h | h
    · obtain ⟨hfirst, hlast⟩ := of_decide_eq_true h
      exact Or.inl ⟨UInt32.le_iff_toNat_le.1 hfirst, UInt32.le_iff_toNat_le.1 hlast⟩
    · obtain ⟨hfirst, hlast⟩ := Bool.and_eq_true_iff.1 h
      exact Or.inr ⟨UInt32.le_iff_toNat_le.1 (of_decide_eq_true hfirst),
        UInt32.le_iff_toNat_le.1 (of_decide_eq_true hlast)⟩
  refine ⟨by omega, ?_⟩
  cases hdigit : c.isDigit with
  | false => rfl
  | true =>
    have hlast : c.toNat ≤ 57 := (Char.isDigit_iff_toNat.1 hdigit).2
    omega

lemma lt_128_of_isNameChar {c : Char} (h : isNameChar c = true) : c.toNat < 128 := by
  rcases Bool.or_eq_true_iff.1 h with h | h
  · rcases Bool.or_eq_true_iff.1 h with halpha | hdigit
    · exact (lt_128_of_isAlpha halpha).1
    · have hlast : c.toNat ≤ 57 := (Char.isDigit_iff_toNat.1 hdigit).2
      omega
  · obtain rfl := eq_of_beq h
    decide

lemma not_isNameStart_of_isDecimalDigit {c : Char} (h : isDecimalDigit c = true) :
    isNameStart c = false := by
  rw [isNameStart, Bool.or_eq_false_iff]
  constructor
  · cases halpha : c.isAlpha with
    | false => rfl
    | true =>
      obtain ⟨hlt, hdigit⟩ := lt_128_of_isAlpha halpha
      rw [isDecimalDigit, digitValue?, if_pos hlt, hdigit, if_neg Bool.false_ne_true] at h
      exact absurd h (by decide)
  · exact beq_eq_false_iff_ne.2 (ne_of_class h (by decide))

lemma digitValue?_of_isDigit {c : Char} (h : c.isDigit = true) :
    digitValue? c = some (c.toNat - 48) := by
  have hlast : c.toNat ≤ 57 := (Char.isDigit_iff_toNat.1 h).2
  rw [digitValue?, if_pos (by omega), if_pos h]

lemma isDecimalDigit_of_isDigit {c : Char} (h : c.isDigit = true) : isDecimalDigit c = true := by
  rw [isDecimalDigit, digitValue?_of_isDigit h]
  rfl

lemma digitsValue_append {c : Char} (h : c.isDigit = true) (cs : List Char) :
    digitsValue (cs ++ [c]) = 10 * digitsValue cs + (c.toNat - 48) := by
  rw [digitsValue, List.foldl_append, ← digitsValue, List.foldl_cons, List.foldl_nil,
    digitValue?_of_isDigit h]

lemma digitsValue_eq_ofDigitChars {cs : List Char} (h : ∀ c ∈ cs, c.isDigit = true) :
    digitsValue cs = Nat.ofDigitChars 10 cs 0 := by
  induction cs using List.reverseRecOn with
  | nil => rfl
  | append_singleton cs c ih =>
    have hc : c.isDigit = true := h c (by simp)
    rw [digitsValue_append hc, ih fun d hd => h d (List.mem_append_left _ hd), Nat.ofDigitChars,
      Nat.ofDigitChars, List.foldl_append]
    rfl

/-- The digits that a number is written with have the value of the number. -/
lemma digitsValue_toDigits (n : Nat) : digitsValue (Nat.toDigits 10 n) = n := by
  have hdigits : ∀ c ∈ Nat.toDigits 10 n, c.isDigit = true :=
    fun c hc => Nat.isDigit_of_mem_toDigits (by omega) (by omega) hc
  rw [digitsValue_eq_ofDigitChars hdigits, Nat.ofDigitChars_ten_toDigits]

/-! ### Decimals with a point -/

/-- A decimal as it is written: digits of any script, a point and digits again, of which one side
may be missing. -/
def IsDecimal (text : List Char) : Prop :=
  ∃ whole fraction, text = whole ++ '.' :: fraction ∧
    (∀ c ∈ whole, isDecimalDigit c = true) ∧ (∀ c ∈ fraction, isDecimalDigit c = true) ∧
    (whole ≠ [] ∨ fraction ≠ [])

/-- A decimal starts with a digit or the point. -/
lemma IsDecimal.exists_cons {text : List Char} (h : IsDecimal text) :
    ∃ c cs, text = c :: cs ∧ (isDecimalDigit c = true ∨ c = '.') := by
  obtain ⟨whole, fraction, rfl, hwhole, -, -⟩ := h
  cases whole with
  | nil => exact ⟨'.', fraction, rfl, Or.inr rfl⟩
  | cons c whole =>
    exact ⟨c, whole ++ '.' :: fraction, rfl, Or.inl (hwhole c List.mem_cons_self)⟩

lemma fractionWidth_append {fraction s : List Char} (h : ∀ c ∈ fraction, isDecimalDigit c = true)
    (hs : Stops isDecimalDigit s) :
    fractionWidth ('.' :: (fraction ++ s)) = 1 + fraction.length := by
  rw [fractionWidth, digitsWidth, takeWhile_append_of_stops h hs]

lemma decimalWidth_append {text s : List Char} (h : IsDecimal text)
    (hs : Stops isDecimalDigit s) : decimalWidth (text ++ s) = text.length := by
  obtain ⟨whole, fraction, rfl, hwhole, hfraction, hsome⟩ := h
  have hsplit : whole ++ '.' :: fraction ++ s = whole ++ '.' :: (fraction ++ s) := by
    rw [List.append_assoc, List.cons_append]
  have hdigits : digitsWidth (whole ++ '.' :: (fraction ++ s)) = whole.length := by
    have hpoint : Stops isDecimalDigit ('.' :: (fraction ++ s)) := by
      intro c hc
      obtain rfl : '.' = c := by simpa using hc
      decide
    rw [digitsWidth, takeWhile_append_of_stops hwhole hpoint]
  have hfractionWidth := fractionWidth_append hfraction hs
  have hlength : (whole ++ '.' :: fraction).length = whole.length + (1 + fraction.length) := by
    rw [List.length_append, List.length_cons, Nat.add_comm 1]
  rw [hsplit, hlength, decimalWidth, leadingDecimalWidth, hdigits]
  cases whole with
  | nil =>
    have hpos : 0 < fraction.length := List.length_pos_iff.2 (hsome.resolve_left (absurd rfl))
    simp only [List.length_nil, List.nil_append, hfractionWidth]
    rw [if_neg (by omega), Nat.zero_add]
  | cons c whole =>
    have hdrop : (c :: whole ++ '.' :: (fraction ++ s)).drop (whole.length + 1) =
        '.' :: (fraction ++ s) := List.drop_left' rfl
    simp only [List.length_cons, hdrop, hfractionWidth]
    rw [Nat.add_right_comm]

/-- The letters that an exponent starts with. -/
def startsExponent (c : Char) : Bool := c == 'e' || c == 'E'

lemma exponentWidth_of_stops {s : List Char} (h : Stops startsExponent s) :
    exponentWidth s = 0 := by
  cases s with
  | nil => rfl
  | cons c s =>
    have hc : (c == 'e' || c == 'E') = false := h c rfl
    rw [exponentWidth, hc, if_neg Bool.false_ne_true]

lemma numeralWidth_append {text s : List Char} (h : IsDecimal text) (hs : Stops isDecimalDigit s)
    (hexponent : Stops startsExponent s) :
    numeralWidth (text ++ s) = text.length := by
  obtain ⟨c, cs, rfl, -⟩ := h.exists_cons
  rw [numeralWidth, decimalWidth_append h hs, List.length_cons]
  have hdrop : (c :: cs ++ s).drop (cs.length + 1) = s := List.drop_left' rfl
  simp only [hdrop, exponentWidth_of_stops hexponent, Nat.add_zero]

/-! ### Numerals -/

/-- A whole number as it is written: digits of any script. -/
def IsWhole (text : List Char) : Prop := text ≠ [] ∧ ∀ c ∈ text, isDecimalDigit c = true

/-- A number without an exponent has digits and a point only. -/
lemma isDecimalDigit_or_eq_point_of_mem {text : List Char} (h : IsWhole text ∨ IsDecimal text)
    {c : Char} (hc : c ∈ text) : isDecimalDigit c = true ∨ c = '.' := by
  rcases h with ⟨-, hdigits⟩ | ⟨whole, fraction, rfl, hwhole, hfraction, -⟩
  · exact Or.inl (hdigits c hc)
  · rcases List.mem_append.1 hc with hc | hc
    · exact Or.inl (hwhole c hc)
    · rcases List.mem_cons.1 hc with rfl | hc
      · exact Or.inr rfl
      · exact Or.inl (hfraction c hc)

/-- An exponent as it is written, if there is one: the letter, at most one sign, and digits. -/
def IsExponent (text : List Char) : Prop :=
  text = [] ∨ ∃ letter sign digits, text = letter :: (sign ++ digits) ∧
    startsExponent letter = true ∧ sign ∈ [[], ['+'], ['-']] ∧ IsWhole digits

/-- A numeral as it is written: a whole number or a decimal with a point, and an exponent or
none. -/
def IsNumeral (text : List Char) : Prop :=
  ∃ mantissa exponent, text = mantissa ++ exponent ∧ (IsWhole mantissa ∨ IsDecimal mantissa) ∧
    IsExponent exponent

lemma IsNumeral.exists_cons {text : List Char} (h : IsNumeral text) :
    ∃ c cs, text = c :: cs ∧ (isDecimalDigit c = true ∨ c = '.') := by
  obtain ⟨mantissa, exponent, rfl, hmantissa, -⟩ := h
  have hcons : ∃ c cs, mantissa = c :: cs ∧ (isDecimalDigit c = true ∨ c = '.') := by
    rcases hmantissa with ⟨hne, hdigits⟩ | hdecimal
    · obtain ⟨c, cs, rfl⟩ := List.exists_cons_of_ne_nil hne
      exact ⟨c, cs, rfl, Or.inl (hdigits c List.mem_cons_self)⟩
    · exact hdecimal.exists_cons
  obtain ⟨c, cs, rfl, hc⟩ := hcons
  exact ⟨c, cs ++ exponent, rfl, hc⟩

/-- Whether a character is the point of a decimal. -/
def isPoint (c : Char) : Bool := c == '.'

lemma fractionWidth_of_stops {s : List Char} (h : Stops isPoint s) : fractionWidth s = 0 := by
  unfold fractionWidth
  split
  · exact absurd (h '.' rfl) (by decide)
  · rfl

lemma decimalWidth_append_of_isWhole {text s : List Char} (h : IsWhole text)
    (hs : Stops isDecimalDigit s) (hpoint : Stops isPoint s) :
    decimalWidth (text ++ s) = text.length := by
  obtain ⟨hne, hdigits⟩ := h
  obtain ⟨c, cs, rfl⟩ := List.exists_cons_of_ne_nil hne
  have hwidth : digitsWidth (c :: cs ++ s) = cs.length + 1 := by
    rw [digitsWidth, takeWhile_append_of_stops hdigits hs, List.length_cons]
  have hdrop : (c :: cs ++ s).drop (cs.length + 1) = s := List.drop_left' rfl
  rw [decimalWidth, leadingDecimalWidth, hwidth]
  simp only [hdrop, fractionWidth_of_stops hpoint, Nat.add_zero, List.length_cons]

lemma exponentWidth_append {text s : List Char} (h : IsExponent text)
    (hs : Stops isDecimalDigit s) (hexponent : Stops startsExponent s) :
    exponentWidth (text ++ s) = text.length := by
  obtain rfl | ⟨letter, sign, digits, rfl, hletter, hsign, hne, hdigits⟩ := h
  · exact exponentWidth_of_stops hexponent
  · obtain ⟨c, cs, rfl⟩ := List.exists_cons_of_ne_nil hne
    have hc := hdigits c List.mem_cons_self
    have hwidth : signWidth (sign ++ (c :: cs ++ s)) = sign.length := by
      simp only [List.mem_cons, List.not_mem_nil, or_false] at hsign
      rcases hsign with rfl | rfl | rfl
      · -- without a sign, a digit comes next
        unfold signWidth
        split
        · rename_i heq
          exact absurd (List.cons.inj heq).1 (ne_of_class hc (by decide))
        · rename_i heq
          exact absurd (List.cons.inj heq).1 (ne_of_class hc (by decide))
        · rfl
      · rfl
      · rfl
    have hdigitsWidth : digitsWidth (c :: cs ++ s) = cs.length + 1 := by
      rw [digitsWidth, takeWhile_append_of_stops hdigits hs, List.length_cons]
    have hif : (letter == 'e' || letter == 'E') = true := hletter
    rw [List.cons_append, List.append_assoc, exponentWidth, if_pos hif, hwidth, List.drop_left,
      hdigitsWidth]
    simp only [List.length_cons, List.length_append]
    omega

/-- A numeral is taken up as a whole where the text goes on with neither a digit nor a point nor an
exponent. -/
lemma numeralWidth_append_of_isNumeral {text s : List Char} (h : IsNumeral text)
    (hs : Stops isDecimalDigit s) (hpoint : Stops isPoint s) (hexponent : Stops startsExponent s) :
    numeralWidth (text ++ s) = text.length := by
  obtain ⟨mantissa, exponent, rfl, hmantissa, hexp⟩ := h
  -- behind the mantissa stands the letter of the exponent, or else the rest
  have hstops : Stops isDecimalDigit (exponent ++ s) ∧ Stops isPoint (exponent ++ s) := by
    obtain rfl | ⟨letter, sign, digits, rfl, hletter, -⟩ := hexp
    · exact ⟨hs, hpoint⟩
    · have hletter' : letter = 'e' ∨ letter = 'E' := by simpa [startsExponent] using hletter
      constructor
      · intro c hc
        obtain rfl : letter = c := by simpa using hc
        rcases hletter' with rfl | rfl <;> decide
      · intro c hc
        obtain rfl : letter = c := by simpa using hc
        rcases hletter' with rfl | rfl <;> decide
  have hwidth : decimalWidth (mantissa ++ (exponent ++ s)) = mantissa.length := by
    rcases hmantissa with hwhole | hdecimal
    · exact decimalWidth_append_of_isWhole hwhole hstops.1 hstops.2
    · exact decimalWidth_append hdecimal hstops.1
  have hpos : mantissa.length ≠ 0 := by
    rcases hmantissa with hwhole | hdecimal
    · exact mt List.eq_nil_of_length_eq_zero hwhole.1
    · obtain ⟨c, cs, rfl, -⟩ := hdecimal.exists_cons
      simp
  obtain ⟨n, hn⟩ := Nat.exists_eq_succ_of_ne_zero hpos
  have hdrop : (mantissa ++ (exponent ++ s)).drop (n + 1) = exponent ++ s := List.drop_left' hn
  rw [List.append_assoc, numeralWidth, hwidth, hn]
  simp only [Nat.succ_eq_add_one, hdrop, exponentWidth_append hexp hs hexponent,
    List.length_append, hn]

/-! ### What is taken up -/

lemma take_digitsWidth (s : List Char) : s.take (digitsWidth s) = s.takeWhile isDecimalDigit :=
  List.prefix_iff_eq_take.1 (List.takeWhile_prefix _) |>.symm

lemma isDecimalDigit_of_mem_takeWhile {s : List Char} {c : Char}
    (h : c ∈ s.takeWhile isDecimalDigit) : isDecimalDigit c = true :=
  List.all_eq_true.1 List.all_takeWhile c h

/-- A point with the digits behind it, or nothing. -/
lemma take_fractionWidth (s : List Char) :
    (fractionWidth s = 0) ∨ ∃ rest, s = '.' :: rest ∧ fractionWidth s = 1 + digitsWidth rest ∧
      s.take (fractionWidth s) = '.' :: rest.takeWhile isDecimalDigit := by
  unfold fractionWidth
  split
  · rename_i rest
    refine Or.inr ⟨rest, rfl, rfl, ?_⟩
    rw [Nat.add_comm, List.take_succ_cons, take_digitsWidth]
  · exact Or.inl rfl

lemma isWhole_or_isDecimal_take {s : List Char} (h : decimalWidth s ≠ 0) :
    IsWhole (s.take (decimalWidth s)) ∨ IsDecimal (s.take (decimalWidth s)) := by
  have hwhole : ∀ c ∈ s.takeWhile isDecimalDigit, isDecimalDigit c = true :=
    fun c hc => isDecimalDigit_of_mem_takeWhile hc
  have hsplit : s.take (digitsWidth s) ++ s.drop (digitsWidth s) = s := List.take_append_drop _ _
  cases hdigits : digitsWidth s with
  | zero =>
    -- no digit comes first, so a point with digits does
    have hleading : leadingDecimalWidth s = 0 := by rw [leadingDecimalWidth, hdigits]
    simp only [decimalWidth, hleading] at h ⊢
    split at h
    · exact absurd rfl h
    · rename_i hlong
      rw [if_neg hlong]
      obtain hnone | ⟨rest, -, hwidth, htake⟩ := take_fractionWidth s
      · omega
      · rw [htake]
        refine Or.inr ⟨[], _, rfl, fun c hc => absurd hc List.not_mem_nil,
          fun c hc => isDecimalDigit_of_mem_takeWhile hc, Or.inr fun hnil => ?_⟩
        rw [digitsWidth, hnil] at hwidth
        simp at hwidth
        omega
  | succ n =>
    have hne : s.takeWhile isDecimalDigit ≠ [] := by
      intro hnil
      rw [digitsWidth, hnil] at hdigits
      exact absurd hdigits (by simp)
    have hwidth : decimalWidth s = n + 1 + fractionWidth (s.drop (n + 1)) := by
      have hleading : leadingDecimalWidth s = n + fractionWidth (s.drop (n + 1)) + 1 := by
        simp only [leadingDecimalWidth, hdigits]
        omega
      simp only [decimalWidth, hleading]
      omega
    have htake : s.take (decimalWidth s) =
        s.takeWhile isDecimalDigit ++ (s.drop (n + 1)).take (fractionWidth (s.drop (n + 1))) := by
      rw [hwidth, List.take_add, ← hdigits, take_digitsWidth]
    rw [htake]
    obtain hnone | ⟨rest, -, -, hfraction⟩ := take_fractionWidth (s.drop (n + 1))
    · rw [hnone, List.take_zero, List.append_nil]
      exact Or.inl ⟨hne, hwhole⟩
    · rw [hfraction]
      exact Or.inr ⟨_, _, rfl, hwhole, fun c hc => isDecimalDigit_of_mem_takeWhile hc, Or.inl hne⟩

lemma isExponent_take (s : List Char) : IsExponent (s.take (exponentWidth s)) := by
  cases s with
  | nil => exact Or.inl rfl
  | cons c rest =>
    rw [exponentWidth]
    split
    · rename_i hletter
      cases hdigits : digitsWidth (rest.drop (signWidth rest)) with
      | zero => exact Or.inl rfl
      | succ n =>
        have htake : (c :: rest).take (1 + signWidth rest + (n + 1)) =
            c :: (rest.take (signWidth rest) ++
              (rest.drop (signWidth rest)).takeWhile isDecimalDigit) := by
          rw [Nat.add_assoc, Nat.add_comm 1, List.take_succ_cons, List.take_add, ← hdigits,
            take_digitsWidth]
        rw [htake]
        refine Or.inr ⟨c, _, _, rfl, hletter, ?_, fun hnil => ?_,
          fun d hd => isDecimalDigit_of_mem_takeWhile hd⟩
        · unfold signWidth
          split <;> simp
        · rw [digitsWidth, hnil] at hdigits
          exact absurd hdigits (by simp)
    · exact Or.inl rfl

/-- What is taken up from a text is a numeral. -/
lemma isNumeral_take {s : List Char} (h : numeralWidth s ≠ 0) :
    IsNumeral (s.take (numeralWidth s)) := by
  have hdecimal : decimalWidth s ≠ 0 := by
    intro hzero
    rw [numeralWidth, hzero] at h
    exact h rfl
  obtain ⟨n, hn⟩ := Nat.exists_eq_succ_of_ne_zero hdecimal
  have hwidth : numeralWidth s =
      decimalWidth s + exponentWidth (s.drop (decimalWidth s)) := by
    simp only [numeralWidth, hn]
  rw [hwidth, List.take_add]
  exact ⟨_, _, rfl, isWhole_or_isDecimal_take hdecimal, isExponent_take _⟩

/-- The characters that numerals are made of. -/
def isNumeralChar (c : Char) : Bool :=
  isDecimalDigit c || isPoint c || startsExponent c || c == '+' || c == '-'

lemma isNumeralChar_of_isDecimalDigit {c : Char} (h : isDecimalDigit c = true) :
    isNumeralChar c = true := by
  rw [isNumeralChar, h]
  rfl

lemma IsNumeral.isNumeralChar_of_mem {text : List Char} (h : IsNumeral text) {c : Char}
    (hc : c ∈ text) : isNumeralChar c = true := by
  obtain ⟨mantissa, exponent, rfl, hmantissa, hexponent⟩ := h
  rcases List.mem_append.1 hc with hc | hc
  · rcases isDecimalDigit_or_eq_point_of_mem hmantissa hc with hdigit | rfl
    · exact isNumeralChar_of_isDecimalDigit hdigit
    · rfl
  · rcases hexponent with rfl | ⟨letter, sign, digits, rfl, hletter, hsign, -, hdigits⟩
    · exact absurd hc List.not_mem_nil
    · rcases List.mem_cons.1 hc with rfl | hc
      · rw [isNumeralChar, hletter]
        simp
      · rcases List.mem_append.1 hc with hc | hc
        · simp only [List.mem_cons, List.not_mem_nil, or_false] at hsign
          rcases hsign with rfl | rfl | rfl
          · exact absurd hc List.not_mem_nil
          · obtain rfl := List.mem_singleton.1 hc
            rfl
          · obtain rfl := List.mem_singleton.1 hc
            rfl
        · exact isNumeralChar_of_isDecimalDigit (hdigits c hc)

/-! ### Blanks -/

/-- No script has blanks among its digits. -/
lemma not_isBlank_of_isDecimalDigit {c : Char} (h : isDecimalDigit c = true) :
    isBlank c = false := by
  have hrows : ∀ z ∈ digitZeros, ∀ k < 10, withinBoundaries blankBoundaries (z + k) = false := by
    decide +kernel
  obtain ⟨z, hz, hfirst, hlast⟩ : ∃ z ∈ digitZeros, z ≤ c.toNat ∧ c.toNat < z + 10 := by
    rw [isDecimalDigit, digitValue?] at h
    split at h
    · cases hdigit : c.isDigit with
      | false => simp [hdigit] at h
      | true =>
        obtain ⟨hfirst, hlast⟩ := Char.isDigit_iff_toNat.1 hdigit
        exact ⟨48, by decide, hfirst, Nat.lt_succ_of_le hlast⟩
    · rw [Option.isSome_map] at h
      obtain ⟨z, hz⟩ := Option.isSome_iff_exists.1 h
      have hrange := List.find?_some hz
      simp only [Bool.and_eq_true, decide_eq_true_eq] at hrange
      exact ⟨z, List.mem_of_find?_eq_some hz, hrange⟩
  have hrow := hrows z hz (c.toNat - z) (by omega)
  rwa [Nat.add_sub_cancel' hfirst] at hrow

lemma not_isBlank_of_isNumeralChar {c : Char} (h : isNumeralChar c = true) :
    isBlank c = false := by
  simp only [isNumeralChar, isPoint, startsExponent, Bool.or_eq_true, beq_iff_eq] at h
  rcases h with (((h | rfl) | rfl | rfl) | rfl) | rfl
  · exact not_isBlank_of_isDecimalDigit h
  all_goals decide

lemma not_isBlank_of_isNameChar {c : Char} (h : isNameChar c = true) : isBlank c = false := by
  have hall : ∀ n < 128, isNameChar (Char.ofNat n) = true →
      withinBoundaries blankBoundaries n = false := by
    decide
  exact hall c.toNat (lt_128_of_isNameChar h) (by rwa [Char.ofNat_toNat])

end Worksheet.Text
