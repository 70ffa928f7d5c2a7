import Worksheet.Proofs.CompoundUnit.Net
import Worksheet.Proofs.Text.Split

/-!
# Units of joined texts

Reading a unit text turns a slash into division and a dot, an asterisk or blanks into
multiplication.  A part of a text is read token by token, so joined parts have the tokens of both;
what a slash puts in front of a part is read as before, and the part counts below the line.  Only
the word for no unit is not read by its tokens, and no joined text is that word unless one of its
parts is.
-/

namespace Worksheet.CompoundUnit

open Worksheet.Text

/-- A text that joins unit texts into a product: dots, asterisks and blanks, at least one. -/
structure IsJoint (joint : List Char) : Prop where
  ne_nil : joint ≠ []
  separators : ∀ c ∈ joint, isSeparator c = true

lemma isSeparator_of_isBlank {c : Char} (h : isBlank c = true) : isSeparator c = true := by
  rw [isSeparator, h, Bool.or_true]

lemma notMem_of_separators {joint : List Char} (h : ∀ c ∈ joint, isSeparator c = true) :
    '/' ∉ joint :=
  fun hmem => absurd (h _ hmem) (by decide)

/-! ### Parts -/

section Part

variable {s t joint : List Char}

lemma partTokens_append {c : Char} (hc : isSeparator c = true) (s t : List Char) :
    partTokens (s ++ c :: t) = partTokens s ++ partTokens t := by
  rw [partTokens, splitWhere_append hc, List.filter_append]
  rfl

lemma partTokens_append_left (h : ∀ c ∈ joint, isSeparator c = true) (t : List Char) :
    partTokens (joint ++ t) = partTokens t := by
  induction joint with
  | nil => rfl
  | cons c joint ih =>
    obtain ⟨hc, hjoint⟩ := List.forall_mem_cons.1 h
    exact (partTokens_append hc [] (joint ++ t)).trans (ih hjoint)

lemma partTokens_append_right (h : ∀ c ∈ joint, isSeparator c = true) (s : List Char) :
    partTokens (s ++ joint) = partTokens s := by
  cases joint with
  | nil => rw [List.append_nil]
  | cons c joint =>
    obtain ⟨hc, hjoint⟩ := List.forall_mem_cons.1 h
    have hnone : partTokens joint = [] := by
      rw [← List.append_nil joint, partTokens_append_left hjoint]
      rfl
    rw [partTokens_append hc, hnone, List.append_nil]

/-- A product has the tokens of its factors. -/
lemma partTokens_joined (h : IsJoint joint) (s t : List Char) :
    partTokens (s ++ joint ++ t) = partTokens s ++ partTokens t := by
  obtain ⟨c, rest, rfl⟩ := List.exists_cons_of_ne_nil h.ne_nil
  obtain ⟨hc, hrest⟩ := List.forall_mem_cons.1 h.separators
  rw [List.append_assoc, List.cons_append, partTokens_append hc, partTokens_append_left hrest]

/-- The unit of a part that stands above the line. -/
def partUnit (part : List Char) : CompoundUnit := ⟨(partSides part).1, (partSides part).2⟩

lemma net_partUnit_joined (h : IsJoint joint) (s t : List Char) (token : String) :
    (partUnit (s ++ joint ++ t)).net token = (partUnit s).net token + (partUnit t).net token := by
  simp only [net, partUnit, partSides, partTokens_joined h, List.map_append, List.flatMap_append,
    List.count_append]
  omega

/-- One more part behind a slash counts below the line. -/
lemma net_ofParts_append {parts : List (List Char)} (hne : parts ≠ []) (last : List Char)
    (token : String) :
    (ofParts (parts ++ [last])).net token =
      (ofParts parts).net token - (partUnit last).net token := by
  obtain ⟨first, rest, rfl⟩ := List.exists_cons_of_ne_nil hne
  simp only [List.cons_append, ofParts, net, partUnit, List.map_append, List.map_singleton,
    List.flatMap_append, List.flatMap_singleton, List.count_append]
  omega

lemma ofParts_singleton (part : List Char) : ofParts [part] = partUnit part := by
  simp [ofParts, partUnit]

end Part

/-! ### Whole texts -/

section Text

variable {cs left right : List Char}

/-- The unit of a text that is read token by token, before cancelling. -/
def reading (cs : List Char) : CompoundUnit := ofParts (splitWhere (· == '/') cs)

lemma splitWhere_ne_nil (cs : List Char) : splitWhere (· == '/') cs ≠ [] := by
  rw [splitWhere_eq_splitOnP]
  exact List.splitOnP_ne_nil _ _

lemma splitWhere_of_notMem (h : '/' ∉ cs) : splitWhere (· == '/') cs = [cs] :=
  splitWhere_of_forall fun c hc => by
    rw [beq_eq_false_iff_ne]
    rintro rfl
    exact h hc

lemma reading_of_notMem (h : '/' ∉ cs) : reading cs = partUnit cs := by
  rw [reading, splitWhere_of_notMem h, ofParts_singleton]

lemma net_reading_slash {t : List Char} (ht : '/' ∉ t) (s : List Char) (token : String) :
    (reading (s ++ '/' :: t)).net token = (reading s).net token - (reading t).net token := by
  rw [reading, splitWhere_append (by decide), splitWhere_of_notMem ht,
    net_ofParts_append (splitWhere_ne_nil s), reading_of_notMem ht, reading]

lemma net_reading_joined {s t joint : List Char} (h : IsJoint joint) (hs : '/' ∉ s) (ht : '/' ∉ t)
    (token : String) :
    (reading (s ++ joint ++ t)).net token = (reading s).net token + (reading t).net token := by
  have hjoined : '/' ∉ s ++ joint ++ t :=
    List.not_mem_append (List.not_mem_append hs (notMem_of_separators h.separators)) ht
  rw [reading_of_notMem hjoined, reading_of_notMem hs, reading_of_notMem ht,
    net_partUnit_joined h]

/-- Only the tokens of the parts count. -/
lemma ofParts_congr {parts parts' : List (List Char)}
    (h : parts.map partTokens = parts'.map partTokens) : ofParts parts = ofParts parts' := by
  have hsides : parts.map partSides = parts'.map partSides := by
    have hmap (parts : List (List Char)) : parts.map partSides =
        (parts.map partTokens).map fun tokens =>
          ((tokens.map splitToken).flatMap fun power => List.replicate power.2.toNat power.1,
            (tokens.map splitToken).flatMap fun power =>
              List.replicate (-power.2).toNat power.1) := by
      rw [List.map_map]
      rfl
    rw [hmap, hmap, h]
  cases parts with
  | nil =>
    obtain rfl := List.map_eq_nil_iff.1 hsides.symm
    rfl
  | cons first rest =>
    cases parts' with
    | nil => exact absurd hsides (by simp)
    | cons first' rest' =>
      rw [List.map_cons, List.map_cons, List.cons.injEq] at hsides
      simp only [ofParts, hsides.1, hsides.2]

/-- Blanks in front belong to the first part. -/
lemma reading_append_left (h : ∀ c ∈ left, isBlank c = true) (cs : List Char) :
    reading (left ++ cs) = reading cs := by
  have hleft : ∀ c ∈ left, isSeparator c = true := fun c hc => isSeparator_of_isBlank (h c hc)
  refine ofParts_congr ?_
  by_cases hslash : '/' ∈ cs
  · obtain ⟨first, rest, rfl, hfirst⟩ := List.eq_append_cons_of_mem hslash
    have hfront : '/' ∉ left ++ first := List.not_mem_append (notMem_of_separators hleft) hfirst
    rw [← List.append_assoc, splitWhere_append (by decide), splitWhere_append (by decide),
      splitWhere_of_notMem hfront, splitWhere_of_notMem hfirst]
    simp [partTokens_append_left hleft]
  · have hfront : '/' ∉ left ++ cs := List.not_mem_append (notMem_of_separators hleft) hslash
    rw [splitWhere_of_notMem hfront, splitWhere_of_notMem hslash]
    simp [partTokens_append_left hleft]

/-- Blanks behind belong to the last part. -/
lemma reading_append_right (h : ∀ c ∈ right, isBlank c = true) (cs : List Char) :
    reading (cs ++ right) = reading cs := by
  have hright : ∀ c ∈ right, isSeparator c = true := fun c hc => isSeparator_of_isBlank (h c hc)
  refine ofParts_congr ?_
  by_cases hslash : '/' ∈ cs
  · obtain ⟨back, front, hcs, hback⟩ := List.eq_append_cons_of_mem (List.mem_reverse.2 hslash)
    have hsplit : cs = front.reverse ++ '/' :: back.reverse := by
      rw [← List.reverse_reverse cs, hcs]
      simp
    have hlast : '/' ∉ back.reverse := mt List.mem_reverse.1 hback
    have hbehind : '/' ∉ back.reverse ++ right :=
      List.not_mem_append hlast (notMem_of_separators hright)
    rw [hsplit, List.append_assoc, List.cons_append, splitWhere_append (by decide),
      splitWhere_append (by decide), splitWhere_of_notMem hlast, splitWhere_of_notMem hbehind]
    simp [partTokens_append_right hright]
  · have hbehind : '/' ∉ cs ++ right := List.not_mem_append hslash (notMem_of_separators hright)
    rw [splitWhere_of_notMem hbehind, splitWhere_of_notMem hslash]
    simp [partTokens_append_right hright]

lemma reading_trimChars (cs : List Char) : reading (trimChars cs) = reading cs := by
  obtain ⟨left, right, hsplit, hleft, hright⟩ := exists_trimChars cs
  conv_rhs => rw [hsplit, reading_append_right hright, reading_append_left hleft]

end Text

/-! ### The word for no unit -/

/-- The text is the word for no unit, in any case and with any blanks around it. -/
def SaysNone (s : String) : Prop := lower (trim s) = "unitless"

instance (s : String) : Decidable (SaysNone s) := inferInstanceAs (Decidable (_ = _))

/-- Every other text is read token by token. -/
lemma parse_eq_reading {s : String} (h : ¬SaysNone s) : parse s = (reading s.toList).simplify := by
  have hword : (lower (trim s) == "unitless") = false := beq_eq_false_iff_ne.2 h
  rw [parse, hword, Bool.or_false, ← reading_trimChars]
  split
  · rename_i hempty
    have hnil : trimChars s.toList = [] := by
      rw [String.isEmpty_iff, trim, ← String.toList_eq_nil_iff, String.toList_ofList] at hempty
      exact hempty
    rw [hnil]
    rfl
  · rw [trim, String.toList_ofList, reading]

section Word

variable {s t joint : String}

/-- No separator and no slash is in the word. -/
lemma not_mem_of_saysNone (h : SaysNone s) {c : Char} (hc : isSeparator c = true ∨ c = '/') :
    c ∉ trimChars s.toList := by
  have hforeign {c : Char} (hcase : Caseless c) (hmem : c ∉ "unitless".toList) :
      c ∉ trimChars s.toList := by
    intro hc
    rw [SaysNone] at h
    refine hmem (h ▸ hcase.mem_lower ?_)
    rwa [trim, String.toList_ofList]
  rcases hc with hc | rfl
  · simp only [isSeparator, Bool.or_eq_true, beq_iff_eq] at hc
    rcases hc with (rfl | rfl) | hblank
    · exact hforeign (by decide) (by decide)
    · exact hforeign (by decide) (by decide)
    · refine hforeign (caseless_of_isBlank hblank) fun hmem => ?_
      have hletters : "unitless".toList.all (fun c => !isBlank c) = true := by decide
      exact absurd hblank (by simpa using List.all_eq_true.1 hletters c hmem)
  · exact hforeign (by decide) (by decide)

lemma trimChars_ne_nil_of_saysNone (h : SaysNone s) : trimChars s.toList ≠ [] := by
  intro hnil
  rw [SaysNone, trim, hnil] at h
  exact absurd h (by decide)

/-- The word with blanks around it is the word. -/
lemma saysNone_of_split (h : SaysNone s) {left right : List Char}
    (hleft : ∀ c ∈ left, isBlank c = true) (hright : ∀ c ∈ right, isBlank c = true)
    (ht : t.toList = left ++ trimChars s.toList ++ right) : SaysNone t := by
  have hletters : ∀ c ∈ trimChars s.toList, isBlank c = false := by
    intro c hc
    by_contra hblank
    rw [Bool.not_eq_false] at hblank
    exact not_mem_of_saysNone h (Or.inl (isSeparator_of_isBlank hblank)) hc
  rw [SaysNone, trim, ht, trimChars_of_split hleft hletters hright (trimChars_ne_nil_of_saysNone h)]
  exact h

/-- A product is the word only if one of its factors is. -/
lemma saysNone_of_joined (hjoint : IsJoint joint.toList) (h : SaysNone (s ++ joint ++ t)) :
    SaysNone s ∨ SaysNone t := by
  obtain ⟨left, right, hsplit, hleft, hright⟩ := exists_trimChars (s ++ joint ++ t).toList
  have hpieces : left ++ trimChars (s ++ joint ++ t).toList ++ right =
      s.toList ++ joint.toList ++ t.toList := by
    rw [← hsplit, String.toList_append, String.toList_append]
  rcases append_eq_joined (trimChars_ne_nil_of_saysNone h) hjoint.ne_nil
      (fun c hc => not_mem_of_saysNone h (Or.inl (hjoint.separators c hc))) hpieces with
    ⟨r, hs, hr⟩ | ⟨l, ht, hl⟩
  · exact Or.inl (saysNone_of_split h hleft (fun c hc => hright c (hr.subset hc)) hs)
  · exact Or.inr (saysNone_of_split h (fun c hc => hleft c (hl.subset hc)) hright ht)

lemma not_saysNone_of_slash (h : '/' ∈ s.toList) : ¬SaysNone s := by
  intro hnone
  refine not_mem_of_saysNone hnone (Or.inr rfl) ?_
  have hmem := (mem_trim_iff (by decide) s).2 h
  rwa [trim, String.toList_ofList] at hmem

end Word

/-! ### Reading joined texts -/

section Joined

variable {s t joint : String}

lemma toList_joined : (s ++ joint ++ t).toList = s.toList ++ joint.toList ++ t.toList := by simp

lemma not_saysNone_joined (hs : ¬SaysNone s) (ht : ¬SaysNone t) (hjoint : IsJoint joint.toList) :
    ¬SaysNone (s ++ joint ++ t) :=
  fun h => (saysNone_of_joined hjoint h).elim hs ht

lemma net_parse {s : String} (h : ¬SaysNone s) (token : String) :
    (parse s).net token = (reading s.toList).net token := by
  rw [parse_eq_reading h, net_simplify]

lemma net_parse_slash (hs : ¬SaysNone s) (ht : ¬SaysNone t) (hslash : '/' ∉ t.toList)
    (token : String) :
    (parse (s ++ "/" ++ t)).net token = (parse s).net token - (parse t).net token := by
  have htext : (s ++ "/" ++ t).toList = s.toList ++ '/' :: t.toList := by simp
  have hjoined : ¬SaysNone (s ++ "/" ++ t) := not_saysNone_of_slash (by simp)
  rw [net_parse hjoined, net_parse hs, net_parse ht, htext, net_reading_slash hslash]

lemma net_parse_joined (hs : ¬SaysNone s) (ht : ¬SaysNone t) (hslash : '/' ∉ s.toList)
    (hslash' : '/' ∉ t.toList) (hjoint : IsJoint joint.toList) (token : String) :
    (parse (s ++ joint ++ t)).net token = (parse s).net token + (parse t).net token := by
  rw [net_parse (not_saysNone_joined hs ht hjoint), net_parse hs, net_parse ht, toList_joined,
    net_reading_joined hjoint hslash hslash']

end Joined

/-- **Reading turns joined texts into products and quotients.**  Let neither text be the word for
no unit, and let the second have no slash.  The two with a slash between them are read as the
quotient of their units; if the first has no slash either, the two with any dots, asterisks or
blanks between them are read as the product, whatever the joint and the order, and behind one
slash they are read as behind two. -/
theorem parse_joined {s t : String} (hs : ¬SaysNone s) (ht : ¬SaysNone t)
    (hslash : '/' ∉ t.toList) :
    (parse (s ++ "/" ++ t)).compatible (parse s / parse t) = true ∧
    ('/' ∉ s.toList → ∀ joint : String, IsJoint joint.toList →
      (parse (s ++ joint ++ t)).compatible (parse s * parse t) = true ∧
      (∀ joint' : String, IsJoint joint'.toList →
        (parse (s ++ joint ++ t)).compatible (parse (t ++ joint' ++ s)) = true) ∧
      ∀ r : String, ¬SaysNone r →
        (parse (r ++ "/" ++ s ++ "/" ++ t)).compatible (parse r / parse (s ++ joint ++ t)) = true ∧
        (parse (r ++ "/" ++ s ++ "/" ++ t)).compatible
          (parse (r ++ "/" ++ (s ++ joint ++ t))) = true) := by
  refine ⟨compatible_iff_net.2 fun token => ?_, fun hslash' joint hjoint =>
    ⟨compatible_iff_net.2 fun token => ?_,
      fun joint' hjoint' => compatible_iff_net.2 fun token => ?_, fun r hr => ?_⟩⟩
  · rw [net_parse_slash hs ht hslash, net_div]
  · rw [net_parse_joined hs ht hslash' hslash hjoint, net_mul]
  · rw [net_parse_joined hs ht hslash' hslash hjoint, net_parse_joined ht hs hslash hslash' hjoint']
    omega
  · have hproduct : '/' ∉ (s ++ joint ++ t).toList := by
      rw [toList_joined]
      exact List.not_mem_append
        (List.not_mem_append hslash' (notMem_of_separators hjoint.separators)) hslash
    have hquotient : ¬SaysNone (r ++ "/" ++ s) := not_saysNone_of_slash (by simp)
    -- two slashes in a row subtract what one slash in front of the product does
    have hnet (token : String) : (parse (r ++ "/" ++ s ++ "/" ++ t)).net token =
        (parse r).net token - (parse (s ++ joint ++ t)).net token := by
      rw [net_parse_slash hquotient ht hslash, net_parse_slash hr hs hslash',
        net_parse_joined hs ht hslash' hslash hjoint]
      omega
    constructor
    · exact compatible_iff_net.2 fun token => by rw [hnet, net_div]
    · refine compatible_iff_net.2 fun token => ?_
      rw [hnet, net_parse_slash hr (not_saysNone_joined hs ht hjoint) hproduct]

/-- Exponents of both signs, a lone `1`, empty parts and a joint of several separators: seconds to
the minus two, read below the line, count as square seconds above it. -/
theorem parse_joined_metres :
    ¬SaysNone " kg·m^-1 " ∧ ¬SaysNone "1 s^-2·m0" ∧ '/' ∉ "1 s^-2·m0".toList ∧
      (parse (" kg·m^-1 " ++ "/" ++ "1 s^-2·m0")).compatible
        (parse " kg·m^-1 " / parse "1 s^-2·m0") = true ∧
      (parse (" kg·m^-1 " ++ " *· " ++ "1 s^-2·m0")).compatible
        (parse " kg·m^-1 " * parse "1 s^-2·m0") = true ∧
      (parse ("J//" ++ "/" ++ " kg·m^-1 " ++ "/" ++ "1 s^-2·m0")).compatible
        (parse "J//" / parse (" kg·m^-1 " ++ " *· " ++ "1 s^-2·m0")) = true := by
  have hs : ¬SaysNone " kg·m^-1 " := by decide +kernel
  have ht : ¬SaysNone "1 s^-2·m0" := by decide +kernel
  have hr : ¬SaysNone "J//" := by decide +kernel
  have hjoint : IsJoint " *· ".toList :=
    ⟨by simp, List.all_eq_true.1 (by decide)⟩
  have hslash : '/' ∉ "1 s^-2·m0".toList := by decide
  obtain ⟨hquotient, hproduct⟩ := parse_joined hs ht hslash
  obtain ⟨hmul, -, hboth⟩ := hproduct (by decide) " *· " hjoint
  exact ⟨hs, ht, hslash, hquotient, hmul, (hboth "J//" hr).1⟩

/-- The first slash divides by all that follows. -/
example : parse "kg/m/s" = parse "kg/m·s" ∧ parse "kg/m^-1" = parse "kg*m" := by
  decide +kernel

end Worksheet.CompoundUnit
