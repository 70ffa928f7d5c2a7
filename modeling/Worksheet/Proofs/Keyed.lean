import Mathlib.Data.List.Nodup
import Mathlib.Tactic.Lemma
import Worksheet.Keyed

/-!
# Keyed lists as finite maps

What putting entries does to the two views of a keyed list: the entry under a key, and the sequence
of keys.  A later entry under the same key wins, and a key keeps the place where it first came in.
-/

namespace Worksheet.Keyed

variable {α : Type}

/-! ### Strings without repetition -/

/-- A list with one string more, unless the string is there already. -/
def withName (seen : List String) (name : String) : List String :=
  if name ∈ seen then seen else seen ++ [name]

lemma distinct_eq_foldl (names : List String) : distinct names = names.foldl withName [] := rfl

@[simp] lemma mem_withName {seen : List String} {first name : String} :
    name ∈ withName seen first ↔ name ∈ seen ∨ name = first := by
  unfold withName
  split
  · constructor
    · exact Or.inl
    · rintro (h | rfl)
      · exact h
      · assumption
  · rw [List.mem_append, List.mem_singleton]

lemma nodup_withName {seen : List String} (h : seen.Nodup) (name : String) :
    (withName seen name).Nodup := by
  unfold withName
  split
  · exact h
  · exact List.nodup_append.2 ⟨h, List.nodup_singleton _, by
      rintro a ha b hb rfl
      exact absurd ha (List.mem_singleton.1 hb ▸ ‹name ∉ seen›)⟩

lemma mem_foldl_withName {names seen : List String} {name : String} :
    name ∈ names.foldl withName seen ↔ name ∈ seen ∨ name ∈ names := by
  induction names generalizing seen with
  | nil => simp
  | cons first names ih => rw [List.foldl_cons, ih, mem_withName, List.mem_cons, or_assoc]

lemma nodup_foldl_withName {names seen : List String} (h : seen.Nodup) :
    (names.foldl withName seen).Nodup := by
  induction names generalizing seen with
  | nil => exact h
  | cons first names ih => exact ih (nodup_withName h first)

@[simp] lemma mem_distinct {names : List String} {name : String} :
    name ∈ distinct names ↔ name ∈ names := by
  simp [distinct_eq_foldl, mem_foldl_withName]

lemma nodup_distinct (names : List String) : (distinct names).Nodup :=
  nodup_foldl_withName List.nodup_nil

/-! ### Entries -/

lemma lookup_cons_ite (k' : String) (e : α) (entries : List (String × α)) (k : String) :
    ((k', e) :: entries).lookup k = if k = k' then some e else entries.lookup k := by
  by_cases h : k = k'
  · rw [if_pos h, h, List.lookup_cons_self]
  · rw [if_neg h, List.lookup_cons, beq_false_of_ne h]

lemma lookup_put (entries : List (String × α)) (key : String) (entry : α) (k : String) :
    (put entries key entry).lookup k = if k = key then some entry else entries.lookup k := by
  induction entries with
  | nil => rw [put, lookup_cons_ite]
  | cons pair rest ih =>
    obtain ⟨k', e'⟩ := pair
    by_cases hk : k' = key
    · rw [put, if_pos (by simpa using hk), lookup_cons_ite, lookup_cons_ite, hk]
      split <;> rfl
    · rw [put, if_neg (by simpa using hk), lookup_cons_ite, lookup_cons_ite, ih]
      by_cases h : k = k'
      · rw [if_pos h, if_pos h, if_neg (h ▸ hk)]
      · rw [if_neg h, if_neg h]

lemma lookup_put_self (entries : List (String × α)) (key : String) (entry : α) :
    (put entries key entry).lookup key = some entry := by
  rw [lookup_put, if_pos rfl]

lemma lookup_put_of_ne (entries : List (String × α)) {key k : String} (h : k ≠ key) (entry : α) :
    (put entries key entry).lookup k = entries.lookup k := by
  rw [lookup_put, if_neg h]

lemma mem_put {entries : List (String × α)} {key : String} {entry : α} {pair : String × α}
    (h : pair ∈ put entries key entry) : pair ∈ entries ∨ pair = (key, entry) := by
  induction entries with
  | nil => exact Or.inr (List.mem_singleton.1 h)
  | cons first rest ih =>
    rw [put] at h
    split at h
    · rename_i hkey
      rcases List.mem_cons.1 h with rfl | h
      · exact Or.inr (by rw [beq_iff_eq.1 hkey])
      · exact Or.inl (List.mem_cons_of_mem _ h)
    · rcases List.mem_cons.1 h with rfl | h
      · exact Or.inl List.mem_cons_self
      · exact (ih h).imp_left (List.mem_cons_of_mem _)

/-- The last pair with a key wins over the earlier ones and over the entry that was there. -/
lemma lookup_putAll (entries pairs : List (String × α)) (k : String) :
    (putAll entries pairs).lookup k = (pairs.reverse.lookup k).or (entries.lookup k) := by
  induction pairs generalizing entries with
  | nil => rfl
  | cons pair pairs ih =>
    obtain ⟨key, entry⟩ := pair
    have step : putAll entries ((key, entry) :: pairs) = putAll (put entries key entry) pairs := rfl
    rw [step, ih, List.reverse_cons, List.lookup_append, lookup_put, lookup_cons_ite,
      List.lookup_nil, Option.or_assoc]
    split <;> rfl

lemma lookup_ofPairs (pairs : List (String × α)) (k : String) :
    (ofPairs pairs).lookup k = pairs.reverse.lookup k := by
  rw [ofPairs, lookup_putAll, List.lookup_nil, Option.or_none]

lemma lookup_reverse_eq_none_iff {pairs : List (String × α)} {k : String} :
    pairs.reverse.lookup k = none ↔ k ∉ pairs.map (·.1) := by
  rw [List.lookup_eq_none_iff, List.mem_map]
  constructor
  · rintro h ⟨pair, hmem, rfl⟩
    exact bne_iff_ne.1 (h pair (List.mem_reverse.2 hmem)) rfl
  · intro h pair hmem
    exact bne_iff_ne.2 fun heq => h ⟨pair, List.mem_reverse.1 hmem, heq.symm⟩

/-- Renaming keys changes no entry as long as no other key takes the name of this one. -/
lemma lookup_map {β : Type} {pairs : List (String × α)} {k : String} (f : String → String)
    (g : α → β) (h : ∀ pair ∈ pairs, f pair.1 = f k → pair.1 = k) :
    (pairs.map fun pair => (f pair.1, g pair.2)).lookup (f k) = (pairs.lookup k).map g := by
  induction pairs with
  | nil => rfl
  | cons pair pairs ih =>
    rw [List.map_cons, lookup_cons_ite, lookup_cons_ite,
      ih fun pair' hmem => h pair' (List.mem_cons_of_mem pair hmem)]
    by_cases hk : k = pair.1
    · rw [if_pos hk, if_pos (congrArg f hk), Option.map_some]
    · rw [if_neg hk, if_neg fun heq => hk (h pair List.mem_cons_self heq.symm).symm]

/-- A key that no other name shares is found under its own name. -/
lemma lookup_map_of_mem {names : List String} {name : String} (f : String → String) (g : String → α)
    (hname : name ∈ names) (h : ∀ other ∈ names, f other = f name → other = name) :
    (names.map fun name => (f name, g name)).lookup (f name) = some (g name) := by
  induction names with
  | nil => exact absurd hname List.not_mem_nil
  | cons first names ih =>
    rw [List.forall_mem_cons] at h
    rw [List.map_cons, lookup_cons_ite]
    split
    · rename_i heq
      rw [h.1 heq.symm]
    · rename_i hne
      exact ih ((List.mem_cons.1 hname).resolve_left fun heq => hne (by rw [heq])) h.2

lemma lookup_erase (entries : List (String × α)) (key k : String) :
    (erase entries key).lookup k = if k = key then none else entries.lookup k := by
  induction entries with
  | nil => exact (ite_self none).symm
  | cons pair entries ih =>
    obtain ⟨first, entry⟩ := pair
    have herase : erase ((first, entry) :: entries) key =
        if first = key then erase entries key else (first, entry) :: erase entries key := by
      by_cases hfirst : first = key <;> simp [erase, hfirst]
    rw [herase, lookup_cons_ite]
    by_cases hfirst : first = key
    · subst hfirst
      rw [if_pos rfl, ih]
      by_cases hk : k = first <;> simp [hk]
    · rw [if_neg hfirst, lookup_cons_ite, ih]
      by_cases hk : k = first
      · rw [if_pos hk, if_pos hk, if_neg (hk ▸ hfirst)]
      · rw [if_neg hk, if_neg hk]

/-! ### Keys -/

lemma mem_keys_iff {entries : List (String × α)} {k : String} :
    k ∈ keys entries ↔ (entries.lookup k).isSome := by
  rw [List.lookup_isSome_iff, keys, List.mem_map]
  constructor
  · rintro ⟨pair, hmem, rfl⟩
    exact ⟨pair, hmem, by simp⟩
  · rintro ⟨pair, hmem, hk⟩
    exact ⟨pair, hmem, (by simpa using hk : k = pair.1).symm⟩

/-- Where no key is repeated, the entries are what the keys look up. -/
lemma lookup_eq_some_iff_of_nodup {entries : List (String × α)} {k : String} {a : α}
    (h : (keys entries).Nodup) : entries.lookup k = some a ↔ (k, a) ∈ entries := by
  induction entries with
  | nil => simp
  | cons pair entries ih =>
    obtain ⟨key, b⟩ := pair
    obtain ⟨hkey, hrest⟩ := List.nodup_cons.1 h
    rw [lookup_cons_ite, List.mem_cons]
    by_cases hk : k = key
    · subst hk
      have hout : (k, a) ∉ entries := fun hmem => hkey (List.mem_map.2 ⟨_, hmem, rfl⟩)
      simp [hout, eq_comm]
    · simp [hk, ih hrest]

lemma has_iff_mem_keys {entries : List (String × α)} {k : String} :
    has entries k = true ↔ k ∈ keys entries := by
  rw [has, List.any_eq_true, keys, List.mem_map]
  constructor <;> rintro ⟨pair, hmem, hk⟩ <;> exact ⟨pair, hmem, by simpa using hk⟩

lemma keys_put (entries : List (String × α)) (key : String) (entry : α) :
    keys (put entries key entry) = withName (keys entries) key := by
  induction entries with
  | nil => rfl
  | cons pair rest ih =>
    obtain ⟨k', e'⟩ := pair
    have hkeys : keys ((k', e') :: rest) = k' :: keys rest := rfl
    by_cases hk : k' = key
    · subst hk
      rw [put, if_pos (by simp), hkeys, withName, if_pos List.mem_cons_self]
      rfl
    · have hput : keys (put ((k', e') :: rest) key entry) = k' :: keys (put rest key entry) := by
        rw [put, if_neg (by simpa using hk)]
        rfl
      rw [hput, ih, hkeys, withName, withName]
      by_cases hmem : key ∈ keys rest
      · rw [if_pos hmem, if_pos (List.mem_cons_of_mem _ hmem)]
      · have hmem' : key ∉ k' :: keys rest := by
          rw [List.mem_cons]
          rintro (h | h)
          · exact hk h.symm
          · exact hmem h
        rw [if_neg hmem, if_neg hmem', List.cons_append]

lemma keys_ofPairs (pairs : List (String × α)) :
    keys (ofPairs pairs) = distinct (pairs.map (·.1)) := by
  suffices h : ∀ entries : List (String × α),
      keys (putAll entries pairs) = (pairs.map (·.1)).foldl withName (keys entries) from h []
  induction pairs with
  | nil => intro entries; rfl
  | cons pair pairs ih =>
    intro entries
    rw [List.map_cons, List.foldl_cons, ← keys_put]
    exact ih _

lemma put_of_not_mem {entries : List (String × α)} {key : String} (h : key ∉ keys entries)
    (entry : α) : put entries key entry = entries ++ [(key, entry)] := by
  induction entries with
  | nil => rfl
  | cons pair entries ih =>
    obtain ⟨hne, hrest⟩ := not_or.1 (List.mem_cons.not.1 h)
    rw [put, if_neg (by simpa using Ne.symm hne), ih hrest, List.cons_append]

/-- Entries under new keys, all of them different, go to the end. -/
lemma putAll_of_fresh {entries pairs : List (String × α)} (hkeys : (keys pairs).Nodup)
    (hfresh : ∀ key ∈ keys pairs, key ∉ keys entries) :
    putAll entries pairs = entries ++ pairs := by
  induction pairs generalizing entries with
  | nil => exact (List.append_nil _).symm
  | cons pair pairs ih =>
    obtain ⟨key, entry⟩ := pair
    obtain ⟨hkey, hrest⟩ := List.nodup_cons.1 hkeys
    have hput := put_of_not_mem (hfresh key List.mem_cons_self) entry
    have step : putAll entries ((key, entry) :: pairs) = putAll (put entries key entry) pairs := rfl
    rw [step, hput, ih hrest, List.append_assoc, List.singleton_append]
    intro k hk
    rw [keys, List.map_append, List.mem_append, List.map_singleton, List.mem_singleton]
    rintro (hold | rfl)
    · exact hfresh k (List.mem_cons_of_mem _ hk) hold
    · exact hkey hk

lemma mem_keys_put {entries : List (String × α)} {key k : String} {entry : α} :
    k ∈ keys (put entries key entry) ↔ k ∈ keys entries ∨ k = key := by
  rw [keys_put, mem_withName]

lemma mem_keys_ofPairs {pairs : List (String × α)} {k : String} :
    k ∈ keys (ofPairs pairs) ↔ k ∈ pairs.map (·.1) := by
  rw [keys_ofPairs, mem_distinct]

lemma mem_keys_erase {entries : List (String × α)} {key k : String} :
    k ∈ keys (erase entries key) ↔ k ∈ keys entries ∧ k ≠ key := by
  have hfilter : keys (erase entries key) = (keys entries).filter fun k => k != key := by
    rw [keys, keys, erase, List.filter_map]
    rfl
  rw [hfilter, List.mem_filter, bne_iff_ne]

end Worksheet.Keyed
