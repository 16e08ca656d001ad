import Mathlib.Data.List.Induction
import Metrology.Proofs.Text.Search

/-!
# Replacing in a text

`Substituted` says what a text becomes when the keys of a table are replaced all at once: the text
is cut from the left into keys and into characters at which no key begins, and the replacements take
the places of the keys. Replacing one key everywhere is of this kind (`substituted_replaceAll`).
Replacing several keys one after another comes to the same as replacing them at once, as long as no
key touches what was put in for an earlier one (`substituted_iff`).
-/

namespace Metrology.Text

variable {key replacement s t : List Char} {c : Char}
  {table : List (List Char × List Char)}

/-! ## One key -/

/-- A beginning can be dropped where the text begins with it. -/
theorem isSome_dropStart?_iff : (dropStart? key s).isSome = true ↔ key <+: s := by
  rw [Option.isSome_iff_exists]
  exact exists_congr fun t => dropStart?_eq_some_iff.trans eq_comm

/-- What is still to be passed is left out. -/
theorem replaceFrom_eq_drop (key replacement : List Char) (skip : Nat) (s : List Char) :
    replaceFrom key replacement skip s = replaceAll key replacement (s.drop skip) := by
  unfold replaceAll
  induction s generalizing skip with
  | nil =>
    rw [List.drop_nil, replaceFrom, replaceFrom]
  | cons c s ih =>
    cases skip with
    | zero => rfl
    | succ skip => rw [replaceFrom, ih, List.drop_succ_cons]

theorem replaceAll_nil (key replacement : List Char) : replaceAll key replacement [] = [] := by
  rw [replaceAll, replaceFrom]

/-- A text that begins with the key has it replaced there. -/
theorem replaceAll_append (hkey : key ≠ []) (replacement s : List Char) :
    replaceAll key replacement (key ++ s) = replacement ++ replaceAll key replacement s := by
  obtain ⟨c, rest, rfl⟩ := List.exists_cons_of_ne_nil hkey
  have hbegins : (dropStart? (c :: rest) (c :: (rest ++ s))).isSome = true :=
    isSome_dropStart?_iff.2 (List.prefix_append (c :: rest) s)
  rw [List.cons_append, replaceAll, replaceFrom, if_pos hbegins, replaceFrom_eq_drop,
    List.drop_left]

/-- Where the key does not begin, one character is passed. -/
theorem replaceAll_cons (h : ¬key <+: c :: s) (replacement : List Char) :
    replaceAll key replacement (c :: s) = c :: replaceAll key replacement s := by
  cases key with
  | nil => exact absurd List.nil_prefix h
  | cons d rest =>
    rw [replaceAll, replaceFrom, if_neg (mt isSome_dropStart?_iff.1 h), replaceFrom_eq_drop,
      List.drop_zero]

/-- A key does not begin in a text without its first character. -/
theorem replaceAll_append_of_forall (hkey : key ≠ []) {front : List Char}
    (h : ∀ c ∈ front, key.head? ≠ some c) (replacement s : List Char) :
    replaceAll key replacement (front ++ s) = front ++ replaceAll key replacement s := by
  induction front with
  | nil => rfl
  | cons c front ih =>
    have hbegins : ¬key <+: c :: (front ++ s) := by
      rintro ⟨rest, hrest⟩
      obtain ⟨d, key, rfl⟩ := List.exists_cons_of_ne_nil hkey
      obtain ⟨rfl, -⟩ := List.cons.inj hrest
      exact h d List.mem_cons_self rfl
    rw [List.cons_append, replaceAll_cons hbegins, List.cons_append,
      ih fun d hd => h d (List.mem_cons_of_mem c hd)]

/-! ## Several keys -/

/-- The second text is the first one with the keys of the table replaced, all at once. -/
inductive Substituted (table : List (List Char × List Char)) : List Char → List Char → Prop
  | nil : Substituted table [] []
  | key {key replacement s t : List Char} (h : (key, replacement) ∈ table)
      (ht : Substituted table s t) : Substituted table (key ++ s) (replacement ++ t)
  | char {c : Char} {s t : List Char} (h : ∀ e ∈ table, ¬e.1 <+: c :: s)
      (ht : Substituted table s t) : Substituted table (c :: s) (c :: t)

theorem substituted_nil (s : List Char) : Substituted [] s s := by
  induction s with
  | nil => exact .nil
  | cons c s ih => exact .char (by simp) ih

/-- Where no key is empty and none begins with another one, a text becomes one text only. -/
theorem Substituted.unique {t' : List Char} (hne : ∀ e ∈ table, e.1 ≠ [])
    (hbegin : ∀ e ∈ table, ∀ e' ∈ table, e.1 <+: e'.1 → e = e') (h : Substituted table s t)
    (h' : Substituted table s t') : t = t' := by
  induction h generalizing t' with
  | nil =>
    generalize hs : ([] : List Char) = s at h'
    cases h' with
    | nil => rfl
    | key hk _ => exact absurd (List.append_eq_nil_iff.1 hs.symm).1 (hne _ hk)
    | char _ _ => cases hs
  | @key key replacement s t hk ht ih =>
    generalize hs : key ++ s = s' at h'
    cases h' with
    | nil => exact absurd (List.append_eq_nil_iff.1 hs).1 (hne _ hk)
    | @key key' replacement' s' t' hk' ht' =>
      -- of two keys that begin at one place, one begins with the other
      have heq : (key, replacement) = (key', replacement') := by
        rcases List.prefix_or_prefix_of_prefix (List.prefix_append key s)
          (hs ▸ List.prefix_append key' s') with hpre | hpre
        · exact hbegin _ hk _ hk' hpre
        · exact (hbegin _ hk' _ hk hpre).symm
      obtain ⟨rfl, rfl⟩ := Prod.mk.inj heq
      rw [ih (List.append_cancel_left hs ▸ ht')]
    | char hc _ => exact absurd (hs ▸ List.prefix_append key s) (hc _ hk)
  | @char c s t hc ht ih =>
    generalize hs : c :: s = s' at h'
    cases h' with
    | nil => cases hs
    | @key key' _ s' _ hk' _ => exact absurd (hs ▸ List.prefix_append key' s') (hc _ hk')
    | char _ ht' =>
      obtain ⟨rfl, rfl⟩ := List.cons.inj hs
      rw [ih ht']

/-- A later key does not touch what was put in for an earlier one, nor the earlier key where it
stood: they share no character with it, nothing vanishes between two characters of the later key,
and the earlier key does not begin inside of it. -/
structure Apart (earlier later : List Char × List Char) : Prop where
  disjoint : ∀ c ∈ later.1, c ∉ earlier.2
  solid : earlier.2 ≠ [] ∨ later.1.tail = []
  outside : ∀ c ∈ later.1.tail, earlier.1.head? ≠ some c

/-- What no replacement has a share in stood there before. -/
theorem Substituted.exists_of_append {front : List Char} (h : Substituted table s (front ++ t))
    (hdisjoint : ∀ e ∈ table, ∀ c ∈ front, c ∉ e.2)
    (hsolid : ∀ e ∈ table, e.2 ≠ [] ∨ front = []) :
    ∃ s', s = front ++ s' ∧ Substituted table s' t := by
  induction front generalizing s with
  | nil => exact ⟨s, rfl, h⟩
  | cons c front ih =>
    generalize hu : c :: front ++ t = u at h
    cases h with
    | nil => cases hu
    | @key key replacement s' t' hk ht =>
      -- a replacement holds no character of the front
      rcases hsolid _ hk with hne | hnil
      · obtain ⟨d, rest, rfl⟩ := List.exists_cons_of_ne_nil hne
        obtain ⟨rfl, -⟩ := List.cons.inj hu
        exact absurd List.mem_cons_self (hdisjoint _ hk c List.mem_cons_self)
      · cases hnil
    | @char d s' t' hd ht =>
      obtain ⟨rfl, rfl⟩ := List.cons.inj hu
      obtain ⟨s'', rfl, hs''⟩ := ih ht
        (fun e he b hb => hdisjoint e he b (List.mem_cons_of_mem c hb))
        fun e he => (hsolid e he).imp_right fun hnil => nomatch hnil
      exact ⟨s'', rfl, hs''⟩

/-- Where no key begins, all characters stay. -/
theorem Substituted.exists_append_of {front : List Char} (h : Substituted table (front ++ s) t)
    (hne : ∀ e ∈ table, e.1 ≠ []) (houtside : ∀ e ∈ table, ∀ c ∈ front, e.1.head? ≠ some c) :
    ∃ t', t = front ++ t' ∧ Substituted table s t' := by
  induction front generalizing t with
  | nil => exact ⟨t, rfl, h⟩
  | cons c front ih =>
    generalize hu : c :: front ++ s = u at h
    cases h with
    | nil => cases hu
    | @key key replacement s' t' hk ht =>
      obtain ⟨d, rest, rfl⟩ := List.exists_cons_of_ne_nil (hne _ hk)
      obtain ⟨rfl, -⟩ := List.cons.inj hu
      -- no key begins in the front
      exact absurd rfl (houtside _ hk c List.mem_cons_self)
    | @char d s' t' hd ht =>
      obtain ⟨rfl, rfl⟩ := List.cons.inj hu
      obtain ⟨t'', rfl, ht''⟩ := ih ht
        fun e he b hb => houtside e he b (List.mem_cons_of_mem c hb)
      exact ⟨t'', rfl, ht''⟩

/-- To replace one more key afterwards is to replace it along with the others. -/
theorem Substituted.replaceAll (h : Substituted table s t) (hne : ∀ e ∈ table, e.1 ≠ [])
    (hkey : key ≠ []) (hapart : ∀ e ∈ table, Apart e (key, replacement)) :
    Substituted (table ++ [(key, replacement)]) s (Text.replaceAll key replacement t) := by
  -- the text gets shorter by a key or by a character at every step
  induction hn : s.length using Nat.strongRecOn generalizing s t with
  | ind n ih =>
    cases h with
    | nil =>
      rw [replaceAll_nil]
      exact .nil
    | @key key' replacement' s t hk ht =>
      have hfront : ∀ c ∈ replacement', key.head? ≠ some c := fun c hc hhead =>
        (hapart _ hk).disjoint c (List.mem_of_head? hhead) hc
      have hlt : s.length < n := by
        have hpos : 0 < key'.length := List.length_pos_iff.2 (hne _ hk)
        rw [← hn, List.length_append]
        omega
      rw [replaceAll_append_of_forall hkey hfront]
      exact .key (List.mem_append_left _ hk) (ih _ hlt ht rfl)
    | @char c s t hc ht =>
      by_cases hbegins : key <+: c :: t
      · obtain ⟨t', ht'⟩ := hbegins
        obtain ⟨d, rest, rfl⟩ := List.exists_cons_of_ne_nil hkey
        rw [List.cons_append] at ht'
        obtain ⟨rfl, rfl⟩ := List.cons.inj ht'
        obtain ⟨s', rfl, hs'⟩ := ht.exists_of_append
          (fun e he b hb => (hapart e he).disjoint b (List.mem_cons_of_mem d hb))
          fun e he => (hapart e he).solid
        have hlt : s'.length < n := by
          rw [← hn, List.length_cons, List.length_append]
          omega
        rw [← List.cons_append, ← List.cons_append, replaceAll_append hkey]
        exact .key (List.mem_append_right _ (List.mem_singleton.2 rfl)) (ih _ hlt hs' rfl)
      · rw [replaceAll_cons hbegins]
        refine .char (fun e he => ?_) (ih _ (by simp [← hn]) ht rfl)
        rcases List.mem_append.1 he with he | he
        · exact hc e he
        · -- a key that stood here before would still be here
          obtain rfl := List.mem_singleton.1 he
          rintro ⟨s', hs'⟩
          obtain ⟨d, rest, rfl⟩ := List.exists_cons_of_ne_nil hkey
          rw [List.cons_append] at hs'
          obtain ⟨rfl, rfl⟩ := List.cons.inj hs'
          obtain ⟨t', rfl, -⟩ := ht.exists_append_of hne fun e he => (hapart e he).outside
          exact hbegins (List.prefix_append (d :: rest) t')

/-- Replacing all occurrences is one substitution. -/
theorem substituted_replaceAll (hkey : key ≠ []) (replacement s : List Char) :
    Substituted [(key, replacement)] s (replaceAll key replacement s) :=
  (substituted_nil s).replaceAll (by simp) hkey (by simp)

/-- Replacing keys that are apart one after another replaces them at once. -/
theorem substituted_foldl (hne : ∀ e ∈ table, e.1 ≠ []) (hapart : table.Pairwise Apart)
    (s : List Char) :
    Substituted table s (table.foldl (fun s e => replaceAll e.1 e.2 s) s) := by
  induction table using List.reverseRecOn with
  | nil => exact substituted_nil s
  | append_singleton table e ih =>
    obtain ⟨htable, -, he⟩ := List.pairwise_append.1 hapart
    have hfront : ∀ e' ∈ table, e'.1 ≠ [] := fun e' he' => hne e' (List.mem_append_left _ he')
    rw [List.foldl_append]
    exact (ih hfront htable).replaceAll hfront (hne e (by simp))
      fun e' he' => he e' he' e (List.mem_singleton.2 rfl)

/-- Keys of which none begins with another one and which are apart are replaced at once by replacing
them one after another. -/
theorem substituted_iff (hne : ∀ e ∈ table, e.1 ≠ [])
    (hbegin : ∀ e ∈ table, ∀ e' ∈ table, e.1 <+: e'.1 → e = e') (hapart : table.Pairwise Apart) :
    Substituted table s t ↔ t = table.foldl (fun s e => replaceAll e.1 e.2 s) s := by
  constructor
  · exact fun h => h.unique hne hbegin (substituted_foldl hne hapart s)
  · rintro rfl
    exact substituted_foldl hne hapart s

end Metrology.Text
