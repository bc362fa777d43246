import Mathlib.Data.List.Induction
import Mathlib.Data.List.Sort
import Mathlib.Algebra.Order.Floor.Ring
import Mathlib.Data.Rat.Floor

/-!
# The host language: sorting, maps, numerals and instants

The parts of the JavaScript standard library a translated program computes with, following the
language's documented behaviour: the default sort by UTF-16 code units, insertion-ordered maps,
`Number(string)` as far as a small whole number is read from it, the safe-integer test, `Date.UTC`
and `toISOString`. JSON values, which travel through a program unread, close the module.
-/

namespace Js

/-! ## Strings and sorting -/

/-- The UTF-16 code units of a character. -/
def utf16 (c : Char) : List ℕ :=
  let n := c.toNat
  if n < 0x10000 then [n] else [0xD800 + (n - 0x10000) / 0x400, 0xDC00 + (n - 0x10000) % 0x400]

/-- Lexicographic order of code units, the one `<` and the default `sort` use. -/
def unitsLe : List ℕ → List ℕ → Bool
  | [], _ => true
  | _ :: _, [] => false
  | a :: as, b :: bs => a < b || (a == b && unitsLe as bs)

/-- `left <= right` on strings. -/
def strLe (left right : String) : Bool :=
  unitsLe (left.toList.flatMap utf16) (right.toList.flatMap utf16)

/-- `xs.sort()` on strings. -/
def sort (xs : List String) : List String := xs.insertionSort fun a b => strLe a b = true

theorem sort_perm (xs : List String) : (sort xs).Perm xs := List.perm_insertionSort _ xs

@[simp] theorem mem_sort {x : String} {xs : List String} : x ∈ sort xs ↔ x ∈ xs :=
  (sort_perm xs).mem_iff

@[simp] theorem length_sort (xs : List String) : (sort xs).length = xs.length :=
  (sort_perm xs).length_eq

theorem nodup_sort {xs : List String} : (sort xs).Nodup ↔ xs.Nodup := (sort_perm xs).nodup_iff

/-! ### The order of strings -/

theorem unitsLe_total : ∀ us vs : List ℕ, unitsLe us vs = true ∨ unitsLe vs us = true
  | [], _ => Or.inl rfl
  | _ :: _, [] => Or.inr rfl
  | u :: us, v :: vs => by
    rcases lt_trichotomy u v with h | rfl | h
    · exact Or.inl (by simp [unitsLe, h])
    · simpa [unitsLe] using unitsLe_total us vs
    · exact Or.inr (by simp [unitsLe, h])

theorem unitsLe_antisymm : ∀ {us vs : List ℕ}, unitsLe us vs = true → unitsLe vs us = true →
    us = vs
  | [], [], _, _ => rfl
  | [], _ :: _, _, h => by cases h
  | _ :: _, [], h, _ => by cases h
  | u :: us, v :: vs, h, h' => by
    simp only [unitsLe, Bool.or_eq_true, Bool.and_eq_true, decide_eq_true_eq, beq_iff_eq] at h h'
    have huv : u = v := by omega
    subst huv
    have htail : us = vs := unitsLe_antisymm (by simpa using h) (by simpa using h')
    rw [htail]

theorem unitsLe_trans : ∀ {us vs ws : List ℕ}, unitsLe us vs = true → unitsLe vs ws = true →
    unitsLe us ws = true
  | [], _, _, _, _ => rfl
  | _ :: _, [], _, h, _ => by cases h
  | _ :: _, _ :: _, [], _, h => by cases h
  | u :: us, v :: vs, w :: ws, h, h' => by
    simp only [unitsLe, Bool.or_eq_true, Bool.and_eq_true, decide_eq_true_eq, beq_iff_eq] at h h' ⊢
    rcases h with h | ⟨rfl, h⟩
    · rcases h' with h' | ⟨rfl, -⟩
      · exact Or.inl (h.trans h')
      · exact Or.inl h
    · rcases h' with h' | ⟨rfl, h'⟩
      · exact Or.inl h'
      · exact Or.inr ⟨rfl, unitsLe_trans h h'⟩

/-- No character is encoded as a lone half of a surrogate pair. -/
theorem utf16_injective : ∀ {cs cs' : List Char}, cs.flatMap utf16 = cs'.flatMap utf16 → cs = cs'
  | [], [], _ => rfl
  | [], c :: _, h => by
    rw [List.flatMap_nil, List.flatMap_cons, utf16] at h
    split at h <;> cases h
  | c :: _, [], h => by
    rw [List.flatMap_nil, List.flatMap_cons, utf16] at h
    split at h <;> cases h
  | c :: cs, c' :: cs', h => by
    have hc : c.toNat < 0xD800 ∨ 0xDFFF < c.toNat ∧ c.toNat < 0x110000 := c.valid
    have hc' : c'.toNat < 0xD800 ∨ 0xDFFF < c'.toNat ∧ c'.toNat < 0x110000 := c'.valid
    have hunits : c.toNat = c'.toNat ∧ cs.flatMap utf16 = cs'.flatMap utf16 := by
      simp only [List.flatMap_cons, utf16] at h
      split at h <;> split at h <;>
        simp only [List.cons_append, List.nil_append, List.cons.injEq] at h
      · exact h
      · omega
      · omega
      · exact ⟨by omega, h.2.2⟩
    rw [Char.toNat_inj.mp hunits.1, utf16_injective hunits.2]

theorem strLe_antisymm {a b : String} (h : strLe a b = true) (h' : strLe b a = true) : a = b :=
  String.toList_inj.mp (utf16_injective (unitsLe_antisymm h h'))

/-- Sorting forgets the order. -/
theorem sort_eq_of_perm {xs ys : List String} (h : xs.Perm ys) : sort xs = sort ys := by
  have hsorted : ∀ zs, (sort zs).Pairwise fun a b => strLe a b = true := by
    intro zs
    have : Std.Total fun a b : String => strLe a b = true := ⟨fun a b => unitsLe_total _ _⟩
    have : IsTrans String fun a b => strLe a b = true := ⟨fun a b c => unitsLe_trans⟩
    exact List.pairwise_insertionSort _ zs
  exact (((sort_perm xs).trans h).trans (sort_perm ys).symm).eq_of_pairwise
    (fun a b _ _ => strLe_antisymm) (hsorted xs) (hsorted ys)

/-- `[...new Set(xs)]`: the first occurrence of each element, in order. -/
def unique {κ : Type} [DecidableEq κ] (xs : List κ) : List κ :=
  xs.foldl (fun seen x => if x ∈ seen then seen else seen ++ [x]) []

section Unique

variable {κ : Type} [DecidableEq κ]

private theorem foldl_unique (xs : List κ) :
    ∀ seen : List κ, seen.Nodup →
      let out := xs.foldl (fun seen x => if x ∈ seen then seen else seen ++ [x]) seen
      out.Nodup ∧ ∀ x, x ∈ out ↔ x ∈ seen ∨ x ∈ xs := by
  induction xs with
  | nil => exact fun seen h => ⟨h, by simp⟩
  | cons a xs ih =>
    intro seen h
    by_cases ha : a ∈ seen
    · obtain ⟨hn, hm⟩ := ih seen h
      simp only [List.foldl_cons, ha, if_true]
      refine ⟨hn, fun x => ?_⟩
      rw [hm x, List.mem_cons]
      constructor
      · rintro (h | h)
        · exact Or.inl h
        · exact Or.inr (Or.inr h)
      · rintro (h | rfl | h)
        · exact Or.inl h
        · exact Or.inl ha
        · exact Or.inr h
    · have hseen : (seen ++ [a]).Nodup := by
        rw [List.nodup_append]
        refine ⟨h, List.nodup_singleton a, fun x hx y hy => ?_⟩
        rw [List.mem_singleton] at hy
        rintro rfl
        exact ha (hy ▸ hx)
      obtain ⟨hn, hm⟩ := ih (seen ++ [a]) hseen
      simp only [List.foldl_cons, ha, if_false]
      refine ⟨hn, fun x => ?_⟩
      rw [hm x, List.mem_append, List.mem_singleton, List.mem_cons, or_assoc]

theorem nodup_unique (xs : List κ) : (unique xs).Nodup := (foldl_unique xs [] List.nodup_nil).1

@[simp] theorem mem_unique {x : κ} {xs : List κ} : x ∈ unique xs ↔ x ∈ xs := by
  simpa [unique] using (foldl_unique xs [] List.nodup_nil).2 x

/-- A list that loses nothing to `new Set` has no repetition. -/
theorem nodup_of_length_unique {xs : List κ} (h : (unique xs).length = xs.length) : xs.Nodup := by
  have hsub : (unique xs).Subperm xs :=
    List.subperm_of_subset (nodup_unique xs) fun x hx => mem_unique.mp hx
  exact (hsub.perm_of_length_le h.ge).nodup_iff.mp (nodup_unique xs)

theorem length_unique {xs : List κ} (h : xs.Nodup) : (unique xs).length = xs.length :=
  ((List.perm_ext_iff_of_nodup (nodup_unique xs) h).mpr fun _ => mem_unique).length_eq

end Unique

/-! ## Maps -/

section Maps

variable {κ ν : Type} [DecidableEq κ]

/-- `map.set(k, v)` on the entries of a map: an existing key keeps its place. -/
def mapSet (m : List (κ × ν)) (k : κ) (v : ν) : List (κ × ν) :=
  if m.any fun e => e.1 = k then m.map fun e => if e.1 = k then (k, v) else e else m ++ [(k, v)]

/-- `map.delete(k)`. -/
def mapDelete (m : List (κ × ν)) (k : κ) : List (κ × ν) := m.filter fun e => e.1 ≠ k

/-- `new Map(entries)`. -/
def mapOf (entries : List (κ × ν)) : List (κ × ν) := entries.foldl (fun m e => mapSet m e.1 e.2) []

/-- `map.get(k)`. -/
def mapGet (m : List (κ × ν)) (k : κ) : Option ν := (m.find? fun e => e.1 = k).map Prod.snd

theorem mapGet_mapSet_self (m : List (κ × ν)) (k : κ) (v : ν) : mapGet (mapSet m k v) k = some v := by
  rw [mapGet, mapSet]
  split
  · rename_i h
    induction m with
    | nil => simp at h
    | cons e m ih =>
      by_cases he : e.1 = k
      · simp [he]
      · rw [List.any_cons, decide_eq_false he, Bool.false_or] at h
        simpa [he] using ih h
  · rename_i h
    have hnone : m.find? (fun e => e.1 = k) = none := by
      rw [List.find?_eq_none]
      intro e he hk
      exact h (List.any_eq_true.mpr ⟨e, he, hk⟩)
    simp [List.find?_append, hnone]

/-- Setting a key again replaces the value. -/
theorem mapSet_mapSet (m : List (κ × ν)) (k : κ) (v v' : ν) :
    mapSet (mapSet m k v) k v' = mapSet m k v' := by
  have hset : (mapSet m k v).any (fun e => e.1 = k) = true := by
    rw [mapSet]
    split
    · rename_i hany
      obtain ⟨e, he, hk⟩ := List.any_eq_true.mp hany
      refine List.any_eq_true.mpr ⟨(k, v), List.mem_map.mpr ⟨e, he, ?_⟩, decide_eq_true rfl⟩
      rw [if_pos (of_decide_eq_true hk)]
    · simp
  rw [mapSet, if_pos hset, mapSet, mapSet]
  split
  · rw [List.map_map]
    refine List.map_congr_left fun e _ => ?_
    by_cases he : e.1 = k <;> simp [he]
  · rename_i hany
    have hne : ∀ e ∈ m, e.1 ≠ k := fun e he hk =>
      hany (List.any_eq_true.mpr ⟨e, he, decide_eq_true hk⟩)
    rw [List.map_append, List.map_cons, List.map_nil, if_pos rfl,
      List.map_congr_left fun e he => if_neg (hne e he), List.map_id']

theorem mapGet_mapSet_ne (m : List (κ × ν)) {k k' : κ} (v : ν) (h : k' ≠ k) :
    mapGet (mapSet m k v) k' = mapGet m k' := by
  simp only [mapGet, mapSet]
  split
  · rename_i hany
    clear hany
    induction m with
    | nil => rfl
    | cons e m ih =>
      by_cases he : e.1 = k
      · simpa [he, h, Ne.symm h] using ih
      · by_cases hk : e.1 = k' <;> simp_all
  · simp [List.find?_append, Ne.symm h]

/-- What is in a map after setting a key: the rest, and the new entry. -/
theorem mem_mapSet_iff {m : List (κ × ν)} {k : κ} {v : ν} {e : κ × ν} :
    e ∈ mapSet m k v ↔ (e ∈ m ∧ e.1 ≠ k) ∨ e = (k, v) := by
  rw [mapSet]
  split
  · rename_i hany
    obtain ⟨found, hfound, hkey⟩ := List.any_eq_true.mp hany
    constructor
    · intro h
      obtain ⟨e', he', rfl⟩ := List.mem_map.mp h
      split
      · exact Or.inr rfl
      · rename_i hne
        exact Or.inl ⟨he', hne⟩
    · rintro (⟨he, hne⟩ | rfl)
      · exact List.mem_map.mpr ⟨e, he, if_neg hne⟩
      · exact List.mem_map.mpr ⟨found, hfound, if_pos (of_decide_eq_true hkey)⟩
  · rename_i hany
    simp only [List.any_eq_true, decide_eq_true_eq, not_exists, not_and] at hany
    rw [List.mem_append, List.mem_singleton]
    exact or_congr_left ⟨fun he => ⟨he, hany e he⟩, And.left⟩

theorem mem_mapSet {m : List (κ × ν)} {k : κ} {v : ν} {e : κ × ν} (h : e ∈ mapSet m k v) :
    e ∈ m ∨ e = (k, v) :=
  (mem_mapSet_iff.mp h).imp_left And.left

theorem mapGet_mapDelete_self (m : List (κ × ν)) (k : κ) : mapGet (mapDelete m k) k = none := by
  rw [mapGet, mapDelete, Option.map_eq_none_iff, List.find?_eq_none]
  intro e he
  simpa using (List.mem_filter.mp he).2

theorem mapGet_mapDelete_ne (m : List (κ × ν)) {k k' : κ} (h : k' ≠ k) :
    mapGet (mapDelete m k) k' = mapGet m k' := by
  simp only [mapGet, mapDelete]
  induction m with
  | nil => rfl
  | cons e m ih =>
    by_cases he : e.1 = k
    · simpa [he, Ne.symm h] using ih
    · by_cases hk : e.1 = k' <;> simp_all

theorem mem_of_mem_mapDelete {m : List (κ × ν)} {k : κ} {e : κ × ν} (h : e ∈ mapDelete m k) :
    e ∈ m := (List.mem_filter.mp h).1

/-- `new Map(entries)` answers each entry, where no key is repeated. -/
theorem mapGet_mapOf {entries : List (κ × ν)} (h : (entries.map Prod.fst).Nodup) {e : κ × ν}
    (he : e ∈ entries) : mapGet (mapOf entries) e.1 = some e.2 := by
  induction entries using List.reverseRecOn with
  | nil => cases he
  | append_singleton entries last ih =>
    rw [List.map_append, List.nodup_append] at h
    obtain ⟨hnodup, -, hapart⟩ := h
    rw [mapOf, List.foldl_append, List.foldl_cons, List.foldl_nil, ← mapOf]
    rcases List.mem_append.mp he with he | he
    · have hne : e.1 ≠ last.1 :=
        hapart e.1 (List.mem_map_of_mem he) last.1 (by simp)
      rw [mapGet_mapSet_ne _ _ hne]
      exact ih hnodup he
    · obtain rfl := List.mem_singleton.mp he
      exact mapGet_mapSet_self _ _ _

theorem mem_of_mapGet {m : List (κ × ν)} {k : κ} {v : ν} (h : mapGet m k = some v) : (k, v) ∈ m := by
  obtain ⟨⟨k', v'⟩, hfind, rfl⟩ := Option.map_eq_some_iff.mp h
  have hk : k' = k := by simpa using List.find?_some hfind
  exact hk ▸ List.mem_of_find?_eq_some hfind

/-- What `new Map(entries)` answers is one of the entries. -/
theorem mem_of_mapGet_mapOf {entries : List (κ × ν)} {k : κ} {v : ν}
    (h : mapGet (mapOf entries) k = some v) : (k, v) ∈ entries := by
  have hsub : ∀ (es m : List (κ × ν)) (e : κ × ν),
      e ∈ es.foldl (fun m e => mapSet m e.1 e.2) m → e ∈ m ∨ e ∈ es := by
    intro es
    induction es with
    | nil => exact fun m e h => .inl h
    | cons e' es ih =>
      intro m e h
      rcases ih _ e h with h | h
      · rcases mem_mapSet h with h | rfl
        · exact .inl h
        · exact .inr (List.mem_cons_self ..)
      · exact .inr (List.mem_cons_of_mem _ h)
  exact (hsub entries [] _ (mem_of_mapGet h)).resolve_left List.not_mem_nil

/-- `new Map(entries)` lists its entries as they are, where no key is repeated. -/
theorem mapOf_eq {entries : List (κ × ν)} (h : (entries.map Prod.fst).Nodup) : mapOf entries = entries := by
  induction entries using List.reverseRecOn with
  | nil => rfl
  | append_singleton entries last ih =>
    rw [List.map_append, List.nodup_append] at h
    obtain ⟨hnodup, -, hapart⟩ := h
    have hnew : ¬ (entries.any fun e => e.1 = last.1) = true := by
      intro hany
      obtain ⟨e, he, hkey⟩ := List.any_eq_true.mp hany
      exact hapart e.1 (List.mem_map_of_mem he) last.1 (by simp) (by simpa using hkey)
    rw [mapOf, List.foldl_append, List.foldl_cons, List.foldl_nil, ← mapOf, ih hnodup, mapSet,
      if_neg hnew]

theorem isSome_mapGet {m : List (κ × ν)} {k : κ} : (mapGet m k).isSome = true ↔ k ∈ m.map Prod.fst := by
  simp [mapGet]

/-- A map listed key by key answers each of its keys. -/
theorem mapGet_map {keys : List κ} {f : κ → ν} {k : κ} (hk : k ∈ keys) :
    mapGet (keys.map fun key => (key, f key)) k = some (f k) := by
  induction keys with
  | nil => cases hk
  | cons key keys ih =>
    by_cases h : key = k
    · simp [mapGet, h]
    · rw [List.map_cons, mapGet, List.find?_cons_of_neg (by simpa using h)]
      exact ih ((List.mem_cons.mp hk).resolve_left (Ne.symm h))

end Maps

/-! ## Numbers -/

/-- `Number.MAX_SAFE_INTEGER`. -/
def maxSafe : ℤ := 2 ^ 53 - 1

/-- `Number.isSafeInteger`, of a whole number. -/
def isSafe (n : ℤ) : Bool := -maxSafe ≤ n && n ≤ maxSafe

/-- The whole number nearest to `q`; halfway between two, the even one. -/
def nearestEven (q : ℚ) : ℤ :=
  let n := ⌊q⌋
  if q - n < 1 / 2 ∨ (q - n = 1 / 2 ∧ n % 2 = 0) then n else n + 1

/-- The place of the leading bit of a positive number. -/
def leadingBit (q : ℚ) : ℤ :=
  if 1 ≤ q then ⌊q⌋.toNat.log2 else -((⌈q⁻¹⌉.toNat - 1).log2 + 1)

/-- The double nearest to `q`, for a `q` that is neither too large nor too small to have one of 53
bits. -/
def double (q : ℚ) : ℚ :=
  if q = 0 then 0
  else
    let unit : ℚ := 2 ^ (leadingBit |q| - 52)
    nearestEven (q / unit) * unit

theorem nearestEven_nonneg {q : ℚ} (h : 0 ≤ q) : 0 ≤ nearestEven q := by
  have hfloor : 0 ≤ ⌊q⌋ := Int.floor_nonneg.mpr h
  unfold nearestEven
  dsimp only
  split <;> omega

theorem double_nonneg {q : ℚ} (h : 0 ≤ q) : 0 ≤ double q := by
  rw [double]
  split
  · exact le_rfl
  · have hunit : (0 : ℚ) < 2 ^ (leadingBit |q| - 52) := zpow_pos (by norm_num) _
    have hnearest : 0 ≤ nearestEven (q / 2 ^ (leadingBit |q| - 52)) :=
      nearestEven_nonneg (div_nonneg h hunit.le)
    exact mul_nonneg (by exact_mod_cast hnearest) hunit.le

theorem nearestEven_bounds (q : ℚ) : ⌊q⌋ ≤ nearestEven q ∧ nearestEven q ≤ ⌊q⌋ + 1 := by
  unfold nearestEven
  dsimp only
  split <;> omega

theorem nearestEven_mono {p q : ℚ} (h : p ≤ q) : nearestEven p ≤ nearestEven q := by
  have hfloor : ⌊p⌋ ≤ ⌊q⌋ := Int.floor_le_floor h
  rcases hfloor.lt_or_eq with hlt | heq
  · exact (nearestEven_bounds p).2.trans (le_trans (by omega) (nearestEven_bounds q).1)
  · unfold nearestEven
    rw [heq]
    dsimp only
    split_ifs with hp hq hq
    · exact le_rfl
    · omega
    · -- what rounds down rounds down from below
      refine absurd ?_ hp
      rcases hq with hlt | ⟨heven, hmod⟩
      · exact Or.inl (by linarith)
      · rcases h.lt_or_eq with hlt | rfl
        · exact Or.inl (by linarith)
        · exact Or.inr ⟨heven, hmod⟩
    · exact le_rfl

theorem nearestEven_intCast (n : ℤ) : nearestEven n = n := by
  simp [nearestEven]

/-- A positive number lies between the power of two of its leading bit and the next. -/
theorem leadingBit_bounds {q : ℚ} (h : 0 < q) :
    (2 : ℚ) ^ leadingBit q ≤ q ∧ q < 2 ^ (leadingBit q + 1) := by
  rw [leadingBit]
  split
  · rename_i hone
    have hfloor : 1 ≤ ⌊q⌋ := Int.le_floor.mpr (by exact_mod_cast hone)
    obtain ⟨n, hn⟩ := Int.eq_ofNat_of_zero_le (by omega : 0 ≤ ⌊q⌋)
    have hpos : n ≠ 0 := by omega
    rw [hn, Int.toNat_natCast]
    have hlow : 2 ^ n.log2 ≤ n := Nat.log2_self_le hpos
    have hhigh : n < 2 ^ (n.log2 + 1) := Nat.lt_log2_self
    have hle : (n : ℚ) ≤ q := by
      have := Int.floor_le q
      rwa [hn] at this
    have hlt : q < (n : ℚ) + 1 := by
      have := Int.lt_floor_add_one q
      rwa [hn] at this
    constructor
    · rw [zpow_natCast]
      exact le_trans (by exact_mod_cast hlow) hle
    · have : (n : ℚ) + 1 ≤ 2 ^ (n.log2 + 1) := by exact_mod_cast hhigh
      exact_mod_cast hlt.trans_le this
  · rename_i hone
    have hinv : 1 < q⁻¹ := (one_lt_inv₀ h).mpr (by linarith)
    have hceil : 2 ≤ ⌈q⁻¹⌉ := Int.lt_ceil.mpr (by exact_mod_cast hinv)
    obtain ⟨m, hm⟩ := Int.eq_ofNat_of_zero_le (by omega : 0 ≤ ⌈q⁻¹⌉)
    obtain ⟨n, rfl⟩ : ∃ n, m = n + 1 := ⟨m - 1, by omega⟩
    have hpos : n ≠ 0 := by omega
    rw [hm, Int.toNat_natCast, Nat.add_sub_cancel]
    have hlow : 2 ^ n.log2 ≤ n := Nat.log2_self_le hpos
    have hhigh : n + 1 ≤ 2 ^ (n.log2 + 1) := Nat.lt_log2_self
    have hlt : (n : ℚ) < q⁻¹ := by
      have := Int.ceil_lt_add_one q⁻¹
      rw [hm] at this
      push_cast at this
      linarith
    have hle : q⁻¹ ≤ (n : ℚ) + 1 := by
      have := Int.le_ceil q⁻¹
      rw [hm] at this
      exact_mod_cast this
    have hlow' : (2 : ℚ) ^ n.log2 < q⁻¹ := lt_of_le_of_lt (by exact_mod_cast hlow) hlt
    have hhigh' : q⁻¹ ≤ (2 : ℚ) ^ (n.log2 + 1) := hle.trans (by exact_mod_cast hhigh)
    constructor
    · rw [zpow_neg]
      exact_mod_cast inv_le_of_inv_le₀ h hhigh'
    · rw [show -((n.log2 : ℤ) + 1) + 1 = -(n.log2 : ℤ) by ring, zpow_neg]
      exact_mod_cast lt_inv_of_lt_inv₀ (by positivity) hlow'

theorem double_of_pos {q : ℚ} (h : 0 < q) :
    double q = nearestEven (q / 2 ^ (leadingBit q - 52)) * 2 ^ (leadingBit q - 52) := by
  simp only [double, if_neg h.ne', abs_of_pos h]

/-- Rounding stays between the same two powers of two. -/
theorem double_bounds {q : ℚ} (h : 0 < q) :
    (2 : ℚ) ^ leadingBit q ≤ double q ∧ double q ≤ 2 ^ (leadingBit q + 1) := by
  obtain ⟨hlow, hhigh⟩ := leadingBit_bounds h
  have hunit : (0 : ℚ) < 2 ^ (leadingBit q - 52) := zpow_pos (by norm_num) _
  have hscale : ∀ n : ℕ, (2 : ℚ) ^ (leadingBit q - 52 + n) =
      ((2 ^ n : ℤ) : ℚ) * 2 ^ (leadingBit q - 52) := by
    intro n
    rw [zpow_add₀ (by norm_num), mul_comm, zpow_natCast]
    norm_cast
  have hbit := hscale 52
  have hnext := hscale 53
  rw [show leadingBit q - 52 + ((52 : ℕ) : ℤ) = leadingBit q by omega] at hbit
  rw [show leadingBit q - 52 + ((53 : ℕ) : ℤ) = leadingBit q + 1 by omega] at hnext
  rw [hbit] at hlow
  rw [hnext] at hhigh
  rw [double_of_pos h, hbit, hnext]
  have hfrom := nearestEven_mono ((le_div_iff₀ hunit).mpr hlow)
  have hto := nearestEven_mono ((div_le_iff₀ hunit).mpr hhigh.le)
  rw [nearestEven_intCast] at hfrom hto
  exact ⟨mul_le_mul_of_nonneg_right (by exact_mod_cast hfrom) hunit.le,
    mul_le_mul_of_nonneg_right (by exact_mod_cast hto) hunit.le⟩

theorem double_pos {q : ℚ} (h : 0 < q) : 0 < double q :=
  (zpow_pos (by norm_num) _).trans_le (double_bounds h).1

theorem leadingBit_mono {p q : ℚ} (hp : 0 < p) (h : p ≤ q) : leadingBit p ≤ leadingBit q := by
  by_contra hlt
  have hlow := (leadingBit_bounds hp).1
  have hhigh := (leadingBit_bounds (hp.trans_le h)).2
  have hpow : (2 : ℚ) ^ (leadingBit q + 1) ≤ 2 ^ leadingBit p :=
    zpow_le_zpow_right₀ (by norm_num) (by omega)
  linarith

/-- Rounding keeps the order. -/
theorem double_mono {p q : ℚ} (hp : 0 < p) (h : p ≤ q) : double p ≤ double q := by
  have hq : 0 < q := hp.trans_le h
  rcases (leadingBit_mono hp h).lt_or_eq with hlt | heq
  · calc double p ≤ 2 ^ (leadingBit p + 1) := (double_bounds hp).2
      _ ≤ 2 ^ leadingBit q := zpow_le_zpow_right₀ (by norm_num) (by omega)
      _ ≤ double q := (double_bounds hq).1
  · have hunit : (0 : ℚ) < 2 ^ (leadingBit q - 52) := zpow_pos (by norm_num) _
    rw [double_of_pos hp, double_of_pos hq, heq]
    have hround := nearestEven_mono (div_le_div_of_nonneg_right h hunit.le)
    exact mul_le_mul_of_nonneg_right (by exact_mod_cast hround) hunit.le

/-- The white space `Number(string)` trims. -/
def isSpace (c : Char) : Bool :=
  let n := c.toNat
  (9 ≤ n && n ≤ 13) || n == 0x20 || n == 0xA0 || n == 0x1680 || (0x2000 ≤ n && n ≤ 0x200A) ||
    n == 0x2028 || n == 0x2029 || n == 0x202F || n == 0x205F || n == 0x3000 || n == 0xFEFF

/-- Drop white space at both ends. -/
def trim (cs : List Char) : List Char :=
  ((cs.dropWhile isSpace).reverse.dropWhile isSpace).reverse

/-- The value of a digit in a radix. -/
def digit (radix : ℕ) (c : Char) : Option ℕ :=
  let n := c.toNat
  let v := if 48 ≤ n ∧ n ≤ 57 then n - 48 else if 97 ≤ n ∧ n ≤ 122 then n - 87
    else if 65 ≤ n ∧ n ≤ 90 then n - 55 else radix
  if v < radix then some v else none

/-- A run of digits in a radix, with how many there were; `none` at any other character. -/
def digits (radix : ℕ) (cs : List Char) : Option (ℕ × ℕ) :=
  cs.foldlM (fun acc c => (digit radix c).map fun d => (acc.1 * radix + d, acc.2 + 1)) (0, 0)

/-- An unsigned decimal mantissa: digits with at most one point and at least one digit. -/
def mantissa (cs : List Char) : Option ℚ :=
  let whole := cs.takeWhile fun c => c ≠ '.'
  let rest := cs.drop (whole.length + 1)
  match digits 10 whole, digits 10 rest with
  | some (w, n), some (f, m) => if n + m = 0 then none else some (w + f / 10 ^ m)
  | _, _ => none

/-- A signed run of decimal digits, as an exponent. -/
def exponent (cs : List Char) : Option ℤ :=
  let body := match cs with
    | '+' :: r => r
    | '-' :: r => r
    | r => r
  match digits 10 body with
  | some (n, _ + 1) => some (if cs.head? = some '-' then -(n : ℤ) else n)
  | _ => none

/-- A decimal literal with optional sign and exponent, as the rational it denotes. -/
def decimal (cs : List Char) : Option ℚ :=
  let body := match cs with
    | '+' :: r => r
    | '-' :: r => r
    | r => r
  let base := body.takeWhile fun c => c ≠ 'e' ∧ c ≠ 'E'
  let value := match body.drop base.length with
    | [] => mantissa base
    | _ :: ex =>
      match mantissa base, exponent ex with
      | some q, some n => some (q * (10 : ℚ) ^ n)
      | _, _ => none
  if cs.head? = some '-' then value.map fun q => -q else value

/-- Whether the double nearest to `q` is the small natural number `n`: `q` lies no further from
`n` than half the gap to the next double on that side. A whole number this small has an even
mantissa, so a tie rounds to it. -/
def roundsTo (q : ℚ) (n : ℕ) : Bool :=
  if n = 0 then -(1 / 2 ^ 1075) ≤ q && q ≤ 1 / 2 ^ 1075
  else
    let up : ℚ := 2 ^ n.log2 / 2 ^ 53
    let down : ℚ := if n = 2 ^ n.log2 then up / 2 else up
    n - down ≤ q && q ≤ n + up

/-- `Number(value)` when it is a whole number from 0 to `bound`, and `none` otherwise. An absent
value is `NaN`; the empty and the blank string are 0; hexadecimal, octal and binary literals
count. -/
def wholeUpTo (bound : ℕ) (value : Option String) : Option ℕ :=
  let check (q : ℚ) : Option ℕ :=
    let n := ⌊q + 1 / 2⌋.toNat
    if n ≤ bound ∧ roundsTo q n = true then some n else none
  let radix (r : ℕ) (cs : List Char) : Option ℕ :=
    match digits r cs with
    | some (n, _ + 1) => check n
    | _ => none
  match value.map fun s => trim s.toList with
  | none => none
  | some [] => some 0
  | some ('0' :: x :: cs) =>
    if x = 'x' ∨ x = 'X' then radix 16 cs
    else if x = 'o' ∨ x = 'O' then radix 8 cs
    else if x = 'b' ∨ x = 'B' then radix 2 cs
    else (decimal ('0' :: x :: cs)).bind check
  | some cs => (decimal cs).bind check

/-! ## Instants -/

/-- Milliseconds in a day. -/
def dayMilliseconds : ℤ := 24 * 60 * 60 * 1000

/-- Days from 1970-01-01 to a day of the proleptic Gregorian calendar, for a month from 1 to 12
and any day number. Years are counted from March, so that the leap day comes last. -/
def daysFromCivil (year month day : ℤ) : ℤ :=
  let y := if month ≤ 2 then year - 1 else year
  let era := y / 400
  let yoe := y - era * 400
  let mp := (month + 9) % 12
  let doy := (153 * mp + 2) / 5 + day - 1
  let doe := yoe * 365 + yoe / 4 - yoe / 100 + doy
  era * 146097 + doe - 719468

/-- The year, month and day of a day counted from 1970-01-01. -/
def civilFromDays (days : ℤ) : ℤ × ℤ × ℤ :=
  let z := days + 719468
  let era := z / 146097
  let doe := z - era * 146097
  let yoe := (doe - doe / 1460 + doe / 36524 - doe / 146096) / 365
  let doy := doe - (365 * yoe + yoe / 4 - yoe / 100)
  let mp := (5 * doy + 2) / 153
  let day := doy - (153 * mp + 2) / 5 + 1
  let month := if mp < 10 then mp + 3 else mp - 9
  (yoe + era * 400 + (if month ≤ 2 then 1 else 0), month, day)

/-- `Date.UTC(year, monthIndex, day)`: years 0 to 99 mean 1900 to 1999, and a month or day out of
range rolls over into the next. -/
def dateUTC (year monthIndex day : ℤ) : ℤ :=
  let y := if 0 ≤ year ∧ year ≤ 99 then 1900 + year else year
  (daysFromCivil (y + monthIndex / 12) (monthIndex % 12 + 1) 1 + (day - 1)) * dayMilliseconds

/-- `getUTCDay()`: 0 is Sunday. -/
def utcDay (ms : ℤ) : ℤ := (ms / dayMilliseconds + 4) % 7

/-- A natural number padded with zeros to a width. -/
def padded (width : ℕ) (n : ℤ) : String :=
  let s := toString n.toNat
  String.ofList (List.replicate (width - s.toList.length) '0') ++ s

/-- `new Date(ms).toISOString()`; `none` is the `RangeError` of an instant out of range. -/
def toISOString (ms : ℤ) : Option String :=
  if -8640000000000000 ≤ ms ∧ ms ≤ 8640000000000000 then
    let (year, month, day) := civilFromDays (ms / dayMilliseconds)
    let t := ms % dayMilliseconds
    let y := if 0 ≤ year ∧ year ≤ 9999 then padded 4 year
      else if year < 0 then "-" ++ padded 6 (-year) else "+" ++ padded 6 year
    some (y ++ "-" ++ padded 2 month ++ "-" ++ padded 2 day ++ "T" ++ padded 2 (t / 3600000) ++
      ":" ++ padded 2 (t / 60000 % 60) ++ ":" ++ padded 2 (t / 1000 % 60) ++ "." ++
      padded 3 (t % 1000) ++ "Z")
  else none

/-- `s.slice(0, n)`, on strings of characters from the basic plane. -/
def slice (s : String) (n : ℕ) : String := String.ofList (s.toList.take n)

/-! ## Regular expressions -/

/-- A regular expression with the `i` flag, as far as the code writes one. -/
inductive Pattern : Type where
  /-- these ASCII characters, in either case -/
  | text : String → Pattern
  /-- `\s*` -/
  | spaces : Pattern
  /-- `(?:p)?` -/
  | optional : Pattern → Pattern
  /-- `(?:p|q)` -/
  | either : Pattern → Pattern → Pattern
  /-- one after the other -/
  | andThen : Pattern → Pattern → Pattern

/-- What is left of a text behind the given characters, in either case. -/
def afterText : List Char → List Char → Option (List Char)
  | [], cs => some cs
  | _ :: _, [] => none
  | t :: ts, c :: cs => if t.toUpper = c.toUpper then afterText ts cs else none

/-- What can be left of a text behind a match of the pattern at its start. -/
def Pattern.rests : Pattern → List Char → List (List Char)
  | .text t, cs => (afterText t.toList cs).toList
  | .spaces, cs => (List.range ((cs.takeWhile isSpace).length + 1)).map fun n => cs.drop n
  | .optional p, cs => p.rests cs ++ [cs]
  | .either p q, cs => p.rests cs ++ q.rests cs
  | .andThen p q, cs => (p.rests cs).flatMap q.rests

/-- `pattern.test(s)`: a match anywhere. -/
def Pattern.test (p : Pattern) (s : String) : Bool :=
  s.toList.tails.any fun cs => !(p.rests cs).isEmpty

/-! ## JSON values -/

/-- A JSON value; an object is its entries in property order. -/
inductive Json : Type where
  /-- `null` -/
  | null : Json
  /-- a boolean -/
  | bool : Bool → Json
  /-- a number -/
  | num : ℚ → Json
  /-- a string -/
  | str : String → Json
  /-- an array -/
  | arr : List Json → Json
  /-- an object -/
  | obj : List (String × Json) → Json

namespace Json

/-- `value.key`, where the value is an object that has the key. -/
def get? (key : String) : Json → Option Json
  | obj fields => (fields.find? fun f => f.1 = key).map Prod.snd
  | _ => none

/-- The string a value is, if it is one. -/
def str? : Json → Option String
  | str s => some s
  | _ => none

/-- `value === null`. -/
def isNull : Json → Bool
  | null => true
  | _ => false

/-- `{ ...fields, [key]: value }`. -/
def set (fields : List (String × Json)) (key : String) (value : Json) : List (String × Json) :=
  mapSet fields key value

/-- A field of an object, after setting another. -/
theorem get?_set_ne {fields : List (String × Json)} {key other : String} {value : Json}
    (h : other ≠ key) : get? other (obj (set fields key value)) = get? other (obj fields) :=
  mapGet_mapSet_ne fields value h

/-- A field of an object, after setting it. -/
theorem get?_set_self {fields : List (String × Json)} {key : String} {value : Json} :
    get? key (obj (set fields key value)) = some value :=
  mapGet_mapSet_self fields key value

/-! ### Parts of a value -/

/-- A step into a value: to an item of an array, or to a field of an object. -/
inductive Step : Type where
  /-- the item at an index -/
  | item : ℕ → Step
  /-- the field of a key -/
  | field : String → Step
  deriving DecidableEq

/-- `sub` is the part of a value that a path leads to, and every object the path leads out of is
one of those it may pass `through`. -/
inductive Part (through : List (String × Json) → Prop) : Json → List Step → Json → Prop where
  /-- the value itself -/
  | here (value : Json) : Part through value [] value
  /-- a part of an item -/
  | item {values : List Json} {n : ℕ} {value sub : Json} {path : List Step}
      (hitem : values[n]? = some value) (hsub : Part through value path sub) :
      Part through (arr values) (.item n :: path) sub
  /-- a part of a field -/
  | field {fields : List (String × Json)} {key : String} {value sub : Json} {path : List Step}
      (hthrough : through fields) (hfield : (key, value) ∈ fields)
      (hsub : Part through value path sub) : Part through (obj fields) (.field key :: path) sub

/-- What a value is apart from its parts: what a scalar is, how long an array is, and which keys
an object has, in order. -/
def shape : Json → Json
  | arr values => arr (values.map fun _ => null)
  | obj fields => obj (fields.map fun f => (f.1, null))
  | value => value

variable {through through' : List (String × Json) → Prop} {value sub : Json} {path : List Step}

theorem Part.mono (hthrough : ∀ fields, through fields → through' fields)
    (h : Part through value path sub) : Part through' value path sub := by
  induction h with
  | here value => exact .here value
  | item hitem _ ih => exact .item hitem ih
  | field hfields hfield _ ih => exact .field (hthrough _ hfields) hfield ih

end Json

end Js
