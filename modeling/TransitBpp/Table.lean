import Mathlib.Data.List.Nodup

/-!
# Tables with unique indexes

The part of a relational engine that a store relies on, over arbitrary rows `ρ` and index keys
`κ`. A `Table` carries the proof that its unique indexes hold, so a table that violates one
cannot be built: every write either yields another table or is refused as a whole, which is what
a unique-constraint violation does to a statement.

A partial index is a key function answering `none` on the rows outside it. Rows are kept in
insertion order; an update rewrites rows in place and nothing is ever deleted.
-/

namespace Sql

variable {ρ κ : Type}

/-- A unique index holds of the rows: no two rows inside it share a key. -/
def UniqueOn (key : ρ → Option κ) (rows : List ρ) : Prop := (rows.filterMap key).Nodup

instance [DecidableEq κ] (key : ρ → Option κ) (rows : List ρ) : Decidable (UniqueOn key rows) :=
  inferInstanceAs (Decidable (List.Nodup _))

/-- Two rows of one list with one key are one row, at one position. -/
theorem UniqueOn.eq_of_key {key : ρ → Option κ} {rows : List ρ} (h : UniqueOn key rows) {r r' : ρ}
    {k : κ} (hr : r ∈ rows) (hr' : r' ∈ rows) (hk : key r = some k) (hk' : key r' = some k) :
    r = r' := by
  induction rows with
  | nil => cases hr
  | cons a rows ih =>
    have htail : UniqueOn key rows := by
      rcases ha : key a with _ | ka
      · rwa [UniqueOn, List.filterMap_cons_none ha] at h
      · rw [UniqueOn, List.filterMap_cons_some ha] at h
        exact (List.nodup_cons.mp h).2
    have hnotin : ∀ x, x ∈ rows → key a = some k → key x = some k → False := by
      intro x hx ha hxk
      rw [UniqueOn, List.filterMap_cons_some ha] at h
      exact (List.nodup_cons.mp h).1 (List.mem_filterMap.mpr ⟨x, hx, hxk⟩)
    rcases List.mem_cons.mp hr with hra | hr <;> rcases List.mem_cons.mp hr' with hra' | hr'
    · rw [hra, hra']
    · exact (hnotin r' hr' (hra ▸ hk) hk').elim
    · exact (hnotin r hr (hra' ▸ hk') hk).elim
    · exact ih htail hr hr'

/-- At most one row has a given key. -/
theorem UniqueOn.length_le_one [DecidableEq κ] {key : ρ → Option κ} {rows : List ρ}
    (h : UniqueOn key rows) (k : κ) : (rows.filter fun r => key r = some k).length ≤ 1 := by
  have hcount := List.nodup_iff_count_le_one.mp h k
  rw [List.count_filterMap, List.countP_eq_length_filter] at hcount
  refine Nat.le_trans (Nat.le_of_eq (congrArg List.length ?_)) hcount
  exact List.filter_congr fun r _ => (beq_eq_decide (key r) (some k)).symm

/-- A table: its rows in insertion order, and the proof that every unique index holds. -/
structure Table (indexes : List (ρ → Option κ)) : Type where
  /-- the rows, oldest first -/
  rows : List ρ
  /-- every unique index holds -/
  unique : ∀ key ∈ indexes, UniqueOn key rows

namespace Table

variable {indexes : List (ρ → Option κ)}

/-- The empty table. -/
def empty : Table indexes := ⟨[], fun _ _ => List.nodup_nil⟩

/-- Two tables with the same rows are the same table. -/
theorem ext_rows {t t' : Table indexes} (h : t.rows = t'.rows) : t = t' := by
  cases t; cases t'
  subst h
  rfl

/-- The table with only some of its rows. -/
def only (t : Table indexes) (p : ρ → Bool) : Table indexes :=
  ⟨t.rows.filter p, fun key hkey =>
    (t.unique key hkey).sublist (List.filter_sublist.filterMap key)⟩

variable [DecidableEq κ]

/-- Replace the rows; `none` is a unique-constraint violation. -/
def write (rows : List ρ) : Option (Table indexes) :=
  if h : ∀ key ∈ indexes, UniqueOn key rows then some ⟨rows, h⟩ else none

/-- `UPDATE … SET f WHERE p`, with the number of rows it changed. -/
def update (t : Table indexes) (p : ρ → Bool) (f : ρ → ρ) : Option (Table indexes × ℕ) :=
  (write (t.rows.map fun r => if p r then f r else r)).map fun t' => (t', t.rows.countP p)

/-- `INSERT` of several rows in one statement. -/
def insert (t : Table indexes) (new : List ρ) : Option (Table indexes) :=
  write (t.rows ++ new)

/-- Inversion for `write`. -/
theorem rows_of_write {rows : List ρ} {t : Table indexes} (h : write rows = some t) :
    t.rows = rows := by
  unfold write at h
  split at h
  · obtain rfl := Option.some.inj h
    rfl
  · cases h

/-- Inversion for `update`. -/
theorem update_eq_some {t t' : Table indexes} {p : ρ → Bool} {f : ρ → ρ} {n : ℕ}
    (h : t.update p f = some (t', n)) :
    t'.rows = (t.rows.map fun r => if p r then f r else r) ∧ n = t.rows.countP p := by
  obtain ⟨t₁, hw, he⟩ := Option.map_eq_some_iff.mp h
  obtain ⟨rfl, rfl⟩ := Prod.mk.inj he
  exact ⟨rows_of_write hw, rfl⟩

/-- Inversion for `insert`. -/
theorem rows_of_insert {t t' : Table indexes} {new : List ρ} (h : t.insert new = some t') :
    t'.rows = t.rows ++ new :=
  rows_of_write h

/-- An update that, on the rows it changes, keeps each index key or takes the row out of the
index cannot violate one. -/
theorem update_isSome {t : Table indexes} {p : ρ → Bool} {f : ρ → ρ}
    (hkey : ∀ key ∈ indexes, ∀ r, p r = true → key (f r) = key r ∨ key (f r) = none) :
    ∃ t', t.update p f = some (t', t.rows.countP p) := by
  have hunique : ∀ key ∈ indexes, UniqueOn key (t.rows.map fun r => if p r then f r else r) := by
    intro key hk
    refine List.Nodup.sublist ?_ (t.unique key hk)
    rw [List.filterMap_map]
    have hsub : ∀ rows : List ρ,
        (rows.filterMap (key ∘ fun r => if p r then f r else r)).Sublist
          (rows.filterMap key) := by
      intro rows
      induction rows with
      | nil => exact List.Sublist.refl _
      | cons r rows ih =>
        have hr : (key ∘ fun r => if p r then f r else r) r = key r ∨
            (key ∘ fun r => if p r then f r else r) r = none := by
          by_cases hp : p r = true
          · simpa [hp] using hkey key hk r hp
          · exact Or.inl (by simp [hp])
        rcases hr with hr | hr
        · rcases hkr : key r with _ | k
          · rw [List.filterMap_cons_none (hr.trans hkr), List.filterMap_cons_none hkr]
            exact ih
          · rw [List.filterMap_cons_some (hr.trans hkr), List.filterMap_cons_some hkr]
            exact ih.cons_cons k
        · rw [List.filterMap_cons_none hr]
          rcases hkr : key r with _ | k
          · rw [List.filterMap_cons_none hkr]
            exact ih
          · rw [List.filterMap_cons_some hkr]
            exact ih.cons k
    exact hsub t.rows
  exact ⟨⟨_, hunique⟩, by simp [update, write, dif_pos hunique]⟩

/-- Rows whose index keys are new, and differ among themselves, can be inserted. -/
theorem insert_isSome {t : Table indexes} {new : List ρ}
    (hnew : ∀ key ∈ indexes, UniqueOn key new)
    (hapart : ∀ key ∈ indexes, ∀ r ∈ t.rows, ∀ r' ∈ new, ∀ k, key r = some k → key r' ≠ some k) :
    ∃ t', t.insert new = some t' := by
  have hunique : ∀ key ∈ indexes, UniqueOn key (t.rows ++ new) := by
    intro key hkey
    rw [UniqueOn, List.filterMap_append, List.nodup_append]
    refine ⟨t.unique key hkey, hnew key hkey, ?_⟩
    rintro k hk _ hk' rfl
    obtain ⟨r, hr, hrk⟩ := List.mem_filterMap.mp hk
    obtain ⟨r', hr', hrk'⟩ := List.mem_filterMap.mp hk'
    exact hapart key hkey r hr r' hr' k hrk hrk'
  exact ⟨⟨_, hunique⟩, by rw [insert, write, dif_pos hunique]⟩

/-- Two updates that make one change, in turn, are one update of the rows that either picks, where
the change takes a row out of what the second would pick. The numbers of changed rows add up. -/
theorem update_update {t t₁ t₂ : Table indexes} {p q : ρ → Bool} {f : ρ → ρ} {n m : ℕ}
    (hpq : ∀ r, p r = true → q (f r) = false) (h₁ : t.update p f = some (t₁, n))
    (h₂ : t₁.update q f = some (t₂, m)) :
    t.update (fun r => p r || q r) f = some (t₂, n + m) := by
  obtain ⟨hrows₁, rfl⟩ := update_eq_some h₁
  obtain ⟨hrows₂, rfl⟩ := update_eq_some h₂
  have hrows : t₂.rows = t.rows.map fun r => if (p r || q r) = true then f r else r := by
    rw [hrows₂, hrows₁, List.map_map]
    refine List.map_congr_left fun r _ => ?_
    by_cases hp : p r = true <;> simp [hp, hpq]
  have hcount : t.rows.countP p + t₁.rows.countP q = t.rows.countP fun r => p r || q r := by
    rw [hrows₁, List.countP_map]
    generalize t.rows = rows
    induction rows with
    | nil => rfl
    | cons r rows ih =>
      by_cases hp : p r = true <;> by_cases hq : q r = true <;>
        simp [hp, hq, hpq, ← ih] <;> omega
  have hunique : ∀ key ∈ indexes,
      UniqueOn key (t.rows.map fun r => if (p r || q r) = true then f r else r) := by
    rw [← hrows]
    exact t₂.unique
  rw [update, write, dif_pos hunique, Option.map_some, hcount]
  exact congrArg (fun t => some (t, _)) (ext_rows hrows.symm)

end Table

end Sql
