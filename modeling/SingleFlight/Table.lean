/-!
Finite tables: rows with distinct keys, in the order in which the keys were first put in.

`get?` is the view.  `get?_insert` and `get?_erase` say what each operation does to it, and
`keys_insert` and `keys_erase` what each does to the keys in their order.
-/

namespace SingleFlight

structure Table (κ ν : Type) where
  rows : List (κ × ν)
  distinct : (rows.map Prod.fst).Nodup
deriving DecidableEq

namespace Table

variable {κ ν : Type} [DecidableEq κ]

def empty : Table κ ν := { rows := [], distinct := List.nodup_nil }

instance : Inhabited (Table κ ν) := ⟨empty⟩

def getRow (k : κ) : List (κ × ν) → Option ν
  | [] => none
  | (k', v) :: rest => if k' = k then some v else getRow k rest

def insertRow (k : κ) (v : ν) : List (κ × ν) → List (κ × ν)
  | [] => [(k, v)]
  | (k', w) :: rest => if k' = k then (k, v) :: rest else (k', w) :: insertRow k v rest

def get? (t : Table κ ν) (k : κ) : Option ν := getRow k t.rows

def keys (t : Table κ ν) : List κ := t.rows.map Prod.fst

def size (t : Table κ ν) : Nat := t.rows.length

def contains (t : Table κ ν) (k : κ) : Bool := (t.get? k).isSome

theorem map_fst_insertRow (k : κ) (v : ν) : ∀ rows : List (κ × ν),
    (insertRow k v rows).map Prod.fst =
      if k ∈ rows.map Prod.fst then rows.map Prod.fst else rows.map Prod.fst ++ [k]
  | [] => by simp [insertRow]
  | (k', w) :: rest => by
    have ih := map_fst_insertRow k v rest
    unfold insertRow
    by_cases h : k' = k
    · simp [h]
    · have hk : k ≠ k' := fun e => h e.symm
      rw [if_neg h, List.map_cons, ih]
      by_cases hm : k ∈ rest.map Prod.fst
      · simp [hm]
      · simp [hm, hk]

theorem insertRow_distinct (k : κ) (v : ν) {rows : List (κ × ν)} (h : (rows.map Prod.fst).Nodup) :
    ((insertRow k v rows).map Prod.fst).Nodup := by
  rw [map_fst_insertRow]
  split
  · exact h
  · rename_i hk
    exact List.nodup_append.2 ⟨h, by simp, by
      intro a ha b hb
      obtain rfl := List.mem_singleton.1 hb
      exact fun e => hk (e ▸ ha)⟩

/-- Give a key a value, in place of its earlier one. -/
def insert (t : Table κ ν) (k : κ) (v : ν) : Table κ ν :=
  { rows := insertRow k v t.rows, distinct := insertRow_distinct k v t.distinct }

/-- Take a key out. -/
def erase (t : Table κ ν) (k : κ) : Table κ ν :=
  { rows := t.rows.filter (fun row => row.1 ≠ k)
    distinct := t.distinct.sublist (List.filter_sublist.map Prod.fst) }

/-! ## The view -/

@[simp]
theorem get?_empty (k : κ) : (empty : Table κ ν).get? k = none := rfl

theorem getRow_insertRow (k k' : κ) (v : ν) : ∀ rows : List (κ × ν),
    getRow k' (insertRow k v rows) = if k = k' then some v else getRow k' rows
  | [] => by simp [insertRow, getRow]
  | (k₁, w) :: rest => by
    have ih := getRow_insertRow k k' v rest
    unfold insertRow
    by_cases h : k₁ = k
    · subst h
      by_cases h' : k₁ = k' <;> simp [getRow, h']
    · rw [if_neg h]
      by_cases h' : k₁ = k'
      · subst h'
        simp [getRow, Ne.symm h]
      · simp only [getRow, if_neg h', ih]

theorem get?_insert (t : Table κ ν) (k k' : κ) (v : ν) :
    (t.insert k v).get? k' = if k = k' then some v else t.get? k' :=
  getRow_insertRow k k' v t.rows

@[simp]
theorem get?_insert_self (t : Table κ ν) (k : κ) (v : ν) : (t.insert k v).get? k = some v := by
  simp [get?_insert]

theorem get?_insert_of_ne {t : Table κ ν} {k k' : κ} {v : ν} (h : k ≠ k') :
    (t.insert k v).get? k' = t.get? k' := by
  simp [get?_insert, h]

theorem getRow_filter (k k' : κ) : ∀ rows : List (κ × ν),
    getRow k' (rows.filter (fun row => row.1 ≠ k)) = if k = k' then none else getRow k' rows
  | [] => by simp [getRow]
  | (k₁, w) :: rest => by
    have ih := getRow_filter k k' rest
    by_cases h : k₁ = k
    · subst h
      rw [List.filter_cons_of_neg (by simp), ih]
      by_cases h' : k₁ = k'
      · simp [h']
      · simp [h', getRow]
    · rw [List.filter_cons_of_pos (by simpa using h)]
      by_cases h' : k₁ = k'
      · subst h'
        simp [getRow, Ne.symm h]
      · simp only [getRow, if_neg h', ih]

theorem get?_erase (t : Table κ ν) (k k' : κ) :
    (t.erase k).get? k' = if k = k' then none else t.get? k' :=
  getRow_filter k k' t.rows

@[simp]
theorem get?_erase_self (t : Table κ ν) (k : κ) : (t.erase k).get? k = none := by
  simp [get?_erase]

theorem get?_erase_of_ne {t : Table κ ν} {k k' : κ} (h : k ≠ k') :
    (t.erase k).get? k' = t.get? k' := by
  simp [get?_erase, h]

/-- What is found after a key was given a value is that value, or belongs to another key and was
there before. -/
theorem get?_of_get?_insert {t : Table κ ν} {k k' : κ} {v w : ν}
    (h : (t.insert k v).get? k' = some w) : k = k' ∧ v = w ∨ k ≠ k' ∧ t.get? k' = some w := by
  rw [get?_insert] at h
  by_cases hk : k = k'
  · exact .inl ⟨hk, by simpa [hk] using h⟩
  · exact .inr ⟨hk, by simpa [hk] using h⟩

/-- What is left after a key was taken out belongs to another key, and was there before. -/
theorem get?_of_get?_erase {t : Table κ ν} {k k' : κ} {v : ν} (h : (t.erase k).get? k' = some v) :
    k ≠ k' ∧ t.get? k' = some v := by
  rw [get?_erase] at h
  by_cases hk : k = k'
  · simp [hk] at h
  · exact ⟨hk, by simpa [hk] using h⟩

theorem getRow_eq_none_iff {k : κ} : ∀ {rows : List (κ × ν)},
    getRow k rows = none ↔ k ∉ rows.map Prod.fst
  | [] => by simp [getRow]
  | (k', w) :: rest => by
    unfold getRow
    by_cases h : k' = k
    · simp [h]
    · have hk : k ≠ k' := fun e => h e.symm
      simp only [if_neg h, List.map_cons, List.mem_cons, hk, false_or]
      exact getRow_eq_none_iff

theorem get?_eq_none_iff {t : Table κ ν} {k : κ} : t.get? k = none ↔ k ∉ t.keys :=
  getRow_eq_none_iff

/-- Taking out a key that is not there changes nothing. -/
theorem erase_eq_self {t : Table κ ν} {k : κ} (h : t.get? k = none) : t.erase k = t := by
  have hk := get?_eq_none_iff.1 h
  have hrows : t.rows.filter (fun row => row.1 ≠ k) = t.rows := by
    refine List.filter_eq_self.2 fun row hrow => ?_
    simpa using fun e : row.1 = k => hk (e ▸ List.mem_map_of_mem hrow)
  cases t
  simp only [erase, Table.mk.injEq]
  exact hrows

theorem getRow_eq_some_iff {k : κ} {v : ν} : ∀ {rows : List (κ × ν)},
    (rows.map Prod.fst).Nodup → (getRow k rows = some v ↔ (k, v) ∈ rows)
  | [], _ => by simp [getRow]
  | (k', w) :: rest, hd => by
    rw [List.map_cons, List.nodup_cons] at hd
    have ih := getRow_eq_some_iff (k := k) (v := v) hd.2
    unfold getRow
    by_cases h : k' = k
    · subst h
      rw [if_pos rfl]
      constructor
      · intro hv
        cases hv
        simp
      · intro hm
        rcases List.mem_cons.1 hm with hm | hm
        · cases hm
          rfl
        · exact absurd (List.mem_map_of_mem (f := Prod.fst) hm) hd.1
    · rw [if_neg h, ih, List.mem_cons]
      exact ⟨Or.inr, fun hm => hm.resolve_left fun e => h (Prod.mk.inj e).1.symm⟩

/-- The rows are the pairs of the view. -/
theorem get?_eq_some_iff {t : Table κ ν} {k : κ} {v : ν} : t.get? k = some v ↔ (k, v) ∈ t.rows :=
  getRow_eq_some_iff t.distinct

theorem insertRow_insertRow (k : κ) (v w : ν) : ∀ rows : List (κ × ν),
    insertRow k w (insertRow k v rows) = insertRow k w rows
  | [] => by simp [insertRow]
  | (k', u) :: rest => by
    have ih := insertRow_insertRow k v w rest
    unfold insertRow
    by_cases h : k' = k
    · simp [h, insertRow]
    · simp [h, insertRow, ih]

/-- Of two values for one key the later counts. -/
theorem insert_insert (t : Table κ ν) (k : κ) (v w : ν) :
    (t.insert k v).insert k w = t.insert k w := by
  simp only [insert, insertRow_insertRow]

/-! ## Keys -/

omit [DecidableEq κ] in
theorem size_eq_length_keys (t : Table κ ν) : t.size = t.keys.length := by simp [size, keys]

theorem keys_insert (t : Table κ ν) (k : κ) (v : ν) :
    (t.insert k v).keys = if k ∈ t.keys then t.keys else t.keys ++ [k] :=
  map_fst_insertRow k v t.rows

theorem keys_erase (t : Table κ ν) (k : κ) : (t.erase k).keys = t.keys.filter (· ≠ k) := by
  simp only [keys, erase, List.filter_map]
  rfl

end Table
end SingleFlight
