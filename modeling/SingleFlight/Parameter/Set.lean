import SingleFlight.Failure
import SingleFlight.Parameter

/-!
Sets of parameter values, which configure a fetch and are the key of what it fetched.

The entries ascend in the order of declaration, and the set is shown in that order.  An entry keeps
how its parameter was to be shown when the value was given.  `find?` is the view: `find?_insert`,
`find?_erase` and `ext` say everything about a set that its users may rely on.

As keys sets are compared, and fed to a hasher, by serial numbers and values alone (`agrees`,
`digest`).  So a set for a parameter and a set for the same parameter, marked as secret meanwhile,
stand for each other and are shown apart.  Where parameters are not marked between their uses, sets
that agree are equal, and it is by equality that a cache of this library looks up a key.
-/

namespace SingleFlight

open Parameter (Value Storable)

namespace ParameterSet

/-- Four stars stand for a secret. -/
def redacted : String := "****"

/-- A value that was given, and how its parameter was to be shown at that time. -/
@[ext]
structure Entry where
  name : String
  sensitive : Bool
  value : Value
deriving DecidableEq, Repr

def Entry.text (e : Entry) : String :=
  e.name ++ "=" ++ (if e.sensitive then redacted else e.value.shown)

end ParameterSet

structure ParameterSet where
  entries : List (ParameterId × ParameterSet.Entry)
  ascending : entries.Pairwise (fun a b => a.1.Before b.1)
deriving DecidableEq

namespace ParameterSet

/-- Entries as they stand once `id` has the entry `e`. -/
def insertEntry (id : ParameterId) (e : Entry) :
    List (ParameterId × Entry) → List (ParameterId × Entry)
  | [] => [(id, e)]
  | (other, f) :: rest =>
    if id.Before other then (id, e) :: (other, f) :: rest
    else if other.Before id then (other, f) :: insertEntry id e rest
    else (id, e) :: rest

theorem mem_insertEntry {id : ParameterId} {e : Entry} {row : ParameterId × Entry} :
    ∀ {rows : List (ParameterId × Entry)},
      row ∈ insertEntry id e rows → row = (id, e) ∨ row ∈ rows
  | [], h => Or.inl (by simpa [insertEntry] using h)
  | (other, f) :: rest, h => by
    unfold insertEntry at h
    split at h
    · simpa using h
    · split at h
      · rcases List.mem_cons.1 h with h | h
        · exact Or.inr (by simp [h])
        · exact (mem_insertEntry h).imp_right (List.mem_cons_of_mem _)
      · rcases List.mem_cons.1 h with h | h
        · exact Or.inl h
        · exact Or.inr (List.mem_cons_of_mem _ h)

theorem insertEntry_ascending (id : ParameterId) (e : Entry) :
    ∀ rows : List (ParameterId × Entry), rows.Pairwise (fun a b => a.1.Before b.1) →
      (insertEntry id e rows).Pairwise (fun a b => a.1.Before b.1)
  | [], _ => by simp [insertEntry]
  | (other, f) :: rest, h => by
    obtain ⟨hfirst, hrest⟩ := List.pairwise_cons.1 h
    unfold insertEntry
    split
    · rename_i hlt
      refine List.pairwise_cons.2 ⟨fun row hrow => ?_, h⟩
      rcases List.mem_cons.1 hrow with rfl | hrow
      · exact hlt
      · exact ParameterId.Before.trans hlt (hfirst row hrow)
    · split
      · rename_i hlt
        refine List.pairwise_cons.2 ⟨fun row hrow => ?_, insertEntry_ascending id e rest hrest⟩
        rcases mem_insertEntry hrow with rfl | hrow
        · exact hlt
        · exact hfirst row hrow
      · rename_i h1 h2
        obtain rfl := ParameterId.Before.total h1 h2
        exact List.pairwise_cons.2 ⟨fun row hrow => hfirst row hrow, hrest⟩

def empty : ParameterSet := { entries := [], ascending := List.Pairwise.nil }

/-- Give the parameter of this identity an entry, in place of an earlier one. -/
def insert (s : ParameterSet) (id : ParameterId) (e : Entry) : ParameterSet :=
  { entries := insertEntry id e s.entries
    ascending := insertEntry_ascending id e s.entries s.ascending }

def erase (s : ParameterSet) (id : ParameterId) : ParameterSet :=
  { entries := s.entries.filter (fun row => row.1 ≠ id)
    ascending := s.ascending.filter _ }

/-- The entry of the parameter of this identity. -/
def find? (s : ParameterSet) (id : ParameterId) : Option Entry :=
  (s.entries.find? (fun row => row.1 = id)).map Prod.snd

/-- The value that was given to the parameter of this identity. -/
def value? (s : ParameterSet) (id : ParameterId) : Option Value := (s.find? id).map Entry.value

/-! ## Access at a type -/

/-- The entry of a parameter with this value. -/
def entryOf {α : Type} [Storable α] (p : Parameter α) (a : α) : Entry :=
  { name := p.name, sensitive := p.sensitive, value := Storable.store a }

def add {α : Type} [Storable α] (s : ParameterSet) (p : Parameter α) (a : α) : ParameterSet :=
  s.insert p.id (entryOf p a)

def remove {α : Type} (s : ParameterSet) (p : Parameter α) : ParameterSet := s.erase p.id

/-- The value that was given, else the default of the parameter. -/
def get? {α : Type} [Storable α] (s : ParameterSet) (p : Parameter α) : Option α :=
  ((s.value? p.id).bind Storable.load?).or p.default

/-- As `get?`, but the absence of a value is an error. -/
def getRequired {α : Type} [Storable α] (s : ParameterSet) (p : Parameter α) :
    Except ResourceError α :=
  match s.get? p with
  | some a => .ok a
  | none => .error (.missingParameter p.name)

/-- Whether a value was given; a default does not count. -/
def contains {α : Type} (s : ParameterSet) (p : Parameter α) : Bool := (s.find? p.id).isSome

def size (s : ParameterSet) : Nat := s.entries.length

def isEmpty (s : ParameterSet) : Bool := s.entries.isEmpty

/-! ## Equality and hashes -/

/-- What tells sets apart: which parameters have a value, and which. -/
def content (s : ParameterSet) : List (Nat × Value) :=
  s.entries.map fun row => (row.1.serial, row.2.value)

/-- Whether the sets may stand for each other. -/
def agrees (s t : ParameterSet) : Bool := s.content == t.content

/-- What a hasher is fed: the number of entries, and each of them. -/
def digest (s : ParameterSet) : List UInt64 :=
  hash s.size :: s.content.flatMap fun (serial, v) => [hash serial, hash v]

instance : Hashable ParameterSet where
  hash s := hash s.digest

/-! ## How a set is shown -/

def text (s : ParameterSet) : String :=
  "\x7b" ++ ", ".intercalate (s.entries.map fun row => row.2.text) ++ "\x7d"

/-- The text with the name of the type. -/
def shown (s : ParameterSet) : String := "ParameterSet" ++ s.text

/-! ## The view -/

theorem findEntry_insertEntry (id id' : ParameterId) (e : Entry) :
    ∀ rows : List (ParameterId × Entry), rows.Pairwise (fun a b => a.1.Before b.1) →
      ((insertEntry id e rows).find? (fun row => row.1 = id')).map Prod.snd =
        if id' = id then some e else (rows.find? (fun row => row.1 = id')).map Prod.snd
  | [], _ => by
    by_cases h : id' = id
    · simp [insertEntry, h]
    · simp [insertEntry, h, Ne.symm h]
  | (other, f) :: rest, hs => by
    obtain ⟨-, hrest⟩ := List.pairwise_cons.1 hs
    have ih := findEntry_insertEntry id id' e rest hrest
    unfold insertEntry
    split
    · by_cases h : id' = id
      · simp [h]
      · simp [h, Ne.symm h]
    · split
      · rename_i hlt
        by_cases h : other = id'
        · subst h
          have hne : other ≠ id := fun he => ParameterId.Before.irrefl _ (he ▸ hlt)
          simp [hne]
        · simpa [List.find?_cons, h] using ih
      · rename_i h1 h2
        obtain rfl := ParameterId.Before.total h1 h2
        by_cases h : id' = id
        · simp [h]
        · simp [h, Ne.symm h]

theorem find?_insert (s : ParameterSet) (id id' : ParameterId) (e : Entry) :
    (s.insert id e).find? id' = if id' = id then some e else s.find? id' :=
  findEntry_insertEntry id id' e s.entries s.ascending

theorem find?_erase (s : ParameterSet) (id id' : ParameterId) :
    (s.erase id).find? id' = if id' = id then none else s.find? id' := by
  unfold find? erase
  rw [List.find?_filter]
  by_cases h : id' = id
  · subst h
    simp
  · rw [if_neg h]
    congr 2
    funext row
    by_cases hrow : row.1 = id'
    · simp [hrow, h]
    · simp [hrow]

theorem mem_of_find? {s : ParameterSet} {id : ParameterId} {e : Entry}
    (h : s.find? id = some e) : (id, e) ∈ s.entries := by
  unfold find? at h
  obtain ⟨row, hrow, rfl⟩ := Option.map_eq_some_iff.1 h
  have hid : row.1 = id := by simpa using List.find?_some hrow
  rw [← hid]
  exact List.mem_of_find?_eq_some hrow

theorem findEntry_of_mem {id : ParameterId} {e : Entry} :
    ∀ {rows : List (ParameterId × Entry)}, rows.Pairwise (fun a b => a.1.Before b.1) →
      (id, e) ∈ rows → (rows.find? (fun row => row.1 = id)).map Prod.snd = some e
  | [], _, h => by simp at h
  | (other, f) :: rest, hs, h => by
    obtain ⟨hfirst, hrest⟩ := List.pairwise_cons.1 hs
    rcases List.mem_cons.1 h with h | h
    · cases h
      simp
    · have hne : other ≠ id := fun he =>
        ParameterId.Before.irrefl id (he ▸ hfirst _ h)
      simpa [List.find?_cons, hne] using findEntry_of_mem hrest h

theorem find?_eq_some_iff {s : ParameterSet} {id : ParameterId} {e : Entry} :
    s.find? id = some e ↔ (id, e) ∈ s.entries :=
  ⟨mem_of_find?, findEntry_of_mem s.ascending⟩

/-- Ascending entries are determined by their members. -/
theorem entries_eq_of_mem_iff : ∀ {es fs : List (ParameterId × Entry)},
    es.Pairwise (fun a b => a.1.Before b.1) → fs.Pairwise (fun a b => a.1.Before b.1) →
      (∀ e, e ∈ es ↔ e ∈ fs) → es = fs
  | [], [], _, _, _ => rfl
  | [], f :: fs, _, _, h => absurd ((h f).2 (by simp)) (by simp)
  | e :: es, [], _, _, h => absurd ((h e).1 (by simp)) (by simp)
  | e :: es, f :: fs, hes, hfs, h => by
    obtain ⟨he, hes'⟩ := List.pairwise_cons.1 hes
    obtain ⟨hf, hfs'⟩ := List.pairwise_cons.1 hfs
    have hef : e = f := by
      rcases List.mem_cons.1 ((h e).1 (by simp)) with h1 | h1
      · exact h1
      · rcases List.mem_cons.1 ((h f).2 (by simp)) with h2 | h2
        · exact h2.symm
        · exact absurd (ParameterId.Before.trans (hf e h1) (he f h2)) (ParameterId.Before.irrefl _)
    subst hef
    have hrest : ∀ x, x ∈ es ↔ x ∈ fs := fun x => by
      constructor
      · intro hx
        rcases List.mem_cons.1 ((h x).1 (List.mem_cons_of_mem _ hx)) with rfl | h'
        · exact absurd (he _ hx) (ParameterId.Before.irrefl _)
        · exact h'
      · intro hx
        rcases List.mem_cons.1 ((h x).2 (List.mem_cons_of_mem _ hx)) with rfl | h'
        · exact absurd (hf _ hx) (ParameterId.Before.irrefl _)
        · exact h'
    rw [entries_eq_of_mem_iff hes' hfs' hrest]

/-- Sets are equal when every parameter has the same entry in both. -/
theorem ext {s t : ParameterSet} (h : ∀ id, s.find? id = t.find? id) : s = t := by
  obtain ⟨es, hes⟩ := s
  obtain ⟨fs, hfs⟩ := t
  have : es = fs := entries_eq_of_mem_iff hes hfs fun e => by
    have := h e.1
    constructor
    · intro he
      exact find?_eq_some_iff.1 (this ▸ find?_eq_some_iff.2 he)
    · intro hf
      exact find?_eq_some_iff.1 (this.symm ▸ find?_eq_some_iff.2 hf)
  subst this
  rfl

end ParameterSet
end SingleFlight
