/-
  TableSync/Fields.lean
  =====================
  **Named fields in order** — the association lists behind records, error
  contexts and commit metadata.

  A `Fields α` keeps the order in which its names were first written, because
  that order shows: in the columns of a row batch, in the fields named by a
  look-up that fails, in the text of an error.  `put` therefore overwrites a
  value where it stands and appends a new name at the end; `get?_put` says what
  a later look-up finds, and `names_put_of_mem` that an overwrite moves nothing.
-/

namespace TableSync

/-- Values under names, in the order in which the names were first written. -/
abbrev Fields (α : Type) := List (String × α)

namespace Fields

variable {α : Type}

/-- The value written under a name, if any. -/
def get? : Fields α → String → Option α
  | [], _ => none
  | (k, v) :: rest, name => if k = name then some v else get? rest name

/-- A name is present. -/
def has (fields : Fields α) (name : String) : Bool := (get? fields name).isSome

/-- The names in order. -/
def names (fields : Fields α) : List String := fields.map Prod.fst

/-- Overwrite the value of a name where it stands, or append it. -/
def put : Fields α → String → α → Fields α
  | [], name, value => [(name, value)]
  | (k, v) :: rest, name, value =>
    if k = name then (k, value) :: rest else (k, v) :: put rest name value

/-- Write all fields of `extra` in order. -/
def putAll (fields extra : Fields α) : Fields α :=
  extra.foldl (fun acc field => put acc field.1 field.2) fields

/-- One field per name, the last value written under it, at the place of the first. -/
def ofPairs (pairs : List (String × α)) : Fields α := putAll [] pairs

theorem get?_put_self (fields : Fields α) (name : String) (value : α) :
    get? (put fields name value) name = some value := by
  induction fields with
  | nil => simp [put, get?]
  | cons field rest ih =>
    obtain ⟨k, v⟩ := field
    by_cases h : k = name <;> simp [put, get?, h, ih]

theorem get?_put_of_ne (fields : Fields α) {name other : String} (value : α) (h : name ≠ other) :
    get? (put fields name value) other = get? fields other := by
  induction fields with
  | nil => simp [put, get?, h]
  | cons field rest ih =>
    obtain ⟨k, v⟩ := field
    by_cases hk : k = name
    · subst hk; simp [put, get?, h]
    · simp [put, get?, hk, ih]

theorem names_put_of_mem (fields : Fields α) {name : String} (value : α)
    (h : name ∈ names fields) : names (put fields name value) = names fields := by
  induction fields with
  | nil => simp [names] at h
  | cons field rest ih =>
    obtain ⟨k, v⟩ := field
    by_cases hk : k = name
    · simp [put, names, hk]
    · have hr : name ∈ names rest := by
        simp only [names, List.map_cons, List.mem_cons] at h ⊢
        rcases h with h | h
        · exact absurd h.symm hk
        · exact h
      simpa [put, names, hk] using ih hr

theorem get?_eq_none_iff {fields : Fields α} {name : String} : get? fields name = none ↔ name ∉ names fields := by
  induction fields with
  | nil => simp [get?, names]
  | cons field rest ih =>
    obtain ⟨k, v⟩ := field
    by_cases hk : k = name
    · simp [get?, names, hk]
    · have hother : ¬name = k := fun h => hk h.symm
      have hrest : get? rest name = none ↔ name ∉ rest.map Prod.fst := ih
      simp [get?, names, hk, hother, hrest]

theorem has_iff {fields : Fields α} {name : String} : has fields name = true ↔ name ∈ names fields := by
  rw [has, ← Option.ne_none_iff_isSome, ne_eq, get?_eq_none_iff, Decidable.not_not]

theorem get?_of_mem {fields : Fields α} {name : String} {value : α} (hnames : (names fields).Nodup)
    (h : (name, value) ∈ fields) : get? fields name = some value := by
  induction fields with
  | nil => simp at h
  | cons field rest ih =>
    obtain ⟨hnew, hrest⟩ := List.nodup_cons.1 hnames
    rcases List.mem_cons.1 h with rfl | hmem
    · simp [get?]
    · have hne : field.1 ≠ name := by
        intro heq
        rw [heq] at hnew
        exact hnew (List.mem_map_of_mem hmem)
      simp [get?, hne, ih hrest hmem]

theorem mem_of_get? {fields : Fields α} {name : String} {value : α} (h : get? fields name = some value) :
    (name, value) ∈ fields := by
  induction fields with
  | nil => simp [get?] at h
  | cons field rest ih =>
    obtain ⟨first, other⟩ := field
    by_cases hfirst : first = name
    · simp [get?, hfirst] at h
      simp [hfirst, h]
    · simp [get?, hfirst] at h
      exact List.mem_cons_of_mem _ (ih h)

theorem get?_append (fields more : Fields α) (name : String) :
    get? (fields ++ more) name = (get? fields name).or (get? more name) := by
  induction fields with
  | nil => rfl
  | cons field rest ih =>
    obtain ⟨k, v⟩ := field
    by_cases hk : k = name
    · simp [get?, hk]
    · simp [get?, hk, ih]

theorem get?_mapValues {β : Type} (change : α → β) (fields : Fields α) (name : String) :
    get? (fields.map fun field => (field.1, change field.2)) name = (get? fields name).map change := by
  induction fields with
  | nil => rfl
  | cons field rest ih =>
    obtain ⟨k, v⟩ := field
    by_cases hk : k = name
    · simp [get?, hk]
    · simp [get?, hk, ih]

/-- What is written under a name, where the values are made from the names. -/
theorem get?_ofNames (value : String → α) (names : List String) (name : String) :
    get? (names.map fun name => (name, value name)) name = if name ∈ names then some (value name) else none := by
  induction names with
  | nil => rfl
  | cons first rest ih =>
    by_cases hfirst : first = name
    · simp [get?, hfirst]
    · have hother : ¬name = first := fun h => hfirst h.symm
      simp [get?, hfirst, hother, ih]

end Fields

end TableSync
