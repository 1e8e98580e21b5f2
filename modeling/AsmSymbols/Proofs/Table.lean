import AsmSymbols.Table

/-!
# What tables hold

Look-up against membership, and the three ways in which `upsert` can change the entries: a new key
goes behind all others, a held key changes in place, and a table that was made key by key from a
list of keys stays of that form.
-/

set_option autoImplicit false

namespace AsmSymbols.Table

variable {Key Value : Type} [DecidableEq Key]

theorem mem_of_findIn? {key : Key} {value : Value} {entries : List (Key × Value)}
    (found : findIn? key entries = some value) : (key, value) ∈ entries := by
  induction entries with
  | nil => simp [findIn?] at found
  | cons entry rest inductionHypothesis =>
    obtain ⟨other, held⟩ := entry
    by_cases same : other = key
    · simp only [findIn?, same, ↓reduceIte, Option.some.injEq] at found
      rw [same, found]
      exact List.mem_cons_self
    · simp only [findIn?, same, ↓reduceIte] at found
      exact List.mem_cons_of_mem _ (inductionHypothesis found)

theorem mem_entries_of_find? {table : Table Key Value} {key : Key} {value : Value}
    (found : table.find? key = some value) : (key, value) ∈ table.entries :=
  mem_of_findIn? found

theorem findIn?_eq_none_iff {key : Key} {entries : List (Key × Value)} :
    findIn? key entries = none ↔ key ∉ entries.map Prod.fst := by
  induction entries with
  | nil => simp [findIn?]
  | cons entry rest inductionHypothesis =>
    obtain ⟨other, held⟩ := entry
    by_cases same : other = key
    · simp [findIn?, same]
    · have differs : key ≠ other := fun equality => same equality.symm
      simp [findIn?, same, differs, inductionHypothesis]

theorem find?_eq_none_iff {table : Table Key Value} {key : Key} :
    table.find? key = none ↔ key ∉ table.keys :=
  findIn?_eq_none_iff

/-- Under distinct keys, what is found is what is held. -/
theorem findIn?_eq_some_iff {key : Key} {value : Value} {entries : List (Key × Value)}
    (distinct : (entries.map Prod.fst).Nodup) :
    findIn? key entries = some value ↔ (key, value) ∈ entries := by
  refine ⟨mem_of_findIn?, ?_⟩
  intro held
  induction entries with
  | nil => cases held
  | cons entry rest inductionHypothesis =>
    obtain ⟨other, first⟩ := entry
    rw [List.map_cons, List.nodup_cons] at distinct
    rcases List.mem_cons.mp held with isFirst | inRest
    · obtain ⟨rfl, rfl⟩ := Prod.mk.inj isFirst
      simp [findIn?]
    · have differs : other ≠ key := by
        rintro rfl
        exact distinct.1 (List.mem_map.mpr ⟨_, inRest, rfl⟩)
      rw [findIn?, if_neg differs]
      exact inductionHypothesis distinct.2 inRest

theorem find?_eq_some_iff {table : Table Key Value} {key : Key} {value : Value}
    (distinct : table.keys.Nodup) :
    table.find? key = some value ↔ (key, value) ∈ table.entries :=
  findIn?_eq_some_iff distinct

theorem contains_iff {table : Table Key Value} {key : Key} :
    table.contains key = true ↔ key ∈ table.keys := by
  rw [contains, ← Option.isNone_eq_false_iff, ← Bool.not_eq_true, Option.isNone_iff_eq_none,
    find?_eq_none_iff, Decidable.not_not]

/-- Tables with the same entries find the same, in whatever order the entries stand. -/
theorem find?_of_perm {table other : Table Key Value} (reordered : table.entries.Perm other.entries)
    (distinct : table.keys.Nodup) (key : Key) : table.find? key = other.find? key := by
  have otherDistinct : other.keys.Nodup := (reordered.map Prod.fst).nodup_iff.mp distinct
  ext value
  rw [find?_eq_some_iff distinct, find?_eq_some_iff otherDistinct]
  exact reordered.mem_iff

theorem upsertEntries_of_notMem {key : Key} {update : Option Value → Value}
    {entries : List (Key × Value)} (fresh : key ∉ entries.map Prod.fst) :
    upsertEntries key update entries = entries ++ [(key, update none)] := by
  induction entries with
  | nil => rfl
  | cons entry rest inductionHypothesis =>
    obtain ⟨other, held⟩ := entry
    simp only [List.map_cons, List.mem_cons, not_or] at fresh
    have differs : other ≠ key := fun equality => fresh.1 equality.symm
    simp [upsertEntries, differs, inductionHypothesis fresh.2]

/-- A new key goes behind all others. -/
theorem entries_insert_of_notMem {table : Table Key Value} {key : Key} {value : Value}
    (fresh : key ∉ table.keys) :
    (table.insert key value).entries = table.entries ++ [(key, value)] :=
  upsertEntries_of_notMem fresh

theorem findIn?_map (valueOf : Key → Value) (keys : List Key) (key : Key) :
    findIn? key (keys.map fun other => (other, valueOf other)) =
      if key ∈ keys then some (valueOf key) else none := by
  induction keys with
  | nil => rfl
  | cons first rest inductionHypothesis =>
    by_cases same : first = key
    · simp [findIn?, same]
    · simp [findIn?, same, Ne.symm same, inductionHypothesis]

/-- Entries that are made key by key stay so when one of the keys changes. -/
theorem upsertEntries_map_of_mem {key : Key} {update : Option Value → Value} {keys : List Key}
    (valueOf : Key → Value) (distinct : keys.Nodup) (held : key ∈ keys) :
    upsertEntries key update (keys.map fun other => (other, valueOf other)) =
      keys.map fun other =>
        (other, if other = key then update (some (valueOf key)) else valueOf other) := by
  induction keys with
  | nil => simp at held
  | cons first rest inductionHypothesis =>
    rw [List.nodup_cons] at distinct
    by_cases same : first = key
    · subst same
      have unchanged : ∀ other ∈ rest, other ≠ first := by
        intro other inRest equality
        subst equality
        exact distinct.1 inRest
      simp only [List.map_cons, upsertEntries, ↓reduceIte, List.cons.injEq, true_and]
      apply List.map_congr_left
      intro other inRest
      simp [unchanged other inRest]
    · have later : key ∈ rest := by
        rcases List.mem_cons.mp held with equality | later
        · exact absurd equality.symm same
        · exact later
      simp [upsertEntries, same, inductionHypothesis distinct.2 later]

end AsmSymbols.Table
