/-
This file holds tables: at most one value for each key. A value that is put in replaces the
one there was, and the rows can be restricted to those whose value passes a test. The lemmas
say what each operation does to what `get?` finds.
-/

namespace Leasehold

/-- Rows of a key and a value, no two for one key. -/
structure Table (Value : Type) where
  rows : List (String × Value)
  distinct : (rows.map Prod.fst).Nodup

namespace Table

variable {Value : Type}

/-- The table without rows. -/
def empty : Table Value := ⟨[], List.nodup_nil⟩

instance : Inhabited (Table Value) := ⟨empty⟩

/-- The rows of which key and value pass a test. -/
def restrict (table : Table Value) (keep : String × Value → Bool) : Table Value :=
  ⟨table.rows.filter keep, table.distinct.sublist (List.filter_sublist.map Prod.fst)⟩

/-- The rows of which the value passes a test. -/
def filter (table : Table Value) (keep : Value → Bool) : Table Value :=
  table.restrict fun row => keep row.2

/-- The table without a key. -/
def erase (table : Table Value) (key : String) : Table Value :=
  table.restrict fun row => row.1 ≠ key

/-- The table with a value put in for a key. -/
def insert (table : Table Value) (key : String) (value : Value) : Table Value where
  rows := (key, value) :: (table.erase key).rows
  distinct := by
    rw [List.map_cons, List.nodup_cons]
    refine ⟨?_, (table.erase key).distinct⟩
    simp [erase, restrict]

/-- The value of a key. -/
def get? (table : Table Value) (key : String) : Option Value :=
  (table.rows.find? fun row => row.1 = key).map Prod.snd

/-- The number of rows. -/
def size (table : Table Value) : Nat := table.rows.length

/-! ### What is found -/

theorem get?_eq_some_iff {table : Table Value} {key : String} {value : Value} :
    table.get? key = some value ↔ (key, value) ∈ table.rows := by
  obtain ⟨rows, distinct⟩ := table
  simp only [get?]
  induction rows with
  | nil => simp
  | cons row rest inductionHypothesis =>
    obtain ⟨other, held⟩ := row
    rw [List.map_cons, List.nodup_cons] at distinct
    rw [List.find?_cons]
    by_cases same : other = key
    · subst same
      simp only [decide_true, Option.map_some, Option.some.injEq, List.mem_cons, Prod.mk.injEq,
        true_and]
      constructor
      · exact fun equal => Or.inl equal.symm
      · rintro (equal | member)
        · exact equal.symm
        · exact absurd (List.mem_map_of_mem (f := Prod.fst) member) distinct.1
    · simp only [same, decide_false, List.mem_cons, Prod.mk.injEq]
      rw [inductionHypothesis distinct.2]
      constructor
      · exact Or.inr
      · rintro (⟨equal, _⟩ | member)
        · exact absurd equal.symm same
        · exact member

theorem get?_restrict (table : Table Value) (keep : String × Value → Bool) (key : String) :
    (table.restrict keep).get? key = (table.get? key).filter fun value => keep (key, value) := by
  apply Option.ext
  intro value
  rw [get?_eq_some_iff, Option.filter_eq_some_iff, get?_eq_some_iff]
  simp [restrict]

theorem get?_filter (table : Table Value) (keep : Value → Bool) (key : String) :
    (table.filter keep).get? key = (table.get? key).filter keep :=
  get?_restrict table _ key

theorem get?_erase (table : Table Value) (erased key : String) :
    (table.erase erased).get? key = if key = erased then none else table.get? key := by
  rw [erase, get?_restrict]
  split
  next same => simp [same]
  next other =>
    simp only [ne_eq, other, not_false_eq_true, decide_true]
    cases table.get? key <;> rfl

theorem get?_insert (table : Table Value) (inserted : String) (value : Value) (key : String) :
    (table.insert inserted value).get? key =
      if key = inserted then some value else table.get? key := by
  by_cases same : key = inserted
  · subst same
    simp [get?, insert]
  · have other : ¬inserted = key := fun equal => same equal.symm
    have found : (table.insert inserted value).get? key = (table.erase inserted).get? key := by
      simp [get?, insert, other]
    rw [found, get?_erase, if_neg same, if_neg same]

end Table

end Leasehold
