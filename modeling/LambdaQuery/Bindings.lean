/-!
# Named entries in order

Captured variables and request headers are lists of named entries.  A name occurs once; setting
it again replaces its entry and leaves it where it was first mentioned.

## Main definitions

* `LambdaQuery.Bindings` — entries with distinct names, in order of first mention.
* `LambdaQuery.Bindings.set` — sets the entry of a name.
* `LambdaQuery.Bindings.get?` — the entry of a name.
* `LambdaQuery.Bindings.update` — sets all entries of a list, one after the other.

## Main results

* `LambdaQuery.Bindings.get?_set` — what is read after setting an entry.
-/

set_option autoImplicit false

namespace LambdaQuery

/-- Entries with distinct names, in order of first mention. -/
structure Bindings (α : Type) where
  /-- The names and what they stand for. -/
  entries : List (String × α)
  /-- No name occurs twice. -/
  nodup : (entries.map Prod.fst).Nodup
deriving DecidableEq

namespace Bindings

variable {α : Type}

/-- No entries. -/
def empty : Bindings α := ⟨[], List.nodup_nil⟩

instance : Inhabited (Bindings α) := ⟨empty⟩

/-- There are no entries. -/
def isEmpty (b : Bindings α) : Bool := b.entries.isEmpty

/-- The entry of a name. -/
def get? (b : Bindings α) (name : String) : Option α := b.entries.lookup name

/-- The list with the entry of `name` replaced, or appended if there is none. -/
def put (name : String) (value : α) : List (String × α) → List (String × α)
  | [] => [(name, value)]
  | (n, v) :: rest => if n = name then (n, value) :: rest else (n, v) :: put name value rest

/-- Putting an entry keeps the names, and adds a new name at the end. -/
theorem map_fst_put (name : String) (value : α) (l : List (String × α)) :
    (put name value l).map Prod.fst =
      if name ∈ l.map Prod.fst then l.map Prod.fst else l.map Prod.fst ++ [name] := by
  induction l with
  | nil => simp [put]
  | cons e rest ih =>
    obtain ⟨n, v⟩ := e
    by_cases h : n = name
    · simp [put, h]
    · have h' : ¬ name = n := fun e => h e.symm
      simp only [put, h, if_false, List.map_cons, ih, List.mem_cons, h', false_or]
      split <;> simp

/-- Putting an entry into a list of distinct names leaves the names distinct. -/
theorem nodup_put (name : String) (value : α) {l : List (String × α)}
    (h : (l.map Prod.fst).Nodup) : ((put name value l).map Prod.fst).Nodup := by
  rw [map_fst_put]
  split
  · exact h
  · next hn =>
    refine List.nodup_append.2 ⟨h, by simp, ?_⟩
    intro a ha b hb
    rw [List.mem_singleton.1 hb]
    exact fun e => hn (e ▸ ha)

/-- Sets the entry of a name; a name that is already there keeps its place. -/
def set (b : Bindings α) (name : String) (value : α) : Bindings α :=
  ⟨put name value b.entries, nodup_put name value b.nodup⟩

/-- Sets all entries of a list, one after the other. -/
def update (b : Bindings α) (entries : List (String × α)) : Bindings α :=
  entries.foldl (fun b e => b.set e.1 e.2) b

/-- The entries of a list, a later one replacing an earlier one of the same name. -/
def ofList (entries : List (String × α)) : Bindings α := empty.update entries

/-- Looking a name up in a list looks at its first entry, then at the others. -/
theorem lookup_cons_eq (name other : String) (value : α) (l : List (String × α)) :
    ((name, value) :: l).lookup other = if other = name then some value else l.lookup other := by
  by_cases h : other = name
  · simp [h]
  · have hb : (other == name) = false := beq_eq_false_iff_ne.2 h
    simp [List.lookup_cons, hb, h]

/-- Looking a name up in a list after putting an entry. -/
theorem lookup_put (name other : String) (value : α) (l : List (String × α)) :
    (put name value l).lookup other = if other = name then some value else l.lookup other := by
  induction l with
  | nil => simp [put, lookup_cons_eq]
  | cons e rest ih =>
    obtain ⟨n, v⟩ := e
    by_cases hn : n = name <;> by_cases ho : other = n <;>
      simp_all [put, lookup_cons_eq]

/-- **Reading after setting**: the name set has its new entry, and all others are unchanged. -/
@[simp] theorem get?_set (b : Bindings α) (name other : String) (value : α) :
    (b.set name value).get? other = if other = name then some value else b.get? other :=
  lookup_put name other value b.entries

end Bindings

end LambdaQuery
