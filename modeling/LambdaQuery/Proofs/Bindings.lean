import Mathlib
import LambdaQuery.Bindings

/-!
# Entries that are set one after the other

Entries are set from a list, a later one replacing an earlier one of the same name.  What results
has the names in the order of their first mention, each with the value that it was given last.

## Main results

* `LambdaQuery.Bindings.get?_ofList` — a name has the value that it was given last.
* `LambdaQuery.Bindings.filter_map_fst_ofList` — names stand in the order of their first mention.
* `LambdaQuery.Bindings.ofList_entries` — entries with distinct names are kept as they are.
-/

set_option autoImplicit false

namespace LambdaQuery

/-- One more element is kept unless it occurred before. -/
lemma eraseDups_concat (l : List String) (x : String) :
    (l ++ [x]).eraseDups = if x ∈ l then l.eraseDups else l.eraseDups ++ [x] := by
  rw [List.eraseDups_append]
  by_cases hx : x ∈ l
  · rw [if_pos hx]
    simp [List.removeAll, hx]
  · rw [if_neg hx]
    simp [List.removeAll, hx, List.eraseDups_cons]

namespace Bindings

variable {α : Type}

/-- There are entries once one is set. -/
lemma isEmpty_set (b : Bindings α) (x : String) (v : α) : (b.set x v).isEmpty = false := by
  have hput : ∀ l, (put x v l).isEmpty = false := by
    intro l
    cases l with
    | nil => rfl
    | cons e l =>
      rw [put]
      split_ifs <;> rfl
  exact hput b.entries

/-- The entries of two lists are set one after the other. -/
lemma update_append (b : Bindings α) (es fs : List (String × α)) :
    b.update (es ++ fs) = (b.update es).update fs :=
  List.foldl_append

/-- The last entry of a list is set last. -/
lemma ofList_concat (es : List (String × α)) (e : String × α) :
    ofList (es ++ [e]) = (ofList es).set e.1 e.2 :=
  update_append empty es [e]

/-- **Values**: a name has the value that it was given last. -/
lemma get?_ofList (es : List (String × α)) (x : String) :
    (ofList es).get? x = es.reverse.lookup x := by
  induction es using List.reverseRecOn with
  | nil => rfl
  | append_singleton es e ih =>
    rw [ofList_concat, get?_set, ih, List.reverse_append, List.reverse_singleton,
      List.singleton_append, lookup_cons_eq]

/-- **Places**: names stand in the order in which they are mentioned first. -/
lemma filter_map_fst_ofList (p : String → Bool) (es : List (String × α)) :
    ((ofList es).entries.map Prod.fst).filter p = ((es.map Prod.fst).filter p).eraseDups := by
  induction es using List.reverseRecOn with
  | nil => rfl
  | append_singleton es e ih =>
    obtain ⟨x, v⟩ := e
    have hnames : ((ofList es).set x v).entries.map Prod.fst =
        if x ∈ (ofList es).entries.map Prod.fst then (ofList es).entries.map Prod.fst
        else (ofList es).entries.map Prod.fst ++ [x] := map_fst_put x v (ofList es).entries
    rw [ofList_concat, hnames, List.map_append, List.filter_append]
    by_cases hp : p x = true
    · -- the name was mentioned before if it stands among the names already
      have hmem : x ∈ (ofList es).entries.map Prod.fst ↔ x ∈ (es.map Prod.fst).filter p := by
        rw [← List.mem_eraseDups (l := (es.map Prod.fst).filter p), ← ih, List.mem_filter,
          and_iff_left hp]
      have hsingle : [(x, v)].map Prod.fst = [x] := rfl
      rw [hsingle, List.filter_singleton, hp, cond_true, eraseDups_concat, ← ih]
      simp only [hmem]
      split_ifs
      · rfl
      · rw [List.filter_append, List.filter_singleton, hp, cond_true]
    · have hp : p x = false := eq_false_of_ne_true hp
      split_ifs <;> simp [hp, ih]

/-- The entries are the names with their values. -/
lemma mem_entries_iff (b : Bindings α) {x : String} {v : α} :
    (x, v) ∈ b.entries ↔ b.get? x = some v := by
  rw [get?, List.lookup_eq_some_iff]
  constructor
  · intro h
    obtain ⟨before, after, heq⟩ := List.append_of_mem h
    refine ⟨before, after, heq, fun p hp => ?_⟩
    have hnodup := b.nodup
    rw [heq, List.map_append, List.nodup_append] at hnodup
    have hne := hnodup.2.2 p.1 (List.mem_map_of_mem hp) x (by simp)
    simpa using Ne.symm hne
  · rintro ⟨before, after, heq, -⟩
    rw [heq]
    simp

/-- An entry with a new name is set behind the others. -/
lemma put_of_notMem {x : String} {l : List (String × α)} (hx : x ∉ l.map Prod.fst) (v : α) :
    put x v l = l ++ [(x, v)] := by
  induction l with
  | nil => rfl
  | cons e l ih =>
    rw [List.map_cons, List.mem_cons, not_or] at hx
    rw [put, if_neg (Ne.symm hx.1), ih hx.2, List.cons_append]

/-- Entries with distinct names are kept as they are when they are set one after the other. -/
lemma entries_ofList {es : List (String × α)} (h : (es.map Prod.fst).Nodup) :
    (ofList es).entries = es := by
  induction es using List.reverseRecOn with
  | nil => rfl
  | append_singleton es e ih =>
    rw [List.map_append, List.nodup_append] at h
    obtain ⟨hes, -, hdisjoint⟩ := h
    have hnew : e.1 ∉ es.map Prod.fst := fun hmem => hdisjoint e.1 hmem e.1 (by simp) rfl
    have hput : ((ofList es).set e.1 e.2).entries = put e.1 e.2 (ofList es).entries := rfl
    rw [ofList_concat, hput, ih hes, put_of_notMem hnew]

/-- Setting the entries one after the other gives them back. -/
lemma ofList_entries (b : Bindings α) : ofList b.entries = b := by
  have hentries := entries_ofList b.nodup
  generalize ofList b.entries = b' at hentries ⊢
  cases b
  cases b'
  simpa using hentries

end Bindings

end LambdaQuery
