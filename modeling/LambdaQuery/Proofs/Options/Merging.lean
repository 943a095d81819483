import LambdaQuery.Proofs.Bindings
import LambdaQuery.Proofs.Query.Blocks

/-!
# Options objects laid over each other

Options objects form a monoid: laying them over each other is associative, and the object that sets
nothing changes nothing.  So objects may be merged in groups.  What is merged has of each setting
the last one that was made, the parameters of all objects, and each header once, at the place of
its first mention and with the value of its last mention.

## Main definitions

* `LambdaQuery.Options.IsMerged` — what options objects are merged into, setting by setting.

## Main results

* `LambdaQuery.Bindings.eq_of_get?_eq` — entries are determined by the names and their values.
* `LambdaQuery.Bindings.update_entries_ofList` — entries may be set in groups.
* `LambdaQuery.Options.overlay_assoc` — laying objects over each other is associative.
* `LambdaQuery.Options.merge_eq_iff` — the one object that others are merged into.
* `LambdaQuery.Options.merge_last_wins` — merging in groups, what is merged, and how the names in a
  query are written.

## Design

The places of headers are compared by filtered lists of names, so that the order of first mention is
the one computation `List.eraseDups` throughout.
-/

set_option autoImplicit false

namespace LambdaQuery

/-! ## Entries that are set in groups -/

namespace Bindings

variable {α : Type}

/-- Two lists of entries with the same distinct names and the same values are the same. -/
lemma eq_of_lookup_eq {l l' : List (String × α)} (hnodup : (l.map Prod.fst).Nodup)
    (hnames : l.map Prod.fst = l'.map Prod.fst)
    (hvalues : ∀ x ∈ l.map Prod.fst, l.lookup x = l'.lookup x) : l = l' := by
  induction l generalizing l' with
  | nil => exact (List.map_eq_nil_iff.1 hnames.symm).symm
  | cons e l ih =>
    obtain ⟨x, v⟩ := e
    obtain ⟨⟨x', v'⟩, l', rfl⟩ : ∃ e' t, l' = e' :: t := by
      refine List.exists_cons_of_ne_nil ?_
      rintro rfl
      contradiction
    obtain ⟨rfl, hothers⟩ : x = x' ∧ l.map Prod.fst = l'.map Prod.fst := List.cons.inj hnames
    have hx : some v = some v' := by
      simpa [lookup_cons_eq] using hvalues x List.mem_cons_self
    obtain rfl := Option.some.inj hx
    obtain ⟨hnew, hnodup⟩ := List.nodup_cons.1 hnodup
    -- the first name is not among the others, so these are looked up behind it
    have htail : ∀ y ∈ l.map Prod.fst, l.lookup y = l'.lookup y := by
      intro y hy
      have hne : y ≠ x := ne_of_mem_of_not_mem hy hnew
      simpa [lookup_cons_eq, hne] using hvalues y (List.mem_cons_of_mem _ hy)
    rw [ih hnodup hothers htail]

/-- Entries are determined by the order of their names and by the values of these. -/
lemma eq_of_get?_eq {b b' : Bindings α}
    (hnames : b.entries.map Prod.fst = b'.entries.map Prod.fst)
    (hvalues : ∀ x, b.get? x = b'.get? x) : b = b' := by
  have hentries := eq_of_lookup_eq b.nodup hnames fun x _ => hvalues x
  cases b
  cases b'
  simpa using hentries

/-- Names stand in the order in which they are mentioned first. -/
lemma map_fst_ofList (es : List (String × α)) :
    (ofList es).entries.map Prod.fst = (es.map Prod.fst).eraseDups := by
  simpa using filter_map_fst_ofList (fun _ => true) es

/-- Setting entries after others is setting all of them. -/
lemma update_eq_ofList (b : Bindings α) (es : List (String × α)) :
    b.update es = ofList (b.entries ++ es) := by
  rw [ofList, update_append, ← ofList, ofList_entries]

/-- **Entries in groups**: setting what a list of entries comes to is setting the entries of the
list. -/
lemma update_entries_ofList (b : Bindings α) (es : List (String × α)) :
    b.update (ofList es).entries = b.update es := by
  rw [update_eq_ofList, update_eq_ofList]
  refine eq_of_get?_eq ?_ fun x => ?_
  · -- of the new names each is kept once, whether or not it is kept once before
    have hkept : ∀ p : String → Bool,
        (((ofList es).entries.map Prod.fst).filter p).eraseDups =
          ((es.map Prod.fst).filter p).eraseDups := by
      intro p
      rw [← filter_map_fst_ofList, ofList_entries, filter_map_fst_ofList]
    simp only [map_fst_ofList, List.map_append, List.eraseDups_append, List.removeAll]
    rw [← map_fst_ofList es, hkept]
  · have hlast : (ofList es).entries.reverse.lookup x = es.reverse.lookup x := by
      rw [← get?_ofList, ofList_entries, get?_ofList]
    rw [get?_ofList, get?_ofList, List.reverse_append, List.reverse_append, List.lookup_append,
      List.lookup_append, hlast]

/-- Setting entries after others is associative. -/
lemma update_update (a b c : Bindings α) :
    (a.update b.entries).update c.entries = a.update (b.update c.entries).entries := by
  rw [update_eq_ofList b, update_entries_ofList, update_append]

end Bindings

namespace Options

/-! ## Objects in groups -/

/-- **Laying objects over each other** is associative. -/
lemma overlay_assoc (a b c : Options) : (a.overlay b).overlay c = a.overlay (b.overlay c) := by
  simp only [overlay, Bindings.update_update, List.append_assoc, Option.orElse_eq_orElse,
    Option.orElse_eq_or, Option.or_assoc]

/-- The object that sets nothing at the bottom. -/
lemma empty_overlay (o : Options) : empty.overlay o = o := by
  have hheaders : (Bindings.empty : Bindings String).update o.headers.entries = o.headers :=
    Bindings.ofList_entries o.headers
  simp [overlay, empty, hheaders]

/-- The object that sets nothing at the top. -/
lemma overlay_empty (o : Options) : o.overlay empty = o := by
  have hheaders : o.headers.update (Bindings.empty : Bindings String).entries = o.headers := rfl
  simp [overlay, empty, hheaders]

instance : Std.Associative overlay := ⟨overlay_assoc⟩

/-- One object. -/
lemma merge_singleton (o : Options) : merge [o] = o := empty_overlay o

/-- Lists of objects are merged one after the other. -/
lemma merge_append (xs ys : List Options) : merge (xs ++ ys) = (merge xs).overlay (merge ys) := by
  calc merge (xs ++ ys) = ys.foldl overlay (merge xs) := List.foldl_append
    _ = ys.foldl overlay ((merge xs).overlay empty) := by rw [overlay_empty]
    _ = (merge xs).overlay (merge ys) := List.foldl_assoc

/-! ## What objects are merged into -/

/-- What options objects are merged into: of each setting the last one that is made, all parameters,
and all headers, in the order of their first mention and with the values of their last mention. -/
structure IsMerged (os : List Options) (o : Options) : Prop where
  /-- The last place of the collection. -/
  url : o.url = (os.filterMap (·.url)).getLast?
  /-- The last method. -/
  method : o.method = (os.filterMap (·.method)).getLast?
  /-- The last time limit. -/
  timeoutMs : o.timeoutMs = (os.filterMap (·.timeoutMs)).getLast?
  /-- The last word on how member names are written. -/
  pascalize : o.pascalize = (os.filterMap (·.pascalize)).getLast?
  /-- The parameters, one object after the other. -/
  params : o.params = os.flatMap (·.params)
  /-- Each header once, in the order of first mention. -/
  names : o.headers.entries.map Prod.fst =
    ((os.flatMap (·.headers.entries)).map Prod.fst).eraseDups
  /-- Each header with the value of its last mention. -/
  values : ∀ x, o.headers.get? x = (os.flatMap (·.headers.entries)).reverse.lookup x

/-- A setting of which a later one replaces an earlier one is the last one that is made. -/
lemma setting_merge {α : Type} (f : Options → Option α) (hempty : f empty = none)
    (hoverlay : ∀ o later, f (overlay o later) = (f later).or (f o)) (os : List Options) :
    f (merge os) = (os.filterMap f).getLast? := by
  induction os using List.reverseRecOn with
  | nil => exact hempty
  | append_singleton os o ih =>
    rw [merge_append, merge_singleton, hoverlay, ih, List.filterMap_append, List.getLast?_append]
    cases ho : f o <;> simp [ho]

/-- The parameters of merged options are those of the objects, in their order. -/
lemma params_merge (os : List Options) : (merge os).params = os.flatMap (·.params) := by
  induction os using List.reverseRecOn with
  | nil => rfl
  | append_singleton os o ih =>
    rw [merge_append, merge_singleton, overlay, ih, List.flatMap_append, List.flatMap_singleton]

/-- The headers of merged options are set one after the other. -/
lemma headers_merge (os : List Options) :
    (merge os).headers = .ofList (os.flatMap (·.headers.entries)) := by
  induction os using List.reverseRecOn with
  | nil => rfl
  | append_singleton os o ih =>
    rw [merge_append, merge_singleton, overlay, ih, List.flatMap_append, List.flatMap_singleton]
    exact (Bindings.update_append _ _ _).symm

/-- Merging gives what objects are merged into. -/
lemma isMerged_merge (os : List Options) : IsMerged os (merge os) where
  url := setting_merge (·.url) rfl (fun _ _ => Option.orElse_eq_or) os
  method := setting_merge (·.method) rfl (fun _ _ => Option.orElse_eq_or) os
  timeoutMs := setting_merge (·.timeoutMs) rfl (fun _ _ => Option.orElse_eq_or) os
  pascalize := setting_merge (·.pascalize) rfl (fun _ _ => Option.orElse_eq_or) os
  params := params_merge os
  names := by rw [headers_merge, Bindings.map_fst_ofList]
  values x := by rw [headers_merge, Bindings.get?_ofList]

/-- Objects are merged into one object only. -/
lemma IsMerged.unique {os : List Options} {o o' : Options} (h : IsMerged os o)
    (h' : IsMerged os o') : o = o' := by
  have hheaders : o.headers = o'.headers :=
    Bindings.eq_of_get?_eq (h.names.trans h'.names.symm)
      fun x => (h.values x).trans (h'.values x).symm
  have hurl := h.url.trans h'.url.symm
  have hmethod := h.method.trans h'.method.symm
  have htimeoutMs := h.timeoutMs.trans h'.timeoutMs.symm
  have hpascalize := h.pascalize.trans h'.pascalize.symm
  have hparams := h.params.trans h'.params.symm
  cases o
  cases o'
  simp_all

/-- **The object that others are merged into** is the one that has the last settings. -/
lemma merge_eq_iff {os : List Options} {o : Options} : merge os = o ↔ IsMerged os o := by
  constructor
  · rintro rfl
    exact isMerged_merge os
  · exact (isMerged_merge os).unique

/-- How member names are written, as the merged options say. -/
lemma pascalizeOf_eq_merge (os : List Options) :
    pascalizeOf os = (merge os).pascalize.getD false := by
  rw [pascalizeOf_eq_preference, preference, (isMerged_merge os).pascalize,
    List.getLastD_eq_getLast?]

/-- **Options in groups, and what the last one decides**: lists of objects may be merged first, and
one object is merged into itself.  Objects are merged into the one object that has the last
settings, all parameters, and each header at its first place with its last value.  So the search
for the last object that says how member names are written finds what the merged options say, and a
query is compiled with the names written as its own merged options say. -/
theorem merge_last_wins :
    (∀ xs ys, merge (xs ++ ys) = merge [merge xs, merge ys]) ∧
    (∀ o, merge [o] = o) ∧
    (∀ os o, merge os = o ↔ IsMerged os o) ∧
    (∀ os, pascalizeOf os = (merge os).pascalize.getD false) ∧
    ∀ parts c, compileParts parts = .ok c ↔
      c.options = optionsOf parts ∧
      parametersAfter (c.mergedOptions.pascalize.getD false) [] parts = .ok c.params := by
  refine ⟨fun xs ys => ?_, merge_singleton, fun _ _ => merge_eq_iff, pascalizeOf_eq_merge,
    fun parts c => ?_⟩
  · calc merge (xs ++ ys) = (merge xs).overlay (merge ys) := merge_append xs ys
      _ = (merge [merge xs]).overlay (merge [merge ys]) := by simp only [merge_singleton]
      _ = merge [merge xs, merge ys] := (merge_append [merge xs] [merge ys]).symm
  · obtain ⟨params, options⟩ := c
    simp only [compileParts, Compiled.mergedOptions, bind_eq_ok_iff, pure_eq_ok_iff,
      Compiled.mk.injEq, ← pascalizeOf_eq_merge]
    constructor
    · rintro ⟨params', hparams, rfl, rfl⟩
      exact ⟨rfl, hparams⟩
    · rintro ⟨rfl, hparams⟩
      exact ⟨params, hparams, rfl, rfl⟩

/-- A header that is set again stays in its place. -/
example :
    (merge [empty.withHeader "a" "1", empty.withHeader "b" "2",
      empty.withHeader "a" "3"]).headers.entries = [("a", "3"), ("b", "2")] := by
  decide

end Options

end LambdaQuery
