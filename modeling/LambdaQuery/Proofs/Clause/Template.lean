import LambdaQuery.Proofs.Clause.Captured

/-!
# Clauses as templates

A captured variable stands in a clause as its literal and has no other influence.  If the same names
are captured with other values, the clause is made of the same pieces of text, and the literals of
the new values stand in the places of the old ones.

## Main definitions

* `LambdaQuery.Piece` — text that stands as it is, or the place of a captured variable.
* `LambdaQuery.Template` — a text with places for captured variables.

## Main results

* `LambdaQuery.isTextRelation_fits` — texts that are filled from one template are alike in all that
  rendering asks about a text.
* `LambdaQuery.Expr.clause_fills_template` — the clauses for captured variables of the same names
  are filled from one template.
-/

set_option autoImplicit false

namespace LambdaQuery

/-! ## Templates -/

/-- A piece of a clause. -/
inductive Piece where
  /-- Text that stands as it is. -/
  | text (s : List Char)
  /-- The place of a captured variable. -/
  | captured (x : String)

/-- A text with places for captured variables. -/
abbrev Template := List Piece

/-- The text of a piece: a captured variable is written as its literal. -/
def Piece.fill (scopes : Scopes) : Piece → List Char
  | .text s => s
  | .captured x => (scopes.lookup x).elim [] Value.literal

namespace Template

/-- The text of the pieces, one after the other. -/
def fill (scopes : Scopes) (t : Template) : List Char := t.flatMap (Piece.fill scopes)

/-- All variables that have a place in the template are captured. -/
def IsCaptured (scopes : Scopes) (t : Template) : Prop :=
  ∀ x, .captured x ∈ t → (scopes.lookup x).isSome = true

variable {scopes scopes' : Scopes} {t : Template}

/-- The place of a captured variable shows in the text. -/
lemma exists_mem_fill {x : String} (hx : .captured x ∈ t) (ht : t.IsCaptured scopes) :
    ∃ c ∈ t.fill scopes, c ∉ Vocabulary.mathOwner.toList := by
  obtain ⟨v, hv⟩ := Option.isSome_iff_exists.1 (ht x hx)
  obtain ⟨c, hc, hmath⟩ := v.exists_mem_literal
  refine ⟨c, List.mem_flatMap.2 ⟨_, hx, ?_⟩, hmath⟩
  simpa [Piece.fill, hv] using hc

/-- A template without places is the same text for all captured variables. -/
lemma fill_eq_of_forall_not_mem (h : ∀ x, .captured x ∉ t) : t.fill scopes = t.fill scopes' := by
  refine List.flatMap_congr fun p hp => ?_
  cases p with
  | text s => rfl
  | captured x => exact absurd hp (h x)

end Template

/-! ## Texts from one template -/

/-- The texts are filled from one template. -/
def Fits (scopes scopes' : Scopes) (s s' : List Char) : Prop :=
  ∃ t : Template, t.IsCaptured scopes ∧ t.IsCaptured scopes' ∧
    t.fill scopes = s ∧ t.fill scopes' = s'

section Fits

variable {scopes scopes' : Scopes} {s s' : List Char}

/-- Texts from one template are equal, or neither of them is a part of the word `Math`. -/
lemma Fits.eq_or_exists_mem (h : Fits scopes scopes' s s') :
    s = s' ∨ (∃ c ∈ s, c ∉ Vocabulary.mathOwner.toList) ∧
      ∃ c ∈ s', c ∉ Vocabulary.mathOwner.toList := by
  obtain ⟨t, ht, ht', rfl, rfl⟩ := h
  by_cases hplace : ∃ x, .captured x ∈ t
  · obtain ⟨x, hx⟩ := hplace
    exact .inr ⟨Template.exists_mem_fill hx ht, Template.exists_mem_fill hx ht'⟩
  · exact .inl (Template.fill_eq_of_forall_not_mem (not_exists.1 hplace))

/-- **Texts from one template are alike** in all that rendering asks about a text.

**Proof sketch.** Templates are put one after the other like their texts.  A text in which a
captured variable has a place is neither empty nor the word `Math`, and without such a place the two
texts are equal. -/
lemma isTextRelation_fits (scopes scopes' : Scopes) : IsTextRelation (Fits scopes scopes') where
  refl s := ⟨[.text s], by simp [Template.IsCaptured], by simp [Template.IsCaptured],
    by simp [Template.fill, Piece.fill], by simp [Template.fill, Piece.fill]⟩
  append := by
    rintro _ _ _ _ ⟨t, ht, ht', rfl, rfl⟩ ⟨u, hu, hu', rfl, rfl⟩
    refine ⟨t ++ u, ?_, ?_, List.flatMap_append, List.flatMap_append⟩
    · intro x hx
      exact (List.mem_append.1 hx).elim (ht x) (hu x)
    · intro x hx
      exact (List.mem_append.1 hx).elim (ht' x) (hu' x)
  isEmpty := by
    intro s s' h
    rcases h.eq_or_exists_mem with rfl | ⟨⟨c, hc, -⟩, d, hd, -⟩
    · rfl
    · rw [List.isEmpty_eq_false_iff.2 (List.ne_nil_of_mem hc),
        List.isEmpty_eq_false_iff.2 (List.ne_nil_of_mem hd)]
  math := by
    intro s s' h
    rcases h.eq_or_exists_mem with rfl | ⟨⟨c, hc, hmath⟩, d, hd, hmath'⟩
    · rfl
    · constructor
      · rintro rfl
        exact absurd hc hmath
      · rintro rfl
        exact absurd hd hmath'

/-- What is written for a name is filled from one template, if the name is captured in both or in
neither. -/
lemma fits_textOf {x : String} (h : (scopes.lookup x).isSome = (scopes'.lookup x).isSome) :
    Fits scopes scopes' (scopes.textOf x) (scopes'.textOf x) := by
  unfold Scopes.textOf
  cases hv : scopes.lookup x with
  | none =>
    rw [hv, Option.isSome_none, eq_comm, Option.isSome_eq_false_iff, Option.isNone_iff_eq_none] at h
    rw [h]
    exact (isTextRelation_fits scopes scopes').refl _
  | some v =>
    rw [hv, Option.isSome_some, eq_comm] at h
    obtain ⟨v', hv'⟩ := Option.isSome_iff_exists.1 h
    rw [hv']
    exact ⟨[.captured x], by simp [Template.IsCaptured, hv], by simp [Template.IsCaptured, hv'],
      by simp [Template.fill, Piece.fill, hv], by simp [Template.fill, Piece.fill, hv']⟩

end Fits

/-! ## Clauses -/

namespace Expr

/-- **Captured values do not change the structure of a clause**: if the same names are captured, the
expression has a clause either for both lots of values or for neither, with the same error, and the
two clauses are one template filled with the literals of the values. -/
theorem clause_fills_template (e : Expr) (pascalize : Bool) (scopes scopes' : Scopes)
    (h : ∀ x, (scopes.lookup x).isSome = (scopes'.lookup x).isSome) :
    (∃ err, e.clause scopes pascalize = .error err ∧ e.clause scopes' pascalize = .error err) ∨
      ∃ t : Template, t.IsCaptured scopes ∧ t.IsCaptured scopes' ∧
        e.clause scopes pascalize = .ok (String.ofList (t.fill scopes)) ∧
        e.clause scopes' pascalize = .ok (String.ofList (t.fill scopes')) := by
  have hrelated : e.HasRelatedTexts (Fits scopes scopes') scopes scopes' pascalize :=
    text_related (isTextRelation_fits scopes scopes') e
  rw [clause_eq, clause_eq]
  rcases (hrelated [] true fun x _ => fits_textOf (h x)).error_or_ok with
    ⟨err, hs, hs'⟩ | ⟨s, s', ⟨t, ht, ht', rfl, rfl⟩, hs, hs'⟩
  · exact .inl ⟨err, by rw [hs]; rfl, by rw [hs']; rfl⟩
  · exact .inr ⟨t, ht, ht', by rw [hs]; rfl, by rw [hs']; rfl⟩

/-- A string with the word `Math` in it is an argument like any other value. -/
theorem clause_fills_template_math :
    ∃ t : Template,
      (call (.member (.variable "x") "round") [.variable "y"]).clause
          [Bindings.ofList [("x", .string "Math")]] false =
        .ok (String.ofList (t.fill [Bindings.ofList [("x", .string "Math")]])) ∧
      (call (.member (.variable "x") "round") [.variable "y"]).clause
          [Bindings.ofList [("x", .null)]] false =
        .ok (String.ofList (t.fill [Bindings.ofList [("x", .null)]])) := by
  have hnames : ∀ y, (Scopes.lookup [Bindings.ofList [("x", .string "Math")]] y).isSome =
      (Scopes.lookup [Bindings.ofList [("x", .null)]] y).isSome := by
    intro y
    by_cases hy : y = "x" <;>
      simp [Scopes.lookup, Bindings.ofList, Bindings.update, Bindings.get?_set, hy]
  rcases clause_fills_template (.call (.member (.variable "x") "round") [.variable "y"]) false
    [Bindings.ofList [("x", .string "Math")]] [Bindings.ofList [("x", .null)]] hnames with
    ⟨err, herr, -⟩ | ⟨t, -, -, ht, ht'⟩
  · contradiction
  · exact ⟨t, ht, ht'⟩

end Expr

end LambdaQuery
