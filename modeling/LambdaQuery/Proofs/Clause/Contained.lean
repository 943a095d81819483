import LambdaQuery.Proofs.Clause.Marked
import LambdaQuery.Proofs.Outcome

/-!
# What is written inside a clause

The text of a part is written in the text of the whole, unless the part is the owner of a method and
is left out: if it is the word `Math`.  So whatever stands in the text of a part and has a character
that this word does not have stands in the text of the whole.  This is shown for one step into an
expression, and by induction for a part at any depth.  Every function that is not marked is such a
part, so it keeps its parameters.

## Main definitions

* `LambdaQuery.Clause.WrittenIn` — what is written in one text is written in another.
* `LambdaQuery.Expr.IsRendered` — a part is rendered with the expression.
* `LambdaQuery.Expr.markedBoundAt` — the parameters that are written as nothing at an address.

## Main results

* `LambdaQuery.Expr.IsRendered.exists_writtenIn` — the text of a part that is rendered is written in
  the text.
* `LambdaQuery.Expr.exists_writtenIn_part?` — so is the text of a part at any depth.
* `LambdaQuery.Expr.infix_markedText` — a function that is not marked keeps its parameters.
* `LambdaQuery.Expr.clauseWithin_eq_markedText` — the clause of an expression is its text with the
  first function marked.

## Design

What is called has no text of its own.  So a step into a call leads to an argument, or past the name
of a method to its owner, and a step is told by an address of one or two numbers.
-/

set_option autoImplicit false

namespace LambdaQuery

/-! ## Pieces of a text -/

namespace Clause

section WrittenIn

variable {s t u : List Char}

/-- What is written in `s` is written in `t`, as far as it is no part of the word `Math`. -/
def WrittenIn (s t : List Char) : Prop :=
  ∀ w, (∃ c ∈ w, c ∉ Vocabulary.mathOwner.toList) → w <:+: s → w <:+: t

/-- What is written in a piece of a text is written in the text. -/
lemma writtenIn_of_isInfix (h : s <:+: t) : WrittenIn s t := fun _ _ hw => hw.trans h

/-- What is written in `s` is written in what `t` is written in. -/
lemma WrittenIn.trans (h : WrittenIn s t) (h' : WrittenIn t u) : WrittenIn s u :=
  fun w hw hs => h' w hw (h w hw hs)

/-- A text with a character that the word `Math` does not have is written as a whole. -/
lemma WrittenIn.whole (h : WrittenIn s t) {c : Char} (hc : c ∈ s)
    (hmath : c ∉ Vocabulary.mathOwner.toList) : s <:+: t :=
  h s ⟨c, hc, hmath⟩ List.infix_rfl

end WrittenIn

/-- A text in a list is a piece of the list with commas. -/
lemma infix_commaList {t : List Char} {ts : List (List Char)} (h : t ∈ ts) :
    t <:+: Expr.commaList ts := by
  induction ts with
  | nil => simp at h
  | cons s ts ih =>
    cases ts with
    | nil => simp [List.mem_singleton.1 h]
    | cons u us =>
      rw [Expr.commaList_cons_cons]
      rcases List.mem_cons.1 h with rfl | h
      · exact List.infix_append_of_infix_left List.infix_rfl
      · exact List.infix_append_of_infix_right (List.infix_cons (List.infix_cons (ih h)))

/-- An argument is a piece of the call. -/
lemma infix_callText {f t : List Char} {ts : List (List Char)} (h : t ∈ ts) :
    t <:+: callText f ts :=
  List.infix_append_of_infix_left
    (List.infix_append_of_infix_right (List.infix_cons (infix_commaList h)))

/-- A path step is a piece of the path. -/
lemma infix_pathText_right (owner step : List Char) : step <:+: pathText owner step := by
  unfold pathText
  split_ifs
  · exact List.infix_rfl
  · exact List.infix_append_of_infix_right (List.infix_cons List.infix_rfl)

/-- The owner is a piece of the path from it. -/
lemma infix_pathText_left (owner step : List Char) : owner <:+: pathText owner step := by
  unfold pathText
  split_ifs with h
  · rw [List.isEmpty_iff.1 h]
    exact List.nil_infix
  · exact List.infix_append_of_infix_left List.infix_rfl

/-- The owner is a piece of a member of it. -/
lemma infix_accessText (ctx : Context) (owner : List Char) (x : String) :
    owner <:+: accessText ctx owner x := by
  unfold accessText
  split_ifs
  · exact List.infix_append_of_infix_left (List.infix_append_of_infix_right List.infix_rfl)
  · exact infix_pathText_left _ _

/-- An argument is a piece of the call of a method. -/
lemma infix_methodText_argument {owner t : List Char} {x : String} {ts : List (List Char)}
    (h : t ∈ ts) : t <:+: methodText owner x ts := by
  unfold methodText
  split_ifs
  · exact infix_callText h
  · exact infix_callText (List.mem_append_left _ h)
  · exact (infix_callText h).trans (infix_pathText_right _ _)
  · exact infix_callText (List.mem_append_right _ h)

/-- What is written in an owner is written in a call of its method: the only owner with a text that
is left out is the word `Math`. -/
lemma writtenIn_methodText (owner : List Char) (x : String) (ts : List (List Char)) :
    WrittenIn owner (methodText owner x ts) := by
  rintro w ⟨c, hc, hmath⟩ hw
  have hmem : c ∈ owner := hw.subset hc
  have howner : owner ∈ ownerArgument owner := by
    simp [ownerArgument, List.ne_nil_of_mem hmem]
  unfold methodText
  split_ifs with hleft
  · exact absurd (hleft.1 ▸ hmem) hmath
  · exact hw.trans (infix_callText (List.mem_append_right _ howner))
  · exact hw.trans (infix_pathText_left _ _)
  · exact hw.trans (infix_callText (List.mem_append_left _ howner))

end Clause

namespace Expr

open Clause

/-! ## Parts that are rendered -/

/-- `IsRendered e p a`: the part `a` at the address `p` is rendered with the expression `e`.  It is
one of the parts of `e`, and for a call an argument or the owner of the method that is called. -/
inductive IsRendered : Expr → Address → Expr → Prop where
  | part {e a : Expr} {i : Nat} :
      (∀ f es, e ≠ .call f es) → e.parts[i]? = some a → IsRendered e [i] a
  | argument {f a : Expr} {es : List Expr} {i : Nat} :
      es[i]? = some a → IsRendered (.call f es) [i + 1] a
  | owner {e : Expr} {x : String} {es : List Expr} : IsRendered (.call (.member e x) es) [0, 0] e

/-- Induction over the parts that are rendered, without the forms of expressions. -/
theorem renderedInduction {P : Expr → Prop} (e : Expr)
    (h : ∀ e, (∀ p a, IsRendered e p a → P a) → P e) : P e := by
  -- an owner is two steps away, so the property is carried for the parts as well
  suffices hparts : P e ∧ ∀ a ∈ e.parts, P a from hparts.1
  induction e using partInduction with
  | h e ih =>
    refine ⟨h e fun p a ha => ?_, fun a ha => (ih a ha).1⟩
    cases ha with
    | part _ ha => exact (ih a (List.mem_of_getElem? ha)).1
    | argument ha => exact (ih a (List.mem_cons_of_mem _ (List.mem_of_getElem? ha))).1
    | owner => exact (ih _ List.mem_cons_self).2 a List.mem_cons_self

/-- The parameters that are written as nothing in the parts of an expression: a marked function adds
its own to them, and any other function hides those that have the name of one of its own. -/
def markedBoundInside (marked : Bool) (bound : List String) : Expr → List String
  | .lambda ps _ => if marked then bound ++ ps else bound.filter (· ∉ ps)
  | _ => bound

/-- The parameters that are written as nothing at an address. -/
def markedBoundAt (mark : Address → Bool) (bound : List String) (e : Expr) : Address → List String
  | [] => bound
  | i :: p => e.parts[i]?.elim [] fun a =>
      markedBoundAt (fun q => mark (i :: q)) (e.markedBoundInside (mark []) bound) a p

section Step

variable {ctx : Context} {bound : List String} {mark : Address → Bool} {e a : Expr} {p : Address}
  {t : List Char}

/-- The parameters at an address in a part that is rendered. -/
lemma IsRendered.markedBoundAt_append (h : IsRendered e p a) (q : Address) :
    e.markedBoundAt mark bound (p ++ q) =
      a.markedBoundAt (fun r => mark (p ++ r)) (e.markedBoundInside (mark []) bound) q := by
  cases h with
  | part _ ha =>
    rw [List.singleton_append, markedBoundAt, ha]
    rfl
  | @argument f a es i ha =>
    have hpart : (call f es).parts[i + 1]? = some a := ha
    rw [List.singleton_append, markedBoundAt, hpart]
    rfl
  | owner => rfl

/-- The only part of an expression has the number zero. -/
lemma eq_of_getElem?_singleton {i : Nat} (h : [e][i]? = some a) : i = 0 ∧ e = a := by
  simpa [List.getElem?_singleton] using h

/-- The text of one of several parts is one of their texts. -/
lemma exists_mem_markedTexts {es : List Expr} {i k : Nat} {ts : List (List Char)}
    (hts : markedTexts ctx bound mark i es = .ok ts) (he : es[k]? = some e) :
    ∃ t ∈ ts, e.markedText ctx bound (fun p => mark ((i + k) :: p)) = .ok t := by
  induction es generalizing i k ts with
  | nil => simp at he
  | cons e' es ih =>
    simp only [markedTexts, bind_eq_ok_iff, pure_eq_ok_iff] at hts
    obtain ⟨t, ht, us, hus, rfl⟩ := hts
    cases k with
    | zero =>
      obtain rfl : e' = e := by simpa using he
      exact ⟨t, List.mem_cons_self, ht⟩
    | succ k =>
      obtain ⟨u, hu, he⟩ := ih hus he
      rw [Nat.add_right_comm, Nat.add_assoc] at he
      exact ⟨u, List.mem_cons_of_mem t hu, he⟩

/-- The text of a member is a piece of one of the texts of the members. -/
lemma exists_infix_markedMemberTexts {ms : List (String × Expr)} {i k : Nat} {m : String × Expr}
    {ts : List (List Char)} (hts : markedMemberTexts ctx bound mark i ms = .ok ts)
    (hm : ms[k]? = some m) :
    ∃ u t, u ∈ ts ∧ t <:+: u ∧
      m.2.markedText ctx bound (fun p => mark ((i + k) :: p)) = .ok t := by
  induction ms generalizing i k ts with
  | nil => simp at hm
  | cons m' ms ih =>
    simp only [markedMemberTexts, bind_eq_ok_iff, pure_eq_ok_iff] at hts
    obtain ⟨t, ht, us, hus, rfl⟩ := hts
    cases k with
    | zero =>
      obtain rfl : m' = m := by simpa using hm
      exact ⟨_, t, List.mem_cons_self, List.infix_append_of_infix_right List.infix_rfl, ht⟩
    | succ k =>
      obtain ⟨u, t, hu, hpart, hm⟩ := ih hus hm
      rw [Nat.add_right_comm, Nat.add_assoc] at hm
      exact ⟨u, t, List.mem_cons_of_mem _ hu, hpart, hm⟩

/-- What is called in a call that has a text, and what the text is made of. -/
lemma cases_of_markedText_call {f : Expr} {es : List Expr}
    (ht : (call f es).markedText ctx bound mark = .ok t) :
    ∃ ts, markedTexts ctx bound mark 1 es = .ok ts ∧
      ((∃ e x s, f = .member e x ∧ e.markedText ctx bound (fun p => mark (0 :: 0 :: p)) = .ok s ∧
        t = methodText s x ts) ∨ ∃ x, f = .variable x ∧ t = callText x.toList ts) := by
  cases f with
  | member e x =>
    simp only [markedText, bind_eq_ok_iff, pure_eq_ok_iff] at ht
    obtain ⟨ts, hts, s, hs, rfl⟩ := ht
    exact ⟨ts, hts, .inl ⟨e, x, s, rfl, hs, rfl⟩⟩
  | «variable» x =>
    simp only [markedText, bind_eq_ok_iff, pure_eq_ok_iff] at ht
    obtain ⟨ts, hts, rfl⟩ := ht
    exact ⟨ts, hts, .inr ⟨x, rfl, rfl⟩⟩
  | _ =>
    rw [markedText_invalid (by simp) (by simp)] at ht
    contradiction

/-- The text of a part is a piece of the text, for an expression other than a call. -/
lemma exists_infix_part {i : Nat} (hcall : ∀ f es, e ≠ .call f es) (ha : e.parts[i]? = some a)
    (ht : e.markedText ctx bound mark = .ok t) :
    ∃ s, a.markedText ctx (e.markedBoundInside (mark []) bound) (fun p => mark (i :: p)) = .ok s ∧
      s <:+: t := by
  cases e with
  | literal v => simp [parts] at ha
  | «variable» x => simp [parts] at ha
  | unary op e =>
    simp only [markedText, bind_eq_ok_iff, pure_eq_ok_iff] at ht
    obtain ⟨s, hs, rfl⟩ := ht
    obtain ⟨rfl, rfl⟩ := eq_of_getElem?_singleton ha
    exact ⟨s, hs, List.infix_append_of_infix_right List.infix_rfl⟩
  | binary op b c =>
    simp only [markedText, bind_eq_ok_iff, pure_eq_ok_iff] at ht
    obtain ⟨s, hs, u, hu, rfl⟩ := ht
    rcases i with _ | _ | i
    · obtain rfl := Option.some.inj ha
      refine ⟨s, hs, ?_⟩
      exact List.infix_append_of_infix_left (List.infix_append_of_infix_left List.infix_rfl)
    · obtain rfl := Option.some.inj ha
      exact ⟨u, hu, List.infix_append_of_infix_right (List.infix_cons List.infix_rfl)⟩
    · simp [parts] at ha
  | group es =>
    simp only [markedText, bind_eq_ok_iff, pure_eq_ok_iff] at ht
    obtain ⟨ts, hts, rfl⟩ := ht
    obtain ⟨s, hs, htext⟩ := exists_mem_markedTexts hts ha
    rw [Nat.zero_add] at htext
    exact ⟨s, htext, List.infix_append_of_infix_left (List.infix_cons (infix_commaList hs))⟩
  | assign x e =>
    obtain ⟨rfl, rfl⟩ := eq_of_getElem?_singleton ha
    exact ⟨t, ht, List.infix_rfl⟩
  | object ms =>
    simp only [markedText, bind_eq_ok_iff, pure_eq_ok_iff] at ht
    obtain ⟨ts, hts, rfl⟩ := ht
    rw [parts, List.getElem?_map, Option.map_eq_some_iff] at ha
    obtain ⟨m, hm, rfl⟩ := ha
    obtain ⟨u, s, hu, hpart, htext⟩ := exists_infix_markedMemberTexts hts hm
    rw [Nat.zero_add] at htext
    exact ⟨s, htext, hpart.trans (infix_commaList hu)⟩
  | array es =>
    simp only [markedText, bind_eq_ok_iff, pure_eq_ok_iff] at ht
    obtain ⟨ts, hts, rfl⟩ := ht
    obtain ⟨s, hs, htext⟩ := exists_mem_markedTexts hts ha
    rw [Nat.zero_add] at htext
    exact ⟨s, htext, List.infix_append_of_infix_left (List.infix_cons (infix_commaList hs))⟩
  | member e x =>
    simp only [markedText, bind_eq_ok_iff, pure_eq_ok_iff] at ht
    obtain ⟨s, hs, rfl⟩ := ht
    obtain ⟨rfl, rfl⟩ := eq_of_getElem?_singleton ha
    exact ⟨s, hs, infix_accessText ctx s x⟩
  | index e k =>
    simp only [markedText, bind_eq_ok_iff, pure_eq_ok_iff] at ht
    obtain ⟨s, hs, u, hu, rfl⟩ := ht
    rcases i with _ | _ | i
    · obtain rfl := Option.some.inj ha
      refine ⟨s, hs, ?_⟩
      exact List.infix_append_of_infix_left (List.infix_append_of_infix_left List.infix_rfl)
    · obtain rfl := Option.some.inj ha
      refine ⟨u, hu, List.infix_append_of_infix_left ?_⟩
      exact List.infix_append_of_infix_right (List.infix_cons List.infix_rfl)
    · simp [parts] at ha
  | lambda ps e =>
    obtain ⟨rfl, rfl⟩ := eq_of_getElem?_singleton ha
    rw [markedText] at ht
    rw [markedBoundInside]
    split_ifs at ht ⊢
    · exact ⟨t, ht, List.infix_rfl⟩
    · simp only [bind_eq_ok_iff, pure_eq_ok_iff] at ht
      obtain ⟨s, hs, rfl⟩ := ht
      refine ⟨s, hs, ?_⟩
      exact List.infix_append_of_infix_right (List.infix_cons (List.infix_cons List.infix_rfl))
  | call f es => exact absurd rfl (hcall f es)
  | conditional b c d =>
    simp only [markedText, bind_eq_ok_iff, pure_eq_ok_iff] at ht
    obtain ⟨s, hs, u, hu, r, hr, rfl⟩ := ht
    rcases i with _ | _ | _ | i
    · obtain rfl := Option.some.inj ha
      refine ⟨s, hs, ?_⟩
      exact List.infix_append_of_infix_left (List.infix_append_of_infix_left List.infix_rfl)
    · obtain rfl := Option.some.inj ha
      refine ⟨u, hu, List.infix_append_of_infix_left ?_⟩
      exact List.infix_append_of_infix_right
        (List.infix_cons (List.infix_cons (List.infix_cons List.infix_rfl)))
    · obtain rfl := Option.some.inj ha
      refine ⟨r, hr, ?_⟩
      exact List.infix_append_of_infix_right
        (List.infix_cons (List.infix_cons (List.infix_cons List.infix_rfl)))
    · simp [parts] at ha

/-- **One step into an expression**: a part that is rendered has a text, and what is written in it
is written in the text of the whole.

**Proof sketch.** Outside a call the text of a part is a piece of the text, form by form.  In a call
the same holds of an argument, and the owner of a method is left out only if it is empty or the word
`Math`. -/
lemma IsRendered.exists_writtenIn (h : IsRendered e p a)
    (ht : e.markedText ctx bound mark = .ok t) :
    ∃ s, a.markedText ctx (e.markedBoundInside (mark []) bound) (fun q => mark (p ++ q)) = .ok s ∧
      WrittenIn s t := by
  cases h with
  | part hcall ha =>
    obtain ⟨s, hs, hst⟩ := exists_infix_part hcall ha ht
    exact ⟨s, hs, writtenIn_of_isInfix hst⟩
  | argument ha =>
    obtain ⟨ts, hts, hcases⟩ := cases_of_markedText_call ht
    obtain ⟨s, hs, htext⟩ := exists_mem_markedTexts hts ha
    rw [Nat.add_comm] at htext
    refine ⟨s, htext, writtenIn_of_isInfix ?_⟩
    rcases hcases with ⟨e, x, u, -, -, rfl⟩ | ⟨x, -, rfl⟩
    · exact infix_methodText_argument hs
    · exact infix_callText hs
  | owner =>
    simp only [markedText, bind_eq_ok_iff, pure_eq_ok_iff] at ht
    obtain ⟨ts, -, s, hs, rfl⟩ := ht
    exact ⟨s, hs, writtenIn_methodText s _ ts⟩

/-- The way to a part that can be no callee begins with a part that is rendered. -/
lemma exists_isRendered {b : Expr} (hmember : ∀ a x, b ≠ .member a x)
    (hvariable : ∀ x, b ≠ .variable x) {i : Nat} (ht : e.markedText ctx bound mark = .ok t)
    (hp : e.part? (i :: p) = some b) :
    ∃ q a r, IsRendered e q a ∧ i :: p = q ++ r ∧ a.part? r = some b := by
  obtain ⟨a, ha, hpart⟩ := Option.bind_eq_some_iff.1 hp
  cases e with
  | call f es =>
    rcases i with _ | i
    · obtain rfl : f = a := Option.some.inj ha
      obtain ⟨ts, -, ⟨e, x, s, rfl, -, -⟩ | ⟨x, rfl, -⟩⟩ := cases_of_markedText_call ht
      · rcases p with _ | ⟨_ | j, q⟩
        · exact absurd (Option.some.inj hpart).symm (hmember e x)
        · exact ⟨[0, 0], e, q, .owner, rfl, hpart⟩
        · simp [part?, parts] at hpart
      · rcases p with _ | ⟨j, q⟩
        · exact absurd (Option.some.inj hpart).symm (hvariable x)
        · simp [part?, parts] at hpart
    · exact ⟨[i + 1], a, p, .argument ha, rfl, hpart⟩
  | _ => exact ⟨[i], a, p, .part (by simp) ha, rfl, hpart⟩

end Step

variable {ctx : Context} {bound : List String} {mark : Address → Bool} {t : List Char}

/-- **Parts at any depth**: a part that can be no callee has a text, with the parameters and marks
that are seen at its address, and what is written in it is written in the text of the whole.

**Proof sketch.** Induction over the parts that are rendered, one step after the other. -/
theorem exists_writtenIn_part? {b : Expr} (hmember : ∀ a x, b ≠ .member a x)
    (hvariable : ∀ x, b ≠ .variable x) {e : Expr} {p : Address}
    (ht : e.markedText ctx bound mark = .ok t) (hp : e.part? p = some b) :
    ∃ s, b.markedText ctx (e.markedBoundAt mark bound p) (fun q => mark (p ++ q)) = .ok s ∧
      WrittenIn s t := by
  induction e using renderedInduction generalizing bound mark t p with
  | h e ih =>
    cases p with
    | nil =>
      obtain rfl := Option.some.inj hp
      exact ⟨t, ht, writtenIn_of_isInfix List.infix_rfl⟩
    | cons i p =>
      obtain ⟨q, a, r, ha, hqr, hr⟩ := exists_isRendered hmember hvariable ht hp
      obtain ⟨u, hu, hut⟩ := ha.exists_writtenIn ht
      obtain ⟨s, hs, hsu⟩ := ih q a ha hu hr
      rw [hqr, ha.markedBoundAt_append]
      refine ⟨s, ?_, hsu.trans hut⟩
      simpa only [List.append_assoc] using hs

/-! ## Functions that are not marked -/

/-- The function is written in the text with its parameters in front of its body, in which they are
written by their names; `mark` are the marks of the body. -/
def KeepsParameters (ctx : Context) (mark : Address → Bool) (ps : List String) (body : Expr)
    (t : List Char) : Prop :=
  ∃ bound s, (∀ x ∈ ps, x ∉ bound) ∧ body.markedText ctx bound mark = .ok s ∧
    functionText ps s <:+: t

/-- **A function that is not marked keeps its parameters**, wherever it stands: the word `Math` has
no colon. -/
theorem infix_markedText {e b : Expr} {p : Address} {ps : List String}
    (ht : e.markedText ctx bound mark = .ok t) (hp : e.part? p = some (.lambda ps b))
    (hmark : mark p = false) : KeepsParameters ctx (fun q => mark (p ++ 0 :: q)) ps b t := by
  obtain ⟨s, hs, hst⟩ := exists_writtenIn_part? (by simp) (by simp) ht hp
  simp only [markedText, List.append_nil, hmark, Bool.false_eq_true, if_false, bind_eq_ok_iff,
    pure_eq_ok_iff] at hs
  obtain ⟨u, hu, rfl⟩ := hs
  have hcolon : ':' ∈ functionText ps u := List.mem_append_right _ List.mem_cons_self
  exact ⟨_, u, fun x hx => by simp [hx], hu, hst.whole hcolon (by decide)⟩

/-! ## Clauses -/

/-- **The flag is a mark at the first function**: the clause of an expression is its text without a
flag, in which the first function that is met is marked and no other.  The functions that can be met
are all functions in the expression.  If the expression is a function itself, then it is the marked
one, and every function in its body, at whatever depth and beside whatever other parts, keeps its
parameters in front of its own body. -/
theorem clauseWithin_eq_markedText (ctx : Context) (bound : List String) (e : Expr) :
    e.clauseWithin ctx bound = String.ofList <$> e.markedText ctx bound e.firstMark ∧
    (∀ p, p ∈ e.functionAddresses ↔ ∃ ps b, e.part? p = some (.lambda ps b)) ∧
    ∀ ps b, e = .lambda ps b →
      e.clauseWithin ctx bound =
        String.ofList <$> b.markedText ctx (bound ++ ps) (fun _ => false) ∧
      ∀ clause, e.clauseWithin ctx bound = .ok clause → ∀ p qs c, b.part? p = some (.lambda qs c) →
        KeepsParameters ctx (fun _ => false) qs c clause.toList := by
  refine ⟨clauseWithin_eq bound e, fun p => mem_functionAddresses, ?_⟩
  rintro ps b rfl
  have hclause : (lambda ps b).clauseWithin ctx bound = _ := clauseWithin_lambda bound ps b
  refine ⟨hclause, fun clause hok p qs c hp => ?_⟩
  rw [hclause, map_eq_pure_bind, bind_eq_ok_iff] at hok
  obtain ⟨t, ht, htext⟩ := hok
  obtain rfl := pure_eq_ok_iff.1 htext
  rw [String.toList_ofList]
  exact infix_markedText ht hp rfl

/-- The functions in the argument and in the owner of a method call both keep their parameters. -/
theorem clauseWithin_eq_markedText_siblings :
    (lambda ["c"] (.call (.member (.call (.member (.member (.variable "c") "x") "any")
        [.lambda ["t"] (.variable "t")]) "f") [.lambda ["u"] (.variable "u")])).clauseWithin
      ⟨[], false⟩ [] = .ok "f(x/any(t: t), u: u)" ∧
    KeepsParameters ⟨[], false⟩ (fun _ => false) ["t"] (.variable "t")
      "f(x/any(t: t), u: u)".toList ∧
    KeepsParameters ⟨[], false⟩ (fun _ => false) ["u"] (.variable "u")
      "f(x/any(t: t), u: u)".toList := by
  have hkeeps := ((clauseWithin_eq_markedText ⟨[], false⟩ [] (lambda ["c"] (.call (.member (.call
    (.member (.member (.variable "c") "x") "any") [.lambda ["t"] (.variable "t")]) "f")
    [.lambda ["u"] (.variable "u")]))).2.2 ["c"] _ rfl).2 "f(x/any(t: t), u: u)" rfl
  exact ⟨rfl, hkeeps [0, 0, 1] _ _ rfl, hkeeps [1] _ _ rfl⟩

end Expr

end LambdaQuery
