import Mathlib
import LambdaQuery.Scan

/-!
# Theory of scans

What the building blocks of a scan read, in both directions: a piece of text that has the right
form is read, and what is read had that form.  Texts are split as `piece ++ rest` throughout, so
that the lemmas of two scans can be chained.

## Main definitions

* `LambdaQuery.Scan.IsGap` — the text consists of characters that may stand between tokens.
* `LambdaQuery.Scan.Shortens` — every success of the scan takes at least one character.
* `LambdaQuery.Scan.Finds` — what the scan reads has a given form.
* `LambdaQuery.Scan.CommaList` — texts with commas between them.

## Main results

* `LambdaQuery.Scan.many_eq` — a repetition reads a piece and repeats, or ends.
* `LambdaQuery.Scan.exists_of_bracketed`, `LambdaQuery.Scan.bracketed_append` — a list in brackets
  is read exactly if it has the form of one.
-/

set_option autoImplicit false

namespace LambdaQuery.Scan

variable {α : Type}

/-! ## Fixed texts -/

/-- A text is read back from the start of a longer one. -/
@[simp] lemma after?_append (t r : List Char) : after? t (t ++ r) = some r := by
  induction t with
  | nil => rfl
  | cons c t ih => simp [after?, ih]

/-- What follows `t` is the rest of a text that starts with `t`. -/
lemma after?_eq_some_iff {t s r : List Char} : after? t s = some r ↔ s = t ++ r := by
  constructor
  · intro h
    induction t generalizing s with
    | nil =>
      simp only [after?, Option.some.injEq] at h
      exact h
    | cons c t ih =>
      cases s with
      | nil => simp [after?] at h
      | cons d s =>
        simp only [after?] at h
        split at h
        · next hd => rw [hd, ih h, List.cons_append]
        · contradiction
  · rintro rfl
    exact after?_append t r

/-- A single character is read if the text starts with it. -/
@[simp] lemma after?_singleton_cons (c d : Char) (s : List Char) :
    after? [c] (d :: s) = if d = c then some s else none := rfl

/-- A text that starts with a different character is not read. -/
lemma after?_eq_none_of_head {c : Char} {t s : List Char} (h : ∀ d ∈ s.head?, d ≠ c) :
    after? (c :: t) s = none := by
  cases s with
  | nil => rfl
  | cons d s =>
    have hd : d ≠ c := h d rfl
    simp [after?, hd]

/-- What follows a fixed text is shorter than the whole. -/
lemma length_lt_of_after? {c : Char} {t s r : List Char} (h : after? (c :: t) s = some r) :
    r.length < s.length := by
  obtain rfl := after?_eq_some_iff.1 h
  simp only [List.length_append, List.length_cons]
  omega

/-! ## Gaps -/

/-- The text consists of characters that may stand between tokens. -/
def IsGap (s : List Char) : Prop := ∀ c ∈ s, Text.isGap c = true

/-- The empty text is a gap. -/
@[simp] lemma isGap_nil : IsGap [] := by simp [IsGap]

/-- A space is a gap. -/
lemma isGap_space : IsGap [' '] := by simp [IsGap, Text.isGap]

/-- Two gaps in a row are a gap. -/
lemma IsGap.append {g h : List Char} (hg : IsGap g) (hh : IsGap h) : IsGap (g ++ h) := by
  intro c hc
  rcases List.mem_append.1 hc with hc | hc
  · exact hg c hc
  · exact hh c hc

/-- A text is a gap and what remains when it is skipped. -/
lemma exists_isGap_append_skipGap (s : List Char) : ∃ g, IsGap g ∧ s = g ++ skipGap s :=
  ⟨s.takeWhile Text.isGap, fun _ hc => List.mem_takeWhile_imp hc,
    (List.takeWhile_append_dropWhile).symm⟩

/-- What remains when a gap is skipped is not longer than the text. -/
lemma length_skipGap_le (s : List Char) : (skipGap s).length ≤ s.length :=
  (List.dropWhile_suffix _).length_le

/-- A gap at the start of a text does not change what remains when gaps are skipped. -/
@[simp] lemma skipGap_append {g : List Char} (hg : IsGap g) (s : List Char) :
    skipGap (g ++ s) = skipGap s := by
  induction g with
  | nil => rfl
  | cons c g ih =>
    have hc : Text.isGap c = true := hg c (by simp)
    have hg' : IsGap g := fun d hd => hg d (by simp [hd])
    simpa [skipGap, hc] using ih hg'

/-- A text that starts with no gap character stays as it is when gaps are skipped. -/
@[simp] lemma skipGap_cons {c : Char} (hc : Text.isGap c = false) (s : List Char) :
    skipGap (c :: s) = c :: s := by
  simp [skipGap, hc]

/-- The first character of a text is a gap character or is still there after skipping gaps. -/
lemma head?_cases (s : List Char) {c : Char} (h : c ∈ s.head?) :
    Text.isGap c = true ∨ c ∈ (skipGap s).head? := by
  cases s with
  | nil => simp at h
  | cons d s =>
    simp only [List.head?_cons, Option.mem_def, Option.some.injEq] at h
    subst h
    cases hd : Text.isGap d with
    | true => exact .inl rfl
    | false => exact .inr (by simp [skipGap_cons hd])

/-- A token is read behind a gap. -/
lemma token_append {g : List Char} (hg : IsGap g) {c : Char} (hc : Text.isGap c = false)
    (t r : List Char) : token (c :: t) (g ++ c :: (t ++ r)) = some r := by
  rw [token, skipGap_append hg, skipGap_cons hc, ← List.cons_append, after?_append]

/-- A token that is read stands behind a gap. -/
lemma exists_of_token {t s r : List Char} (h : token t s = some r) :
    ∃ g, IsGap g ∧ s = g ++ (t ++ r) := by
  obtain ⟨g, hg, hs⟩ := exists_isGap_append_skipGap s
  refine ⟨g, hg, ?_⟩
  rw [← after?_eq_some_iff.1 h]
  exact hs

/-- What follows a token is shorter than the whole. -/
lemma length_lt_of_token {c : Char} {t s r : List Char} (h : token (c :: t) s = some r) :
    r.length < s.length :=
  (length_lt_of_after? h).trans_le (length_skipGap_le s)

/-- A token is not read if the next character is a different one. -/
lemma token_eq_none {c : Char} {t s : List Char} (h : ∀ d ∈ (skipGap s).head?, d ≠ c) :
    token (c :: t) s = none :=
  after?_eq_none_of_head h

/-! ## Choices of tokens -/

/-- What is read as one of the tokens starts with it. -/
lemma exists_of_oneOf {tokens : List String} {s r : List Char} {t : String}
    (h : oneOf tokens s = some (t, r)) : t ∈ tokens ∧ s = t.toList ++ r := by
  obtain ⟨u, hu, hr⟩ := List.exists_of_findSome?_eq_some h
  obtain ⟨v, hv, he⟩ := Option.map_eq_some_iff.1 hr
  simp only [Prod.mk.injEq] at he
  obtain ⟨rfl, rfl⟩ := he
  exact ⟨hu, after?_eq_some_iff.1 hv⟩

/-- None of the tokens is read if none starts with the first character of the text. -/
lemma oneOf_eq_none {tokens : List String} {s : List Char}
    (h : ∀ t ∈ tokens, ∃ c u, t.toList = c :: u ∧ ∀ d ∈ s.head?, d ≠ c) :
    oneOf tokens s = none := by
  refine List.findSome?_eq_none_iff.2 fun t ht => ?_
  obtain ⟨c, u, htc, hs⟩ := h t ht
  rw [htc, after?_eq_none_of_head hs]
  rfl

/-! ## Runs of characters -/

/-- A run of characters of a class is split off where it ends. -/
lemma span_append {p : Char → Bool} {s rest : List Char} (hs : ∀ c ∈ s, p c = true)
    (hrest : ∀ c ∈ rest.head?, p c = false) :
    (s ++ rest).takeWhile p = s ∧ (s ++ rest).dropWhile p = rest := by
  have hstop : rest.takeWhile p = [] ∧ rest.dropWhile p = rest := by
    cases rest with
    | nil => simp
    | cons c rest =>
      have hc := hrest c rfl
      simp [hc]
  rw [List.takeWhile_append_of_pos hs, List.dropWhile_append_of_pos hs, hstop.1, hstop.2,
    List.append_nil]
  exact ⟨rfl, rfl⟩

/-- A run of characters of a class is read up to where it ends. -/
lemma runOf_append {p : Char → Bool} {s rest : List Char} (hne : s ≠ [])
    (hs : ∀ c ∈ s, p c = true) (hrest : ∀ c ∈ rest.head?, p c = false) :
    runOf p (s ++ rest) = some (s, rest) := by
  obtain ⟨htake, hdrop⟩ := span_append hs hrest
  simp only [runOf, htake, hdrop]

/-- No run of characters is read where none begins. -/
lemma runOf_eq_none {p : Char → Bool} {s : List Char} (h : ∀ c ∈ s.head?, p c = false) :
    runOf p s = none := by
  cases s with
  | nil => rfl
  | cons c s => simp [runOf, h c rfl]

/-! ## Forms of what is read -/

/-- What the scan reads, together with what it makes of it, satisfies `P`. -/
def Finds (scan : Scan α) (P : α → List Char → Prop) : Prop :=
  ∀ ⦃s a r⦄, scan s = some (a, r) → ∃ t, s = t ++ r ∧ P a t

/-- Every success of the scan takes at least one character. -/
def Shortens (scan : Scan α) : Prop :=
  ∀ ⦃s a r⦄, scan s = some (a, r) → r.length < s.length

/-- A scan that only reads texts which are not empty shortens its text. -/
lemma Finds.shortens {scan : Scan α} {P : α → List Char → Prop} (h : Finds scan P)
    (hP : ∀ a t, P a t → t ≠ []) : Shortens scan := by
  intro s a r hs
  obtain ⟨t, rfl, ht⟩ := h hs
  have ht' := List.length_pos_iff.2 (hP a t ht)
  simp only [List.length_append]
  omega

/-- What a scan leaves is not longer than the text. -/
lemma Finds.length_le {scan : Scan α} {P : α → List Char → Prop} (h : Finds scan P)
    {s r : List Char} {a : α} (hs : scan s = some (a, r)) : r.length ≤ s.length := by
  obtain ⟨t, rfl, -⟩ := h hs
  simp

/-- What a scan reads whose result is changed by `f`. -/
lemma Finds.map {β : Type} {scan : Scan α} {P : α → List Char → Prop} {Q : β → List Char → Prop}
    {f : α → β} (h : Finds scan P) (hf : ∀ a t, P a t → Q (f a) t) :
    Finds (fun s => (scan s).map (Prod.map f id)) Q := by
  intro s b r hs
  obtain ⟨⟨a, r'⟩, ha, hb⟩ := Option.map_eq_some_iff.1 hs
  simp only [Prod.map, id_eq, Prod.mk.injEq] at hb
  obtain ⟨rfl, rfl⟩ := hb
  obtain ⟨t, rfl, ht⟩ := h ha
  exact ⟨t, rfl, hf a t ht⟩

/-- What a choice of two scans reads. -/
lemma Finds.orElse {scan other : Scan α} {P : α → List Char → Prop} (h : Finds scan P)
    (h' : Finds other P) : Finds (fun s => scan s <|> other s) P := by
  intro s a r hs
  dsimp only at hs
  cases ha : scan s with
  | none =>
    rw [ha] at hs
    exact h' hs
  | some x =>
    rw [ha] at hs
    obtain rfl : x = (a, r) := by simpa using hs
    exact h ha

/-- What a scan reads behind a gap. -/
lemma Finds.skipGap {scan : Scan α} {P Q : α → List Char → Prop} (h : Finds scan P)
    (hQ : ∀ g a t, IsGap g → P a t → Q a (g ++ t)) : Finds (fun s => scan (skipGap s)) Q := by
  intro s a r hs
  obtain ⟨g, hg, hgs⟩ := exists_isGap_append_skipGap s
  obtain ⟨t, ht, hP⟩ := h hs
  refine ⟨g ++ t, ?_, hQ g a t hg hP⟩
  rw [List.append_assoc, ← ht]
  exact hgs

/-! ## Repetitions -/

section Many

variable {piece : Scan α}

/-- A repetition does not depend on its budget once that is as long as the text.

**Proof sketch.** Induction on the first budget.  A piece that is read leaves a shorter text, for
which the shortened budgets are still long enough; with no budget left the text is empty, and
nothing is read from an empty text. -/
lemma manyWithin_eq (hp : Shortens piece) (b b' s : List Char) (hb : s.length ≤ b.length)
    (hb' : s.length ≤ b'.length) : manyWithin piece b s = manyWithin piece b' s := by
  have hnil : piece [] = none := by
    cases h : piece [] with
    | none => rfl
    | some ar =>
      have := hp h
      simp at this
  induction b generalizing b' s with
  | nil =>
    have hs : s = [] := List.length_eq_zero_iff.1 (by simpa using hb)
    subst hs
    cases b' with
    | nil => rfl
    | cons c b' => simp [manyWithin, hnil]
  | cons c b ih =>
    cases b' with
    | nil =>
      have hs : s = [] := List.length_eq_zero_iff.1 (by simpa using hb')
      subst hs
      simp [manyWithin, hnil]
    | cons c' b' =>
      cases h : piece s with
      | none => simp [manyWithin, h]
      | some ar =>
        obtain ⟨a, r⟩ := ar
        have hr := hp h
        simp only [List.length_cons] at hb hb'
        simp only [manyWithin, h, ih b' r (by omega) (by omega)]

/-- **One step of a repetition**: a piece is read and the repetition goes on behind it. -/
lemma many_of_some (hp : Shortens piece) {s r : List Char} {a : α} (h : piece s = some (a, r)) :
    many piece s = (a :: (many piece r).1, (many piece r).2) := by
  have hr := hp h
  cases s with
  | nil => simp at hr
  | cons c s =>
    simp only [List.length_cons] at hr
    simp only [many, manyWithin, h, manyWithin_eq hp s r r (by omega) (Nat.le_refl _)]

/-- A repetition ends where no piece can be read. -/
lemma many_of_none {s : List Char} (h : piece s = none) : many piece s = ([], s) := by
  cases s with
  | nil => rfl
  | cons c s => simp [many, manyWithin, h]

/-- What a repetition leaves is not longer than the text. -/
lemma length_many_le (hp : Shortens piece) (s : List Char) :
    (many piece s).2.length ≤ s.length := by
  have hwithin : ∀ budget s, (manyWithin piece budget s).2.length ≤ s.length := by
    intro budget
    induction budget with
    | nil => exact fun s => le_rfl
    | cons c budget ih =>
      intro s
      cases h : piece s with
      | none => simp [manyWithin, h]
      | some ar =>
        simp only [manyWithin, h]
        exact (ih ar.2).trans (hp h).le
  exact hwithin s s

/-- **What a repetition reads**: if every piece extends a text of the form `P a` to one of the form
`P (f a p)`, then the pieces together extend it to one of the form of their fold.

**Proof sketch.** Induction on the budget, one piece at a time. -/
lemma exists_of_manyWithin {β : Type} {P : β → List Char → Prop} {f : β → α → β}
    (hstep : ∀ {b t s p r}, P b t → piece s = some (p, r) →
      ∃ u, s = u ++ r ∧ P (f b p) (t ++ u))
    (budget : List Char) {b : β} {t s r : List Char} {ps : List α} (hb : P b t)
    (h : manyWithin piece budget s = (ps, r)) :
    ∃ u, s = u ++ r ∧ P (ps.foldl f b) (t ++ u) := by
  induction budget generalizing b t s ps with
  | nil =>
    simp only [manyWithin, Prod.mk.injEq] at h
    obtain ⟨rfl, rfl⟩ := h
    exact ⟨[], by simp, by simpa using hb⟩
  | cons c budget ih =>
    simp only [manyWithin] at h
    split at h
    · simp only [Prod.mk.injEq] at h
      obtain ⟨rfl, rfl⟩ := h
      exact ⟨[], by simp, by simpa using hb⟩
    · next p s' hp =>
      simp only [Prod.mk.injEq] at h
      obtain ⟨rfl, rfl⟩ := h
      obtain ⟨u, rfl, hu⟩ := hstep hb hp
      obtain ⟨v, hv, hP⟩ := ih hu rfl
      refine ⟨u ++ v, ?_, ?_⟩
      · rw [List.append_assoc, ← hv]
      · simpa only [List.foldl_cons, List.append_assoc] using hP

end Many

/-! ## Lists in brackets -/

/-- A text that holds the given texts in order, with a gap and a comma behind each but the last;
behind the last one there may be a comma too. -/
inductive CommaList : List (List Char) → List Char → Prop where
  /-- No texts. -/
  | nil : CommaList [] []
  /-- The last text. -/
  | last (t : List Char) : CommaList [t] t
  /-- A text with a comma behind it, and the other texts. -/
  | cons (t : List Char) {g s : List Char} {ts : List (List Char)} :
      IsGap g → CommaList ts s → CommaList (t :: ts) (t ++ g ++ ',' :: s)

/-- No text of the list is longer than the whole. -/
lemma CommaList.length_le {ts : List (List Char)} {s : List Char} (h : CommaList ts s) :
    ∀ t ∈ ts, t.length ≤ s.length := by
  induction h with
  | nil => simp
  | last t => simp
  | cons t hg hs ih =>
    intro u hu
    rcases List.mem_cons.1 hu with rfl | hu
    · simp only [List.length_append]
      omega
    · have := ih u hu
      simp only [List.length_append, List.length_cons]
      omega

section Bracketed

variable {item : Scan α} {P : α → List Char → Prop}

/-- What an item behind a comma reads. -/
lemma exists_of_afterComma (hi : Finds item P) {s r : List Char} {a : α}
    (h : afterComma item s = some (a, r)) :
    ∃ g t, IsGap g ∧ P a t ∧ s = g ++ ',' :: (t ++ r) := by
  simp only [afterComma, bind, Option.bind_eq_some_iff] at h
  obtain ⟨s', hs', ha⟩ := h
  obtain ⟨g, hg, rfl⟩ := exists_of_token hs'
  obtain ⟨t, rfl, ht⟩ := hi ha
  exact ⟨g, t, hg, ht, by simp⟩

/-- What is read behind the first item of a list continues the list.

**Proof sketch.** Induction on the budget.  The list is built from its end, so the text that closes
it, which may be a last comma, is carried along. -/
lemma exists_of_many_afterComma (hi : Finds item P) (budget : List Char) {s r : List Char}
    {as : List α} (h : manyWithin (afterComma item) budget s = (as, r)) :
    ∃ (ps : List (α × List Char)) (u : List Char),
      as = ps.map Prod.fst ∧ (∀ p ∈ ps, P p.1 p.2) ∧ s = u ++ r ∧
      ∀ t tail, CommaList [t] (t ++ tail) →
        CommaList (t :: ps.map Prod.snd) (t ++ (u ++ tail)) := by
  induction budget generalizing s as with
  | nil =>
    simp only [manyWithin, Prod.mk.injEq] at h
    obtain ⟨rfl, rfl⟩ := h
    exact ⟨[], [], rfl, by simp, rfl, fun t tail ht => ht⟩
  | cons c budget ih =>
    simp only [manyWithin] at h
    split at h
    · simp only [Prod.mk.injEq] at h
      obtain ⟨rfl, rfl⟩ := h
      exact ⟨[], [], rfl, by simp, rfl, fun t tail ht => ht⟩
    · next a s' ha =>
      simp only [Prod.mk.injEq] at h
      obtain ⟨rfl, rfl⟩ := h
      obtain ⟨g, t', hg, ht', rfl⟩ := exists_of_afterComma hi ha
      obtain ⟨ps, u, hps, hP, hu, hlist⟩ := ih rfl
      refine ⟨(a, t') :: ps, g ++ ',' :: (t' ++ u), by simp [hps], ?_, by simp [← hu], ?_⟩
      · intro p hp
        rcases List.mem_cons.1 hp with rfl | hp
        · exact ht'
        · exact hP p hp
      · intro t tail htail
        have htail' : CommaList [t'] (t' ++ tail) := by
          -- only the end of the list matters, not the text before it
          generalize hw : t ++ tail = w at htail
          cases htail with
          | last =>
            have : tail = [] := by simpa using hw
            subst this
            simpa using CommaList.last t'
          | @cons _ g' s' _ hg' hs' =>
            have : tail = g' ++ ',' :: s' := by simpa [List.append_assoc] using hw
            subst this
            simpa using CommaList.cons t' hg' hs'
        simpa using CommaList.cons t hg (hlist t' tail htail')

/-- **What a list in brackets reads**: the opening bracket, items of their form with commas between
them, a gap and the closing bracket. -/
lemma exists_of_bracketed (hi : Finds item P) {opening closing : Char} {s r : List Char}
    {as : List α} (h : bracketed opening closing item s = some (as, r)) :
    ∃ (ps : List (α × List Char)) (t g : List Char),
      as = ps.map Prod.fst ∧ (∀ p ∈ ps, P p.1 p.2) ∧ CommaList (ps.map Prod.snd) t ∧ IsGap g ∧
      s = opening :: t ++ g ++ closing :: r := by
  simp only [bracketed, bind, Option.bind_eq_some_iff] at h
  obtain ⟨s₁, hs₁, s₂, hs₂, h⟩ := h
  simp only [pure, Option.some.injEq, Prod.mk.injEq] at h
  obtain ⟨rfl, rfl⟩ := h
  rw [after?_eq_some_iff.1 hs₁]
  obtain ⟨g, hg, hend⟩ := exists_of_token hs₂
  cases hfirst : item s₁ with
  | none =>
    simp only [commaSeparated, hfirst] at hend ⊢
    exact ⟨[], [], g, rfl, by simp, .nil, hg, by simp [hend]⟩
  | some ar =>
    obtain ⟨a, s₃⟩ := ar
    simp only [commaSeparated, hfirst] at hend ⊢
    obtain ⟨t, rfl, ht⟩ := hi hfirst
    obtain ⟨ps, u, hps, hP, hu, hlist⟩ := exists_of_many_afterComma hi s₃ (r := (many _ s₃).2) rfl
    have hall : ∀ p ∈ (a, t) :: ps, P p.1 p.2 := by
      intro p hp
      rcases List.mem_cons.1 hp with rfl | hp
      · exact ht
      · exact hP p hp
    cases hlast : token [','] (many (afterComma item) s₃).2 with
    | none =>
      rw [hlast, Option.getD_none] at hend
      refine ⟨(a, t) :: ps, t ++ (u ++ []), g, by simp [many, hps], hall, ?_, hg, ?_⟩
      · exact hlist t [] (by simpa using CommaList.last t)
      · rw [hu, hend]
        simp
    | some s₄ =>
      rw [hlast, Option.getD_some] at hend
      obtain ⟨g', hg', hs₄⟩ := exists_of_token hlast
      refine ⟨(a, t) :: ps, t ++ (u ++ (g' ++ [','])), g, by simp [many, hps], hall, ?_, hg, ?_⟩
      · exact hlist t _ (by simpa using CommaList.cons t hg' .nil)
      · rw [hu, hs₄, hend]
        simp

/-- Behind a comma an item is read as it would be by itself. -/
lemma afterComma_append {g : List Char} (hg : IsGap g) (s : List Char) :
    afterComma item (g ++ ',' :: s) = item s := by
  have hcomma : token [','] (g ++ ',' :: s) = some s := by
    simpa using token_append hg (show Text.isGap ',' = false by decide) [] s
  simp only [afterComma, hcomma, bind, Option.bind_some]

/-- An item behind a comma shortens the text if the item does. -/
lemma shortens_afterComma (hi : Shortens item) : Shortens (afterComma item) := by
  intro s a r h
  simp only [afterComma, bind, Option.bind_eq_some_iff] at h
  obtain ⟨s', hs', ha⟩ := h
  exact (hi ha).trans (length_lt_of_token hs')

/-- The next character of a text is one that closes an item of a list. -/
def EndsItem (closing : Char) (s : List Char) : Prop :=
  ∀ c ∈ (skipGap s).head?, c = ',' ∨ c = closing

section Append

variable {closing : Char} (hi : Shortens item) (hc : Text.isGap closing = false)
  (hcomma : closing ≠ ',') {g rest : List Char} (hg : IsGap g)
  (hnone : item (g ++ closing :: rest) = none)

include hi hc hcomma hg hnone in
/-- The items behind the first one of a list are read up to the closing bracket; only a last comma
can be left.

**Proof sketch.** Induction on the list.  Behind a last comma no item can be read, so the repetition
ends before that comma. -/
lemma many_afterComma_append {ts : List (List Char)} {s : List Char} (hs : CommaList ts s) :
    ∀ (ps : List (α × List Char)), ts = ps.map Prod.snd →
      (∀ p ∈ ps, ∀ r, EndsItem closing r → item (p.2 ++ r) = some (p.1, r)) →
      ∀ g', IsGap g' →
        ∃ r, many (afterComma item) (g' ++ ',' :: (s ++ (g ++ closing :: rest))) =
            (ps.map Prod.fst, r) ∧
          (token [','] r).getD r = g ++ closing :: rest := by
  have hend : ∀ d ∈ (skipGap (g ++ closing :: rest)).head?, d = closing := by
    intro d hd
    rw [skipGap_append hg, skipGap_cons hc] at hd
    simpa using hd.symm
  have hnocomma : token [','] (g ++ closing :: rest) = none :=
    token_eq_none fun d hd => (hend d hd).symm ▸ hcomma
  have hstop : many (afterComma item) (g ++ closing :: rest) = ([], g ++ closing :: rest) :=
    many_of_none (by simp [afterComma, hnocomma])
  have hcommaGap : Text.isGap ',' = false := by decide
  induction hs with
  | nil =>
    intro ps hps _ g' hg'
    obtain rfl : ps = [] := by simpa using hps.symm
    refine ⟨g' ++ ',' :: (g ++ closing :: rest), ?_, ?_⟩
    · exact many_of_none (by rw [afterComma_append hg']; exact hnone)
    · have := token_append hg' hcommaGap [] (g ++ closing :: rest)
      rw [List.nil_append] at this
      rw [this, Option.getD_some]
  | last t =>
    intro ps hps hread g' hg'
    obtain ⟨p, rfl, rfl⟩ := List.map_eq_singleton_iff.1 hps.symm
    have ha := hread p (by simp) (g ++ closing :: rest) fun d hd => .inr (hend d hd)
    refine ⟨g ++ closing :: rest, ?_, by rw [hnocomma, Option.getD_none]⟩
    rw [many_of_some (shortens_afterComma hi) (by rw [afterComma_append hg']; exact ha), hstop]
    rfl
  | @cons t g₁ s ts hg₁ _ ih =>
    intro ps hps hread g' hg'
    obtain ⟨p, ps', rfl, rfl, rfl⟩ := List.map_eq_cons_iff.1 hps.symm
    obtain ⟨r, hr, hr'⟩ := ih ps' rfl (fun p hp => hread p (by simp [hp])) g₁ hg₁
    have ha := hread p (by simp) (g₁ ++ ',' :: (s ++ (g ++ closing :: rest))) (by
      intro d hd
      rw [skipGap_append hg₁, skipGap_cons hcommaGap] at hd
      exact .inl (by simpa using hd.symm))
    refine ⟨r, ?_, hr'⟩
    have hassoc : p.2 ++ g₁ ++ ',' :: s ++ (g ++ closing :: rest) =
        p.2 ++ (g₁ ++ ',' :: (s ++ (g ++ closing :: rest))) := by simp
    rw [hassoc, many_of_some (shortens_afterComma hi) (by rw [afterComma_append hg']; exact ha), hr]
    rfl

include hi in
/-- A list is read like the items that would follow a comma before it. -/
lemma commaSeparated_eq (s : List Char) :
    commaSeparated item s = ((many (afterComma item) (',' :: s)).1,
      (token [','] (many (afterComma item) (',' :: s)).2).getD
        (many (afterComma item) (',' :: s)).2) := by
  have hstep : afterComma item (',' :: s) = item s := afterComma_append isGap_nil s
  cases h : item s with
  | none =>
    rw [many_of_none (by rw [hstep, h])]
    simp [commaSeparated, h, token, skipGap_cons (show Text.isGap ',' = false by decide)]
  | some ar =>
    rw [many_of_some (shortens_afterComma hi) (by rw [hstep, h])]
    simp [commaSeparated, h]

include hi hc hcomma hg hnone in
/-- **A list in brackets is read** if each of its items is read where a comma or the closing bracket
follows it, and no item can be read where the closing bracket stands. -/
lemma bracketed_append (opening : Char) {s : List Char} {ps : List (α × List Char)}
    (hs : CommaList (ps.map Prod.snd) s)
    (hread : ∀ p ∈ ps, ∀ r, EndsItem closing r → item (p.2 ++ r) = some (p.1, r)) :
    bracketed opening closing item (opening :: s ++ g ++ closing :: rest) =
      some (ps.map Prod.fst, rest) := by
  obtain ⟨r, hr, hr'⟩ := many_afterComma_append hi hc hcomma hg hnone hs ps rfl hread [] isGap_nil
  rw [List.nil_append] at hr
  have hlist : commaSeparated item (s ++ (g ++ closing :: rest)) =
      (ps.map Prod.fst, g ++ closing :: rest) := by
    rw [commaSeparated_eq hi, hr, hr']
  have hclose : token [closing] (g ++ closing :: rest) = some rest := by
    simpa using token_append hg hc [] rest
  simp only [bracketed, List.cons_append, List.append_assoc, after?_singleton_cons, if_true,
    bind, Option.bind_some, hlist, hclose, pure]

end Append

end Bracketed

end LambdaQuery.Scan
