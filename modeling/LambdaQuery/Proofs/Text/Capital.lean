import LambdaQuery.Proofs.Grammar.Basic
import LambdaQuery.Text.Capital

/-!
# Theory of capitals

The table of upper cases is read in both directions.  From left to right, an ASCII character has the
upper case that it has in ASCII; so a name with a capital differs from the name in its first letter
at most, and is a name again.  From right to left, the table tells which characters have a given
upper case; so one can say where a text with a capital comes from without knowing anything about it.

## Main definitions

* `LambdaQuery.Text.smallForms` — the characters that have a given upper case.

## Main results

* `LambdaQuery.Text.upperCase_of_lt` — the upper case of an ASCII character.
* `LambdaQuery.Text.capitalize_of_isName` — a name with a capital.
* `LambdaQuery.Text.eq_or_mem_smallForms` — where the first character of an upper case comes from.
* `LambdaQuery.Text.capitalize_eq_cons_iff` — where a text with a capital comes from.
-/

set_option autoImplicit false

namespace LambdaQuery.Text

open Grammar

/-! ## From left to right -/

/-- The first run of the table are the small letters of ASCII. -/
lemma contains_smallLetters (c : Char) :
    CaseRun.contains ⟨97, 122, 1, -32⟩ c.toNat = c.isLower := by
  simp [CaseRun.contains, Char.isLower, UInt32.le_iff_toNat_le, Nat.mod_one]

/-- **The upper case of an ASCII character** is the one that it has in ASCII.

**Proof sketch.** The small letters are the first run of the table; all other runs, and all
characters whose upper case is longer, lie beyond ASCII. -/
lemma upperCase_of_lt {c : Char} (hc : c.toNat < 128) : upperCase c = [c.toUpper] := by
  have hbeyond : caseExpansions.all (fun p => decide (128 ≤ p.1)) = true := by decide
  have hexpansions : caseExpansions.lookup c.toNat = none := by
    rw [List.lookup_eq_none_iff]
    intro p hp
    have hp : 128 ≤ p.1 := of_decide_eq_true (List.all_eq_true.1 hbeyond p hp)
    rw [bne_iff_ne]
    omega
  have hlater : caseRuns.tail.all (fun r => decide (128 ≤ r.first)) = true := by decide
  have hruns : caseRuns.tail.find? (·.contains c.toNat) = none := by
    rw [List.find?_eq_none]
    intro r hr hmem
    have hr : 128 ≤ r.first := of_decide_eq_true (List.all_eq_true.1 hlater r hr)
    simp only [CaseRun.contains, Bool.and_eq_true, decide_eq_true_eq] at hmem
    omega
  have hsmall : caseRuns = ⟨97, 122, 1, -32⟩ :: caseRuns.tail := rfl
  rw [upperCase, hexpansions, hsmall, List.find?_cons, hruns, contains_smallLetters]
  by_cases h : c.isLower = true
  · have hshift : (c.toNat + (-32 : Int)).toNat = c.toNat - 32 := by omega
    rw [Char.toUpper_eq_of_isLower h, h, ← hshift]
  · rw [Char.toUpper_eq_of_not_isLower h, Bool.eq_false_iff.2 h]

/-- **A name with a capital**: its first letter is in upper case, and all that follows is kept.  A
name that begins with no letter stays as it is. -/
lemma capitalize_of_isName {x : String} (h : IsName x) :
    capitalize x.toList = x.toList.modifyHead Char.toUpper := by
  obtain ⟨c, s, hx, hc, -⟩ := h.exists_eq
  have hlt : c.toNat < 128 := by
    have hrange := toNat_of_isPart (isPart_of_isStart hc)
    omega
  rw [hx, capitalize, upperCase_of_lt hlt, List.singleton_append, List.modifyHead_cons]

/-- A name with a capital is a name. -/
lemma isName_capitalize {x : String} (h : IsName x) :
    IsName (String.ofList (capitalize x.toList)) := by
  obtain ⟨c, s, hx, hc, hs⟩ := h.exists_eq
  have hupper : Identifier.isStart c.toUpper = true := by
    simp only [Identifier.isStart, Bool.or_eq_true, beq_iff_eq] at hc
    rcases hc with (hc | rfl) | rfl
    · simp [Identifier.isStart, hc]
    · decide
    · decide
  rw [IsName, String.toList_ofList, capitalize_of_isName h, hx, List.modifyHead_cons,
    Identifier.isIdentifier, hupper, List.all_eq_true.2 hs, Bool.and_self]

/-! ## From right to left -/

/-- The code that a run shifts to the character `d`. -/
def CaseRun.before (r : CaseRun) (d : Char) : Nat := ((d.toNat : Int) - r.shift).toNat

/-- The codes of the characters that have an upper case beginning with `d`, apart from `d`. -/
def smallForms (d : Char) : List Nat :=
  (caseExpansions.filter fun p => (p.2.map Char.ofNat).head? == some d).map Prod.fst ++
    (caseRuns.filter fun r => r.contains (r.before d)).map (·.before d)

/-- The code of a character by which it is written, unless it is zero. -/
lemma toNat_of_ofNat_eq {n : Nat} {d : Char} (h : Char.ofNat n = d) (hd : d.toNat ≠ 0) :
    d.toNat = n := by
  have hn : (Char.ofNat n).toNat = if n.isValidChar then n else 0 := Char.toNat_ofNat n
  rw [h] at hn
  split_ifs at hn
  · exact hn
  · exact absurd hn hd

/-- **Upper cases from right to left**: a character whose upper case begins with `d` is `d` itself
or one of its small forms. -/
lemma eq_or_mem_smallForms {c d : Char} {rest : List Char} (hd : d.toNat ≠ 0)
    (h : upperCase c = d :: rest) : c = d ∨ c.toNat ∈ smallForms d := by
  unfold upperCase at h
  split at h
  · next codes hcodes =>
    obtain ⟨before, after, htable, -⟩ := List.lookup_eq_some_iff.1 hcodes
    have hmem : (c.toNat, codes) ∈ caseExpansions := by simp [htable]
    have hhead : ((codes.map Char.ofNat).head? == some d) = true := by simp [h]
    exact .inr (List.mem_append_left _ (List.mem_map.2 ⟨_, List.mem_filter.2 ⟨hmem, hhead⟩, rfl⟩))
  · split at h
    · next r hr =>
      have hcontains := List.find?_some hr
      have hcode : d.toNat = (c.toNat + r.shift).toNat := toNat_of_ofNat_eq (List.cons.inj h).1 hd
      have hbefore : r.before d = c.toNat := by
        unfold CaseRun.before
        omega
      rw [← hbefore] at hcontains ⊢
      have hmem : r ∈ caseRuns := List.mem_of_find?_eq_some hr
      refine .inr (List.mem_append_right _ ?_)
      exact List.mem_map_of_mem (List.mem_filter.2 ⟨hmem, hcontains⟩)
    · exact .inl (List.cons.inj h).1

/-- No upper case is empty. -/
lemma upperCase_ne_nil (c : Char) : upperCase c ≠ [] := by
  have htable : caseExpansions.all (fun p => !p.2.isEmpty) = true := by decide
  unfold upperCase
  split
  · next codes hcodes =>
    obtain ⟨before, after, heq, -⟩ := List.lookup_eq_some_iff.1 hcodes
    have hmem : (c.toNat, codes) ∈ caseExpansions := by simp [heq]
    have hcodes := List.all_eq_true.1 htable _ hmem
    simpa using hcodes
  · split <;> simp

section Capitalize

variable {s t : List Char} {d : Char}

/-- Only an empty text is empty with a capital. -/
lemma capitalize_eq_nil_iff : capitalize s = [] ↔ s = [] := by
  cases s with
  | nil => simp [capitalize]
  | cons c s => simp [capitalize, upperCase_ne_nil c]

/-- What a text is that has a capital and begins with `d`. -/
lemma exists_of_capitalize_eq_cons (h : capitalize s = d :: t) :
    ∃ c rest u, s = c :: u ∧ upperCase c = d :: rest ∧ t = rest ++ u := by
  cases s with
  | nil => simp [capitalize] at h
  | cons c u =>
    rw [capitalize] at h
    cases hc : upperCase c with
    | nil => exact absurd hc (upperCase_ne_nil c)
    | cons d' rest =>
      rw [hc, List.cons_append] at h
      obtain ⟨rfl, rfl⟩ := List.cons.inj h
      exact ⟨c, rest, u, rfl, hc, rfl⟩

/-- **Texts with a capital from right to left**: for a character `d` that is the upper case of
itself and of one other character `e`, the text had `d` or `e` at its beginning. -/
lemma capitalize_eq_cons_iff {e : Char} (hd : d.toNat ≠ 0) (hself : upperCase d = [d])
    (hother : upperCase e = [d]) (hforms : smallForms d = [e.toNat]) :
    capitalize s = d :: t ↔ s = d :: t ∨ s = e :: t := by
  constructor
  · intro h
    obtain ⟨c, rest, u, rfl, hc, rfl⟩ := exists_of_capitalize_eq_cons h
    have hcases : c = d ∨ c = e := by
      refine (eq_or_mem_smallForms hd hc).imp_right fun hmem => ?_
      rw [hforms, List.mem_singleton] at hmem
      exact Char.toNat_inj.1 hmem
    rcases hcases with rfl | rfl
    · obtain rfl := (List.cons.inj (hself.symm.trans hc)).2
      exact .inl rfl
    · obtain rfl := (List.cons.inj (hother.symm.trans hc)).2
      exact .inr rfl
  · rintro (rfl | rfl)
    · rw [capitalize, hself, List.singleton_append]
    · rw [capitalize, hother, List.singleton_append]

/-- No text with a capital begins with the small letter `l`. -/
lemma capitalize_ne_cons_l (s t : List Char) : capitalize s ≠ 'l' :: t := by
  intro h
  obtain ⟨c, rest, u, -, hc, -⟩ := exists_of_capitalize_eq_cons h
  have hnone : smallForms 'l' = [] := by decide
  rcases eq_or_mem_smallForms (by decide) hc with rfl | hmem
  · have hl : upperCase 'l' = ['L'] := by decide
    simp [hl] at hc
  · simp [hnone] at hmem

end Capitalize

end LambdaQuery.Text
