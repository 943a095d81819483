import LambdaQuery.Source
import LambdaQuery.Proofs.Grammar.Completeness

/-!
# Which source texts are accepted

A source text is accepted exactly if the grammar derives what is left of it without the white space
around it, and the tree that is returned is the tree of the derivation.  Since reading is a
function, a text has no derivations with different trees, although the rules of the grammar are
tried in no order.

## Main results

* `LambdaQuery.Grammar.Derives.unique` — the grammar is unambiguous.
* `LambdaQuery.Grammar.parse_eq_ok_iff_derives` — the accepted texts and their trees.
-/

set_option autoImplicit false

namespace LambdaQuery.Grammar

open Scan LambdaQuery.Expr

/-- Nothing can follow an expression. -/
lemma endsExpr_nil : EndsExpr [] := by
  intro c hc
  simp [skipGap] at hc

/-- A text that is derived is read to its end. -/
lemma scan_of_derives {e : Expr} {t : List Char} (h : Derives (.expr e) t) :
    scan t = some (e, []) := by
  simpa using scan_append h endsExpr_nil

/-- **The grammar is unambiguous**: a text stands for one tree at most. -/
theorem Derives.unique {e e' : Expr} {t : List Char} (h : Derives (.expr e) t)
    (h' : Derives (.expr e') t) : e = e' := by
  have heq : some (e, ([] : List Char)) = some (e', []) := by
    rw [← scan_of_derives h, scan_of_derives h']
  simpa using heq

/-- A text without white space at its end does not end in white space. -/
lemma eq_nil_of_trimEnd_eq_append {s t rest : List Char} (h : Text.trimEnd s = t ++ rest)
    (hrest : ∀ c ∈ rest, Text.isBlank c = true) : rest = [] := by
  by_contra hne
  have hdrop : s.rdropWhile Text.isBlank = t ++ rest := h
  have hne' : s.rdropWhile Text.isBlank ≠ [] := by
    rw [hdrop]
    simp [hne]
  have hlast := List.rdropWhile_last_not Text.isBlank s hne'
  simp only [hdrop, List.getLast_append_of_ne_nil _ hne] at hlast
  exact hlast (hrest _ (List.getLast_mem hne))

/-! ## White space around a phrase -/

/-- A character of a name or a number is no white space. -/
lemma isBlank_of_isPart {c : Char} (h : Identifier.isPart c = true) : Text.isBlank c = false := by
  have hrange := toNat_of_isPart h
  simp only [Text.isBlank, Text.blankRanges, List.any_cons, List.any_nil, Bool.or_false,
    Bool.or_eq_false_iff, Bool.and_eq_false_iff, decide_eq_false_iff_not]
  omega

/-- A character that may begin a phrase is no white space. -/
lemma isBlank_of_isPhraseStart {c : Char} (h : isPhraseStart c = true) :
    Text.isBlank c = false := by
  simp only [isPhraseStart, Bool.or_eq_true, List.contains_iff_mem, List.mem_cons, List.not_mem_nil,
    or_false] at h
  rcases h with h | rfl | rfl | rfl | rfl | rfl | rfl | rfl | rfl
  · exact isBlank_of_isPart h
  all_goals decide

/-- The last character of the text is no white space. -/
def EndsPlain (s : List Char) : Prop := ∃ t c, s = t ++ [c] ∧ Text.isBlank c = false

/-- What stands before does not matter for the end of a text. -/
lemma EndsPlain.append {s : List Char} (h : EndsPlain s) (r : List Char) : EndsPlain (r ++ s) := by
  obtain ⟨t, c, rfl, hc⟩ := h
  exact ⟨r ++ t, c, by simp, hc⟩

/-- A run of characters of names and numbers ends in no white space. -/
lemma endsPlain_of_isPart {s : List Char} (hne : s ≠ []) (h : ∀ c ∈ s, Identifier.isPart c = true) :
    EndsPlain s :=
  ⟨s.dropLast, s.getLast hne, (List.dropLast_append_getLast hne).symm,
    isBlank_of_isPart (h _ (List.getLast_mem hne))⟩

/-- A name ends in no white space. -/
lemma IsName.endsPlain {x : String} (h : IsName x) : EndsPlain x.toList := by
  obtain ⟨c, s, hx, hc, hs⟩ := h.exists_eq
  rw [hx]
  refine endsPlain_of_isPart (by simp) fun d hd => ?_
  rcases List.mem_cons.1 hd with rfl | hd
  · exact isPart_of_isStart hc
  · exact hs d hd

/-- A run of digits ends in no white space. -/
lemma IsNumeral.endsPlain {s : List Char} (h : IsNumeral s) : EndsPlain s :=
  endsPlain_of_isPart h.1 fun c hc => isPart_of_isDigit (h.2 c hc)

/-- A token that is an expression ends in no white space. -/
lemma Atom.endsPlain {e : Expr} {s : List Char} (h : Atom e s) : EndsPlain s := by
  cases h with
  | whole hd _ => exact hd.endsPlain
  | @decimal ws ds _ hd => simpa using hd.endsPlain.append (ws ++ ['.'])
  | string hs =>
    obtain ⟨quote, t, hq, -, rfl⟩ := hs
    refine ⟨quote :: t, quote, rfl, ?_⟩
    rcases hq with rfl | rfl <;> decide
  | keyword hw => exact (isName_of_mem_keywords hw).endsPlain
  | «variable» hx _ => exact hx.endsPlain

/-- **How a phrase ends**: with a character that is no white space.

**Proof sketch.** Induction on the derivation.  The last piece of a phrase is a phrase itself, a
token, or a closing bracket. -/
lemma Derives.endsPlain {p : Phrase} {s : List Char} (h : Derives p s) : EndsPlain s := by
  induction h with
  | @function ps e s g t _ _ _ ih => simpa using ih.append (s ++ g ++ ['=', '>'])
  | @choice a b c s g t h u _ _ _ _ _ _ _ ih =>
    simpa using ih.append (s ++ g ++ '?' :: t ++ h ++ [':'])
  | chain _ ih => exact ih
  | operation _ _ _ _ _ _ ih => exact ih.append _
  | operand _ ih => exact ih
  | sign _ _ _ ih => exact ih.append _
  | unsigned _ ih => exact ih
  | access _ _ _ hx _ => exact hx.endsPlain.append _
  | call _ _ _ _ _ _ _ => exact ⟨_, ')', rfl, by decide⟩
  | index _ _ _ _ _ _ => exact ⟨_, ']', rfl, by decide⟩
  | primary _ ih => exact ih
  | group _ _ _ _ _ => exact ⟨_, ')', rfl, by decide⟩
  | array _ _ _ _ _ => exact ⟨_, ']', rfl, by decide⟩
  | object _ _ _ _ _ => exact ⟨_, '\x7d', rfl, by decide⟩
  | atom _ ha => exact ha.endsPlain.append _
  | @named x e g k h s _ _ _ _ ih => simpa using ih.append (g ++ k ++ h ++ [':'])

/-- Of the white space around a phrase only the gap before it belongs to the phrase. -/
lemma Derives.trim_eq {p : Phrase} {s : List Char} (h : Derives p s) :
    Text.trim s = skipGap s := by
  have hstart : Text.trimStart s = skipGap s := by
    obtain ⟨g, c, t, hg, hc, rfl⟩ := h.starts
    have hblank : ∀ d ∈ g, Text.isBlank d = true := fun d hd => Text.isBlank_of_isGap (hg d hd)
    rw [Text.trimStart, List.dropWhile_append_of_pos hblank, skipGap_append hg,
      skipGap_cons (isGap_of_isPhraseStart hc)]
    simp [isBlank_of_isPhraseStart hc]
  obtain ⟨t, c, ht, hc⟩ := h.without_gap.endsPlain
  rw [Text.trim, hstart, Text.trimEnd, ht]
  simp [hc]

/-- There is no white space around a phrase that begins without a gap. -/
lemma Derives.trim_eq_self {p : Phrase} {c : Char} {s : List Char} (h : Derives p (c :: s))
    (hc : Text.isGap c = false) : Text.trim (c :: s) = c :: s := by
  rw [h.trim_eq, skipGap_cons hc]

/-- There is no white space around a token. -/
lemma Atom.trim_eq {e : Expr} {s : List Char} (h : Atom e s) : Text.trim s = s := by
  obtain ⟨c, t, rfl, hc⟩ := h.exists_cons
  have hderives : Derives (.primary e) (c :: t) := @Derives.atom _ [] _ isGap_nil h
  exact hderives.trim_eq_self (isGap_of_isPhraseStart hc)

/-! ## Accepted texts -/

/-- What is accepted is derived, without the white space around it.

**Proof sketch.** What is read from the start of the text is derived.  White space may follow it,
but there is none, since the text does not end in white space. -/
lemma derives_of_parse {source : String} {e : Expr} (h : parse source = .ok e) :
    Derives (.expr e) (Text.trim source.toList) := by
  simp only [parse, parseTrimmed] at h
  split at h
  · contradiction
  · next e' rest hscan =>
    split at h
    · next hblank =>
      obtain rfl : e' = e := by simpa using h
      obtain ⟨t, ht, he⟩ := finds_scan hscan
      have hrest : rest = [] :=
        eq_nil_of_trimEnd_eq_append ht (List.dropWhile_eq_nil_iff.1 hblank)
      rw [ht, hrest, List.append_nil]
      exact he
    · contradiction

/-- What is derived, with any white space around it, is accepted. -/
lemma parse_of_derives {source : String} {e : Expr}
    (h : Derives (.expr e) (Text.trim source.toList)) : parse source = .ok e := by
  simp [parse, parseTrimmed, scan_of_derives h, Text.trimStart]

/-- A text that is derived is accepted as a source text. -/
lemma parse_ofList_of_derives {e : Expr} {t : List Char} (h : Derives (.expr e) t) :
    parse (String.ofList t) = .ok e := by
  refine parse_of_derives ?_
  rw [String.toList_ofList, h.trim_eq]
  exact h.without_gap

/-- A token that is an expression is accepted as a source text. -/
lemma parse_ofList_of_atom {e : Expr} {t : List Char} (h : Atom e t) :
    parse (String.ofList t) = .ok e :=
  parse_ofList_of_derives (.chain (.operand (.unsigned (.primary (.atom isGap_nil h)))))

/-- **The accepted source texts**: a source text is accepted with a tree exactly if the grammar
derives the text without the white space around it, with that tree. -/
theorem parse_eq_ok_iff_derives (source : String) (e : Expr) :
    parse source = .ok e ↔ Derives (.expr e) (Text.trim source.toList) :=
  ⟨derives_of_parse, parse_of_derives⟩

end LambdaQuery.Grammar
