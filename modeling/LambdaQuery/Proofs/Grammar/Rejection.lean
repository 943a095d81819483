import LambdaQuery.Proofs.Grammar.Recognition
import LambdaQuery.Proofs.Outcome

/-!
# Where a text is rejected

A text is rejected at a place between two of its characters.  If an expression was read before that
place, then what stands before it is accepted by itself, with the expression that was read: nothing
that was tried behind the place and given up has an influence on it.  White space may stand between
the expression and the place, and it may be other white space than that between two tokens.

## Main definitions

* `LambdaQuery.Position.IsBehind` — a place counts the bytes, lines and characters before it.

## Main results

* `LambdaQuery.Position.isBehind_after` — the place behind a text.
* `LambdaQuery.Grammar.parse_ofList_append` — white space behind an expression does not matter.
* `LambdaQuery.exists_of_parse_eq_error` — the two ways in which a text is rejected.
* `LambdaQuery.parse_error_located` — where a text is rejected.
-/

set_option autoImplicit false

namespace LambdaQuery

open Grammar Scan

/-! ## Places -/

namespace Position

/-- The place behind the text, as lines and columns are counted by a reader. -/
structure IsBehind (p : Position) (before : List Char) : Prop where
  /-- The bytes of the text are before the place. -/
  offset : p.offset = (String.ofList before).utf8ByteSize
  /-- Every line feed before the place begins a line. -/
  line : p.line = 1 + before.count '\n'
  /-- The characters of the last line are before the place. -/
  column : ∃ lines last, before = lines ++ last ∧ (∀ c ∈ lines.getLast?, c = '\n') ∧
    '\n' ∉ last ∧ p.column = 1 + last.length

/-- The bytes of a text are counted character by character. -/
lemma foldl_utf8Size (s : List Char) (n : Nat) :
    s.foldl (fun n c => n + c.utf8Size) n = n + (String.ofList s).utf8ByteSize := by
  rw [String.utf8ByteSize_ofList]
  induction s generalizing n with
  | nil => rfl
  | cons c s ih =>
    rw [List.foldl_cons, ih, String.utf8Len_cons]
    omega

/-- **The place behind a text** counts its bytes, its lines and the characters of its last line. -/
lemma isBehind_after (before : List Char) : (after before).IsBehind before where
  offset := by rw [after, foldl_utf8Size, Nat.zero_add]
  line := Nat.add_comm _ _
  column := by
    refine ⟨before.rdropWhile (· != '\n'), before.rtakeWhile (· != '\n'),
      (List.rdropWhile_append_rtakeWhile).symm, fun c hc => ?_, fun hmem => ?_, ?_⟩
    · obtain ⟨hne, rfl⟩ := List.mem_getLast?_eq_getLast hc
      simpa using List.rdropWhile_last_not (· != '\n') before hne
    · simpa using List.mem_rtakeWhile_imp hmem
    · simp [after, List.rtakeWhile, Nat.add_comm]

/-- A place behind the beginning of a text is a boundary between characters of the text. -/
lemma IsBehind.isValid {p : Position} {before : List Char} (h : p.IsBehind before)
    (rest : List Char) :
    String.Pos.Raw.IsValid (String.ofList (before ++ rest)) ⟨p.offset⟩ := by
  refine String.Pos.Raw.isValid_iff_exists_append.2
    ⟨String.ofList before, String.ofList rest, String.ofList_append, ?_⟩
  rw [h.offset]
  rfl

end Position

/-! ## White space behind an expression -/

namespace Text

/-- White space at the end of a text is trimmed with the rest of it. -/
lemma trimEnd_append {s blanks : List Char} (h : ∀ c ∈ blanks, isBlank c = true) :
    trimEnd (s ++ blanks) = trimEnd s := by
  rw [trimEnd, List.reverse_append, List.dropWhile_append_of_pos (by simpa using h), trimEnd]

/-- White space behind a text does not change what is left when it is trimmed. -/
lemma trim_append {s blanks : List Char} (h : ∀ c ∈ blanks, isBlank c = true) :
    trim (s ++ blanks) = trim s := by
  rw [trim, trim, trimStart, trimStart, List.dropWhile_append]
  split_ifs with hs
  · rw [List.isEmpty_iff.1 hs, List.dropWhile_eq_nil_iff.2 h]
  · exact trimEnd_append h

end Text

/-- An expression is accepted by itself, also with white space behind it. -/
lemma Grammar.parse_ofList_append {e : Expr} {t blanks : List Char} (h : Derives (.expr e) t)
    (hblanks : ∀ c ∈ blanks, Text.isBlank c = true) :
    parse (String.ofList (t ++ blanks)) = .ok e := by
  refine parse_of_derives ?_
  rw [String.toList_ofList, Text.trim_append hblanks, h.trim_eq]
  exact h.without_gap

/-! ## Rejected texts -/

/-- **The two ways in which a text is rejected**: nothing can be read from its start, or something
follows the expression that is read and the white space behind it. -/
lemma exists_of_parse_eq_error {source : String} {err : ParseError}
    (h : parse source = .error err) :
    Expr.scan (Text.trim source.toList) = none ∧ err = ⟨.noExpression, .after []⟩ ∨
      ∃ e t blanks c rest, Text.trim source.toList = t ++ blanks ++ c :: rest ∧
        Expr.scan (Text.trim source.toList) = some (e, blanks ++ c :: rest) ∧
        Derives (.expr e) t ∧ (∀ d ∈ blanks, Text.isBlank d = true) ∧ Text.isBlank c = false ∧
        err = ⟨.trailingInput, .after (t ++ blanks)⟩ := by
  simp only [parse, parseTrimmed] at h
  generalize Text.trim source.toList = text at h ⊢
  split at h
  · next hscan => exact .inl ⟨hscan, (Except.error.inj h).symm⟩
  · next e rest hscan =>
    obtain ⟨t, rfl, ht⟩ := finds_scan hscan
    split at h
    · contradiction
    · next c trailing htrailing =>
      have hdrop : rest.dropWhile Text.isBlank = c :: trailing := htrailing
      have hc : Text.isBlank c = false := by
        have hhead := List.head?_dropWhile_not Text.isBlank rest
        rwa [hdrop] at hhead
      obtain ⟨blanks, hblanks, rfl⟩ : ∃ blanks, (∀ d ∈ blanks, Text.isBlank d = true) ∧
          rest = blanks ++ c :: trailing :=
        ⟨rest.takeWhile Text.isBlank, fun d hd => List.mem_takeWhile_imp hd, by
          rw [← hdrop, List.takeWhile_append_dropWhile]⟩
      have hbefore : (t ++ (blanks ++ c :: trailing)).take
          ((t ++ (blanks ++ c :: trailing)).length - (c :: trailing).length) = t ++ blanks := by
        rw [← List.append_assoc, List.length_append, Nat.add_sub_cancel, List.take_left]
      refine .inr ⟨e, t, blanks, c, trailing, by rw [List.append_assoc], hscan, ht, hblanks, hc, ?_⟩
      rw [← Except.error.inj h, hbefore]

/-- **Where a text is rejected**: the place of the error is between two characters of the text
without the white space around it, and its line and column are those of a reader.  If the text is
rejected because something follows an expression, then no white space stands at the place, and what
stands before it is accepted by itself, with the expression that was read.  Otherwise nothing was
read, and the place is the start of the text. -/
theorem parse_error_located (source : String) (err : ParseError) (h : parse source = .error err) :
    ∃ before rest, Text.trim source.toList = before ++ rest ∧ err.position.IsBehind before ∧
      String.Pos.Raw.IsValid (String.ofList (Text.trim source.toList)) ⟨err.position.offset⟩ ∧
      (err.failure.message = "unexpected trailing input" →
        (∃ c ∈ rest.head?, Text.isBlank c = false) ∧
          ∃ e r, Expr.scan (Text.trim source.toList) = some (e, r) ∧
            parse (String.ofList before) = .ok e) ∧
      (err.failure.message ≠ "unexpected trailing input" →
        before = [] ∧ Expr.scan (Text.trim source.toList) = none) := by
  rcases exists_of_parse_eq_error h with
    ⟨hscan, rfl⟩ | ⟨e, t, blanks, c, rest, htext, hscan, ht, hblanks, hc, rfl⟩
  · have hplace := Position.isBehind_after []
    exact ⟨[], _, rfl, hplace, hplace.isValid _, fun hmessage => absurd hmessage (by decide),
      fun _ => ⟨rfl, hscan⟩⟩
  · have hplace := Position.isBehind_after (t ++ blanks)
    refine ⟨t ++ blanks, c :: rest, htext, hplace, ?_,
      fun _ => ⟨⟨c, rfl, hc⟩, e, _, hscan, parse_ofList_append ht hblanks⟩,
      fun hmessage => absurd rfl hmessage⟩
    rw [htext]
    exact hplace.isValid _

/-- A parenthesis behind a function, on the second line.  The white space before the function and
before the parenthesis is none that may stand between tokens. -/
theorem parse_error_located_second_line :
    parse "\u2003c => \n\t'\u00e9'\u00a0)" = .error ⟨.trailingInput, ⟨13, 2, 6⟩⟩ ∧
      ∃ before rest, Text.trim "\u2003c => \n\t'\u00e9'\u00a0)".toList = before ++ rest ∧
        (⟨13, 2, 6⟩ : Position).IsBehind before ∧ (∃ c ∈ rest.head?, Text.isBlank c = false) ∧
        ∃ e r, Expr.scan (before ++ rest) = some (e, r) ∧ parse (String.ofList before) = .ok e := by
  -- the result of reading is compared without the expression, which has no decidable equality
  have hread : parse "\u2003c => \n\t'\u00e9'\u00a0)" = .error ⟨.trailingInput, ⟨13, 2, 6⟩⟩ :=
    bind_pure_eq_error_iff.1 (show (parse _ >>= fun _ => pure ()) = _ by decide +kernel)
  obtain ⟨before, rest, htext, hplace, -, htrailing, -⟩ := parse_error_located _ _ hread
  exact ⟨hread, before, rest, htext, hplace, htext ▸ htrailing rfl⟩

end LambdaQuery
