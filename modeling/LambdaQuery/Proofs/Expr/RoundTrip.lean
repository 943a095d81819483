import LambdaQuery.Proofs.Binary64.Decimal
import LambdaQuery.Proofs.Expr.Canonical

/-!
# Reading what is written

An expression that is written and read again is the same expression, apart from groups of one where
the writing added parentheses.  An expression that was itself read from a text is canonical and
needs no added parentheses, so nothing changes at all.

## Main definitions

* `LambdaQuery.Value.isPlain` — the values that literals of a source text can have, without the
  floating-point numbers.

## Main results

* `LambdaQuery.Value.atom_source` — a literal is written as a token for it.
* `LambdaQuery.Expr.parse_print` — reading what is written, for any expression.
* `LambdaQuery.Expr.parse_print_of_parse` — the same for an expression that was read.
-/

set_option autoImplicit false

namespace LambdaQuery

open Grammar Scan

/-! ## Literals -/

/-- The value is no negative number, no floating-point number and no date. -/
def Value.isPlain : Value → Bool
  | .float _ => false
  | v => v.isUnsigned

/-- A whole number without sign is written as a token for it. -/
lemma Value.atom_source_int {n : Int64} (h : 0 ≤ n.toInt) :
    Atom (.literal (.int n)) (Value.int n).source := by
  obtain ⟨k, hk⟩ := Int.eq_ofNat_of_zero_le h
  have hn : Int64.ofNat k = n := by rw [← Int64.ofInt_eq_ofNat, ← hk, Int64.ofInt_toInt]
  have hlt : k < 2 ^ 63 := by
    have := n.toInt_lt
    omega
  have hnumeral : IsNumeral (Text.natural k) :=
    ⟨Text.natural_ne_nil k, fun c => Text.isDigit_of_mem_natural⟩
  have hatom := Atom.whole hnumeral (by simpa using hlt)
  rw [Text.numberOfDigits_natural, hn] at hatom
  rw [Value.source, hk]
  exact hatom

/-- **A literal is written as a token for it**, if it has no sign, is no date and is finite where it
is a floating-point number. -/
lemma Value.atom_source {v : Value} (h : v.isUnsigned = true)
    (hfinite : ∀ x, v = .float x → x.isFinite = true) : Atom (.literal v) v.source := by
  cases v with
  | null => exact .keyword (w := "null") (by simp [keywords])
  | bool b =>
    cases b with
    | false => exact .keyword (w := "false") (by simp [keywords])
    | true => exact .keyword (w := "true") (by simp [keywords])
  | int n => exact atom_source_int (by simpa [isUnsigned] using h)
  | float x =>
    obtain ⟨ws, ds, hws, hds, hsource, hx⟩ :=
      Binary64.isDecimalOf_source (hfinite x rfl) (by simpa [isUnsigned] using h)
    rw [hsource]
    simpa only [hx] using Atom.decimal hws hds
  | string x => exact .string (Expr.stringLiteral_quoted x)
  | date t => simp [isUnsigned] at h

/-- A plain literal is written as a token for it. -/
lemma Value.atom_source_of_isPlain {v : Value} (h : v.isPlain = true) :
    Atom (.literal v) v.source := by
  cases v with
  | float x => simp [isPlain] at h
  | _ => exact atom_source h (by simp)

namespace Expr

/-! ## Reading what is written -/

/-- What is read from the text of an expression that can be written. -/
lemma parse_print_of_writable {e : Expr} (h : Writable e) : parse e.print = .ok e.parenthesized :=
  parse_ofList_of_derives (expr_of_tightest (derives_source h))

/-- The text of an expression without needless groups is read as the expression. -/
lemma parse_of_print_eq {e : Expr} {source : String} (h : Writable e)
    (hgroups : e.parenthesized = e) (hsource : e.print = source) : parse source = .ok e := by
  rw [← hsource, parse_print_of_writable h, hgroups]

/-- **Reading what is written**: an expression with names and operators of the language and with
plain literals is read back with a group of one at each operand that is written in parentheses.  So
it is the same expression without its groups of one, and is written in the same way. -/
theorem parse_print (e : Expr) (hnames : e.isWritable = true)
    (hliterals : ∀ v ∈ e.literals, v.isPlain = true) :
    parse e.print = .ok e.parenthesized ∧ e.parenthesized.eraseGroups = e.eraseGroups ∧
      e.parenthesized.print = e.print := by
  refine ⟨parse_print_of_writable ⟨hnames, fun v hv => ?_⟩, eraseGroups_parenthesized e, ?_⟩
  · have hplain := hliterals v hv
    refine Value.atom_source ?_ ?_
    · cases v with
      | float x => simp [Value.isPlain] at hplain
      | _ => exact hplain
    · rintro x rfl
      simp [Value.isPlain] at hplain
  · rw [print, source_parenthesized, print]

/-- A product of a sum and of a function under a sign, both in parentheses. -/
theorem parse_print_product :
    parse (print (.binary "*" (.binary "+" (.literal (.int 1)) (.variable "x"))
      (.unary "-" (.lambda ["y", "z"]
        (.object [("a b", .literal (.string "\"")), ("c", .array [])]))))) =
      .ok (.binary "*" (.group [.binary "+" (.literal (.int 1)) (.variable "x")])
        (.unary "-" (.group [.lambda ["y", "z"]
          (.object [("a b", .literal (.string "\"")), ("c", .array [])])]))) :=
  (parse_print (.binary "*" (.binary "+" (.literal (.int 1)) (.variable "x"))
    (.unary "-" (.lambda ["y", "z"]
      (.object [("a b", .literal (.string "\"")), ("c", .array [])]))))
    (by decide) (by decide)).1

/-- **An expression that was read is read back unchanged**: if a source text is accepted with an
expression in which all floating-point numbers are finite, then the text of the expression is
accepted with the very same expression, its groups included. -/
theorem parse_print_of_parse (source : String) (e : Expr) (h : parse source = .ok e)
    (hfinite : ∀ x, Value.float x ∈ e.literals → x.isFinite = true) : parse e.print = .ok e := by
  have hcanonical : Canonical e := canonical_of_derives (derives_of_parse h)
  have hwritable : Writable e := by
    refine ⟨hcanonical.names, fun v hv => ?_⟩
    refine Value.atom_source (hcanonical.literals v hv) ?_
    rintro x rfl
    exact hfinite x hv
  rw [parse_print_of_writable hwritable, hcanonical.groups]

/-- The parentheses around a number behind a sign remain, and a digit without meaning does not. -/
theorem parse_print_of_parse_negated :
    parse " -(1.50)" =
        .ok (.unary "-" (.group [.literal (.float (Binary64.ofDecimal ['1'] ['5', '0']))])) ∧
      parse (print (.unary "-"
          (.group [.literal (.float (Binary64.ofDecimal ['1'] ['5', '0']))]))) =
        .ok (.unary "-" (.group [.literal (.float (Binary64.ofDecimal ['1'] ['5', '0']))])) := by
  have hnumber : Derives (.expr (.literal (.float (Binary64.ofDecimal ['1'] ['5', '0']))))
      ['1', '.', '5', '0'] :=
    .chain (.operand (.unsigned (.primary (.atom isGap_nil
      (.decimal ⟨by simp, by simp⟩ ⟨by simp, by simp⟩)))))
  have hgroup :
      Derives (.primary (.group [.literal (.float (Binary64.ofDecimal ['1'] ['5', '0']))]))
        ['(', '1', '.', '5', '0', ')'] :=
    @Derives.group [(_, ['1', '.', '5', '0'])] [] _ [] isGap_nil
      (List.forall_mem_singleton.2 hnumber) (.last _) isGap_nil
  have hread : parse " -(1.50)" =
      .ok (.unary "-" (.group [.literal (.float (Binary64.ofDecimal ['1'] ['5', '0']))])) :=
    parse_of_derives (.chain (.operand
      (@Derives.sign "-" _ [] _ (by decide) isGap_nil (.unsigned (.primary hgroup)))))
  refine ⟨hread, parse_print_of_parse _ _ hread fun x hx => ?_⟩
  obtain rfl : x = Binary64.ofDecimal ['1'] ['5', '0'] := by
    simpa [literals, literalsOfAll] using hx
  decide +kernel

end Expr

end LambdaQuery
