import LambdaQuery.Http.Percent
import LambdaQuery.Proofs.Outcome
import LambdaQuery.Proofs.Text.Split

/-!
# Forms are read back

The query of an address is read as a form: it falls into pieces at ampersands, a piece into a key
and a value at its first equals sign, and in both a plus sign stands for a space and an encoded byte
for itself.  Reading the query of a list of pairs gives the pairs, in their order, whatever
characters they hold.

## Main definitions

* `LambdaQuery.Http.formDecode?` — the text of a key or a value of a form.
* `LambdaQuery.Http.formPairs?` — the keys and values of a form.

## Main results

* `LambdaQuery.Http.percentDecode_percentChar` — an encoded character is decoded.
* `LambdaQuery.Http.formDecode?_formEncode` — a key or a value is read back.
* `LambdaQuery.Http.formPairs?_formQuery` — pairs are read back.
-/

set_option autoImplicit false

namespace LambdaQuery

namespace Http

/-! ## Reading a form -/

/-- The text with a space for every plus sign. -/
def spacesForPlus (s : List Char) : List Char := s.map fun c => if c = '+' then ' ' else c

/-- The text of a key or a value of a form; none if its bytes are not the UTF-8 form of a text. -/
def formDecode? (s : List Char) : Option String :=
  String.fromUTF8? ⟨(percentDecode (spacesForPlus s)).toArray⟩

/-- The key and the value of a piece of a form. -/
def formPair? (piece : List Char) : Option (String × String) := do
  let (key, value) := Text.cutAt '=' piece
  return (← formDecode? key, ← formDecode? value)

/-- The keys and values of a form. -/
def formPairs? (query : List Char) : Option (List (String × String)) :=
  ((Text.splitAt '&' query).filter (!·.isEmpty)).mapM formPair?

/-! ## Encoded bytes -/

/-- A hexadecimal digit is read back. -/
lemma hexValue?_upperHexDigit : ∀ n < 16, hexValue? (upperHexDigit n) = some n := by decide

/-- A hexadecimal digit stands for itself in a form. -/
lemma isFormChar_upperHexDigit : ∀ n < 16, isFormChar (upperHexDigit n) = true := by decide

/-- The two hexadecimal digits of a byte are read back. -/
lemma hexByte?_digits (b : UInt8) :
    hexByte? (upperHexDigit (b.toNat / 16)) (upperHexDigit (b.toNat % 16)) = some b := by
  have hlt := b.toNat_lt
  have hhigh := hexValue?_upperHexDigit (b.toNat / 16) (by omega)
  have hlow := hexValue?_upperHexDigit (b.toNat % 16) (by omega)
  have hvalue : b.toNat / 16 * 16 + b.toNat % 16 = b.toNat := by omega
  simp only [hexByte?, hhigh, hlow, bind, Option.bind_some, hvalue, pure, UInt8.ofNat_toNat]

/-- An encoded byte is decoded. -/
lemma percentDecode_percentByte (b : UInt8) (rest : List Char) :
    percentDecode (percentByte b ++ rest) = b :: percentDecode rest := by
  simp [percentByte, percentDecode, hexByte?_digits]

/-- **An encoded character is decoded** to the bytes of its UTF-8 form. -/
lemma percentDecode_percentChar (c : Char) (rest : List Char) :
    percentDecode (percentChar c ++ rest) = String.utf8EncodeChar c ++ percentDecode rest := by
  rw [percentChar]
  induction String.utf8EncodeChar c with
  | nil => rfl
  | cons b bs ih => rw [List.flatMap_cons, List.append_assoc, percentDecode_percentByte, ih,
      List.cons_append]

/-- A character other than a percent sign stands for itself. -/
lemma percentDecode_cons {c : Char} (hc : c ≠ '%') (rest : List Char) :
    percentDecode (c :: rest) = String.utf8EncodeChar c ++ percentDecode rest := by
  simp [percentDecode, hc]

/-- An encoded character consists of percent signs and hexadecimal digits. -/
lemma mem_percentChar {c d : Char} (h : d ∈ percentChar c) : d = '%' ∨ isFormChar d = true := by
  obtain ⟨b, -, hb⟩ := List.mem_flatMap.1 h
  have hlt := b.toNat_lt
  simp only [percentByte, List.mem_cons, List.not_mem_nil, or_false] at hb
  rcases hb with rfl | rfl | rfl
  · exact .inl rfl
  · exact .inr (isFormChar_upperHexDigit _ (by omega))
  · exact .inr (isFormChar_upperHexDigit _ (by omega))

/-! ## Keys and values -/

/-- A key or a value consists of characters that stand for themselves, percent and plus signs. -/
lemma mem_formEncode {s : List Char} {d : Char} (h : d ∈ formEncode s) :
    d = '%' ∨ d = '+' ∨ isFormChar d = true := by
  obtain ⟨c, -, hd⟩ := List.mem_flatMap.1 h
  unfold formChar at hd
  split_ifs at hd with hform hspace
  · rw [List.mem_singleton.1 hd]
    exact .inr (.inr hform)
  · exact .inr (.inl (List.mem_singleton.1 hd))
  · exact (mem_percentChar hd).imp_right .inr

/-- **A character of a key or a value** is decoded to the bytes of its UTF-8 form. -/
lemma percentDecode_formChar (c : Char) (rest : List Char) :
    percentDecode (spacesForPlus (formChar c) ++ rest) =
      String.utf8EncodeChar c ++ percentDecode rest := by
  unfold formChar
  split_ifs with hform hspace
  · have hplus : c ≠ '+' := by
      rintro rfl
      contradiction
    have hpercent : c ≠ '%' := by
      rintro rfl
      contradiction
    simpa [spacesForPlus, hplus] using percentDecode_cons hpercent rest
  · subst hspace
    exact percentDecode_cons (by decide) rest
  · have hplus : spacesForPlus (percentChar c) = percentChar c := by
      have hsame : ∀ d ∈ percentChar c, (if d = '+' then ' ' else d) = d := by
        intro d hd
        refine if_neg ?_
        rintro rfl
        rcases mem_percentChar hd with h | h <;> contradiction
      exact (List.map_congr_left hsame).trans (List.map_id' _)
    rw [hplus, percentDecode_percentChar]

/-- A key or a value is decoded to the bytes of its UTF-8 form. -/
lemma percentDecode_formEncode (s : List Char) :
    percentDecode (spacesForPlus (formEncode s)) = s.flatMap String.utf8EncodeChar := by
  induction s with
  | nil => rfl
  | cons c s ih =>
    have hsplit : spacesForPlus (formEncode (c :: s)) =
        spacesForPlus (formChar c) ++ spacesForPlus (formEncode s) := List.map_append
    rw [hsplit, percentDecode_formChar, ih, List.flatMap_cons]

/-- **A key or a value is read back**, whatever characters it holds. -/
lemma formDecode?_formEncode (s : String) : formDecode? (formEncode s.toList) = some s := by
  have hbytes : (⟨(s.toList.flatMap String.utf8EncodeChar).toArray⟩ : ByteArray) =
      s.toByteArray := by
    rw [← String.utf8Encode_toList, List.utf8Encode]
    exact ByteArray.ext List.data_toByteArray.symm
  rw [formDecode?, percentDecode_formEncode, hbytes, String.fromUTF8?, dif_pos s.isValidUTF8]
  rfl

/-! ## Pairs -/

/-- A character that is neither a percent sign nor a plus sign nor stands for itself does not occur
in a key or a value. -/
lemma notMem_formEncode {d : Char} (hpercent : d ≠ '%') (hplus : d ≠ '+')
    (hform : isFormChar d = false) (s : List Char) : d ∉ formEncode s := by
  intro h
  rcases mem_formEncode h with h | h | h
  · exact hpercent h
  · exact hplus h
  · exact absurd (hform.symm.trans h) (by decide)

/-- A pair is read back. -/
lemma formPair?_formPair (p : String × String) : formPair? (formPair p) = some p := by
  have hequals : '=' ∉ formEncode p.1.toList :=
    notMem_formEncode (by decide) (by decide) (by decide) _
  simp [formPair?, formPair, Text.cutAt_append_cons hequals, formDecode?_formEncode]

/-- The pieces of a form hold no ampersand. -/
lemma notMem_formPair (p : String × String) : '&' ∉ formPair p := by
  have hnot : ∀ s, '&' ∉ formEncode s :=
    notMem_formEncode (by decide) (by decide) (by decide)
  simp [formPair, hnot]

/-- **Pairs are read back**, in their order: pairs that occur twice and empty texts too. -/
lemma formPairs?_formQuery (pairs : List (String × String)) :
    formPairs? (formQuery pairs) = some pairs := by
  have hpieces : (Text.splitAt '&' (formQuery pairs)).filter (!·.isEmpty) = pairs.map formPair := by
    cases pairs with
    | nil => rfl
    | cons p pairs =>
      have hsplit : Text.splitAt '&' (formQuery (p :: pairs)) = (p :: pairs).map formPair := by
        refine Text.splitAt_intercalate (List.cons_ne_nil _ _) fun piece hpiece => ?_
        obtain ⟨q, -, rfl⟩ := List.mem_map.1 hpiece
        exact notMem_formPair q
      rw [hsplit]
      refine List.filter_eq_self.2 fun piece hpiece => ?_
      obtain ⟨q, -, rfl⟩ := List.mem_map.1 hpiece
      simp [formPair]
  rw [formPairs?, hpieces]
  exact mapM_map_eq_some formPair?_formPair pairs

/-- The query of pairs is empty only if there are none. -/
lemma formQuery_eq_nil_iff {pairs : List (String × String)} :
    formQuery pairs = [] ↔ pairs = [] := by
  cases pairs with
  | nil => simp [formQuery]
  | cons p pairs => cases pairs <;> simp [formQuery, formPair, List.intercalate_cons_cons]

end Http

end LambdaQuery
