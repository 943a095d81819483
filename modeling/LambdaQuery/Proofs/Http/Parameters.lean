import LambdaQuery.Http.Exchange
import LambdaQuery.Proofs.Http.Form
import LambdaQuery.Proofs.Options.Merging

/-!
# The service reads the parameters

The query of a request is read as a form by the service.  If the address of the collection has no
query of its own, then the service reads the parameters of the options and those of the compiled
query, in their order, and there is a question mark only if there are parameters.

## Main definitions

* `LambdaQuery.Http.Url.place` — the text of an address before its query.

## Main results

* `LambdaQuery.Http.notMem_parseHost` — a host has no question mark.
* `LambdaQuery.Http.Url.notMem_place` — nor has anything else before the query of an address.
* `LambdaQuery.Http.Url.query_eq_none` — where there is no question mark there is no query.
* `LambdaQuery.Http.exchange_parameters_read` — what the service reads.
-/

set_option autoImplicit false

namespace LambdaQuery.Http

/-! ## Characters that do not occur -/

/-- A character does not occur in joined parts if it occurs neither in them nor between them. -/
lemma notMem_intercalate {c d : Char} (hc : d ≠ c) {parts : List (List Char)}
    (h : ∀ p ∈ parts, d ∉ p) : d ∉ List.intercalate [c] parts := by
  induction parts with
  | nil => simp
  | cons p parts ih =>
    rw [List.forall_mem_cons] at h
    cases parts with
    | nil => simpa using h.1
    | cons q parts =>
      rw [List.intercalate_cons_cons]
      simp [h.1, hc, ih h.2]

/-- An encoded text does not hold a character that is encoded. -/
lemma notMem_percentEncode {isEncoded : Char → Bool} {d : Char} (hd : isEncoded d = true)
    (hpercent : d ≠ '%') (hform : isFormChar d = false) (s : List Char) :
    d ∉ percentEncode isEncoded s := by
  intro h
  obtain ⟨c, -, hc⟩ := List.mem_flatMap.1 h
  split_ifs at hc with hencoded
  · rcases mem_percentChar hc with h | h
    · exact hpercent h
    · exact absurd (hform.symm.trans h) (by decide)
  · rw [List.mem_singleton.1 hc] at hd
    simp [hd] at hencoded

/-- A numeral holds no question mark. -/
lemma notMem_toDigits {base : Nat} (hbase : 1 < base) (n : Nat) : '?' ∉ Nat.toDigits base n := by
  have hdigit : ∀ d, '?' ≠ Nat.digitChar d := fun d => (Nat.digitChar_ne '?' (by decide)).symm
  induction n using Nat.strong_induction_on with
  | _ n ih =>
    by_cases hn : n < base
    · rw [Nat.toDigits_of_lt_base hn, List.mem_singleton]
      exact hdigit n
    · have hlt : n / base < n := Nat.div_lt_self (by omega) hbase
      rw [Nat.toDigits_of_base_le hbase (by omega), List.mem_append, List.mem_singleton, not_or]
      exact ⟨ih (n / base) hlt, hdigit (n % base)⟩

/-- A decimal numeral holds no question mark. -/
lemma notMem_natural (n : Nat) : '?' ∉ Text.natural n := notMem_toDigits (by decide) n

/-! ## Hosts -/

/-- A host of version 4 holds no question mark. -/
lemma notMem_parseIpv4 {s host : List Char} (h : parseIpv4? s = some host) : '?' ∉ host := by
  simp only [parseIpv4?, bind, Option.bind_eq_some_iff] at h
  obtain ⟨parts, -, n, -, hhost⟩ := h
  rw [← Option.some.inj hhost]
  refine notMem_intercalate (by decide) fun p hp => ?_
  obtain ⟨i, -, rfl⟩ := List.mem_map.1 hp
  exact notMem_natural _

/-- A host of version 6 holds no question mark. -/
lemma notMem_parseIpv6 {s host : List Char} (h : parseIpv6? s = some host) : '?' ∉ host := by
  have hgroups : ∀ groups, '?' ∉ ipv6GroupsText groups := by
    intro groups
    refine notMem_intercalate (by decide) fun p hp => ?_
    obtain ⟨n, -, rfl⟩ := List.mem_map.1 hp
    exact notMem_toDigits (by decide) n
  simp only [parseIpv6?, bind, Option.bind_eq_some_iff] at h
  obtain ⟨groups, -, hhost⟩ := h
  rw [← Option.some.inj hhost]
  have htext : '?' ∉ ipv6Text groups := by
    unfold ipv6Text
    split
    · simp [hgroups]
    · exact hgroups groups
  simp [htext]

/-- **A host holds no question mark**: a name in which there is one is refused. -/
lemma notMem_parseHost {s host : List Char} (h : parseHost? s = some host) : '?' ∉ host := by
  unfold parseHost? at h
  split at h
  · split_ifs at h
    exact notMem_parseIpv6 h
  · simp only [bind, Option.bind_eq_some_iff] at h
    obtain ⟨decoded, -, name, -, h⟩ := h
    split_ifs at h with hname hnumber
    · exact notMem_parseIpv4 h
    · obtain rfl := Option.some.inj h
      intro hmark
      refine hname (Bool.or_eq_true_iff.2 (.inr ?_))
      exact List.any_eq_true.2 ⟨'?', hmark, by decide⟩

namespace Url

/-! ## Addresses -/

/-- The scheme of an address is one of two, and the rest of the text stands behind its colon. -/
lemma of_scheme {s scheme rest : List Char} (h : scheme? s = some (scheme, rest)) :
    (scheme = "http".toList ∨ scheme = "https".toList) ∧ ':' :: rest <:+ s := by
  unfold scheme? at h
  dsimp only at h
  split at h
  · next rest' hrest =>
    split_ifs at h with hscheme
    obtain ⟨rfl, rfl⟩ := Prod.mk.inj (Option.some.inj h)
    exact ⟨hscheme, hrest ▸ List.dropWhile_suffix _⟩
  · contradiction

/-- The number of a service holds no question mark. -/
lemma notMem_serviceNumber {scheme digits number : List Char}
    (h : serviceNumber? scheme digits = some number) : '?' ∉ number := by
  unfold serviceNumber? at h
  dsimp only at h
  split_ifs at h
  · simp [← Option.some.inj h]
  · simp [← Option.some.inj h]
  · simp [← Option.some.inj h, notMem_natural]

/-- What stays of the name and the password of a user holds no question mark. -/
lemma notMem_keptUserInfo (s : List Char) : '?' ∉ keptUserInfo s := by
  have hencoded : ∀ t, '?' ∉ percentEncode isEncodedInUserInfo t :=
    notMem_percentEncode (by decide) (by decide) (by decide)
  unfold keptUserInfo
  dsimp only
  split_ifs <;> simp [hencoded]

/-- The host and the number of an address hold no question mark. -/
lemma notMem_authority {scheme s authority : List Char} (h : authority? scheme s = some authority) :
    '?' ∉ authority := by
  simp only [authority?, bind, Option.bind_eq_some_iff] at h
  obtain ⟨host, hhost, number, hnumber, h⟩ := h
  rw [← Option.some.inj h]
  simp [notMem_keptUserInfo, notMem_parseHost hhost, notMem_serviceNumber hnumber]

/-- The segments of a path hold no question mark.

**Proof sketch.** Induction on the segments that are left; those before them hold none. -/
lemma notMem_resolveSegments {above segments : List (List Char)} (h : ∀ s ∈ above, '?' ∉ s) :
    ∀ s ∈ resolveSegments above segments, '?' ∉ s := by
  have hparent : ∀ above : List (List Char), (∀ s ∈ above, '?' ∉ s) →
      ∀ s ∈ parentOf above, '?' ∉ s := by
    intro above h s hs
    unfold parentOf at hs
    split at hs
    · split_ifs at hs
      · exact h s hs
      · exact h s (List.mem_cons_of_mem _ hs)
    · contradiction
  have hencoded : ∀ t, '?' ∉ percentEncode isEncodedInPath t :=
    notMem_percentEncode (by decide) (by decide) (by decide)
  induction segments generalizing above with
  | nil => simpa [resolveSegments] using h
  | cons t segments ih =>
    rw [resolveSegments]
    split_ifs
    · exact ih (List.forall_mem_cons.2 ⟨by simp, hparent above h⟩)
    · exact ih (hparent above h)
    · exact ih (List.forall_mem_cons.2 ⟨by simp, h⟩)
    · exact ih h
    · exact ih (List.forall_mem_cons.2 ⟨hencoded t, h⟩)

/-- The path of an address holds no question mark. -/
lemma notMem_pathOf (s : List Char) : '?' ∉ pathOf s := by
  unfold pathOf
  split
  · decide
  · intro h
    obtain ⟨segment, hsegment, hmem⟩ := List.mem_flatMap.1 h
    rcases List.mem_cons.1 hmem with h | h
    · contradiction
    · exact notMem_resolveSegments (by simp) segment hsegment h

/-- The text of an address before its query. -/
def place (u : Url) : List Char := u.scheme ++ "://".toList ++ u.authority ++ u.path

/-- **The question mark of an address** is that of its query. -/
lemma notMem_place {text : List Char} {u : Url} (h : parse? text = some u) : '?' ∉ u.place := by
  simp only [parse?, bind, Option.bind_eq_some_iff] at h
  obtain ⟨⟨scheme, rest⟩, hscheme, authority, hauthority, h⟩ := h
  rw [← Option.some.inj h]
  have hmark : '?' ∉ scheme := by
    rcases (of_scheme hscheme).1 with rfl | rfl <;> decide
  simp [place, hmark, notMem_authority hauthority, notMem_pathOf]

/-- Cleaning a text adds no characters. -/
lemma clean_subset (s : List Char) : clean s ⊆ s := by
  intro c hc
  have htrimmed := List.mem_reverse.1 (List.mem_filter.1 hc).1
  have hstart := List.mem_reverse.1 ((List.dropWhile_suffix _).subset htrimmed)
  exact (List.dropWhile_suffix _).subset hstart

/-- **A text without a question mark** is an address without a query. -/
lemma query_eq_none {text : List Char} {u : Url} (h : parse? text = some u) (htext : '?' ∉ text) :
    u.query = none := by
  simp only [parse?, bind, Option.bind_eq_some_iff] at h
  obtain ⟨⟨scheme, rest⟩, hscheme, authority, -, h⟩ := h
  have hrest : rest ⊆ text := fun c hc =>
    clean_subset text ((of_scheme hscheme).2.subset (List.mem_cons_of_mem _ hc))
  have hnone : ∀ s : List Char, '?' ∉ s → queryOf s = none := by
    intro s hs
    cases s with
    | nil => rfl
    | cons c s =>
      have hc : c ≠ '?' := fun hc => hs (hc ▸ List.mem_cons_self)
      simp [queryOf, hc]
  rw [← Option.some.inj h]
  refine hnone _ fun hmem => htext (hrest ?_)
  -- what follows the path is an end of the rest of the text
  exact (List.dropWhile_suffix _).subset
    ((List.dropWhile_suffix _).subset ((List.dropWhile_suffix _).subset hmem))

/-- The address with pairs added to it, if it has no query of its own. -/
lemma target_withPairs {u : Url} (hquery : u.query = none) (pairs : List (String × String)) :
    (u.withPairs pairs).target =
      u.place ++ if pairs = [] then [] else '?' :: formQuery pairs := by
  cases pairs with
  | nil => simp [withPairs, target, place, queryText, hquery]
  | cons p pairs =>
    have hne : formQuery (p :: pairs) ≠ [] := by simp [formQuery_eq_nil_iff]
    simp [withPairs, target, place, queryText, hquery, hne]

end Url

/-! ## Requests -/

/-- What is sent is the request of the query. -/
lemma request_of_mem_sent {delivery : Delivery} {base : String} {query : Compiled} {r : Request}
    (h : r ∈ (exchange delivery base query).sent) : request base query = .ok r := by
  unfold exchange at h
  cases hrequest : request base query with
  | error e =>
    rw [hrequest] at h
    exact absurd h List.not_mem_nil
  | ok r' =>
    rw [hrequest] at h
    cases delivery with
    | unreachable => exact absurd h List.not_mem_nil
    | silent => rw [List.mem_singleton.1 h]
    | answered reply => rw [List.mem_singleton.1 h]

/-- The address of a request is that of the collection, with all pairs added to it. -/
lemma exists_of_request {base : String} {query : Compiled} {r : Request}
    (h : request base query = .ok r) :
    ∃ u, Url.parse? (urlFor base query.mergedOptions.url).toList = some u ∧
      r.url = u.withPairs (pairsOf query.mergedOptions query.params) := by
  simp only [request, bind_eq_ok_iff] at h
  obtain ⟨method, -, headers, -, h⟩ := h
  split at h
  · next u hu =>
    split_ifs at h
    refine ⟨u, hu, ?_⟩
    rw [pure_eq_ok_iff.1 h]
  · contradiction

/-- **The service reads the parameters**: if the address of the collection holds no question mark
and a request is sent, then its query, read as a form, holds the parameters of the options objects
and behind them those of the compiled query, all in their order.  The request has a question mark
only if there are parameters. -/
theorem exchange_parameters_read (delivery : Delivery) (base : String) (os : List Options)
    (params : List Parameter) (hplain : '?' ∉ (urlFor base (Options.merge os).url).toList)
    (r : Request) (hr : r ∈ (exchange delivery base ⟨params, os⟩).sent) :
    formPairs? (Text.cutAt '?' r.url.target).2 =
        some ((os.flatMap (·.params) ++ params).map fun p => (p.key, p.value)) ∧
      ('?' ∈ r.url.target ↔ os.flatMap (·.params) ++ params ≠ []) := by
  obtain ⟨u, hu, hurl⟩ := exists_of_request (request_of_mem_sent hr)
  have hplace := Url.notMem_place hu
  have htarget := Url.target_withPairs (Url.query_eq_none hu hplain)
    (pairsOf (Options.merge os) params)
  rw [pairsOf, Options.params_merge] at htarget
  rw [hurl, Compiled.mergedOptions, pairsOf, Options.params_merge, htarget]
  split_ifs with hnone
  · rw [List.append_nil, Text.cutAt_of_notMem hplace, hnone]
    refine ⟨rfl, iff_of_false hplace ?_⟩
    simpa using hnone
  · rw [Text.cutAt_append_cons hplace, formPairs?_formQuery]
    refine ⟨rfl, iff_of_true (by simp) ?_⟩
    simpa using hnone

/-- A parameter of the options with characters beyond ASCII, one of the query with separators in its
value, and an empty one. -/
theorem exchange_parameters_read_separators :
    ∃ r, (exchange .silent "http://host.test/odata"
        ⟨[⟨"$filter", "name eq 'a+b&c=d%'"⟩, ⟨"", ""⟩],
          [Options.empty.withParam "é" "😀"]⟩).sent = [r] ∧
      r.url.target = ("http://host.test/odata?%C3%A9=%F0%9F%98%80&" ++
        "%24filter=name+eq+%27a%2Bb%26c%3Dd%25%27&=").toList ∧
      formPairs? (Text.cutAt '?' r.url.target).2 =
        some [("é", "😀"), ("$filter", "name eq 'a+b&c=d%'"), ("", "")] := by
  refine ⟨_, rfl, rfl, ?_⟩
  exact (exchange_parameters_read .silent "http://host.test/odata"
    [Options.empty.withParam "é" "😀"] [⟨"$filter", "name eq 'a+b&c=d%'"⟩, ⟨"", ""⟩] (by decide) _
    (List.mem_singleton.2 rfl)).1

end LambdaQuery.Http
