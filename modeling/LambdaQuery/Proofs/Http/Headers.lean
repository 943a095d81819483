import LambdaQuery.Http.Request
import LambdaQuery.Proofs.Options.Merging

/-!
# Which value of a header is sent

Options objects are laid over each other with the names of headers as they are spelled, and a name
that is set again keeps the place of its first mention.  In a request the letters of a name have no
case, and the later place counts.  So a header is sent with the last value of the spelling that was
the last one to be used for the first time, and an object that returns to an older spelling has no
say in it.

## Main definitions

* `LambdaQuery.Http.mentions` — the headers of options objects that spell a given name.
* `LambdaQuery.Http.newestSpelling?` — the spelling that was the last one to be used for the first
  time.
* `LambdaQuery.Http.decided?` — the last value of that spelling.

## Main results

* `LambdaQuery.Http.get?_headersOf_ofList` — the value of a header in a request.
* `LambdaQuery.Http.decided?_concat` — what one more mention of a header changes.
* `LambdaQuery.Http.request_header_decided` — the value that is sent, and when the last object that
  mentions a header decides it.
-/

set_option autoImplicit false

namespace LambdaQuery

namespace Http

/-! ## The mentions of a header -/

/-- The text spells the name of a header: the case of letters does not matter. -/
def isSpelling (name x : String) : Bool := lowerAscii x == lowerAscii name

/-- The headers of options objects that spell a name, in the order in which they are set. -/
def mentions (name : String) (os : List Options) : List (String × String) :=
  (os.flatMap fun o => o.headers.entries).filter fun h => isSpelling name h.1

/-- The spelling that was the last one to be used for the first time. -/
def newestSpelling? (ms : List (String × String)) : Option String :=
  (ms.map Prod.fst).eraseDups.getLast?

/-- The last value of the spelling that was the last one to be used for the first time. -/
def decided? (ms : List (String × String)) : Option String :=
  (newestSpelling? ms).bind fun x => ms.reverse.lookup x

/-- The mentions in lists of objects, one after the other. -/
lemma mentions_append (name : String) (os os' : List Options) :
    mentions name (os ++ os') = mentions name os ++ mentions name os' := by
  simp only [mentions, List.flatMap_append, List.filter_append]

/-- One more mention brings a new spelling, or none. -/
lemma newestSpelling?_concat (ms : List (String × String)) (x v : String) :
    newestSpelling? (ms ++ [(x, v)]) =
      if x ∈ ms.map Prod.fst then newestSpelling? ms else some x := by
  have hsingle : [(x, v)].map Prod.fst = [x] := rfl
  rw [newestSpelling?, List.map_append, hsingle, eraseDups_concat]
  split_ifs
  · rfl
  · exact List.getLast?_concat

/-- **One more mention of a header** decides its value, unless it returns to a spelling that is not
the newest one. -/
lemma decided?_concat (ms : List (String × String)) (x v : String) :
    decided? (ms ++ [(x, v)]) =
      if x ∈ ms.map Prod.fst ∧ newestSpelling? ms ≠ some x then decided? ms else some v := by
  have hlookup : ∀ y, (ms ++ [(x, v)]).reverse.lookup y =
      if y = x then some v else ms.reverse.lookup y := by
    intro y
    rw [List.reverse_append, List.reverse_singleton, List.singleton_append,
      Bindings.lookup_cons_eq]
  simp only [decided?, newestSpelling?_concat, hlookup]
  by_cases hmem : x ∈ ms.map Prod.fst
  · cases hnewest : newestSpelling? ms with
    | none =>
      have hnone : (ms.map Prod.fst).eraseDups = [] := List.getLast?_eq_none_iff.1 hnewest
      rw [← List.mem_eraseDups, hnone] at hmem
      contradiction
    | some y =>
      by_cases hy : y = x
      · simp [hy]
      · simp [hmem, hy]
  · simp [hmem]

/-! ## Headers of a request -/

/-- A header that is accepted is sent with its name in small letters. -/
lemma eq_of_headerOf {h h' : String × String} (heq : headerOf h = .ok h') :
    h' = (lowerAscii h.1, h.2) := by
  unfold headerOf at heq
  split_ifs at heq
  exact (Except.ok.inj heq).symm

/-- The headers of a request, if all of them are accepted. -/
lemma eq_of_headersOf {b hs : Bindings String} (h : headersOf b = .ok hs) :
    hs = .ofList (b.entries.map fun e => (lowerAscii e.1, e.2)) := by
  unfold headersOf at h
  cases hm : b.entries.mapM headerOf with
  | error err =>
    rw [hm] at h
    contradiction
  | ok es =>
    rw [hm] at h
    have hes : b.entries.map (fun e => (lowerAscii e.1, e.2)) = es := by
      rw [← List.forall₂_eq_eq_eq, List.forall₂_map_left_iff]
      exact (mapM_eq_ok_iff.1 hm).imp fun e e' he => (eq_of_headerOf he).symm
    rw [hes]
    exact (Except.ok.inj h).symm

/-- The last value of a name without case is that of the last entry that spells it. -/
lemma lookup_reverse_lowerAscii (es : List (String × String)) (name : String) :
    (es.map fun e => (lowerAscii e.1, e.2)).reverse.lookup (lowerAscii name) =
      (es.filter fun e => isSpelling name e.1).getLast?.map Prod.snd := by
  induction es using List.reverseRecOn with
  | nil => rfl
  | append_singleton es e ih =>
    rw [List.map_append, List.map_singleton, List.reverse_append, List.reverse_singleton,
      List.singleton_append, Bindings.lookup_cons_eq, ih, List.filter_append]
    by_cases he : lowerAscii name = lowerAscii e.1
    · have hspelling : isSpelling name e.1 = true := by simp [isSpelling, he]
      rw [if_pos he, List.filter_singleton, hspelling, cond_true, List.getLast?_concat]
      rfl
    · have hspelling : isSpelling name e.1 = false := by simp [isSpelling, Ne.symm he]
      rw [if_neg he, List.filter_singleton, hspelling, cond_false, List.append_nil]

/-- The last value of a spelling is found among the mentions of the name. -/
lemma lookup_filter_isSpelling {name x : String} (hx : isSpelling name x = true)
    (es : List (String × String)) :
    (es.filter fun e => isSpelling name e.1).lookup x = es.lookup x := by
  induction es with
  | nil => rfl
  | cons e es ih =>
    rw [List.filter_cons]
    split_ifs with he
    · rw [Bindings.lookup_cons_eq, Bindings.lookup_cons_eq, ih]
    · have hne : x ≠ e.1 := by
        rintro rfl
        exact he hx
      rw [ih, Bindings.lookup_cons_eq, if_neg hne]

/-- **The value of a header**: of the entries that are set one after the other, those that spell the
name decide, by the last value of the newest spelling.

**Proof sketch.** The last entry that spells the name has the newest spelling, since names stand in
the order of their first mention, and has the value that this spelling was given last. -/
lemma get?_headersOf_ofList {es : List (String × String)} {hs : Bindings String}
    (h : headersOf (.ofList es) = .ok hs) (name : String) :
    hs.get? (lowerAscii name) = decided? (es.filter fun e => isSpelling name e.1) := by
  have hnewest : newestSpelling? (es.filter fun e => isSpelling name e.1) =
      ((Bindings.ofList es).entries.filter fun e => isSpelling name e.1).getLast?.map
        Prod.fst := by
    have hplaces := Bindings.filter_map_fst_ofList (isSpelling name) es
    rw [List.filter_map, List.filter_map] at hplaces
    rw [newestSpelling?, ← List.getLast?_map]
    exact congrArg List.getLast? hplaces.symm
  rw [eq_of_headersOf h, Bindings.get?_ofList, lookup_reverse_lowerAscii, decided?, hnewest]
  cases hlast : ((Bindings.ofList es).entries.filter fun e => isSpelling name e.1).getLast? with
  | none => rfl
  | some e =>
    obtain ⟨x, v⟩ := e
    obtain ⟨hmem, hx⟩ := List.mem_filter.1 (List.mem_of_getLast? hlast)
    rw [Bindings.mem_entries_iff, Bindings.get?_ofList] at hmem
    change some v = (List.filter _ es).reverse.lookup x
    rw [← List.filter_reverse, lookup_filter_isSpelling hx, hmem]

/-! ## Requests -/

/-- With a method and headers that are accepted, only the address can keep a query from being
sent. -/
lemma request_of_accepted {os : List Options} {method : String} {hs : Bindings String}
    (hmethod : methodOf (Options.merge os).method = .ok method)
    (hheaders : headersOf (Options.merge os).headers = .ok hs) (base : String)
    (params : List Parameter) :
    request base ⟨params, os⟩ = .error (.request .address) ∨
      ∃ url, request base ⟨params, os⟩ = .ok ⟨method, url, hs⟩ := by
  simp only [request, Compiled.mergedOptions, hmethod, hheaders, bind, Except.bind]
  split
  · next url hurl =>
    by_cases hsend : (url.withPairs (pairsOf (Options.merge os) params)).isSendable = true
    · exact .inr ⟨_, if_pos hsend⟩
    · exact .inl (if_neg hsend)
  · exact .inl rfl

/-- **Which value of a header is sent**, for options objects whose method and headers are accepted:
the last value of the newest spelling of its name.  So if the last object that mentions the name
does so once, its value is sent, unless it returns to a spelling that is not the newest one of the
objects before it: then the value is what they make of it. -/
theorem request_header_decided (base : String) (params : List Parameter) (os : List Options)
    (hmethod : (methodOf (Options.merge os).method).isOk = true)
    (hheaders : (headersOf (Options.merge os).headers).isOk = true) :
    request base ⟨params, os⟩ = .error (.request .address) ∨
      ∃ r, request base ⟨params, os⟩ = .ok r ∧ ∀ name,
        r.headers.get? (lowerAscii name) = decided? (mentions name os) ∧
        ∀ before o after x v, os = before ++ o :: after → mentions name after = [] →
          mentions name [o] = [(x, v)] →
          r.headers.get? (lowerAscii name) =
            if x ∈ (mentions name before).map Prod.fst ∧
                newestSpelling? (mentions name before) ≠ some x then
              decided? (mentions name before)
            else some v := by
  cases hm : methodOf (Options.merge os).method with
  | error err =>
    rw [hm] at hmethod
    contradiction
  | ok method =>
    cases hh : headersOf (Options.merge os).headers with
    | error err =>
      rw [hh] at hheaders
      contradiction
    | ok hs =>
      have hmerged : headersOf (.ofList (os.flatMap fun o => o.headers.entries)) = .ok hs := by
        rw [← Options.headers_merge, hh]
      have hvalue : ∀ name, hs.get? (lowerAscii name) = decided? (mentions name os) :=
        get?_headersOf_ofList hmerged
      refine (request_of_accepted hm hh base params).imp_right ?_
      rintro ⟨url, hurl⟩
      refine ⟨_, hurl, fun name => ⟨hvalue name, ?_⟩⟩
      rintro before o after x v rfl hafter hlast
      rw [hvalue name, ← List.singleton_append, mentions_append, mentions_append, hafter, hlast,
        List.append_nil, decided?_concat]

/-- The last object that mentions the header returns to the newest spelling, and decides. -/
theorem request_header_decided_newest :
    ∃ r, request "http://host.test/odata"
        ⟨[], [Options.empty.withHeader "X-A" "1", Options.empty.withHeader "x-a" "2",
          Options.empty.withHeader "X-A" "3", Options.empty.withHeader "x-a" "4",
          Options.empty.withHeader "X-B" "5"]⟩ = .ok r ∧
      r.headers.get? "x-a" = some "4" := by
  rcases request_header_decided "http://host.test/odata" []
      [Options.empty.withHeader "X-A" "1", Options.empty.withHeader "x-a" "2",
        Options.empty.withHeader "X-A" "3", Options.empty.withHeader "x-a" "4",
        Options.empty.withHeader "X-B" "5"] (by decide) (by decide) with herror | ⟨r, hr, h⟩
  · contradiction
  · refine ⟨r, hr, ?_⟩
    exact (h "x-a").2 [Options.empty.withHeader "X-A" "1", Options.empty.withHeader "x-a" "2",
      Options.empty.withHeader "X-A" "3"] _ _ "x-a" "4" rfl rfl rfl

/-- Three objects with one header: the last one returns to the spelling of the first, and the value
of the second is sent. -/
theorem request_header_older_spelling :
    ∃ r, request "http://host.test/odata"
        ⟨[], [Options.empty.withHeader "X-A" "1", Options.empty.withHeader "x-a" "2",
          Options.empty.withHeader "X-A" "3"]⟩ = .ok r ∧
      mentions "x-a" [Options.empty.withHeader "X-A" "3"] = [("X-A", "3")] ∧
      r.headers.get? "x-a" = some "2" :=
  ⟨_, rfl, rfl, rfl⟩

end Http

end LambdaQuery
