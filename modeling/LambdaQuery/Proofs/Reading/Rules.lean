import LambdaQuery.Proofs.Scan

/-!
# Readings and their runs

A reading says how a text is read: piece after piece, by alternatives in a fixed order, and by
pieces that are optional or repeated.  Productions are readings with names, and a reading calls them
by their names, also from within themselves.  The rules of a run have no bound on the calls or on
the repetitions, so a reading that went on forever would have no run at all.

## Main definitions

* `LambdaQuery.Lexeme` — a kind of text that is read without a call.
* `LambdaQuery.Reading` — how a text is read.
* `LambdaQuery.Runs` — a reading comes to an end on a text.
* `LambdaQuery.Reading.Descends` — the productions take a character before they come back to
  themselves.

## Main results

* `LambdaQuery.Runs.unique` — a run ends in one way.
* `LambdaQuery.Runs.length_lt` — a piece that consumes leaves a shorter text.
* `LambdaQuery.Reading.Descends.runs_call` — every production comes to an end on every text.

## Design

Whether a reading consumes and which productions it can call before it has taken a character are
read off its form.  Productions get ranks.  A call that comes before the first character goes to a
production of a smaller rank, and every other call has a shorter text, so the length of the text and
the rank together descend.
-/

set_option autoImplicit false

namespace LambdaQuery

/-- A kind of text that is read without a call. -/
structure Lexeme where
  /-- What remains of a text that starts with one. -/
  read : List Char → Option (List Char)
  /-- It is known to be not empty. -/
  consumes : Bool
  /-- What remains is the end of the text. -/
  isSuffix : ∀ s t, read s = some t → t <:+ s
  /-- At least one character is taken if it is known to be not empty. -/
  length_lt : consumes = true → ∀ s t, read s = some t → t.length < s.length

/-- How a text is read.  The productions have names in `ν`. -/
inductive Reading (ν : Type) where
  /-- A text of a kind. -/
  | lexeme (l : Lexeme)
  /-- A production. -/
  | call (n : ν)
  /-- One piece and then another one. -/
  | seq (first second : Reading ν)
  /-- The second alternative is tried only if the first one fails. -/
  | choice (first second : Reading ν)
  /-- A piece that may be missing. -/
  | option (piece : Reading ν)
  /-- As many pieces as there are. -/
  | many (piece : Reading ν)

variable {ν : Type}

instance : Append (Reading ν) := ⟨.seq⟩

instance : OrElse (Reading ν) := ⟨fun p q => .choice p (q ())⟩

/-- The reading comes to an end on the text: it fails, or it leaves the rest of the text.  An
alternative, an optional piece or a repeated one that fails leaves the text as it was. -/
inductive Runs (g : ν → Reading ν) : Reading ν → List Char → Option (List Char) → Prop where
  /-- A lexeme is read at once. -/
  | lexeme {l : Lexeme} {s : List Char} : Runs g (.lexeme l) s (l.read s)
  /-- A production runs as its reading does. -/
  | call {n : ν} {s : List Char} {o : Option (List Char)} : Runs g (g n) s o → Runs g (.call n) s o
  /-- The first piece fails. -/
  | seqFails {p q : Reading ν} {s : List Char} : Runs g p s none → Runs g (.seq p q) s none
  /-- The second piece is read behind the first one. -/
  | seq {p q : Reading ν} {s t : List Char} {o : Option (List Char)} :
      Runs g p s (some t) → Runs g q t o → Runs g (.seq p q) s o
  /-- The first alternative is read. -/
  | first {p q : Reading ν} {s t : List Char} :
      Runs g p s (some t) → Runs g (.choice p q) s (some t)
  /-- The first alternative fails, and the second one is tried. -/
  | second {p q : Reading ν} {s : List Char} {o : Option (List Char)} :
      Runs g p s none → Runs g q s o → Runs g (.choice p q) s o
  /-- The optional piece is there. -/
  | present {p : Reading ν} {s t : List Char} :
      Runs g p s (some t) → Runs g (.option p) s (some t)
  /-- The optional piece is missing. -/
  | absent {p : Reading ν} {s : List Char} : Runs g p s none → Runs g (.option p) s (some s)
  /-- No further piece is there. -/
  | stop {p : Reading ν} {s : List Char} : Runs g p s none → Runs g (.many p) s (some s)
  /-- A piece is read, and the repetition goes on behind it. -/
  | again {p : Reading ν} {s t : List Char} {o : Option (List Char)} :
      Runs g p s (some t) → Runs g (.many p) t o → Runs g (.many p) s o

namespace Runs

variable {g : ν → Reading ν} {p : Reading ν} {s : List Char} {o : Option (List Char)}

/-- **A run ends in one way.** -/
lemma unique {o' : Option (List Char)} (h : Runs g p s o) (h' : Runs g p s o') : o = o' := by
  induction h generalizing o' with
  | lexeme =>
    cases h'
    rfl
  | call _ ih =>
    cases h' with
    | call h' => exact ih h'
  | seqFails _ ih =>
    cases h' with
    | seqFails _ => rfl
    | seq h' _ => cases ih h'
  | seq _ _ ih ih' =>
    cases h' with
    | seqFails h' => cases ih h'
    | seq h' h'' =>
      cases ih h'
      exact ih' h''
  | first _ ih =>
    cases h' with
    | first h' => exact ih h'
    | second h' _ => cases ih h'
  | second _ _ ih ih' =>
    cases h' with
    | first h' => cases ih h'
    | second _ h' => exact ih' h'
  | present _ ih =>
    cases h' with
    | present h' => exact ih h'
    | absent h' => cases ih h'
  | absent _ ih =>
    cases h' with
    | present h' => cases ih h'
    | absent _ => rfl
  | stop _ ih =>
    cases h' with
    | stop _ => rfl
    | again h' _ => cases ih h'
  | again _ _ ih ih' =>
    cases h' with
    | stop h' => cases ih h'
    | again h' h'' =>
      cases ih h'
      exact ih' h''

/-- What a reading leaves is the end of the text. -/
lemma isSuffix (h : Runs g p s o) : ∀ t ∈ o, t <:+ s := by
  induction h with
  | @lexeme l s => exact l.isSuffix s
  | call _ ih => exact ih
  | seqFails _ _ => simp
  | seq _ _ ih ih' => exact fun u hu => (ih' u hu).trans (ih _ rfl)
  | first _ ih => exact ih
  | second _ _ _ ih' => exact ih'
  | present _ ih => exact ih
  | absent _ _ => simp
  | stop _ _ => simp
  | again _ _ ih ih' => exact fun u hu => (ih' u hu).trans (ih _ rfl)

/-- Two pieces run one after the other. -/
lemma seq_bind {q : Reading ν} {f : List Char → Option (List Char)} (h : Runs g p s o)
    (h' : ∀ t ∈ o, Runs g q t (f t)) : Runs g (.seq p q) s (o.bind f) := by
  cases o with
  | none => exact .seqFails h
  | some t => exact .seq h (h' t rfl)

/-- The second of two alternatives runs if the first one fails. -/
lemma choice_or {q : Reading ν} {o' : Option (List Char)} (h : Runs g p s o) (h' : Runs g q s o') :
    Runs g (.choice p q) s (o.or o') := by
  cases o with
  | none => exact .second h h'
  | some t => exact .first h

/-- An optional piece leaves the text as it was if it fails. -/
lemma option_getD (h : Runs g p s o) : Runs g (.option p) s (some (o.getD s)) := by
  cases o with
  | none => exact .absent h
  | some t => exact .present h

/-- The second of two pieces runs from the place where the first one ends. -/
lemma seq_iff {q : Reading ν} {t : List Char} (h : Runs g p s (some t)) :
    Runs g (.seq p q) s o ↔ Runs g q t o := by
  constructor
  · intro hseq
    cases hseq with
    | seqFails h' => cases h'.unique h
    | seq h' hnext =>
      cases h'.unique h
      exact hnext
  · exact .seq h

end Runs

namespace Reading

/-! ## What the form of a reading tells -/

/-- The reading takes a character whenever it succeeds, if all productions do. -/
def consumes : Reading ν → Bool
  | .lexeme l => l.consumes
  | .call _ => true
  | .seq p q => p.consumes || q.consumes
  | .choice p q => p.consumes && q.consumes
  | .option _ => false
  | .many _ => false

/-- The productions that can be called before a character is taken. -/
def heads : Reading ν → List ν
  | .lexeme _ => []
  | .call n => [n]
  | .seq p q => p.heads ++ if p.consumes then [] else q.heads
  | .choice p q => p.heads ++ q.heads
  | .option p => p.heads
  | .many p => p.heads

/-- The pieces that are repeated in the reading. -/
def repeated : Reading ν → List (Reading ν)
  | .lexeme _ => []
  | .call _ => []
  | .seq p q => p.repeated ++ q.repeated
  | .choice p q => p.repeated ++ q.repeated
  | .option p => p.repeated
  | .many p => p :: p.repeated

/-- The pieces that are optional in the reading. -/
def optional : Reading ν → List (Reading ν)
  | .lexeme _ => []
  | .call _ => []
  | .seq p q => p.optional ++ q.optional
  | .choice p q => p.optional ++ q.optional
  | .option p => p :: p.optional
  | .many p => p.optional

/-- The productions take a character before they come back to themselves, and so do the pieces that
they repeat before the next one. -/
structure Descends (g : ν → Reading ν) (rank : ν → Nat) : Prop where
  /-- Every production takes a character. -/
  consumes (n : ν) : (g n).consumes = true
  /-- Every piece that is repeated takes a character. -/
  consumes_repeated (n : ν) : ∀ p ∈ (g n).repeated, p.consumes = true
  /-- A production that is called before a character is taken has a smaller rank. -/
  rank_lt (n : ν) : ∀ m ∈ (g n).heads, rank m < rank n

/-- What a reading leaves of a text if `call` says so of the productions. -/
def rest? (call : ν → List Char → Option (List Char)) : Reading ν → List Char → Option (List Char)
  | .lexeme l, s => l.read s
  | .call n, s => call n s
  | .seq p q, s => (p.rest? call s).bind (q.rest? call)
  | .choice p q, s => (p.rest? call s).or (q.rest? call s)
  | .option p, s => some ((p.rest? call s).getD s)
  | .many p, s => some (Scan.many (fun t => (p.rest? call t).map (Prod.mk ())) s).2

end Reading

section Descends

variable {g : ν → Reading ν} {rank : ν → Nat}

/-- **A piece that consumes leaves a shorter text.** -/
lemma Runs.length_lt (hg : ∀ n, (g n).consumes = true) {p : Reading ν} {s : List Char}
    {o : Option (List Char)} (h : Runs g p s o) (hp : p.consumes = true) :
    ∀ t ∈ o, t.length < s.length := by
  induction h with
  | @lexeme l s => exact l.length_lt hp s
  | @call n _ _ _ ih => exact ih (hg n)
  | seqFails _ _ => simp
  | seq h h' ih ih' =>
    intro u hu
    have hle := (h.isSuffix _ rfl).length_le
    have hle' := (h'.isSuffix u hu).length_le
    simp only [Reading.consumes, Bool.or_eq_true] at hp
    rcases hp with hp | hp
    · have := ih hp _ rfl
      omega
    · have := ih' hp u hu
      omega
  | first _ ih =>
    simp only [Reading.consumes, Bool.and_eq_true] at hp
    exact ih hp.1
  | second _ _ _ ih' =>
    simp only [Reading.consumes, Bool.and_eq_true] at hp
    exact ih' hp.2
  | present _ _ | absent _ _ | stop _ _ | again _ _ _ _ => simp [Reading.consumes] at hp

variable {call : ν → List Char → Option (List Char)}

/-- A repetition runs up to where its piece fails, if the piece runs at the ends of the text.

**Proof sketch.** Induction on the budget of the repetition.  A piece takes a character, so the
budget is used up only where the text is, and there the piece fails. -/
lemma Reading.runs_manyWithin (hg : ∀ n, (g n).consumes = true) {p : Reading ν}
    (hp : p.consumes = true) (budget : List Char) {s : List Char}
    (hs : s.length ≤ budget.length)
    (hruns : ∀ t, t <:+ s → Runs g p t (p.rest? call t)) :
    Runs g (.many p) s
      (some (Scan.manyWithin (fun t => (p.rest? call t).map (Prod.mk ())) budget s).2) := by
  induction budget generalizing s with
  | nil =>
    have hrun := hruns s List.suffix_rfl
    cases hrest : p.rest? call s with
    | none =>
      rw [hrest] at hrun
      exact .stop hrun
    | some t =>
      have := hrun.length_lt hg hp t hrest
      simp only [List.length_nil] at hs
      omega
  | cons c budget ih =>
    have hrun := hruns s List.suffix_rfl
    simp only [Scan.manyWithin]
    cases hrest : p.rest? call s with
    | none =>
      rw [hrest] at hrun
      exact .stop hrun
    | some t =>
      have hlt := hrun.length_lt hg hp t hrest
      have hsuffix := hrun.isSuffix t hrest
      rw [hrest] at hrun
      simp only [List.length_cons] at hs
      exact .again hrun (ih (by omega) fun u hu => hruns u (hu.trans hsuffix))

/-- A reading runs on a text if the productions run on shorter texts, and those that it calls before
a character is taken also on the text itself.

**Proof sketch.** Induction on the reading.  A second piece starts where the first one ends: on a
shorter text, or on the same one if the first piece does not consume. -/
lemma Reading.runs_of_calls (hg : ∀ n, (g n).consumes = true) {p : Reading ν}
    (hrepeated : ∀ q ∈ p.repeated, q.consumes = true) {s : List Char}
    (hshorter : ∀ m t, t.length < s.length → Runs g (.call m) t (call m t))
    (hheads : ∀ m ∈ p.heads, Runs g (.call m) s (call m s)) :
    Runs g p s (p.rest? call s) := by
  induction p generalizing s with
  | lexeme l => exact .lexeme
  | call n => exact hheads n (by simp [heads])
  | seq p q ihp ihq =>
    simp only [repeated, List.mem_append, or_imp, forall_and] at hrepeated
    simp only [heads, List.mem_append, or_imp, forall_and] at hheads
    have hrun := ihp hrepeated.1 hshorter hheads.1
    refine hrun.seq_bind fun t ht => ?_
    have hsuffix := hrun.isSuffix t ht
    rcases hsuffix.length_le.lt_or_eq with hlt | heq
    · exact ihq hrepeated.2 (fun m u hu => hshorter m u (hu.trans hlt))
        fun m _ => hshorter m t hlt
    · have hconsumes : p.consumes = false := by
        by_contra hc
        have := hrun.length_lt hg (by simpa using hc) t ht
        omega
      rw [hconsumes] at hheads
      rw [hsuffix.eq_of_length heq]
      exact ihq hrepeated.2 hshorter hheads.2
  | choice p q ihp ihq =>
    simp only [repeated, List.mem_append, or_imp, forall_and] at hrepeated
    simp only [heads, List.mem_append, or_imp, forall_and] at hheads
    exact (ihp hrepeated.1 hshorter hheads.1).choice_or (ihq hrepeated.2 hshorter hheads.2)
  | option p ih => exact (ih hrepeated hshorter hheads).option_getD
  | many p ih =>
    simp only [repeated, List.mem_cons, forall_eq_or_imp] at hrepeated
    refine runs_manyWithin hg hrepeated.1 s le_rfl fun t ht => ?_
    rcases ht.length_le.lt_or_eq with hlt | heq
    · exact ih hrepeated.2 (fun m u hu => hshorter m u (hu.trans hlt)) fun m _ => hshorter m t hlt
    · rw [ht.eq_of_length heq]
      exact ih hrepeated.2 hshorter hheads

/-- **Every production comes to an end on every text**, with what is left by functions that satisfy
the equations of the productions.

**Proof sketch.** The calls of a production have a shorter text, or the same text and a production
of a smaller rank. -/
lemma Reading.Descends.runs_call (hg : Descends g rank)
    (hcall : ∀ n s, call n s = (g n).rest? call s) (n : ν) (s : List Char) :
    Runs g (.call n) s (call n s) := by
  rw [hcall]
  exact .call <| runs_of_calls hg.consumes (hg.consumes_repeated n)
    (fun m t _ => runs_call hg hcall m t)
    fun m hm => have := hg.rank_lt n m hm; runs_call hg hcall m s
termination_by (s.length, rank n)

end Descends

end LambdaQuery
