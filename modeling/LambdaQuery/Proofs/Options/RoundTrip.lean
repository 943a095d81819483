import LambdaQuery.Options.Json
import LambdaQuery.Proofs.Bindings
import LambdaQuery.Proofs.Json.Compact
import LambdaQuery.Proofs.Outcome

/-!
# Options are read back

An options object is written with the fields that are set and read with a default for each of the
others.  Reading the text of an options object gives that object, its headers in their order.

## Main definitions

* `LambdaQuery.Options.membersOf` — the members of an object, from fields that may be unset.
* `LambdaQuery.Options.fields` — the fields of an options object.

## Main results

* `LambdaQuery.Options.uniqueField?_membersOf` — a field is found among fields with distinct names.
* `LambdaQuery.Options.toJson_eq` — an options object is written as its fields that are set.
* `LambdaQuery.Options.read_text` — the text of an options object is read as that object.
-/

set_option autoImplicit false

namespace LambdaQuery.Options

open Json (memberTrees memberTrees_eq_map trees_eq_map)

/-! ## Fields of an object -/

section Fields

variable {fields : List (String × Option Json)} {name : String} {v : Option Json}

/-- The members of an object, from fields that may be unset. -/
def membersOf (fields : List (String × Option Json)) : List (String × Json) :=
  fields.flatMap fun f => optionalField f.1 id f.2

/-- A member is a field that is set. -/
lemma mem_fields_of_mem_membersOf {m : String × Json} (h : m ∈ membersOf fields) :
    (m.1, some m.2) ∈ fields := by
  obtain ⟨⟨n, w⟩, hf, hm⟩ := List.mem_flatMap.1 h
  cases w with
  | none => exact absurd hm List.not_mem_nil
  | some j =>
    obtain rfl := List.mem_singleton.1 hm
    exact hf

/-- The members with the name of a field are its value, if it is set.

**Proof sketch.** Induction on the fields; the names of the others are different. -/
lemma filter_membersOf (hnodup : (fields.map Prod.fst).Nodup) (h : (name, v) ∈ fields) :
    (membersOf fields).filter (·.1 == name) = optionalField name id v := by
  induction fields with
  | nil => exact absurd h List.not_mem_nil
  | cons f fields ih =>
    rw [List.map_cons, List.nodup_cons] at hnodup
    have hsplit : membersOf (f :: fields) = optionalField f.1 id f.2 ++ membersOf fields := rfl
    rw [hsplit, List.filter_append]
    rcases List.mem_cons.1 h with rfl | h
    · have hothers : (membersOf fields).filter (·.1 == name) = [] := by
        refine List.filter_eq_nil_iff.2 fun m hm hname => hnodup.1 ?_
        rw [← beq_iff_eq.1 hname]
        exact List.mem_map.2 ⟨_, mem_fields_of_mem_membersOf hm, rfl⟩
      rw [hothers]
      cases v <;> simp [optionalField]
    · have hne : f.1 ≠ name := by
        rintro rfl
        exact hnodup.1 (List.mem_map.2 ⟨_, h, rfl⟩)
      rw [ih hnodup.2 h]
      cases f.2 <;> simp [optionalField, hne]

/-- **Fields are found**: among fields with distinct names each one has its value, or none. -/
lemma uniqueField?_membersOf (hnodup : (fields.map Prod.fst).Nodup) (h : (name, v) ∈ fields) :
    uniqueField? name (memberTrees (membersOf fields)) = some (v.map Json.tree) := by
  have hfilter : (memberTrees (membersOf fields)).filter (·.1 == some name) =
      (optionalField name id v).map fun m => (some m.1, m.2.tree) := by
    rw [← filter_membersOf hnodup h, memberTrees_eq_map, List.filter_map]
    congr 1
  rw [uniqueField?, hfilter]
  cases v <;> rfl

/-- No number in an object has decimals if there are none in its fields. -/
lemma membersWhole_membersOf (h : ∀ f ∈ fields, ∀ j ∈ f.2, j.isWhole = true) :
    Json.membersWhole (membersOf fields) = true :=
  Json.membersWhole_iff.2 fun m hm => h _ (mem_fields_of_mem_membersOf hm) m.2 rfl

end Fields

/-- The members of an object that was written have names that stand for a text. -/
lemma haveNames_memberTrees (members : List (String × Json)) :
    haveNames (memberTrees members) = true := by
  simp [haveNames, memberTrees_eq_map]

/-! ## Parameters and headers -/

/-- A parameter is read back. -/
lemma parameter?_tree (p : Parameter) : parameter? p.toJson.tree = some p := by
  have hnodup : ["key", "value"].Nodup := by decide
  let fields : List (String × Option Json) :=
    [("key", some (.string p.key)), ("value", some (.string p.value))]
  have hkey : uniqueField? "key" (memberTrees (membersOf fields)) = _ :=
    uniqueField?_membersOf hnodup (.head _)
  have hvalue : uniqueField? "value" (memberTrees (membersOf fields)) = _ :=
    uniqueField?_membersOf hnodup (.tail _ (.head _))
  have htree : p.toJson.tree = .object (memberTrees (membersOf fields)) := rfl
  rw [htree]
  simp [parameter?, haveNames_memberTrees, hkey, hvalue, Json.tree, string?]

/-- Parameters are read back. -/
lemma parameters?_tree (ps : List Parameter) :
    parameters? (Json.array (ps.map Parameter.toJson)).tree = some ps := by
  rw [Json.tree, parameters?, trees_eq_map, List.map_map]
  exact mapM_map_eq_some parameter?_tree ps

/-- Headers are read back, in their order. -/
lemma headers?_tree (b : Bindings String) :
    headers? (Json.object (b.entries.map (Prod.map id .string))).tree = some b := by
  have hheader : ∀ e : String × String, header? (some e.1, (Json.string e.2).tree) = some e :=
    fun _ => rfl
  have hread := mapM_map_eq_some hheader b.entries
  rw [Json.tree, headers?, memberTrees_eq_map, List.map_map]
  simp only [Function.comp_def, Prod.map, id_eq, hread, Option.map_some, Bindings.ofList_entries]

/-- A number of 64 bits is read back. -/
lemma word?_tree (n : UInt64) : word? (Json.number (.whole n.toNat)).tree = some n := by
  have hlt : n.toNat < Nat.pow 2 64 := n.toNat_lt
  have hsign : decide ((n.toNat : Int) < 0) = false := by simp
  rw [Json.tree, Json.Number.tree, hsign, Int.natAbs_natCast]
  simp [word?, Text.numberOfDigits_natural, hlt]

/-! ## Settings -/

/-- The value of a setting is not `null` if it can be read. -/
lemma setting?_eq {α : Type} {read? : Json.Raw → Option α} {v : Json.Raw} {a : α}
    (hnull : read? .null = none) (h : read? v = some a) : setting? read? v = some (some a) := by
  cases v with
  | null => rw [hnull] at h; contradiction
  | bool _ | number _ | string _ | array _ | object _ => simp [setting?, h]

/-- A setting is read back, set or not. -/
lemma fieldOr?_setting? {α : Type} {read? : Json.Raw → Option α} {write : α → Json}
    (hnull : read? .null = none) (h : ∀ a, read? (write a).tree = some a) (a : Option α) :
    fieldOr? none (setting? read?) ((a.map write).map Json.tree) = some a := by
  cases a with
  | none => rfl
  | some a => exact setting?_eq hnull (h a)

/-- A field that is left out where it has its default is read back. -/
lemma fieldOr?_ite {α : Type} {read? : Json.Raw → Option α} {default a : α} {j : Json}
    {isDefault : Bool} (hdefault : isDefault = true → a = default) (h : read? j.tree = some a) :
    fieldOr? default read? ((if isDefault then none else some j).map Json.tree) = some a := by
  cases isDefault with
  | true => rw [hdefault rfl]; rfl
  | false => exact h

/-! ## Options objects -/

/-- The fields of an options object. -/
def fields (o : Options) : List (String × Option Json) :=
  [("url", o.url.map .string),
    ("method", o.method.map .string),
    ("headers", if o.headers.isEmpty then none
      else some (.object (o.headers.entries.map (Prod.map id .string)))),
    ("params", if o.params.isEmpty then none else some (.array (o.params.map Parameter.toJson))),
    ("timeoutMs", o.timeoutMs.map fun n => .number (.whole n.toNat)),
    ("pascalize", o.pascalize.map .bool)]

/-- **An options object is written as its fields that are set**. -/
lemma toJson_eq (o : Options) : o.toJson = .object (membersOf o.fields) := by
  have hmap : ∀ {α : Type} (name : String) (toJson : α → Json) (a : Option α),
      optionalField name id (a.map toJson) = optionalField name toJson a := by
    intro α name toJson a
    cases a <;> rfl
  have hite : ∀ (name : String) (unset : Bool) (j : Json),
      optionalField name id (if unset then none else some j) =
        if unset then [] else [(name, j)] := by
    intro name unset j
    cases unset <;> rfl
  simp only [toJson, membersOf, fields, List.flatMap_cons, List.flatMap_nil, hmap, hite,
    List.append_nil, List.append_assoc]

/-- No number in an options object has decimals. -/
lemma isWhole_toJson (o : Options) : o.toJson.isWhole = true := by
  have hmap : ∀ {α : Type} {toJson : α → Json} {a : Option α}, (∀ a, (toJson a).isWhole = true) →
      ∀ j ∈ a.map toJson, j.isWhole = true := by
    intro α toJson a h j hj
    obtain ⟨b, -, rfl⟩ := Option.map_eq_some_iff.1 hj
    exact h b
  have hheaders : (Json.object (o.headers.entries.map (Prod.map id .string))).isWhole = true := by
    refine Json.membersWhole_iff.2 fun m hm => ?_
    obtain ⟨e, -, rfl⟩ := List.mem_map.1 hm
    rfl
  have hparams : (Json.array (o.params.map Parameter.toJson)).isWhole = true := by
    refine Json.allWhole_iff.2 fun j hj => ?_
    obtain ⟨p, -, rfl⟩ := List.mem_map.1 hj
    rfl
  rw [toJson_eq]
  refine membersWhole_membersOf fun f hf => ?_
  simp only [fields, List.mem_cons, List.not_mem_nil, or_false] at hf
  rcases hf with rfl | rfl | rfl | rfl | rfl | rfl
  · exact hmap fun _ => rfl
  · exact hmap fun _ => rfl
  · intro j hj
    split at hj
    · contradiction
    · exact Option.some.inj hj ▸ hheaders
  · intro j hj
    split at hj
    · contradiction
    · exact Option.some.inj hj ▸ hparams
  · exact hmap fun _ => rfl
  · exact hmap fun _ => rfl

/-- The fields of an options object are read back, those that are left out as their defaults. -/
lemma ofFields?_eq (o : Options) :
    ofFields? ((o.url.map .string).map Json.tree) ((o.method.map .string).map Json.tree)
      ((if o.headers.isEmpty then none
        else some (.object (o.headers.entries.map (Prod.map id .string)))).map Json.tree)
      ((if o.params.isEmpty then none
        else some (.array (o.params.map Parameter.toJson))).map Json.tree)
      ((o.timeoutMs.map fun n => .number (.whole n.toNat)).map Json.tree)
      ((o.pascalize.map .bool).map Json.tree) = some o := by
  have hheaders : o.headers.isEmpty = true → o.headers = .empty := by
    intro h
    have hentries : o.headers.entries = [] := List.isEmpty_iff.1 h
    rw [← Bindings.ofList_entries o.headers, hentries]
    rfl
  rw [ofFields?, fieldOr?_setting? rfl (fun _ => rfl), fieldOr?_setting? rfl (fun _ => rfl),
    fieldOr?_ite hheaders (headers?_tree o.headers),
    fieldOr?_ite (fun h => List.isEmpty_iff.1 h) (parameters?_tree o.params),
    fieldOr?_setting? rfl word?_tree, fieldOr?_setting? rfl (fun _ => rfl)]
  rfl

/-- **The tree of an options object** is read as that object: each field is found among the members
or is missing. -/
lemma ofRaw?_tree (o : Options) : ofRaw? o.toJson.tree = some o := by
  have hnodup : ["url", "method", "headers", "params", "timeoutMs", "pascalize"].Nodup := by decide
  have hfield : ∀ {name v}, (name, v) ∈ o.fields →
      uniqueField? name (memberTrees (membersOf o.fields)) = some (v.map Json.tree) :=
    uniqueField?_membersOf hnodup
  rw [toJson_eq, Json.tree, ofRaw?, if_pos (haveNames_memberTrees _)]
  rw [hfield (.head _), hfield (.tail _ (.head _)), hfield (.tail _ (.tail _ (.head _))),
    hfield (.tail _ (.tail _ (.tail _ (.head _)))),
    hfield (.tail _ (.tail _ (.tail _ (.tail _ (.head _))))),
    hfield (.tail _ (.tail _ (.tail _ (.tail _ (.tail _ (.head _))))))]
  exact ofFields?_eq o

/-- **Options survive JSON**: the text of an options object is read as that object, whatever its
texts hold and whatever is unset, with the headers in their order. -/
theorem read_text (o : Options) : read? o.text = some o := by
  rw [read?, text, String.toList_ofList, Json.read?_compact (isWhole_toJson o)]
  exact ofRaw?_tree o

end LambdaQuery.Options
