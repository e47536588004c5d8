import Conform.Proofs.Schema.Definedness
import Conform.Standard.Basic

/-!
# Objects entry by entry

An object is rebuilt by taking its entries out one at a time: first those of the declared
properties, then the others.  Taking an entry out moves the last one into its place, so that what
is left gets out of order.  The new object does not: this file shows that the loop gives the object
that the run gives, with the entries in order of declaration and then in their old order.
-/

namespace Conform

open Visit

/-- An object on the way to a new one: the entries that are still in the old object, those that are
in the new one, and the issues so far. -/
structure Rebuild where
  left : Fields Json
  output : Fields Json
  issues : List Issue

namespace Rebuild

/-- Takes the entry of a name out, puts what became of it under the name, if that is a value, and
adds the issues that came up. -/
def take (r : Rebuild) (name : String) (became : Option Json × List Issue) : Rebuild :=
  { left := r.left.swapRemove name
    output := match became.1 with
      | some x => r.output.insert name x
      | none => r.output
    issues := r.issues ++ became.2 }

/-- What becomes of the entry of a declared property, which may be missing: the property is
validated. -/
def declared (v : Visit) (p : String × Schema) (entry : Option Json) : Option Json × List Issue :=
  let w := p.2.run (v.descend (.key p.1) entry)
  (w.value, w.issues)

/-- What becomes of an entry that is not declared: it stays, and a strict object refuses it. -/
def undeclared (v : Visit) (refuses : Bool) (name : String) (entry : Option Json) :
    Option Json × List Issue :=
  (entry, if refuses then [v.unexpectedProperty name] else [])

/-! ### Loops over names -/

section

variable {α : Type} {key : α → String} {as : List α} {r : Rebuild}

/-- A loop that takes an entry out for each of some keys, and makes something of it. -/
def takeEach (key : α → String) (became : α → Option Json → Option Json × List Issue)
    (as : List α) (r : Rebuild) : Rebuild :=
  as.foldl (fun r a => r.take (key a) (became a (r.left.get? (key a)))) r

/-- A loop over distinct names finds every entry as it was in the beginning, wherever the entries
have moved since. -/
theorem takeEach_eq (key : α → String) (became : α → Option Json → Option Json × List Issue)
    (fields : Fields Json) (left : (r.left.map Prod.fst).Nodup) (keys : (as.map key).Nodup)
    (same : ∀ a ∈ as, r.left.get? (key a) = fields.get? (key a)) :
    takeEach key became as r =
      as.foldl (fun r a => r.take (key a) (became a (fields.get? (key a)))) r := by
  induction as generalizing r with
  | nil => rfl
  | cons a rest ih =>
      simp only [List.map_cons, List.nodup_cons] at keys
      rw [List.forall_mem_cons] at same
      have hrest (b : α) (hb : b ∈ rest) :
          (r.left.swapRemove (key a)).get? (key b) = fields.get? (key b) := by
        have hne : key b ≠ key a := by
          intro heq
          exact keys.1 (List.mem_map.mpr ⟨b, hb, heq⟩)
        rw [Fields.get?_swapRemove left, if_neg hne]
        exact same.2 b hb
      rw [takeEach, List.foldl_cons, List.foldl_cons, same.1]
      exact ih (Fields.nodup_swapRemove left (key a)) keys.2 hrest

variable (became : α → Option Json × List Issue)

theorem left_foldl : (as.foldl (fun r a => r.take (key a) (became a)) r).left =
    (as.map key).foldl Fields.swapRemove r.left := by
  induction as generalizing r with
  | nil => rfl
  | cons a rest ih => exact ih

theorem issues_foldl : (as.foldl (fun r a => r.take (key a) (became a)) r).issues =
    r.issues ++ as.flatMap fun a => (became a).2 := by
  induction as generalizing r with
  | nil => simp
  | cons a rest ih =>
      rw [List.foldl_cons, ih, List.flatMap_cons, ← List.append_assoc]
      rfl

theorem output_take {name : String} (fresh : name ∉ r.output.map Prod.fst)
    (became : Option Json × List Issue) :
    (r.take name became).output = r.output ++ (became.1.map fun x => (name, x)).toList := by
  obtain ⟨value, issues⟩ := became
  cases value with
  | none => exact (List.append_nil r.output).symm
  | some x => exact Fields.insert_of_absent fresh x

/-- The new entries come in the order of the loop. -/
theorem output_foldl (keys : (as.map key).Nodup)
    (fresh : ∀ a ∈ as, key a ∉ r.output.map Prod.fst) :
    (as.foldl (fun r a => r.take (key a) (became a)) r).output =
      r.output ++ as.filterMap fun a => (became a).1.map fun x => (key a, x) := by
  induction as generalizing r with
  | nil => simp
  | cons a rest ih =>
      simp only [List.map_cons, List.nodup_cons] at keys
      rw [List.forall_mem_cons] at fresh
      have houtput := output_take fresh.1 (became a)
      have hfresh (b : α) (hb : b ∈ rest) :
          key b ∉ (r.take (key a) (became a)).output.map Prod.fst := by
        rw [houtput, List.map_append, List.mem_append, not_or]
        refine ⟨fresh.2 b hb, ?_⟩
        intro hmem
        have heq : key b = key a := by
          cases hvalue : (became a).1 with
          | none => simp [hvalue] at hmem
          | some x => simpa [hvalue] using hmem
        exact keys.1 (List.mem_map.mpr ⟨b, hb, heq⟩)
      rw [List.foldl_cons, ih keys.2 hfresh, houtput, List.filterMap_cons]
      cases (became a).1 with
      | none => simp
      | some x => simp

end

end Rebuild

namespace Schema

variable {s : Schema} {v u : Visit} {fields : Fields Json}

/-- The names in an object that are not declared, in order. -/
def otherNames (s : Schema) (fields : Fields Json) : List String :=
  (fields.map Prod.fst).filter fun name => (s.property? name).isNone

/-- Whether an object refuses what it does not declare. -/
def refuses (s : Schema) : Bool :=
  s.node.strict && !s.options.isConditional

/-- Rebuilds an object entry by entry: the declared properties in order, and then the entries that
are not declared, in the order that they had in the beginning. -/
def rebuild (s : Schema) (v : Visit) (fields : Fields Json) : Rebuild :=
  Rebuild.takeEach id (Rebuild.undeclared v s.refuses) (s.otherNames fields)
    (Rebuild.takeEach Prod.fst (Rebuild.declared v) s.properties ⟨fields, [], v.issues⟩)

theorem otherNames_eq (s : Schema) (fields : Fields Json) :
    s.otherNames fields =
      (fields.filter fun f => (s.properties.lookup f.1).isNone).map Prod.fst := by
  rw [otherNames, List.filter_map]
  rfl

/-- The undeclared entries of an object are those that are found under the other names. -/
theorem undeclaredFields_eq_filterMap (entries : (fields.map Prod.fst).Nodup) :
    undeclaredFields s.properties fields =
      (s.otherNames fields).filterMap fun name => (fields.get? name).map fun x => (name, x) := by
  rw [undeclaredFields, Fields.distinct_of_nodup entries, otherNames_eq, List.filterMap_map]
  generalize hothers : (fields.filter fun f => (s.properties.lookup f.1).isNone) = others
  have hfound (f : String × Json) (hf : f ∈ others) :
      (fields.get? f.1).map (fun x => (f.1, x)) = some f := by
    rw [← hothers] at hf
    rw [Fields.get?_of_mem entries (List.mem_of_mem_filter hf), Option.map_some]
  exact ((List.filterMap_congr hfound).trans List.filterMap_some).symm

/-- Both loops find the entries as they were in the beginning. -/
theorem rebuild_eq_foldl (names : (s.properties.map Prod.fst).Nodup)
    (entries : (fields.map Prod.fst).Nodup) (v : Visit) :
    s.rebuild v fields =
      (s.otherNames fields).foldl
        (fun r name => r.take name (Rebuild.undeclared v s.refuses name (fields.get? name)))
        (s.properties.foldl
          (fun r p => r.take p.1 (Rebuild.declared v p (fields.get? p.1)))
          ⟨fields, [], v.issues⟩) := by
  have hfirst := Rebuild.takeEach_eq (r := ⟨fields, [], v.issues⟩) Prod.fst (Rebuild.declared v)
    fields entries names fun _ _ => rfl
  rw [rebuild, hfirst]
  refine Rebuild.takeEach_eq id (Rebuild.undeclared v s.refuses) fields ?_ ?_ ?_
  · rw [Rebuild.left_foldl]
    exact Fields.nodup_foldl_swapRemove entries _
  · rw [List.map_id]
    exact entries.filter _
  · intro name hname
    rw [Rebuild.left_foldl, Fields.get?_foldl_swapRemove entries, if_neg]
    intro hdeclared
    have hnone : s.property? name = none := by
      simpa using (List.mem_filter.mp hname).2
    exact Fields.get?_eq_none_iff.mp hnone hdeclared

/-- The new object has the entries of the rebuilt one. -/
theorem output_rebuild (names : (s.properties.map Prod.fst).Nodup)
    (entries : (fields.map Prod.fst).Nodup) (v : Visit) :
    (s.rebuild v fields).output = rebuiltFields s.properties fields v := by
  have hdeclared : (s.properties.foldl
      (fun (r : Rebuild) p => r.take p.1 (Rebuild.declared v p (fields.get? p.1)))
      ⟨fields, [], v.issues⟩).output = definedFields (runProperties s.properties fields v) := by
    rw [Rebuild.output_foldl _ names (by simp), runProperties_eq_map, definedFields,
      List.filterMap_map, List.nil_append]
    rfl
  rw [rebuild_eq_foldl names entries, Rebuild.output_foldl, hdeclared, rebuiltFields,
    undeclaredFields_eq_filterMap entries]
  · rfl
  · rw [List.map_id']
    exact entries.filter _
  · intro name hname hmem
    rw [hdeclared] at hmem
    have hsub := (names_definedFields_sublist (runProperties s.properties fields v)).subset hmem
    rw [names_runProperties] at hsub
    have hnone : s.property? name = none := by
      simpa using (List.mem_filter.mp hname).2
    exact Fields.get?_eq_none_iff.mp hnone hsub

/-- The issues are those of the declared properties and then those of the refused names. -/
theorem issues_rebuild (names : (s.properties.map Prod.fst).Nodup)
    (entries : (fields.map Prod.fst).Nodup) (v : Visit) :
    (s.rebuild v fields).issues =
      v.issues ++ (s.properties.flatMap fun p =>
        (p.2.run (v.descend (.key p.1) (fields.get? p.1))).issues) ++
        if s.refuses then (s.otherNames fields).map v.unexpectedProperty else [] := by
  rw [rebuild_eq_foldl names entries, Rebuild.issues_foldl, Rebuild.issues_foldl]
  cases hrefuses : s.refuses with
  | true => simp [Rebuild.declared, Rebuild.undeclared, List.map_eq_flatMap]
  | false => simp [Rebuild.declared, Rebuild.undeclared]

/-- In the end every entry of the old object was taken out. -/
theorem left_rebuild (names : (s.properties.map Prod.fst).Nodup)
    (entries : (fields.map Prod.fst).Nodup) (v : Visit) : (s.rebuild v fields).left = [] := by
  rw [rebuild_eq_foldl names entries, Rebuild.left_foldl, Rebuild.left_foldl]
  have hgone (name : String) : Fields.get? (((s.otherNames fields).map id).foldl Fields.swapRemove
      ((s.properties.map Prod.fst).foldl Fields.swapRemove fields)) name = none := by
    rw [Fields.get?_foldl_swapRemove (Fields.nodup_foldl_swapRemove entries _),
      Fields.get?_foldl_swapRemove entries, List.map_id]
    by_cases hdeclared : name ∈ s.properties.map Prod.fst
    · simp [hdeclared]
    · have hnone : s.property? name = none := Fields.get?_eq_none_iff.mpr hdeclared
      by_cases hpresent : name ∈ fields.map Prod.fst
      · rw [if_pos]
        exact List.mem_filter.mpr ⟨hpresent, by simp [hnone]⟩
      · simp [Fields.get?_eq_none_iff.mpr hpresent]
  rw [List.eq_nil_iff_forall_not_mem]
  intro f hf
  exact Fields.get?_eq_none_iff.mp (hgone f.1) (List.mem_map.mpr ⟨f, hf, rfl⟩)

theorem rebuiltFields_nil (entries : (fields.map Prod.fst).Nodup) (v : Visit) :
    rebuiltFields [] fields v = fields := by
  simp [rebuiltFields, runProperties, definedFields, undeclaredFields,
    Fields.distinct_of_nodup entries]

/-- The children of an object leave the rebuilt entries, whether any are declared or not. -/
theorem runChildren_object_eq (kind : s.kind = .object) (value : u.value = some (.obj fields))
    (entries : (fields.map Prod.fst).Nodup) :
    runChildren s.kind s.children u =
      { u with
        value := some (.obj (rebuiltFields s.properties fields u))
        issues := u.issues ++ s.properties.flatMap fun p =>
          (p.2.run (u.descend (.key p.1) (fields.get? p.1))).issues } := by
  by_cases declares : s.properties = []
  · have harray : s.kind = .array → s.element? = none := by simp [kind]
    have hsame : runChildren s.kind s.children u = u :=
      runChildren_of_childless (fun _ => declares) harray u
    rw [hsame, declares, rebuiltFields_nil entries, ← value]
    simp
  · rw [runChildren_object kind value declares, rebuildObject, rebuiltFields,
      runProperties_eq_map, List.flatMap_map]

/-- The state of an object after its children is the one that the loop leads to. -/
theorem decided_eq_rebuild (kind : s.kind = .object) (names : (s.properties.map Prod.fst).Nodup)
    (value : u.value = some (.obj fields)) (entries : (fields.map Prod.fst).Nodup) :
    s.decided u =
      { u with
        value := some (.obj (s.rebuild u fields).output)
        issues := (s.rebuild u fields).issues } := by
  have hrefused : s.refusedNames u = if s.refuses then s.otherNames fields else [] := by
    rw [refusedNames_object kind value, undeclaredFields, Fields.distinct_of_nodup entries,
      otherNames_eq]
    rfl
  rw [decided, runChildren_object_eq kind value entries, hrefused, output_rebuild names entries,
    issues_rebuild names entries, refuse]
  cases s.refuses with
  | true => rfl
  | false => rfl

/-! ### The entries of the new object -/

/-- The names of the new object: the declared ones that are defined, in order of declaration, and
then the others as they were. -/
theorem names_rebuiltFields (s : Schema) (entries : (fields.map Prod.fst).Nodup) (v : Visit) :
    (rebuiltFields s.properties fields v).map Prod.fst =
      (s.properties.filter fun p =>
        (p.2.run (v.descend (.key p.1) (fields.get? p.1))).value.isSome).map Prod.fst ++
        s.otherNames fields := by
  rw [rebuiltFields, List.map_append, undeclaredFields, Fields.distinct_of_nodup entries,
    ← otherNames_eq, runProperties_eq_map]
  congr 1
  induction s.properties with
  | nil => rfl
  | cons p rest ih =>
      cases hvalue : (p.2.run (v.descend (.key p.1) (fields.get? p.1))).value with
      | none => simpa [definedFields, hvalue] using ih
      | some x => simpa [definedFields, hvalue] using ih

theorem get?_rebuiltFields_of_mem (names : (s.properties.map Prod.fst).Nodup)
    {p : String × Schema} (hp : p ∈ s.properties) (fields : Fields Json) (v : Visit) :
    (rebuiltFields s.properties fields v).get? p.1 =
      (p.2.run (v.descend (.key p.1) (fields.get? p.1))).value := by
  have hlookup : s.properties.lookup p.1 = some p.2 := Fields.get?_of_mem names hp
  rw [get?_rebuiltFields names, hlookup]

/-- No name of an object gets lost: a declared one ends with a value because it had one. -/
theorem mem_names_rebuiltFields (names : (s.properties.map Prod.fst).Nodup) {name : String}
    (h : name ∈ fields.map Prod.fst) (v : Visit) :
    name ∈ (rebuiltFields s.properties fields v).map Prod.fst := by
  rw [Fields.mem_names_iff] at h ⊢
  rw [get?_rebuiltFields names]
  cases s.properties.lookup name with
  | none => exact h
  | some p => exact (p.extends_run _).defined h

/-- Rebuilding an object loses, invents and reorders nothing.  What a run without conditional
options makes of an object that reaches the children is what the loop makes of it which takes the
entries out one at a time, and out of order.  Its names are the declared ones whose property ends
with a value, in order of declaration, and then the undeclared ones in their old order; declared
properties have the values that they end with, and all other entries those that they had.  Every
old name is still there, none occurs twice, and a declared name that was missing is there only if
the parse phase of its property or the default gave a value. -/
theorem rebuilt_object (kind : s.kind = .object) (names : (s.properties.map Prod.fst).Nodup)
    (hplain : s.options.isConditional = false)
    (entered : s.node.enter s.treatment s.options v = .going u)
    (value : u.value = some (.obj fields)) (entries : (fields.map Prod.fst).Nodup) :
    let child (p : String × Schema) : Visit := u.descend (.key p.1) (fields.get? p.1)
    ∃ out : Fields Json, (s.run v).value = some (.obj out) ∧
      s.rebuild u fields = { left := [], output := out, issues := (s.run v).issues } ∧
      out.map Prod.fst =
        (s.properties.filter fun p => (p.2.run (child p)).value.isSome).map Prod.fst ++
          (fields.map Prod.fst).filter (fun name => (s.property? name).isNone) ∧
      (∀ p ∈ s.properties, out.get? p.1 = (p.2.run (child p)).value) ∧
      (∀ name, s.property? name = none → out.get? name = fields.get? name) ∧
      (∀ name ∈ fields.map Prod.fst, name ∈ out.map Prod.fst) ∧
      (out.map Prod.fst).Nodup ∧
      ∀ p ∈ s.properties, p.1 ∉ fields.map Prod.fst → p.1 ∈ out.map Prod.fst →
        (∃ f ∈ p.2.node.parsers p.2.treatment, (f (child p)).isSome) ∨ p.2.node.default.isSome := by
  intro child
  have hrun : s.run v = _ :=
    (run_eq_decided hplain entered).trans (decided_eq_rebuild kind names value entries)
  have hleft := left_rebuild names entries u
  have houtput := output_rebuild names entries u
  refine ⟨rebuiltFields s.properties fields u, ?_, ?_, names_rebuiltFields s entries u,
    fun p hp => get?_rebuiltFields_of_mem names hp fields u, ?_,
    fun name hname => mem_names_rebuiltFields names hname u, nodup_rebuiltFields names fields u,
    ?_⟩
  · rw [hrun, houtput]
  · calc s.rebuild u fields = ⟨(s.rebuild u fields).left, (s.rebuild u fields).output,
          (s.rebuild u fields).issues⟩ := rfl
      _ = _ := by rw [hleft, houtput, hrun]
  · intro name hname
    rw [get?_rebuiltFields names, show s.properties.lookup name = none from hname]
  · intro p hp hmissing hmem
    rw [Fields.mem_names_iff, get?_rebuiltFields_of_mem names hp] at hmem
    exact source_of_defined (Fields.get?_eq_none_iff.mpr hmissing) hmem

/-- A profile with a name, a language that has a default, a nickname and an age. -/
def profile : Schema :=
  let leaf (n : Node) : Schema := .ofNode n Standard.table
  .mk { kind := .object } Standard.table
    (.properties [("name", leaf { kind := .string, required := false }),
      ("language", leaf { kind := .string, default := some (.literal (.str "en")) }),
      ("nickname", leaf { kind := .string, required := false }),
      ("age", leaf { kind := .integer })]) .none

theorem rebuilt_object_profile :
    let given : Fields Json :=
      [("z", .null), ("age", .str "41"), ("y", .null), ("name", .str "Ada"), ("x", .null)]
    let start : Visit := .start (some (.obj given))
    profile.node.enter profile.treatment profile.options start = .going start ∧
      ∃ out : Fields Json, (profile.validate (some (.obj given))).value = some (.obj out) ∧
        (profile.rebuild start given).output = out ∧
        out.map Prod.fst = ["name", "language", "age", "z", "y", "x"] := by
  intro given start
  have entered : profile.node.enter profile.treatment profile.options start = .going start := rfl
  obtain ⟨out, hvalue, hrebuild, hnames, -⟩ :=
    rebuilt_object (s := profile) rfl (by decide) rfl entered rfl (by decide)
  refine ⟨entered, out, hvalue, by rw [hrebuild], ?_⟩
  rw [hnames]
  decide +kernel

end Schema

end Conform
