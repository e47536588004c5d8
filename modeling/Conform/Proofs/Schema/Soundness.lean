import Conform.Proofs.Schema.Rebuild
import Conform.Proofs.Schema.Satisfies

/-!
# Soundness of conforming results

The verdict is found on the states between the phases, before the children are put back.  This
file shows that it is right about the value in the end: what conforms to a plain schema satisfies
it.
-/

namespace Conform

namespace Schema.Plain

variable {t : Table Schema} {s : Schema}

/-- A plain node for objects asks nothing of an object apart from what is inside it. -/
theorem admits_object (h : s.Plain t) (hkind : s.kind = .object) (fields : Fields Json) :
    s.node.Admits s.options (.obj fields) := by
  have hoptions : s.options = .none := h.scalarOptions (by rw [hkind]; rfl)
  refine ⟨?_, Standard.withinBounds_of_no_measure ?_, ?_, ?_⟩
  · rw [show s.node.kind = .object from hkind]
    rfl
  · rw [show s.node.kind = .object from hkind]
    rfl
  · intro p text _ htext
    contradiction
  · intro vs hvs
    rw [hoptions] at hvs
    contradiction

/-- Whether a plain node for arrays admits an array depends on the number of its items only. -/
theorem admits_array (h : s.Plain t) (hkind : s.kind = .array) {items items' : List Json}
    (hadmits : s.node.Admits s.options (.arr items)) (hlength : items'.length = items.length) :
    s.node.Admits s.options (.arr items') := by
  have hoptions : s.options = .none := h.scalarOptions (by rw [hkind]; rfl)
  have hmeasure : s.node.kind.measure? (.arr items') = s.node.kind.measure? (.arr items) := by
    rw [show s.node.kind = .array from hkind]
    simp [Kind.measure?, hlength]
  refine ⟨?_, ⟨?_, ?_⟩, ?_, ?_⟩
  · rw [show s.node.kind = .array from hkind]
    rfl
  · rw [hmeasure]
    exact hadmits.bounds.least
  · rw [hmeasure]
    exact hadmits.bounds.most
  · intro p text _ htext
    contradiction
  · intro vs hvs
    rw [hoptions] at hvs
    contradiction

end Schema.Plain

namespace Schema

open Visit

variable {s : Schema} {v : Visit}

/-- The ways in which a run without conditional options finds nothing: the value may be absent or
null, or it passes the checks of the node and nothing is found in its children. -/
inductive CleanOutcome (s : Schema) (v : Visit) : Visit → Prop where
  | absent (undefined : (s.node.prepare s.treatment v).value = none)
      (optional : s.node.required = false) : CleanOutcome s v (s.node.prepare s.treatment v)
  | null (isNull : (s.node.prepare s.treatment v).value = some .null)
      (nullable : s.node.nullable = true) : CleanOutcome s v (s.node.prepare s.treatment v)
  | entered {x : Json} (defined : (s.node.prepare s.treatment v).value = some x)
      (type : s.node.kind.accepts (s.node.ready s.treatment v).current = true)
      (value : s.node.valueViolation s.treatment s.options (s.node.ready s.treatment v) = none)
      (children : (runChildren s.kind s.children (s.node.ready s.treatment v)).issues = [])
      (refused : s.refusedNames (s.node.ready s.treatment v) = []) :
      CleanOutcome s v ((runChildren s.kind s.children (s.node.ready s.treatment v)).refuse [])

theorem cleanOutcome_run (hunconditional : s.options.isConditional = false)
    (h : (s.run v).issues = []) : s.CleanOutcome v (s.run v) := by
  have houtcome := s.node.outcome_enter s.treatment s.options v
  cases henter : s.node.enter s.treatment s.options v with
  | ended w =>
      rw [run_of_ended henter] at h ⊢
      rw [henter] at houtcome
      cases houtcome with
      | missing => simp [push] at h
      | mistyped => simp [push] at h
      | refused => simp [push] at h
      | absent hundefined hoptional => exact .absent hundefined hoptional
      | null hnull hnullable => exact .null hnull hnullable
  | going w =>
      rw [run_of_going henter, runOptions_of_not_conditional hunconditional] at h ⊢
      rw [henter] at houtcome
      cases houtcome with
      | entered hdefined _ htype hviolation =>
          obtain ⟨hchildren, hrefused⟩ := issues_refuse_eq_nil_iff.mp h
          rw [hrefused]
          exact .entered hdefined htype hviolation hchildren hrefused

/-- The value that the children of an admitted value leave satisfies the schema, when nothing is
found in them. -/
theorem satisfies_runChildren (hs : s.Plain Standard.table)
    (ih : ∀ p ∈ s.parts, ∀ v, (p.run v).issues = [] → p.Satisfies (p.run v).value)
    {w : Visit} (hadmits : s.node.Admits s.options w.current)
    (hvalue : w.value = some w.current)
    (hchildren : (runChildren s.kind s.children w).issues = [])
    (hrefused : s.refusedNames w = []) :
    s.Satisfies (runChildren s.kind s.children w).value := by
  have houtcome := s.outcome_runChildren w
  generalize runChildren s.kind s.children w = u at houtcome hchildren ⊢
  cases houtcome with
  | unchanged hobject harray =>
      rw [hvalue]
      refine .value hadmits ?_ ?_ ?_
      · intro fields hkind hfields p hp
        rw [hobject fields hkind (hvalue.trans (congrArg some hfields))] at hp
        contradiction
      · intro fields hkind hfields
        exact (refusedNames_eq_nil_iff hs.unconditional).mp hrefused fields hkind
          (hvalue.trans (congrArg some hfields))
      · intro items e hkind hitems helement
        rw [harray items hkind (hvalue.trans (congrArg some hitems))] at helement
        contradiction
  | @object fields hkind hfields hdeclares =>
      rw [issues_rebuildObject_eq_nil_iff, runProperties_eq_map] at hchildren
      refine .value (hs.admits_object hkind _) ?_ ?_ ?_
      · intro fields' _ hfields' p hp
        obtain rfl : rebuiltFields s.properties fields w = fields' := Json.obj.inj hfields'
        have hlookup : s.properties.lookup p.1 = some p.2 :=
          Fields.get?_of_mem hs.names (by simpa using hp)
        rw [get?_rebuiltFields hs.names, hlookup]
        exact ih p.2 (mem_parts_of_property hp) _
          (hchildren.2 _ (List.mem_map.mpr ⟨p, hp, rfl⟩))
      · intro fields' _ hfields' hstrict name hname
        obtain rfl : rebuiltFields s.properties fields w = fields' := Json.obj.inj hfields'
        rw [get?_rebuiltFields hs.names] at hname
        cases hlookup : s.properties.lookup name with
        | some e => simp [property?, hlookup]
        | none =>
            rw [hlookup] at hname
            exact (refusedNames_eq_nil_iff hs.unconditional).mp hrefused fields hkind hfields
              hstrict name hname
      · intro items e harray
        rw [hkind] at harray
        contradiction
  | @array items e hkind hitems helement =>
      rw [issues_rebuildArray_eq_nil_iff] at hchildren
      have hcurrent : w.current = .arr items := by simp [Visit.current, hitems]
      have hlength : (((w.elements items).map fun u => e.run u).map Visit.current).length =
          items.length := by
        simp [Visit.elements]
      refine .value (hs.admits_array hkind (hcurrent ▸ hadmits) hlength) ?_ ?_ ?_
      · intro fields hobject
        rw [hkind] at hobject
        contradiction
      · intro fields hobject
        rw [hkind] at hobject
        contradiction
      · intro items' e' _ hitems' helement' x hx
        obtain rfl : e = e' := Option.some.inj (helement.symm.trans helement')
        obtain rfl := Json.arr.inj hitems'
        obtain ⟨r, hr, rfl⟩ := List.mem_map.mp hx
        obtain ⟨u, hu, rfl⟩ := List.mem_map.mp hr
        obtain ⟨i, y, -, rfl⟩ := of_mem_elements hu
        have hsatisfies := ih e (mem_parts_of_element helement) _ (hchildren.2 _ hr)
        rwa [value_run_of_defined rfl] at hsatisfies

/-- A run of a plain schema that finds nothing ends with a value that satisfies the schema. -/
theorem satisfies_of_run (hs : s.Forall (Plain Standard.table)) (h : (s.run v).issues = []) :
    s.Satisfies (s.run v).value := by
  induction s using Schema.induction generalizing v with
  | mk s ih =>
      have hplain := hs.here
      have houtcome := cleanOutcome_run hplain.unconditional h
      generalize s.run v = r at houtcome
      cases houtcome with
      | absent hundefined hoptional =>
          rw [hundefined]
          exact .absent hoptional (Node.default_eq_none_of_undefined hundefined)
      | null hnull hnullable =>
          rw [hnull]
          exact .null hnullable
      | entered hdefined htype hviolation hchildren hrefused =>
          exact satisfies_runChildren hplain (fun p hp u hu => ih p hp (hs.part hp) hu)
            ((hplain.valueViolation_eq_none_iff htype).mp hviolation)
            (Node.value_ready_of_defined hdefined) hchildren hrefused

/-- What conforms to a plain schema of the standard context satisfies the schema in the end. -/
theorem satisfies_of_conforms (hs : s.Forall (Plain Standard.table)) (input : Option Json)
    (h : (s.validate input).conforms = true) : s.Satisfies (s.validate input).value :=
  satisfies_of_run hs (Visit.conforms_iff.mp h)

/-- A lenient record of a count that has a default, short tags and a strict place. -/
def parcel : Schema :=
  let leaf (n : Node) : Schema := .ofNode n Standard.table
  let tags : Schema :=
    .mk { kind := .array, extra := [("max", .ofInt 2)] } Standard.table
      (.element (leaf { kind := .string, extra := [("max", .ofInt 3)] })) .none
  let place : Schema :=
    .mk { kind := .object, strict := true, nullable := true } Standard.table
      (.properties [("zip", leaf { kind := .integer })]) .none
  .mk { kind := .object } Standard.table
    (.properties [("count", leaf { kind := .integer, default := some (.literal (.str " 1 ")) }),
      ("tags", tags), ("place", place)]) .none

theorem plain_parcel : parcel.Forall (Plain Standard.table) := by
  simp [parcel, ofNode, forall_mk, plain_iff, closureFree_iff, built_iff, Options.isConditional,
    Kind.isComposite]

/-- A parcel whose tags come as a text, with an undeclared entry and no count. -/
def parcelInput : Json :=
  .obj [("x", .null), ("tags", .str "[\"a\", \"bcd\"]"),
    ("place", .obj [("zip", .ofInt 7)])]

theorem satisfies_of_conforms_parcel :
    (parcel.validate (some parcelInput)).conforms = true ∧
      parcel.Satisfies (parcel.validate (some parcelInput)).value := by
  have hconforms : (parcel.validate (some parcelInput)).conforms = true := by decide +kernel
  exact ⟨hconforms, satisfies_of_conforms plain_parcel (some parcelInput) hconforms⟩

end Schema
end Conform
