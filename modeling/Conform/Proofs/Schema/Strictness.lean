import Conform.Proofs.Json.Same
import Conform.Proofs.Schema.Rebuild
import Conform.Proofs.Schema.Satisfies

/-!
# Exactness of strict validation

A rigid schema is strict throughout and gives no defaults.  It conforms exactly to the values that
satisfy it, and its runs never change a value: objects are put back with the same entries, at most
in another order.
-/

namespace Conform

namespace Schema

open Visit Json

/-- A closure-free node of the standard context that is strict and has no default. -/
@[mk_iff]
structure Rigid (s : Schema) : Prop extends ClosureFree Standard.table s where
  strict : s.node.strict = true
  default : s.node.default = none

namespace Rigid

variable {s : Schema}

theorem prepare_eq (h : s.Rigid) (v : Visit) : s.node.prepare s.treatment v = v := by
  rw [h.toClosureFree.prepare_eq Standard.coercesBy, Node.fillDefault, h.default]
  cases v.value <;> rfl

theorem ready_eq (h : s.Rigid) (v : Visit) : s.node.ready s.treatment v = v := by
  rw [Node.ready, h.prepare_eq, Node.runCoerce, if_pos h.strict]

end Rigid

variable {s : Schema}

/-! ### Values are kept -/

theorem same_rebuiltFields {ps : List (String × Schema)} (hnd : (ps.map Prod.fst).Nodup)
    {v : Visit} (fields : Fields Json)
    (h : ∀ p ∈ ps, ∀ w, Option.Rel Same w.value (p.2.run w).value) :
    (obj fields).Same (obj (rebuiltFields ps fields v)) := by
  rw [same_obj_iff]
  intro name
  rw [get?_rebuiltFields hnd]
  cases hlookup : ps.lookup name with
  | none => exact rel_same_refl _
  | some e =>
      exact h (name, e) (Fields.mem_of_get? hlookup) (v.descend (.key name) (fields.get? name))

theorem same_rebuiltItems {e : Schema} {v : Visit} (items : List Json)
    (h : ∀ w, Option.Rel Same w.value (e.run w).value) :
    (arr items).Same (arr (((v.elements items).map fun w => e.run w).map current)) := by
  -- The items are paired with their places on both sides, to be compared place by place.
  have hpairs : items.zipIdx.map Prod.fst = items := by simp
  rw [same_arr_iff, elements, List.map_map, List.map_map]
  nth_rewrite 1 [← hpairs]
  rw [List.forall₂_map_left_iff, List.forall₂_map_right_iff, List.forall₂_same]
  rintro ⟨x, i⟩ -
  have hrel := h (v.descend (.index i) (some x))
  change x.Same (e.run (v.descend (.index i) (some x))).current
  rw [current]
  generalize (e.run (v.descend (.index i) (some x))).value = y at hrel ⊢
  cases hrel with
  | some hsame => exact hsame

theorem same_runChildren (hs : s.Rigid)
    (ih : ∀ p ∈ s.parts, ∀ v, Option.Rel Same v.value (p.run v).value) (v : Visit) :
    Option.Rel Same v.value (runChildren s.kind s.children v).value := by
  have houtcome := s.outcome_runChildren v
  generalize runChildren s.kind s.children v = w at houtcome ⊢
  cases houtcome with
  | unchanged => exact rel_same_refl _
  | object hkind hfields hdeclares =>
      rw [hfields]
      exact .some (same_rebuiltFields hs.names _ fun p hp => ih p.2 (mem_parts_of_property hp))
  | array hkind hitems helement =>
      rw [hitems]
      exact .some (same_rebuiltItems _ (ih _ (mem_parts_of_element helement)))

/-- A run of a rigid schema never changes the value, whether it finds issues or not. -/
theorem same_run (hs : s.Forall Rigid) (v : Visit) :
    Option.Rel Same v.value (s.run v).value := by
  induction s using Schema.induction generalizing v with
  | mk s ih =>
      have hrigid := hs.here
      have hprepare := hrigid.prepare_eq v
      have hready := hrigid.ready_eq v
      have houtcome := s.node.outcome_enter s.treatment s.options v
      cases henter : s.node.enter s.treatment s.options v with
      | ended w =>
          rw [run_of_ended henter]
          rw [henter] at houtcome
          cases houtcome with
          | missing =>
              rw [hprepare]
              exact rel_same_refl v.value
          | absent =>
              rw [hprepare]
              exact rel_same_refl v.value
          | null =>
              rw [hprepare]
              exact rel_same_refl v.value
          | mistyped =>
              rw [hready]
              exact rel_same_refl v.value
          | refused =>
              rw [hready]
              exact rel_same_refl v.value
      | going w =>
          rw [run_of_going henter, runOptions_of_not_conditional hrigid.unconditional]
          rw [henter] at houtcome
          cases houtcome with
          | entered =>
              rw [hready]
              exact same_runChildren hrigid (fun p hp u => ih p hp (hs.part hp) u) v

/-! ### The verdict -/

/-- What is found in the children of a value is nothing exactly when the children satisfy their
schemas. -/
theorem issues_runChildren_eq_nil_iff
    (ih : ∀ p ∈ s.parts, ∀ v, v.issues = [] → ((p.run v).issues = [] ↔ p.Satisfies v.value))
    {v : Visit} (hv : v.issues = []) :
    (runChildren s.kind s.children v).issues = [] ↔
      (∀ fields, s.kind = .object → v.value = some (.obj fields) →
          ∀ p ∈ s.properties, p.2.Satisfies (Fields.get? fields p.1)) ∧
        ∀ items e, s.kind = .array → v.value = some (.arr items) → s.element? = some e →
          ∀ x ∈ items, e.Satisfies (some x) := by
  have houtcome := s.outcome_runChildren v
  generalize runChildren s.kind s.children v = w at houtcome ⊢
  cases houtcome with
  | unchanged hobject harray =>
      refine iff_of_true hv ⟨?_, ?_⟩
      · intro fields hkind hfields p hp
        rw [hobject fields hkind hfields] at hp
        contradiction
      · intro items e hkind hitems helement
        rw [harray items hkind hitems] at helement
        contradiction
  | @object fields hkind hfields hdeclares =>
      have hproperty : ∀ p ∈ s.properties,
          ((p.2.run (v.descend (.key p.1) (Fields.get? fields p.1))).issues = [] ↔
            p.2.Satisfies (Fields.get? fields p.1)) :=
        fun p hp => ih p.2 (mem_parts_of_property hp) _ rfl
      rw [issues_rebuildObject_eq_nil_iff, runProperties_eq_map]
      constructor
      · rintro ⟨-, h⟩
        refine ⟨?_, ?_⟩
        · intro fields' _ hfields' p hp
          obtain rfl := Json.obj.inj (Option.some.inj (hfields.symm.trans hfields'))
          exact (hproperty p hp).mp (h _ (List.mem_map.mpr ⟨p, hp, rfl⟩))
        · intro items e harray
          rw [hkind] at harray
          contradiction
      · rintro ⟨h, -⟩
        refine ⟨hv, ?_⟩
        intro d hd
        obtain ⟨p, hp, rfl⟩ := List.mem_map.mp hd
        exact (hproperty p hp).mpr (h fields hkind hfields p hp)
  | @array items e hkind hitems helement =>
      have helementOf : ∀ i x,
          ((e.run (v.descend (.index i) (some x))).issues = [] ↔ e.Satisfies (some x)) :=
        fun i x => ih e (mem_parts_of_element helement) _ rfl
      rw [issues_rebuildArray_eq_nil_iff]
      constructor
      · rintro ⟨-, h⟩
        refine ⟨?_, ?_⟩
        · intro fields hobject
          rw [hkind] at hobject
          contradiction
        · intro items' e' _ hitems' helement' x hx
          obtain rfl := Json.arr.inj (Option.some.inj (hitems.symm.trans hitems'))
          obtain rfl := Option.some.inj (helement.symm.trans helement')
          obtain ⟨i, hu⟩ := exists_mem_elements v hx
          exact (helementOf i x).mp (h _ (List.mem_map.mpr ⟨_, hu, rfl⟩))
      · rintro ⟨-, h⟩
        refine ⟨hv, ?_⟩
        intro d hd
        obtain ⟨u, hu, rfl⟩ := List.mem_map.mp hd
        obtain ⟨i, x, hx, rfl⟩ := of_mem_elements hu
        exact (helementOf i x).mpr (h items e hkind hitems helement x hx)

/-- A run of a rigid schema finds nothing exactly when the value satisfies the schema. -/
theorem issues_run_eq_nil_iff (hs : s.Forall Rigid) {v : Visit} (hv : v.issues = []) :
    (s.run v).issues = [] ↔ s.Satisfies v.value := by
  induction s using Schema.induction generalizing v with
  | mk s ih =>
      have hrigid := hs.here
      have hprepare := hrigid.prepare_eq v
      have hready := hrigid.ready_eq v
      have houtcome := s.node.outcome_enter s.treatment s.options v
      cases henter : s.node.enter s.treatment s.options v with
      | ended w =>
          rw [run_of_ended henter]
          rw [henter] at houtcome
          cases houtcome with
          | missing hundefined hrequired =>
              rw [hprepare] at hundefined
              refine iff_of_false (by simp [push]) ?_
              rw [hundefined]
              rintro ⟨hoptional, -⟩
              simp [hrequired] at hoptional
          | absent hundefined hoptional =>
              rw [hprepare] at hundefined ⊢
              rw [hundefined]
              exact iff_of_true hv (.absent hoptional hrigid.default)
          | null hnull hnullable =>
              rw [hprepare] at hnull ⊢
              rw [hnull]
              exact iff_of_true hv (.null hnullable)
          | mistyped hdefined hpresent htype =>
              rw [hprepare] at hdefined
              rw [hready, current, hdefined] at htype
              refine iff_of_false (by simp [push]) ?_
              rw [hdefined, satisfies_iff_of_present hpresent]
              rintro ⟨hadmits, -⟩
              simp [hadmits.type] at htype
          | refused hdefined hpresent htype hviolation =>
              rw [hprepare] at hdefined
              refine iff_of_false (by simp [push]) ?_
              rw [hdefined, satisfies_iff_of_present hpresent]
              rintro ⟨hadmits, -⟩
              have hnone := (hrigid.valueViolation_eq_none_iff htype).mpr
                (by rwa [hready, current, hdefined])
              rw [hnone] at hviolation
              contradiction
      | going w =>
          rw [run_of_going henter, runOptions_of_not_conditional hrigid.unconditional]
          rw [henter] at houtcome
          cases houtcome with
          | entered hdefined hpresent htype hviolation =>
              -- The node admits the value, so that the verdict is that of the children and of
              -- the undeclared names.
              rw [hprepare] at hdefined
              have hadmits := (hrigid.valueViolation_eq_none_iff htype).mp hviolation
              have hchildren := issues_runChildren_eq_nil_iff
                (fun p hp u hu => ih p hp (hs.part hp) hu) hv
              have hrefused := refusedNames_eq_nil_iff (v := v) hrigid.unconditional
              rw [hready] at hadmits ⊢
              rw [issues_refuse_eq_nil_iff, hchildren, hrefused, hdefined,
                satisfies_iff_of_present hpresent]
              simp only [current, hdefined, Option.getD_some] at hadmits
              simp only [Option.some.injEq, and_iff_right hadmits]
              tauto

/-- Validating with a rigid schema conforms exactly when the value satisfies the schema, and ends
with an equal value whether it conforms or not. -/
theorem validate_rigid (hs : s.Forall Rigid) (v : Json) :
    ((s.validate (some v)).conforms = true ↔ s.Satisfies (some v)) ∧
      ∃ w, (s.validate (some v)).value = some w ∧ v.same w = true := by
  constructor
  · rw [conforms_iff]
    exact issues_run_eq_nil_iff hs rfl
  · have hsame := same_run hs (.start (some v))
    rw [validate]
    generalize (s.run (.start (some v))).value = x at hsame ⊢
    cases hsame with
    | some hw => exact ⟨_, rfl, hw⟩

/-- A strict record of a small number and an optional list that is one of two. -/
def label : Schema :=
  let leaf (n : Node) : Schema := .ofNode { n with strict := true } Standard.table
  let sizes : Schema :=
    .mk { kind := .array, strict := true, required := false } Standard.table
      (.element (leaf { kind := .integer }))
      (.values [.arr [], .arr [.ofInt 7]])
  .mk { kind := .object, strict := true, nullable := true } Standard.table
    (.properties [("sizes", sizes),
      ("grade", leaf { kind := .number, extra := [("max", .ofInt 5)] })])
    .none

theorem rigid_label : label.Forall Rigid := by
  simp [label, ofNode, forall_mk, rigid_iff, closureFree_iff, built_iff, Options.isConditional]

/-- A label whose entries stand in another order than the declared one. -/
def labelInput : Json :=
  .obj [("grade", .ofInt 5), ("sizes", .arr [.ofInt 7])]

theorem validate_rigid_label :
    label.Satisfies (some labelInput) ∧
      ∃ w, (label.validate (some labelInput)).value = some w ∧ labelInput.same w = true := by
  obtain ⟨hiff, hvalue⟩ := validate_rigid rigid_label labelInput
  exact ⟨hiff.mp (by decide +kernel), hvalue⟩

end Schema
end Conform
