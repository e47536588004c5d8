import Conform.Proofs.Schema.Parts
import Conform.Proofs.Schema.Phases

/-!
# Runs

How the run of a schema is made of the phases of its node, the runs of its parts and the choice
of an option, and what every run keeps: the root, the place, the issues found before and that a
value is defined.
-/

namespace Conform

open Visit

namespace Schema

/-! ### The shape of a run -/

theorem run_of_ended {s : Schema} {v w : Visit}
    (h : s.node.enter s.treatment s.options v = .ended w) : s.run v = w := by
  obtain ⟨n, t, c, o⟩ := s
  rw [run]
  simp only [node, options] at h
  rw [h]

theorem run_of_going {s : Schema} {v w : Visit}
    (h : s.node.enter s.treatment s.options v = .going w) :
    s.run v =
      runOptions s.options ((runChildren s.kind s.children w).refuse (s.refusedNames w)) := by
  obtain ⟨n, t, c, o⟩ := s
  rw [run]
  simp only [node, options] at h
  rw [h]
  rfl

theorem runProperties_eq_map (ps : List (String × Schema)) (fields : Fields Json) (v : Visit) :
    runProperties ps fields v =
      ps.map fun p => (p.1, p.2.run (v.descend (.key p.1) (fields.get? p.1))) := by
  induction ps with
  | nil => rfl
  | cons p rest ih =>
      obtain ⟨name, s⟩ := p
      simp [runProperties, ih]

/-- The ways in which the children of a node are validated. -/
inductive ChildrenOutcome (s : Schema) (v : Visit) : Visit → Prop where
  | object {fields : List (String × Json)} (kind : s.kind = .object)
      (value : v.value = some (.obj fields)) (declares : s.properties ≠ []) :
      ChildrenOutcome s v
        (v.rebuildObject (runProperties s.properties fields v)
          (undeclaredFields s.properties fields))
  | array {items : List Json} {e : Schema} (kind : s.kind = .array)
      (value : v.value = some (.arr items)) (element : s.element? = some e) :
      ChildrenOutcome s v (v.rebuildArray ((v.elements items).map fun w => e.run w))
  | unchanged
      (object : ∀ fields, s.kind = .object → v.value = some (.obj fields) → s.properties = [])
      (array : ∀ items, s.kind = .array → v.value = some (.arr items) → s.element? = none) :
      ChildrenOutcome s v v

/-- The children of a node are validated in one of these ways. -/
theorem outcome_runChildren (s : Schema) (v : Visit) :
    s.ChildrenOutcome v (runChildren s.kind s.children v) := by
  obtain ⟨n, t, c, o⟩ := s
  change ChildrenOutcome _ v (runChildren n.kind c v)
  cases c with
  | none =>
      unfold runChildren
      exact .unchanged (fun _ _ _ => rfl) (fun _ _ _ => rfl)
  | properties ps =>
      unfold runChildren
      split
      · rename_i fields hkind hvalue
        by_cases hps : ps = []
        · subst hps
          simp only [List.isEmpty_nil, ↓reduceIte]
          exact .unchanged (fun _ _ _ => rfl) (fun _ _ _ => rfl)
        · rw [if_neg (by simpa using hps)]
          exact .object (s := .mk n t (.properties ps) o) hkind hvalue hps
      · rename_i hother
        exact .unchanged (fun fields hkind hvalue => (hother fields hkind hvalue).elim)
          (fun _ _ _ => rfl)
  | element e =>
      unfold runChildren
      split
      · rename_i items hkind hvalue
        exact .array hkind hvalue rfl
      · rename_i hother
        exact .unchanged (fun _ _ _ => rfl)
          (fun items hkind hvalue => (hother items hkind hvalue).elim)

/-- Only the properties of an object and the elements of an array can change the value. -/
theorem runChildren_of_childless {s : Schema} (hobject : s.kind = .object → s.properties = [])
    (harray : s.kind = .array → s.element? = none) (v : Visit) :
    runChildren s.kind s.children v = v := by
  have houtcome := s.outcome_runChildren v
  generalize runChildren s.kind s.children v = u at houtcome ⊢
  cases houtcome with
  | object kind _ declares => exact (declares (hobject kind)).elim
  | array kind _ element =>
      rw [harray kind] at element
      contradiction
  | unchanged => rfl

theorem runOptions_of_not_conditional {o : Options Schema} (h : o.isConditional = false)
    (v : Visit) : runOptions o v = v := by
  cases o with
  | none => rfl
  | values _ => rfl
  | models _ => simp [Options.isConditional] at h

/-- The first of the conditional options that applies. -/
def chosen? (o : Options Schema) (v : Visit) : Option Schema :=
  o.branches.find? fun b => b.appliesTo v

theorem mem_branches_of_chosen {o : Options Schema} {v : Visit} {b : Schema}
    (h : chosen? o v = some b) : b ∈ o.branches :=
  List.mem_of_find?_eq_some h

/-- A value is validated against the option that is chosen. -/
theorem runOptions_of_chosen {o : Options Schema} {v : Visit} {b : Schema}
    (h : chosen? o v = some b) : runOptions o v = b.run v := by
  cases o with
  | none => contradiction
  | values _ => contradiction
  | models ss =>
      rw [chosen?, Options.branches_models] at h
      rw [runOptions]
      induction ss with
      | nil => contradiction
      | cons c rest ih =>
          rw [List.find?_cons] at h
          rw [runFirst]
          split at h
          · rename_i happlies
            rw [if_pos happlies, Option.some.inj h]
          · rename_i hother
            rw [if_neg (by simp [hother]), ih h]

/-- The options are validated by the first one that applies, if any does. -/
theorem runFirst_cases (ss : List Schema) (v : Visit) :
    (∃ b ∈ ss, b.appliesTo v = true ∧ runFirst ss v = b.run v) ∨
      runFirst ss v = v.push noOptionViolation := by
  induction ss with
  | nil => exact Or.inr rfl
  | cons s rest ih =>
      by_cases h : s.appliesTo v = true
      · exact Or.inl ⟨s, by simp, h, by simp [runFirst, h]⟩
      · rcases ih with ⟨b, hb, happlies, hrun⟩ | hpush
        · exact Or.inl ⟨b, by simp [hb], happlies, by simpa [runFirst, h] using hrun⟩
        · exact Or.inr (by simpa [runFirst, h] using hpush)

/-! ### What a run keeps -/

theorem path_of_going {s : Schema} {v w : Visit}
    (h : s.node.enter s.treatment s.options v = .going w) : w.path = v.path := by
  have hextends := s.node.extends_enter s.treatment s.options v
  rw [h] at hextends
  exact hextends.path

theorem issues_of_going {s : Schema} {v w : Visit}
    (h : s.node.enter s.treatment s.options v = .going w) : w.issues = v.issues := by
  have houtcome := s.node.outcome_enter s.treatment s.options v
  rw [h] at houtcome
  cases houtcome
  exact s.node.issues_ready s.treatment v

theorem extends_rebuildObject {v : Visit} {declared : List (String × Visit)}
    (h : ∀ d ∈ declared, ∀ i ∈ d.2.issues, v.path <+: i.path) (undeclared : Fields Json) :
    (v.rebuildObject declared undeclared).Extends v := by
  refine ⟨rfl, rfl, ⟨declared.flatMap fun d => d.2.issues, rfl, ?_⟩, fun _ => rfl⟩
  intro i hi
  obtain ⟨d, hd, hi⟩ := List.mem_flatMap.mp hi
  exact h d hd i hi

theorem extends_rebuildArray {v : Visit} {elements : List Visit}
    (h : ∀ e ∈ elements, ∀ i ∈ e.issues, v.path <+: i.path) :
    (v.rebuildArray elements).Extends v := by
  refine ⟨rfl, rfl, ⟨elements.flatMap Visit.issues, rfl, ?_⟩, fun _ => rfl⟩
  intro i hi
  obtain ⟨e, he, hi⟩ := List.mem_flatMap.mp hi
  exact h e he i hi

theorem extends_runChildren {s : Schema}
    (ih : ∀ p ∈ s.parts, ∀ v, (p.run v).Extends v) (v : Visit) :
    (runChildren s.kind s.children v).Extends v := by
  have h := s.outcome_runChildren v
  generalize runChildren s.kind s.children v = w at h ⊢
  cases h with
  | unchanged => exact .refl v
  | object kind value declares =>
      apply extends_rebuildObject
      intro d hd i hi
      rw [runProperties_eq_map] at hd
      obtain ⟨p, hp, rfl⟩ := List.mem_map.mp hd
      exact (List.prefix_append v.path [.key p.1]).trans
        ((ih p.2 (mem_parts_of_property hp) _).path_prefix_of_descend hi)
  | array kind value element =>
      apply extends_rebuildArray
      intro e he i hi
      obtain ⟨u, hu, rfl⟩ := List.mem_map.mp he
      obtain ⟨x, -, rfl⟩ := List.mem_map.mp hu
      exact (List.prefix_append v.path _).trans
        ((ih _ (mem_parts_of_element element) _).path_prefix_of_descend hi)

theorem extends_runOptions {s : Schema}
    (ih : ∀ p ∈ s.parts, ∀ v, (p.run v).Extends v) (v : Visit) :
    (runOptions s.options v).Extends v := by
  cases ho : s.options with
  | none => exact .refl v
  | values vs => exact .refl v
  | models ss =>
      rw [runOptions]
      rcases runFirst_cases ss v with ⟨b, hb, -, hrun⟩ | hpush
      · rw [hrun]
        exact ih b (mem_parts_of_branch (by simpa [ho, Options.branches] using hb)) v
      · rw [hpush]
        exact extends_push v _

/-- A run keeps the root and the place, only adds issues at the place or below it, and never
makes a defined value undefined. -/
theorem extends_run (s : Schema) (v : Visit) : (s.run v).Extends v := by
  induction s using Schema.induction generalizing v with
  | mk s ih =>
      have hv := s.node.extends_enter s.treatment s.options v
      cases h : s.node.enter s.treatment s.options v with
      | ended w =>
          rw [run_of_ended h]
          simpa [h, Progress.visit] using hv
      | going w =>
          rw [run_of_going h]
          have hw : w.Extends v := by simpa [h, Progress.visit] using hv
          exact (((extends_runOptions ih _).trans (extends_refuse _ _)).trans
            (extends_runChildren ih w)).trans hw

theorem value_run_of_defined {s : Schema} {v : Visit} (h : v.value.isSome) :
    (s.run v).value = some (s.run v).current := by
  obtain ⟨x, hx⟩ := Option.isSome_iff_exists.mp ((s.extends_run v).defined h)
  simp [current, hx]

end Schema
end Conform
