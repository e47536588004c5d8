import Conform.Proofs.Schema.Frame
import Conform.Proofs.Schema.Rebuild

/-!
# Defined and undefined values

A run never loses a value: what is defined at the start is defined at the end.  So the elements of a
rebuilt array are what the runs of the elements end with, and never a `null` in place of nothing.
The other way round, only the parse phase and the default give a value to an undefined one.
-/

namespace Conform

open Visit

/-! ### Where values come from -/

namespace Visit

/-- Transforms that have no answer at a state leave it as it is. -/
theorem transform_of_declines {fs : List (Visit → Option Json)} {v : Visit}
    (h : ∀ f ∈ fs, f v = none) : v.transform fs = v := by
  induction fs with
  | nil => rfl
  | cons f fs ih =>
      rw [List.forall_mem_cons] at h
      rw [transform_cons, h.1]
      exact ih h.2

end Visit

namespace Schema

variable {s : Schema} {v u : Visit}

/-- A value that the first phases leave undefined stays undefined. -/
theorem value_run_of_undefined (h : (s.node.prepare s.treatment v).value = none) :
    (s.run v).value = none := by
  have houtcome := s.node.outcome_enter s.treatment s.options v
  cases henter : s.node.enter s.treatment s.options v with
  | ended w =>
      rw [run_of_ended henter]
      rw [henter] at houtcome
      cases houtcome with
      | missing => exact h
      | absent => exact h
      | null isNull => exact h
      | mistyped defined => simp [h] at defined
      | refused defined => simp [h] at defined
  | going w =>
      rw [henter] at houtcome
      cases houtcome with
      | entered defined => simp [h] at defined

/-- An undefined value gets one from a transform of the parse phase that answers, or from the
default, and from nothing else. -/
theorem source_of_defined (undefined : v.value = none) (h : (s.run v).value.isSome) :
    (∃ f ∈ s.node.parsers s.treatment, (f v).isSome) ∨ s.node.default.isSome := by
  by_contra hnone
  push Not at hnone
  obtain ⟨hdeclines, hdefault⟩ := hnone
  have hparse : s.node.runParse s.treatment v = v := by
    apply transform_of_declines
    intro f hf
    simpa using hdeclines f hf
  have hprepare : (s.node.prepare s.treatment v).value = none := by
    have hgiven : s.node.default = none := by simpa using hdefault
    rw [Node.prepare, hparse, Node.fillDefault, undefined, hgiven]
    exact undefined
  rw [value_run_of_undefined hprepare] at h
  contradiction

/-! ### Arrays -/

/-- Every element of a rebuilt array is the value that the run of the old element ends with. -/
theorem value_decided_array {items : List Json} {e : Schema} (kind : s.kind = .array)
    (element : s.element? = some e) (value : u.value = some (.arr items)) :
    ∃ out, (s.decided u).value = some (.arr out) ∧ out.length = items.length ∧
      ∀ i x, items[i]? = some x →
        ∃ y, out[i]? = some y ∧ (e.run (u.descend (.index i) (some x))).value = some y := by
  have hchildren := runChildren_array kind value element
  refine ⟨((u.elements items).map fun w => e.run w).map current, ?_, ?_, ?_⟩
  · exact congrArg Visit.value hchildren
  · simp [elements]
  · intro i x hx
    refine ⟨(e.run (u.descend (.index i) (some x))).current, ?_, value_run_of_defined rfl⟩
    simp [elements, hx]

/-! ### Results -/

theorem toExcept_eq_ok_iff {r : Visit} (defined : r.value.isSome) {w : Json} :
    r.toExcept = .ok w ↔ r.conforms = true ∧ r.value = some w := by
  obtain ⟨x, hx⟩ := Option.isSome_iff_exists.mp defined
  rw [toExcept, current, hx]
  cases r.conforms with
  | true => simp
  | false => simp

theorem toExcept_eq_error_iff {r : Visit} {err : AggregateError} :
    r.toExcept = .error err ↔ r.conforms = false ∧ err.issues = r.issues := by
  obtain ⟨issues⟩ := err
  rw [toExcept]
  cases r.conforms with
  | true => simp
  | false => simp [eq_comm]

/-- A defined value never becomes undefined, and no `null` is made up for a value that is missing:
not by any run from a state with a value, not in an array, which gets one element for each of its
own, and not in the result of a validation, which is the value in the end when the input conforms
and otherwise the issues, of which there is one at least. -/
theorem run_defined (s : Schema) :
    (∀ v : Visit, v.value.isSome → (s.run v).value.isSome) ∧
      (∀ (v u : Visit) (items : List Json) (e : Schema), s.kind = .array → s.element? = some e →
        s.node.enter s.treatment s.options v = .going u → u.value = some (.arr items) →
        s.run v = runOptions s.options (s.decided u) ∧
          ∃ out, (s.decided u).value = some (.arr out) ∧ out.length = items.length ∧
            ∀ i x, items[i]? = some x →
              ∃ y, out[i]? = some y ∧ (e.run (u.descend (.index i) (some x))).value = some y) ∧
      ∀ input : Json,
        let r := s.validate (some input)
        (∀ w, r.toExcept = .ok w ↔ r.conforms = true ∧ r.value = some w) ∧
          (r.conforms = true → r.value.isSome) ∧
          (∀ err, r.toExcept = .error err ↔ r.conforms = false ∧ err.issues = r.issues) ∧
          (r.conforms = false → r.issues ≠ []) := by
  have hdefined (v : Visit) (hv : v.value.isSome) : (s.run v).value.isSome :=
    (s.extends_run v).defined hv
  refine ⟨hdefined, ?_, ?_⟩
  · intro v u items e kind element entered value
    exact ⟨run_of_going entered, value_decided_array kind element value⟩
  · intro input r
    have hr : r.value.isSome := hdefined (.start (some input)) rfl
    refine ⟨fun w => toExcept_eq_ok_iff hr, fun _ => hr, fun err => toExcept_eq_error_iff, ?_⟩
    intro hconforms hissues
    rw [conforms_iff.mpr hissues] at hconforms
    contradiction

end Schema

end Conform
