import Conform.Schema.Run

/-!
# The phases of a node

What the phases before the children can do to the state of a visit, outcome by outcome, and what
they never touch: the root, the place and the issues found so far.
-/

namespace Conform

namespace Visit

theorem conforms_iff {v : Visit} : v.conforms = true ↔ v.issues = [] := by
  simp [conforms]

/-- A state reached from an earlier one at the same node: the root and the place are the same,
issues were only added, at the place or below it, and a defined value is still defined. -/
structure Extends (w v : Visit) : Prop where
  root : w.root = v.root
  path : w.path = v.path
  issues : ∃ new, w.issues = v.issues ++ new ∧ ∀ i ∈ new, v.path <+: i.path
  defined : v.value.isSome → w.value.isSome

namespace Extends

theorem refl (v : Visit) : v.Extends v :=
  ⟨rfl, rfl, ⟨[], by simp⟩, id⟩

theorem trans {u v w : Visit} (h : w.Extends v) (h' : v.Extends u) : w.Extends u := by
  obtain ⟨new, hnew, hpaths⟩ := h.issues
  obtain ⟨old, hold, hpaths'⟩ := h'.issues
  refine ⟨h.root.trans h'.root, h.path.trans h'.path, ⟨old ++ new, ?_, ?_⟩, fun hu =>
    h.defined (h'.defined hu)⟩
  · rw [hnew, hold, List.append_assoc]
  · intro i hi
    rcases List.mem_append.mp hi with hi | hi
    · exact hpaths' i hi
    · exact h'.path ▸ hpaths i hi

/-- Without an issue at the end there was none before. -/
theorem issues_eq_nil {v w : Visit} (h : w.Extends v) (hw : w.issues = []) : v.issues = [] := by
  obtain ⟨new, hnew, -⟩ := h.issues
  rw [hw] at hnew
  exact (List.append_eq_nil_iff.mp hnew.symm).1

/-- The issues of a child lie at the child or below it. -/
theorem path_prefix_of_descend {v w : Visit} {seg : Segment} {x : Option Json}
    (h : w.Extends (v.descend seg x)) {i : Issue} (hi : i ∈ w.issues) :
    v.path ++ [seg] <+: i.path := by
  obtain ⟨new, hnew, hpaths⟩ := h.issues
  have hmem : i ∈ new := by simpa [descend, hnew] using hi
  exact hpaths i hmem

end Extends

theorem extends_set (v : Visit) (x : Json) : (v.set x).Extends v :=
  ⟨rfl, rfl, ⟨[], by simp [set]⟩, fun _ => rfl⟩

theorem extends_push (v : Visit) (violation : Violation) : (v.push violation).Extends v := by
  refine ⟨rfl, rfl, ⟨[.ofViolation v.path violation], rfl, ?_⟩, id⟩
  intro i hi
  obtain rfl : i = .ofViolation v.path violation := by simpa using hi
  exact List.prefix_refl v.path

theorem extends_refuse (v : Visit) (names : List String) : (v.refuse names).Extends v := by
  refine ⟨rfl, rfl, ⟨names.map v.unexpectedProperty, rfl, ?_⟩, id⟩
  intro i hi
  obtain ⟨name, -, rfl⟩ := List.mem_map.mp hi
  exact List.prefix_append v.path [.key name]

/-- A chain of transforms changes the value and nothing else. -/
theorem transform_eq (fs : List (Visit → Option Json)) (v : Visit) :
    v.transform fs = { v with value := (v.transform fs).value } := by
  induction fs generalizing v with
  | nil => rfl
  | cons f fs ih =>
      rw [transform_cons]
      cases f v with
      | none => exact ih v
      | some x => exact ih (v.set x)

@[simp] theorem issues_transform (fs : List (Visit → Option Json)) (v : Visit) :
    (v.transform fs).issues = v.issues := by
  rw [transform_eq]

theorem extends_transform (fs : List (Visit → Option Json)) (v : Visit) :
    (v.transform fs).Extends v := by
  induction fs generalizing v with
  | nil => exact .refl v
  | cons f fs ih =>
      rw [transform_cons]
      cases f v with
      | none => exact ih v
      | some x => exact (ih (v.set x)).trans (extends_set v x)

end Visit

namespace Node

variable {σ : Type} {n : Node} {t : Treatment} {o : Options σ} {v : Visit}

theorem extends_fillDefault (n : Node) (v : Visit) : (n.fillDefault v).Extends v := by
  unfold fillDefault
  split
  · exact Visit.extends_set v _
  · exact .refl v

theorem extends_prepare (n : Node) (t : Treatment) (v : Visit) : (n.prepare t v).Extends v :=
  (extends_fillDefault n _).trans (Visit.extends_transform _ v)

@[simp] theorem issues_prepare (n : Node) (t : Treatment) (v : Visit) :
    (n.prepare t v).issues = v.issues := by
  simp only [prepare, fillDefault, runParse]
  split <;> simp [Visit.set]

/-- Where no value comes out of the phases that can give one, there is no default. -/
theorem default_eq_none_of_undefined (h : (n.prepare t v).value = none) : n.default = none := by
  unfold prepare fillDefault at h
  split at h
  · simp [Visit.set] at h
  · rename_i hother
    cases hdefault : n.default with
    | none => rfl
    | some d => exact (hother d h hdefault).elim

/-- The state in which the type and the value of a node are checked. -/
def ready (n : Node) (t : Treatment) (v : Visit) : Visit :=
  n.runCoerce t (n.prepare t v)

theorem extends_runCoerce (n : Node) (t : Treatment) (v : Visit) : (n.runCoerce t v).Extends v := by
  unfold runCoerce
  split
  · exact .refl v
  · exact Visit.extends_transform _ v

theorem extends_ready (n : Node) (t : Treatment) (v : Visit) : (n.ready t v).Extends v :=
  (extends_runCoerce n t _).trans (extends_prepare n t v)

theorem value_ready_of_defined {x : Json} (h : (n.prepare t v).value = some x) :
    (n.ready t v).value = some (n.ready t v).current := by
  have hdefined : (n.ready t v).value.isSome := (extends_runCoerce n t _).defined (by simp [h])
  obtain ⟨y, hy⟩ := Option.isSome_iff_exists.mp hdefined
  simp [Visit.current, hy]

@[simp] theorem issues_ready (n : Node) (t : Treatment) (v : Visit) :
    (n.ready t v).issues = v.issues := by
  simp only [ready, runCoerce]
  split <;> simp

/-- The ways in which the phases before the children end.  A value is present when it is defined
and not an allowed `null`. -/
inductive Outcome (n : Node) (t : Treatment) (o : Options σ) (v : Visit) : Progress → Prop where
  | missing (undefined : (n.prepare t v).value = none) (required : n.required = true) :
      Outcome n t o v (.ended ((n.prepare t v).push missingViolation))
  | absent (undefined : (n.prepare t v).value = none) (optional : n.required = false) :
      Outcome n t o v (.ended (n.prepare t v))
  | null (isNull : (n.prepare t v).value = some .null) (nullable : n.nullable = true) :
      Outcome n t o v (.ended (n.prepare t v))
  | mistyped {x : Json} (defined : (n.prepare t v).value = some x)
      (present : x = .null → n.nullable = false)
      (type : n.kind.accepts (n.ready t v).current = false) :
      Outcome n t o v (.ended ((n.ready t v).push (typeViolation n.kind (n.ready t v).current)))
  | refused {x : Json} {violation : Violation} (defined : (n.prepare t v).value = some x)
      (present : x = .null → n.nullable = false)
      (type : n.kind.accepts (n.ready t v).current = true)
      (value : n.valueViolation t o (n.ready t v) = some violation) :
      Outcome n t o v (.ended ((n.ready t v).push violation))
  | entered {x : Json} (defined : (n.prepare t v).value = some x)
      (present : x = .null → n.nullable = false)
      (type : n.kind.accepts (n.ready t v).current = true)
      (value : n.valueViolation t o (n.ready t v) = none) :
      Outcome n t o v (.going (n.ready t v))

theorem checkPresence_of_present {x : Json} (defined : v.value = some x)
    (present : x = .null → n.nullable = false) : n.checkPresence v = .going v := by
  unfold checkPresence
  cases x with
  | null => simp [defined, present rfl]
  | bool _ => simp [defined]
  | num _ => simp [defined]
  | str _ => simp [defined]
  | arr _ => simp [defined]
  | obj _ => simp [defined]

/-- The phases of a present value are the check of its type and then of the value. -/
theorem enter_of_present {x : Json} (defined : (n.prepare t v).value = some x)
    (present : x = .null → n.nullable = false) :
    n.enter t o v = (n.checkType (n.ready t v)).andThen (n.checkValue t o) := by
  rw [enter, checkPresence_of_present defined present]
  rfl

theorem outcome_of_present {x : Json} (defined : (n.prepare t v).value = some x)
    (present : x = .null → n.nullable = false) : n.Outcome t o v (n.enter t o v) := by
  rw [enter_of_present defined present, checkType]
  cases type : n.kind.accepts (n.ready t v).current with
  | false => exact .mistyped defined present type
  | true =>
      simp only [↓reduceIte, Progress.andThen, checkValue]
      cases value : n.valueViolation t o (n.ready t v) with
      | none => exact .entered defined present type value
      | some violation => exact .refused defined present type value

/-- The phases before the children end in one of these ways. -/
theorem outcome_enter (n : Node) (t : Treatment) (o : Options σ) (v : Visit) :
    n.Outcome t o v (n.enter t o v) := by
  cases defined : (n.prepare t v).value with
  | none =>
      rw [enter, checkPresence, defined]
      cases required : n.required with
      | true => exact .missing defined required
      | false => exact .absent defined required
  | some x =>
      by_cases present : x = .null → n.nullable = false
      · exact outcome_of_present defined present
      · obtain ⟨rfl, nullable⟩ : x = .null ∧ n.nullable = true := by simpa using present
        rw [enter, checkPresence, defined]
        simp only [nullable, ↓reduceIte, Progress.andThen]
        exact .null defined nullable

/-- Phases that go on have found a value of the kind of the node. -/
theorem accepts_of_going {w : Visit} (h : n.enter t o v = .going w) :
    w.value = some w.current ∧ n.kind.accepts w.current = true := by
  have houtcome := n.outcome_enter t o v
  rw [h] at houtcome
  cases houtcome with
  | entered defined present type value => exact ⟨value_ready_of_defined defined, type⟩

theorem extends_enter (n : Node) (t : Treatment) (o : Options σ) (v : Visit) :
    (n.enter t o v).visit.Extends v := by
  have h := n.outcome_enter t o v
  generalize n.enter t o v = p at h ⊢
  cases h with
  | missing => exact (Visit.extends_push _ _).trans (extends_prepare n t v)
  | absent => exact extends_prepare n t v
  | null => exact extends_prepare n t v
  | mistyped => exact (Visit.extends_push _ _).trans (extends_ready n t v)
  | refused => exact (Visit.extends_push _ _).trans (extends_ready n t v)
  | entered => exact extends_ready n t v

end Node

end Conform
