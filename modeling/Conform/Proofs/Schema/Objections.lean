import Conform.Proofs.Schema.Phases
import Mathlib.Tactic.Push

/-!
# The objection of a node

A node that fails finds one violation and ends there.  This file says which phase finds which
violation, in which state, and that the phases end in exactly these ways.
-/

namespace Conform

open Visit

/-- The phase that an issue comes from. -/
inductive Origin where
  | presence
  | type
  | options
  | check (f : Visit → Option Violation)
  | undeclared (name : String)

namespace Node

variable {σ : Type}

/-- The violation that ends the phases of a node, with the state and the phase that it is found in.
Of the handlers and checks, the first one with an answer objects. -/
inductive Objects (n : Node) (t : Treatment) (o : Options σ) (v : Visit) :
    Visit → Origin → Violation → Prop where
  | missing (undefined : (n.prepare t v).value = none) (required : n.required = true) :
      Objects n t o v (n.prepare t v) .presence missingViolation
  | mistyped {x : Json} (defined : (n.prepare t v).value = some x)
      (present : x = .null → n.nullable = false)
      (type : n.kind.accepts (n.ready t v).current = false) :
      Objects n t o v (n.ready t v) .type (typeViolation n.kind (n.ready t v).current)
  | unlisted {x : Json} {options : List Json} (defined : (n.prepare t v).value = some x)
      (present : x = .null → n.nullable = false)
      (type : n.kind.accepts (n.ready t v).current = true) (values : o = .values options)
      (none : (options.any fun y => y.sameOption (n.ready t v).current) = false) :
      Objects n t o v (n.ready t v) .options (enumViolation options (n.ready t v).current)
  | rejected {x : Json} {f : Visit → Option Violation} {violation : Violation}
      {earlier later : List (Visit → Option Violation)}
      (defined : (n.prepare t v).value = some x) (present : x = .null → n.nullable = false)
      (type : n.kind.accepts (n.ready t v).current = true)
      (listed : ∀ options, o = .values options →
        (options.any fun y => y.sameOption (n.ready t v).current) = true)
      (checks : t.validate ++ n.checks.map Check.run = earlier ++ f :: later)
      (passed : ∀ g ∈ earlier, g (n.ready t v) = none)
      (found : f (n.ready t v) = some violation) :
      Objects n t o v (n.ready t v) (.check f) violation

variable {n : Node} {t : Treatment} {o : Options σ} {v w : Visit}

/-- A violation of a value that is listed, if it has to be, comes from a check. -/
theorem valueViolation_of_listed
    (listed : ∀ options, o = .values options →
      (options.any fun y => y.sameOption w.current) = true) :
    n.valueViolation t o w = n.firstViolation t w := by
  cases o with
  | none => rfl
  | models ss => rfl
  | values options => rw [valueViolation, listed options rfl, if_pos rfl]

/-- A violation of the value is found among the options or by the first check with an answer. -/
theorem objects_of_valueViolation {x : Json} {violation : Violation}
    (defined : (n.prepare t v).value = some x) (present : x = .null → n.nullable = false)
    (type : n.kind.accepts (n.ready t v).current = true)
    (value : n.valueViolation t o (n.ready t v) = some violation) :
    ∃ origin, n.Objects t o v (n.ready t v) origin violation := by
  by_cases listed : ∀ options, o = .values options →
      (options.any fun y => y.sameOption (n.ready t v).current) = true
  · rw [valueViolation_of_listed listed, firstViolation, List.findSome?_eq_some_iff] at value
    obtain ⟨earlier, f, later, checks, found, passed⟩ := value
    exact ⟨.check f, .rejected defined present type listed checks passed found⟩
  · push Not at listed
    obtain ⟨options, rfl, hnone⟩ := listed
    have none : (options.any fun y => y.sameOption (n.ready t v).current) = false := by
      simpa using hnone
    rw [valueViolation, none, if_neg Bool.false_ne_true] at value
    obtain rfl := Option.some.inj value
    exact ⟨.options, .unlisted defined present type rfl none⟩

/-- Phases that have ended have found nothing or end with an objection. -/
theorem objects_of_ended {u : Visit} (h : n.enter t o v = .ended u) :
    u.issues = v.issues ∨
      ∃ w origin violation, n.Objects t o v w origin violation ∧ u = w.push violation := by
  have houtcome := n.outcome_enter t o v
  rw [h] at houtcome
  cases houtcome with
  | missing undefined required => exact .inr ⟨_, _, _, .missing undefined required, rfl⟩
  | absent undefined optional => exact .inl (issues_prepare n t v)
  | null isNull nullable => exact .inl (issues_prepare n t v)
  | mistyped defined present type => exact .inr ⟨_, _, _, .mistyped defined present type, rfl⟩
  | refused defined present type value =>
      obtain ⟨origin, hobjects⟩ := objects_of_valueViolation defined present type value
      exact .inr ⟨_, origin, _, hobjects, rfl⟩

namespace Objects

variable {origin : Origin} {violation : Violation}

/-- An objection ends the phases of its node. -/
theorem enter_eq (h : n.Objects t o v w origin violation) :
    n.enter t o v = .ended (w.push violation) := by
  cases h with
  | missing undefined required =>
      rw [enter, checkPresence, undefined]
      simp [required, Progress.andThen]
  | mistyped defined present type =>
      rw [enter_of_present defined present, checkType, type]
      rfl
  | unlisted defined present type values none =>
      subst values
      rw [enter_of_present defined present, checkType, type]
      simp [Progress.andThen, checkValue, valueViolation, none]
  | rejected defined present type listed checks passed found =>
      have hfirst : n.firstViolation t (n.ready t v) = some violation := by
        rw [firstViolation, checks, List.findSome?_append,
          List.findSome?_eq_none_iff.mpr passed]
        simp [found]
      rw [enter_of_present defined present, checkType, type]
      simp [Progress.andThen, checkValue, valueViolation_of_listed listed, hfirst]

theorem path_eq (h : n.Objects t o v w origin violation) : w.path = v.path := by
  cases h with
  | missing => exact (extends_prepare n t v).path
  | mistyped => exact (extends_ready n t v).path
  | unlisted => exact (extends_ready n t v).path
  | rejected => exact (extends_ready n t v).path

theorem issues_eq (h : n.Objects t o v w origin violation) : w.issues = v.issues := by
  cases h with
  | missing => exact issues_prepare n t v
  | mistyped => exact issues_ready n t v
  | unlisted => exact issues_ready n t v
  | rejected => exact issues_ready n t v

end Objects

end Node

end Conform
