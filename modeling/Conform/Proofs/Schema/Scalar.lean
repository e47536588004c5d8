import Conform.Proofs.Schema.Soundness

/-!
# Scalars

The validation of schemas for kinds without children: the coercion, the check of the type and the
check of the value.  For the schemas of the standard context with no other setting than whether they
are strict, the value in the end is what the coercion made, and an issue is found exactly when that
has another type.
-/

namespace Conform

open Visit

namespace Schema

variable {k : Kind} {strict : Bool} {x y : Json}

/-- The validation of a value that has no children to validate, by a schema without hooks of the
caller's own over a table whose coercions are functions of the value: what they make of the value is
checked for its type, and then by the checks of the node. -/
theorem run_coerced {t : Table Schema} {fs : Traits → List (Json → Option Json)}
    (ht : t.CoercesBy fs) {s : Schema} {v w : Visit} (hfree : s.ClosureFree t)
    (hobject : s.kind ≠ .object) (harray : s.kind = .array → s.element? = none)
    (hprepare : s.node.prepare s.treatment v = w) (hx : w.value = some x) (hnull : x ≠ .null)
    (hy : s.node.coerced fs x = y) :
    s.run v =
      if s.kind.accepts y then
        match s.node.valueViolation s.treatment s.options (w.set y) with
        | some violation => (w.set y).push violation
        | none => w.set y
      else (w.set y).push (Node.typeViolation s.kind y) := by
  have hdefined : (s.node.prepare s.treatment v).value = some x := by rw [hprepare, hx]
  have hready : s.node.ready s.treatment v = w.set y := by
    rw [ready_eq ht hfree.table hfree.coerce hdefined, hprepare, hy]
  have henter := Node.enter_of_present (o := s.options) hdefined fun hx => (hnull hx).elim
  rw [hready, Node.checkType] at henter
  have hcurrent : s.node.kind.accepts (w.set y).current = s.kind.accepts y := rfl
  rw [hcurrent] at henter
  by_cases htype : s.kind.accepts y = true
  · rw [if_pos htype, Progress.andThen, Node.checkValue] at henter
    rw [if_pos htype]
    cases hvalue : s.node.valueViolation s.treatment s.options (w.set y) with
    | some violation =>
        rw [hvalue] at henter
        exact run_of_ended henter
    | none =>
        rw [hvalue] at henter
        have hnames : s.refusedNames (w.set y) = [] := by
          unfold refusedNames
          split
          · rename_i hkind _
            exact (hobject hkind).elim
          · rfl
        rw [run_of_going henter, hnames, runOptions_of_not_conditional hfree.unconditional,
          runChildren_of_childless (fun h => (hobject h).elim) harray]
        simp [refuse]
  · rw [if_neg htype] at henter ⊢
    exact run_of_ended henter

theorem validate_coerced {t : Table Schema} {fs : Traits → List (Json → Option Json)}
    (ht : t.CoercesBy fs) {s : Schema} (hfree : s.ClosureFree t) (hobject : s.kind ≠ .object)
    (harray : s.kind = .array → s.element? = none) (hnull : x ≠ .null)
    (hy : s.node.coerced fs x = y) :
    s.validate (some x) =
      if s.kind.accepts y then
        match s.node.valueViolation s.treatment s.options ((Visit.start (some x)).set y) with
        | some violation => ((Visit.start (some x)).set y).push violation
        | none => (Visit.start (some x)).set y
      else ((Visit.start (some x)).set y).push (Node.typeViolation s.kind y) := by
  have hprepare : s.node.prepare s.treatment (.start (some x)) = .start (some x) := by
    rw [hfree.prepare_eq ht, Node.fillDefault]
    rfl
  exact run_coerced ht hfree hobject harray hprepare rfl hnull hy

/-- The validation of a value that has no children to validate, by a schema of the standard context
without hooks of the caller's own. -/
theorem validate_childless {s : Schema} (hfree : s.ClosureFree Standard.table)
    (hobject : s.kind ≠ .object) (harray : s.kind = .array → s.element? = none) (hnull : x ≠ .null)
    (hy : s.node.coerced (fun tr => (Standard.coercionOf tr.kind).toList) x = y) :
    s.validate (some x) =
      if s.kind.accepts y then
        match s.node.valueViolation s.treatment s.options ((Visit.start (some x)).set y) with
        | some violation => ((Visit.start (some x)).set y).push violation
        | none => (Visit.start (some x)).set y
      else ((Visit.start (some x)).set y).push (Node.typeViolation s.kind y) :=
  validate_coerced Standard.coercesBy hfree hobject harray hnull hy

/-- The validation of a scalar without hooks of the caller's own: what the coercion makes of the
value is checked for its type, and then by the checks of the node. -/
theorem validate_scalar {s : Schema} (hfree : s.ClosureFree Standard.table)
    (scalar : s.kind.isComposite = false) (hnull : x ≠ .null)
    (hy : s.node.coerced (fun tr => (Standard.coercionOf tr.kind).toList) x = y) :
    s.validate (some x) =
      if s.kind.accepts y then
        match s.node.valueViolation s.treatment s.options ((Visit.start (some x)).set y) with
        | some violation => ((Visit.start (some x)).set y).push violation
        | none => (Visit.start (some x)).set y
      else ((Visit.start (some x)).set y).push (Node.typeViolation s.kind y) := by
  have hobject : s.kind ≠ .object := by
    intro hkind
    rw [hkind] at scalar
    contradiction
  have harray : s.kind ≠ .array := by
    intro hkind
    rw [hkind] at scalar
    contradiction
  exact validate_childless hfree hobject (fun h => (harray h).elim) hnull hy

/-- The schema of a kind with no other setting than whether it is strict. -/
def bare (k : Kind) (strict : Bool) : Schema :=
  .ofNode { kind := k, strict } Standard.table

/-- The standard context makes the lenient schema of a kind. -/
theorem ofKind_standard (k : Kind) : (Context.standard.ofKind k).2 = bare k false := rfl

/-- A call makes it the strict one. -/
theorem edit_strict_bare (k : Kind) (strict : Bool) :
    (bare k strict).edit (.strict true) = .ok (bare k true) := by
  rw [edit]
  rfl

theorem closureFree_bare (k : Kind) (strict : Bool) :
    (bare k strict).ClosureFree Standard.table := by
  simp [bare, ofNode, closureFree_iff, built_iff, Options.isConditional]

/-- A node without options, bounds and patterns admits every value of its kind. -/
theorem admits_of_unsettled {n : Node} (hmin : Standard.bound? n.toTraits "min" = none)
    (hmax : Standard.bound? n.toTraits "max" = none) (hchecks : n.checks = [])
    (h : n.kind.accepts y = true) : n.Admits .none y := by
  refine ⟨h, ⟨?_, ?_⟩, ?_, ?_⟩
  · intro m b _ hb
    simp [hmin] at hb
  · intro m b _ hb
    simp [hmax] at hb
  · intro p text hp
    simp [hchecks] at hp
  · intro vs hvs
    contradiction

/-- A bare node admits every value of its kind. -/
theorem admits_bare (h : k.accepts y = true) :
    (bare k strict).node.Admits (bare k strict).options y :=
  admits_of_unsettled rfl rfl rfl h

/-- A bare scalar ends with what the coercion makes of a value, and finds one issue when that does
not have its type. -/
theorem validate_bare (scalar : k.isComposite = false) (hnull : x ≠ .null)
    (hy : (if strict then x else Coercion.applyAll (Standard.coercionOf k).toList x) = y) :
    (bare k strict).validate (some x) =
      if k.accepts y then (Visit.start (some x)).set y
      else ((Visit.start (some x)).set y).push (Node.typeViolation k y) := by
  have hkind : (bare k strict).kind = k := rfl
  rw [validate_scalar (closureFree_bare k strict) scalar hnull hy, hkind]
  by_cases htype : k.accepts y = true
  · have hvisit : (bare k strict).node.kind.accepts ((Visit.start (some x)).set y).current = true :=
      htype
    have hvalue := ((closureFree_bare k strict).valueViolation_eq_none_iff hvisit).mpr
      (admits_bare htype)
    rw [if_pos htype, if_pos htype, hvalue]
  · rw [if_neg htype, if_neg htype]

/-- A bare scalar accepts what the coercion of its kind makes a value of the kind. -/
theorem conforms_bare_iff (scalar : k.isComposite = false) (hnull : x ≠ .null)
    (hy : (if strict then x else Coercion.applyAll (Standard.coercionOf k).toList x) = y) :
    ((bare k strict).validate (some x)).conforms = true ↔ k.accepts y = true := by
  rw [validate_bare scalar hnull hy]
  cases k.accepts y with
  | false => simp [conforms, push]
  | true => simp [conforms, Visit.set, start]

theorem value_bare (scalar : k.isComposite = false) (hnull : x ≠ .null)
    (hy : (if strict then x else Coercion.applyAll (Standard.coercionOf k).toList x) = y) :
    ((bare k strict).validate (some x)).value = some y := by
  rw [validate_bare scalar hnull hy]
  cases k.accepts y <;> rfl

theorem issues_bare (scalar : k.isComposite = false) (hnull : x ≠ .null)
    (hy : (if strict then x else Coercion.applyAll (Standard.coercionOf k).toList x) = y) :
    ((bare k strict).validate (some x)).issues =
      if k.accepts y then [] else [.ofViolation [] (Node.typeViolation k y)] := by
  rw [validate_bare scalar hnull hy]
  cases k.accepts y <;> rfl

/-- A value conforms to a schema and becomes another one. -/
structure Yields (s : Schema) (x y : Json) : Prop where
  conforms : (s.validate (some x)).conforms = true
  value : (s.validate (some x)).value = some y

section

variable (scalar : k.isComposite = false) (hnull : x ≠ .null)
  (hy : Coercion.applyAll (Standard.coercionOf k).toList x = y)
include scalar hnull hy

theorem conforms_ofKind_iff :
    ((Context.standard.ofKind k).2.validate (some x)).conforms = true ↔ k.accepts y = true := by
  rw [ofKind_standard]
  exact conforms_bare_iff scalar hnull hy

theorem value_ofKind : ((Context.standard.ofKind k).2.validate (some x)).value = some y := by
  rw [ofKind_standard]
  exact value_bare scalar hnull hy

theorem issues_ofKind : ((Context.standard.ofKind k).2.validate (some x)).issues =
    if k.accepts y then [] else [.ofViolation [] (Node.typeViolation k y)] := by
  rw [ofKind_standard]
  exact issues_bare scalar hnull hy

/-- A value that the coercion makes one of the kind conforms and becomes what it makes. -/
theorem yields_ofKind (haccepts : k.accepts y = true) :
    (Context.standard.ofKind k).2.Yields x y :=
  ⟨(conforms_ofKind_iff scalar hnull hy).mpr haccepts, value_ofKind scalar hnull hy⟩

end

end Schema

end Conform
