import Conform.Proofs.Schema.Calls
import Conform.Proofs.Schema.Phases
import Conform.Proofs.Standard.Coercion

/-!
# Satisfying a schema

The declarative reading of a schema: which values, and whether an undefined one, it describes.
It speaks of a finished value alone and knows no phases, no coercion and no order of checks.  The
main statement of this file is that the check of the value at a closure-free node finds nothing
exactly when the node admits the value.
-/

namespace Conform

open Standard

/-- What the bounds of a node are compared with: the value of a number, the characters of a string
or the items of an array. -/
def Kind.measure? : Kind → Json → Option Double
  | .number, .num n | .integer, .num n => some n.toDouble
  | .string, .str s => some (Double.ofInt s.length)
  | .array, .arr items => some (Double.ofInt items.length)
  | _, _ => none

/-- A value within the bounds attached to a node. -/
structure Traits.WithinBounds (tr : Traits) (v : Json) : Prop where
  least : ∀ m b, tr.kind.measure? v = some m → bound? tr "min" = some b → m.less b = false
  most : ∀ m b, tr.kind.measure? v = some m → bound? tr "max" = some b → b.less m = false

/-- A value that is right for a node, apart from what is inside it. -/
structure Node.Admits (n : Node) (o : Options Schema) (v : Json) : Prop where
  type : n.kind.accepts v = true
  bounds : n.toTraits.WithinBounds v
  patterns : ∀ p text, Check.pattern p ∈ n.checks → v = .str text → p.isMatch text = true
  options : ∀ vs, o = .values vs → ∃ x ∈ vs, x.sameOption v = true

/-- The values that a schema describes, where none stands for undefined. -/
inductive Schema.Satisfies : Schema → Option Json → Prop where
  | absent {s : Schema} (optional : s.node.required = false) (noDefault : s.node.default = none) :
      Satisfies s none
  | null {s : Schema} (nullable : s.node.nullable = true) : Satisfies s (some .null)
  | value {s : Schema} {v : Json} (admits : s.node.Admits s.options v)
      (properties : ∀ fields, s.kind = .object → v = .obj fields →
        ∀ p ∈ s.properties, Satisfies p.2 (Fields.get? fields p.1))
      (declared : ∀ fields, s.kind = .object → v = .obj fields → s.node.strict = true →
        ∀ name, (Fields.get? fields name).isSome → (s.property? name).isSome)
      (elements : ∀ items e, s.kind = .array → v = .arr items → s.element? = some e →
        ∀ x ∈ items, Satisfies e (some x)) :
      Satisfies s (some v)

/-- A value that is not an allowed null satisfies a schema by the node and by what is inside. -/
theorem Schema.satisfies_iff_of_present {s : Schema} {v : Json}
    (present : v = .null → s.node.nullable = false) :
    s.Satisfies (some v) ↔
      s.node.Admits s.options v ∧
        (∀ fields, s.kind = .object → v = .obj fields →
          ∀ p ∈ s.properties, p.2.Satisfies (Fields.get? fields p.1)) ∧
        (∀ fields, s.kind = .object → v = .obj fields → s.node.strict = true →
          ∀ name, (Fields.get? fields name).isSome → (s.property? name).isSome) ∧
        ∀ items e, s.kind = .array → v = .arr items → s.element? = some e →
          ∀ x ∈ items, e.Satisfies (some x) := by
  constructor
  · intro h
    cases h with
    | null nullable => simp [present rfl] at nullable
    | value admits properties declared elements =>
        exact ⟨admits, properties, declared, elements⟩
  · rintro ⟨admits, properties, declared, elements⟩
    exact .value admits properties declared elements

/-! ### Closure-free schemas -/

namespace Schema

/-- A node that calls on a context make without conditional options and without hooks of the
caller's own that parse, coerce or check. -/
@[mk_iff]
structure ClosureFree (t : Table Schema) (s : Schema) : Prop extends Built t s where
  parse : s.node.parse = none
  coerce : s.node.coerce = none
  checks : ∀ c ∈ s.node.checks, ∃ p, c = .pattern p
  unconditional : s.options.isConditional = false

/-- A closure-free node that lists options only where the kind has no children.  The default may
be literal or computed. -/
@[mk_iff]
structure Plain (t : Table Schema) (s : Schema) : Prop extends ClosureFree t s where
  scalarOptions : s.kind.isComposite = true → s.options = .none

end Schema

namespace Schema.ClosureFree

variable {t : Table Schema} {fs : Traits → List (Json → Option Json)} {s : Schema} {v : Visit}

theorem prepare_eq (h : s.ClosureFree t) (ht : t.CoercesBy fs) (v : Visit) :
    s.node.prepare s.treatment v = s.node.fillDefault v := by
  simp [Node.prepare, Node.runParse, h.parse, ht.parse_treatment h.table]

end Schema.ClosureFree

/-! ### Bounds, patterns and options -/

namespace Standard

theorem checkBounds_eq_none_iff (tr : Traits) (value : Json) (m : Measure) :
    checkBounds tr value m = none ↔
      (∀ b, bound? tr "min" = some b → m.amount.less b = false) ∧
        ∀ b, bound? tr "max" = some b → b.less m.amount = false := by
  unfold checkBounds
  cases hmin : bound? tr "min" with
  | none =>
      cases hmax : bound? tr "max" with
      | none => simp
      | some most => cases h : most.less m.amount <;> simp [Option.filter, h]
  | some least =>
      cases hl : m.amount.less least with
      | true => simp [Option.filter, hl]
      | false =>
          cases hmax : bound? tr "max" with
          | none => simp [Option.filter, hl]
          | some most => cases h : most.less m.amount <;> simp [Option.filter, hl, h]

theorem withinBounds_iff {tr : Traits} {v : Json} {m : Double} (hm : tr.kind.measure? v = some m) :
    tr.WithinBounds v ↔
      (∀ b, bound? tr "min" = some b → m.less b = false) ∧
        ∀ b, bound? tr "max" = some b → b.less m = false := by
  constructor
  · intro h
    exact ⟨fun b => h.least m b hm, fun b => h.most m b hm⟩
  · rintro ⟨hleast, hmost⟩
    constructor
    · intro m' b hm'
      obtain rfl : m = m' := Option.some.inj (hm.symm.trans hm')
      exact hleast b
    · intro m' b hm'
      obtain rfl : m = m' := Option.some.inj (hm.symm.trans hm')
      exact hmost b

theorem withinBounds_of_no_measure {tr : Traits} {v : Json} (hm : tr.kind.measure? v = none) :
    tr.WithinBounds v := by
  constructor
  · intro m b hm'
    rw [hm] at hm'
    contradiction
  · intro m b hm'
    rw [hm] at hm'
    contradiction

/-- The standard assertions on a value of the right type are its bounds. -/
theorem boundChecks_eq_none_iff {tr : Traits} {v : Visit}
    (htype : tr.kind.accepts v.current = true) :
    (∀ f ∈ boundChecks tr, f v = none) ↔ tr.WithinBounds v.current := by
  rw [boundChecks]
  cases hk : tr.kind with
  | number =>
      cases hv : v.current with
      | num n =>
          have hm : tr.kind.measure? (.num n) = some n.toDouble := by rw [hk]; rfl
          simp [checkRange, hv, Json.double?, Json.number?, checkBounds_eq_none_iff,
            withinBounds_iff hm]
      | _ => simp [hk, hv, Kind.accepts] at htype
  | integer =>
      cases hv : v.current with
      | num n =>
          have hm : tr.kind.measure? (.num n) = some n.toDouble := by rw [hk]; rfl
          simp [checkRange, hv, Json.double?, Json.number?, checkBounds_eq_none_iff,
            withinBounds_iff hm]
      | _ => simp [hk, hv, Kind.accepts] at htype
  | string =>
      cases hv : v.current with
      | str s =>
          have hm : tr.kind.measure? (.str s) = some (Double.ofInt s.length) := by rw [hk]; rfl
          simp [checkLength, hv, checkBounds_eq_none_iff, withinBounds_iff hm]
      | _ => simp [hk, hv, Kind.accepts] at htype
  | array =>
      cases hv : v.current with
      | arr items =>
          have hm : tr.kind.measure? (.arr items) = some (Double.ofInt items.length) := by
            rw [hk]; rfl
          simp [checkLength, hv, checkBounds_eq_none_iff, withinBounds_iff hm]
      | _ => simp [hk, hv, Kind.accepts] at htype
  | any => simpa using withinBounds_of_no_measure (by rw [hk]; rfl)
  | object => simpa using withinBounds_of_no_measure (by rw [hk]; rfl)
  | boolean => simpa using withinBounds_of_no_measure (by rw [hk]; rfl)
  | date => simpa using withinBounds_of_no_measure (by rw [hk]; rfl)

end Standard

theorem Check.run_pattern_eq_none_iff (p : Pattern) (v : Visit) :
    (Check.pattern p).run v = none ↔ ∀ text, v.current = .str text → p.isMatch text = true := by
  cases hv : v.current with
  | str text => cases h : p.isMatch text <;> simp [Check.run, hv, h]
  | _ => simp [Check.run, hv]

/-- Where all checks are patterns, nothing is found exactly when the value is one of the options,
passes the assertions and matches the patterns. -/
theorem Node.valueViolation_eq_none_iff {n : Node} {t : Treatment} {o : Options Schema}
    {v : Visit} (hchecks : ∀ c ∈ n.checks, ∃ p, c = .pattern p) :
    n.valueViolation t o v = none ↔
      (∀ vs, o = .values vs → ∃ x ∈ vs, x.sameOption v.current = true) ∧
        (∀ f ∈ t.validate, f v = none) ∧
          ∀ p text, Check.pattern p ∈ n.checks → v.current = .str text → p.isMatch text = true := by
  have hfirst : n.firstViolation t v = none ↔
      (∀ f ∈ t.validate, f v = none) ∧
        ∀ p text, Check.pattern p ∈ n.checks → v.current = .str text →
          p.isMatch text = true := by
    rw [firstViolation, List.findSome?_eq_none_iff]
    constructor
    · intro h
      refine ⟨fun f hf => h f (by simp [hf]), fun p text hp => ?_⟩
      have hrun : (Check.pattern p).run v = none :=
        h _ (List.mem_append.mpr (Or.inr (List.mem_map.mpr ⟨_, hp, rfl⟩)))
      exact (Check.run_pattern_eq_none_iff p v).mp hrun text
    · rintro ⟨hassertions, hpatterns⟩ f hf
      rcases List.mem_append.mp hf with hf | hf
      · exact hassertions f hf
      · obtain ⟨c, hc, rfl⟩ := List.mem_map.mp hf
        obtain ⟨p, rfl⟩ := hchecks c hc
        exact (Check.run_pattern_eq_none_iff p v).mpr fun text => hpatterns p text hc
  rw [← hfirst]
  cases o with
  | none => simp [valueViolation]
  | models ss => simp [valueViolation]
  | values vs =>
      by_cases hany : ∃ x ∈ vs, x.sameOption v.current = true
      · simp [valueViolation, hany]
      · simp [valueViolation, hany]

namespace Schema.ClosureFree

variable {s : Schema} {v : Visit}

/-- At a closure-free node of the standard context the check of a value of the right type finds
nothing exactly when the node admits the value. -/
theorem valueViolation_eq_none_iff (h : s.ClosureFree Standard.table)
    (htype : s.node.kind.accepts v.current = true) :
    s.node.valueViolation s.treatment s.options v = none ↔ s.node.Admits s.options v.current := by
  rw [Node.valueViolation_eq_none_iff h.checks, Standard.treatment_eq h.table]
  change _ ∧ (∀ f ∈ Standard.boundChecks s.node.toTraits, f v = none) ∧ _ ↔ _
  rw [Standard.boundChecks_eq_none_iff htype]
  constructor
  · rintro ⟨hoptions, hbounds, hpatterns⟩
    exact ⟨htype, hbounds, hpatterns, hoptions⟩
  · intro hadmits
    exact ⟨hadmits.options, hadmits.bounds, hadmits.patterns⟩

end Schema.ClosureFree

end Conform
