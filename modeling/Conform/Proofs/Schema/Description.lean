import Conform.Proofs.Context.Obtained
import Conform.Proofs.Schema.Satisfies
import Conform.Schema.Describe

/-!
# What descriptions tell

A description is written in sections whose names differ: the node, its children, its options and its
data.  For schemas that carry no functions of the caller's own every section can be read back, so
that two of them over one table that have the same description are the same schema, and validate
every input alike.
-/

namespace Conform

/-- A kind is known by its name. -/
theorem Kind.name_inj {k k' : Kind} : k.name = k'.name ↔ k = k' := by
  refine ⟨fun h => ?_, congrArg name⟩
  have hread := congrArg ofName? h
  rw [ofName?_name, ofName?_name] at hread
  exact Option.some.inj hread

namespace Schema

/-- A well-formed node over a table that carries no function of the caller's own: it has no hooks,
no checks, no predicate, no computed default and no conditional options. -/
@[mk_iff]
structure Declarative (t : Table Schema) (s : Schema) : Prop extends ClosureFree t s where
  wellFormed : s.WellFormed
  unchecked : s.node.checks = []
  applies : s.node.applies = none
  literal : ∀ f, s.node.default ≠ some (.computed f)

variable {t : Table Schema} {s s' : Schema}

/-! ### The sections of a description -/

/-- The names of the fields that describe a node itself. -/
def nodeNames : List String :=
  ["type", "format", "required", "nullable", "strict", "default", "computedDefault"]

theorem among_nodeFields (n : Node) : (nodeFields n).Among nodeNames := by
  rw [nodeFields]
  cases n.format <;> rcases n.default with - | (_ | _) <;>
    simp [Fields.Among, Issue.optionalField, defaultFields, nodeNames]

theorem among_describeChildren (k : Kind) (c : Children Schema) :
    (describeChildren k c).Among ["properties", "items"] := by
  cases c with
  | none => simp [Fields.Among, describeChildren]
  | properties ps => cases k <;> simp [Fields.Among, describeChildren]
  | element e => cases k <;> simp [Fields.Among, describeChildren]

theorem among_describeOptions (o : Options Schema) :
    (describeOptions o).Among ["enum", "oneOf"] := by
  cases o <;> simp [Fields.Among, describeOptions]

theorem among_extraFields (n : Node) : (extraFields n).Among ["extra"] := by
  unfold extraFields
  split <;> simp [Fields.Among]

/-- Equal descriptions have equal sections. -/
theorem sections_of_describe (h : s.describe = s'.describe) :
    nodeFields s.node = nodeFields s'.node ∧
      describeChildren s.kind s.children = describeChildren s'.kind s'.children ∧
      describeOptions s.options = describeOptions s'.options ∧
      extraFields s.node = extraFields s'.node := by
  obtain ⟨n, t, c, o⟩ := s
  obtain ⟨n', t', c', o'⟩ := s'
  have hlast (n : Node) (o : Options Schema) :=
    (among_describeOptions o).append (among_extraFields n)
  have hlater (n : Node) (c : Children Schema) (o : Options Schema) :=
    (among_describeChildren n.kind c).append (hlast n o)
  simp only [describe, Json.obj.injEq, List.append_assoc] at h
  obtain ⟨hnode, h⟩ := Fields.Among.append_inj (among_nodeFields n) (among_nodeFields n')
    (hlater n c o) (hlater n' c' o') (by decide) h
  obtain ⟨hchildren, h⟩ := Fields.Among.append_inj (among_describeChildren n.kind c)
    (among_describeChildren n'.kind c') (hlast n o) (hlast n' o') (by decide) h
  obtain ⟨hoptions, hextra⟩ := Fields.Among.append_inj (among_describeOptions o)
    (among_describeOptions o') (among_extraFields n) (among_extraFields n') (by decide) h
  exact ⟨hnode, hchildren, hoptions, hextra⟩

/-! ### Reading the sections back -/

theorem defaultFields_inj {d d' : Option Default} (hd : ∀ f, d ≠ some (.computed f))
    (hd' : ∀ f, d' ≠ some (.computed f)) (h : defaultFields d = defaultFields d') : d = d' := by
  rcases d with - | (v | f)
  · rcases d' with - | (v' | f')
    · rfl
    · contradiction
    · exact (hd' f' rfl).elim
  · rcases d' with - | (v' | f')
    · contradiction
    · simpa [defaultFields] using h
    · exact (hd' f' rfl).elim
  · exact (hd f rfl).elim

theorem nodeFields_inj {n n' : Node} (h : nodeFields n = nodeFields n') :
    n.kind = n'.kind ∧ n.format = n'.format ∧ n.required = n'.required ∧
      n.nullable = n'.nullable ∧ n.strict = n'.strict ∧
      defaultFields n.default = defaultFields n'.default := by
  rw [nodeFields, nodeFields] at h
  cases hf : n.format with
  | none =>
      cases hf' : n'.format with
      | none => simpa [hf, hf', Issue.optionalField, Kind.name_inj] using h
      | some f' => simp [hf, hf', Issue.optionalField] at h
  | some f =>
      cases hf' : n'.format with
      | none => simp [hf, hf', Issue.optionalField] at h
      | some f' => simpa [hf, hf', Issue.optionalField, Kind.name_inj] using h

theorem extraFields_inj {n n' : Node} (h : extraFields n = extraFields n') :
    n.extra = n'.extra := by
  rw [extraFields, extraFields] at h
  cases hextra : n.extra with
  | nil =>
      cases hextra' : n'.extra with
      | nil => rfl
      | cons e rest => simp [hextra, hextra'] at h
  | cons e rest =>
      cases hextra' : n'.extra with
      | nil => simp [hextra, hextra'] at h
      | cons e' rest' => simpa [hextra, hextra'] using h

/-- A node without functions of the caller's own is known by its two sections. -/
theorem Declarative.node_eq (hs : s.Declarative t) (hs' : s'.Declarative t)
    (hfields : nodeFields s.node = nodeFields s'.node)
    (hextra : extraFields s.node = extraFields s'.node) : s.node = s'.node := by
  obtain ⟨hkind, hformat, hrequired, hnullable, hstrict, hdefault⟩ := nodeFields_inj hfields
  have hextra := extraFields_inj hextra
  have hdefault := defaultFields_inj hs.literal hs'.literal hdefault
  have hparse := hs.parse.trans hs'.parse.symm
  have hcoerce := hs.coerce.trans hs'.coerce.symm
  have hchecks := hs.unchecked.trans hs'.unchecked.symm
  have happlies := hs.applies.trans hs'.applies.symm
  generalize s.node = n at *
  generalize s'.node = n' at *
  obtain ⟨⟨kind, format, required, nullable, strict, extra⟩, default, applies, parse, coerce,
    checks⟩ := n
  obtain ⟨⟨kind', format', required', nullable', strict', extra'⟩, default', applies', parse',
    coerce', checks'⟩ := n'
  simp_all

theorem describeProperties_inj {ps qs : List (String × Schema)}
    (ih : ∀ p ∈ ps, ∀ q ∈ qs, p.2.describe = q.2.describe → p.2 = q.2)
    (h : describeProperties ps = describeProperties qs) : ps = qs := by
  induction ps generalizing qs with
  | nil =>
      cases qs with
      | nil => rfl
      | cons q qs => contradiction
  | cons p ps ihps =>
      cases qs with
      | nil => contradiction
      | cons q qs =>
          obtain ⟨hhead, htail⟩ := List.cons.inj h
          obtain ⟨hname, hdescribe⟩ := Prod.mk.inj hhead
          have hschema := ih p (by simp) q (by simp) hdescribe
          have hrest := ihps (fun p hp q hq => ih p (by simp [hp]) q (by simp [hq])) htail
          rw [Prod.ext hname hschema, hrest]

/-- The children of a well-formed node are known by their section, if the schemas among them are
known by their descriptions. -/
theorem children_eq_of_describe (hs : ChildrenFit s.kind s.children)
    (hs' : ChildrenFit s'.kind s'.children) (hkind : s.kind = s'.kind)
    (ih : ∀ p ∈ s.parts, ∀ q ∈ s'.parts, p.describe = q.describe → p = q)
    (h : describeChildren s.kind s.children = describeChildren s'.kind s'.children) :
    s.children = s'.children := by
  have hproperty (p) (hp : p ∈ s.properties) (q) (hq : q ∈ s'.properties) :=
    ih p.2 (mem_parts_of_property hp) q.2 (mem_parts_of_property hq)
  have helement (e) (he : s.element? = some e) (e') (he' : s'.element? = some e') :=
    ih e (mem_parts_of_element he) e' (mem_parts_of_element he')
  rw [← hkind] at hs' h
  rw [properties, properties] at hproperty
  rw [element?, element?] at helement
  generalize s.children = c at *
  generalize s'.children = c' at *
  generalize s.kind = k at *
  cases hs with
  | none =>
      cases hs' with
      | none => rfl
      | properties _ => contradiction
      | element e' => contradiction
  | @properties ps _ =>
      cases hs' with
      | none => contradiction
      | @properties qs _ =>
          have hdescribe : describeProperties ps = describeProperties qs := by
            simpa [describeChildren] using h
          exact congrArg Children.properties (describeProperties_inj hproperty hdescribe)
  | element e =>
      cases hs' with
      | none => contradiction
      | element e' =>
          have hdescribe : e.describe = e'.describe := by
            simpa [describeChildren] using h
          exact congrArg Children.element (helement e rfl e' rfl hdescribe)

theorem describeOptions_inj {o o' : Options Schema} (ho : o.isConditional = false)
    (ho' : o'.isConditional = false) (h : describeOptions o = describeOptions o') : o = o' := by
  cases o with
  | none =>
      cases o' with
      | none => rfl
      | values vs' => contradiction
      | models ss' => contradiction
  | values vs =>
      cases o' with
      | none => contradiction
      | values vs' => simpa [describeOptions] using h
      | models ss' => contradiction
  | models ss => contradiction

/-- Schemas over one table without functions of the caller's own are known by their
descriptions. -/
theorem eq_of_describe (hs : s.Forall (Declarative t)) (hs' : s'.Forall (Declarative t))
    (h : s.describe = s'.describe) : s = s' := by
  induction s using Schema.induction generalizing s' with
  | mk s ih =>
      obtain ⟨hfields, hchildren, hoptions, hextra⟩ := sections_of_describe h
      have hnode : s.node = s'.node := hs.here.node_eq hs'.here hfields hextra
      have htable : s.table = s'.table := hs.here.table.trans hs'.here.table.symm
      have hchildren : s.children = s'.children :=
        children_eq_of_describe hs.here.wellFormed.children hs'.here.wellFormed.children
          (congrArg (fun n => n.kind) hnode)
          (fun p hp q hq => ih p hp (hs.part hp) (hs'.part hq)) hchildren
      have hoptions : s.options = s'.options :=
        describeOptions_inj hs.here.unconditional hs'.here.unconditional hoptions
      obtain ⟨n, u, c, o⟩ := s
      obtain ⟨n', u', c', o'⟩ := s'
      exact Schema.mk.injEq .. ▸ ⟨hnode, htable, hchildren, hoptions⟩

/-- Well-formed schemas over one table without functions of the caller's own that have the same
description validate every input alike, undefined ones included: they end with the same value and
find the same issues in the same order. -/
theorem validate_of_describe (hs : s.Forall (Declarative t)) (hs' : s'.Forall (Declarative t))
    (h : s.describe = s'.describe) (input : Option Json) :
    s.validate input = s'.validate input := by
  obtain rfl : s = s' := eq_of_describe hs hs' h
  rfl

/-- A sealed object of a count, which has a default, and at most two tags. -/
def basket : Schema :=
  let tag : Schema := .mk { kind := .string } Standard.table .none (.values [.str "a", .str "b"])
  .mk { kind := .object, strict := true } Standard.table
    (.properties [("count", .ofNode { kind := .integer, default := some (.literal (.ofInt 1)) }
        Standard.table),
      ("tags", .mk { kind := .array, extra := [("max", .ofInt 2)] } Standard.table (.element tag)
        .none)])
    .none

theorem declarative_basket : basket.Forall (Declarative Standard.table) := by
  simp [basket, ofNode, forall_mk, declarative_iff, closureFree_iff, built_iff, wellFormed_iff,
    childrenFit_iff, children, Options.isConditional]

/-- A basket that is sealed first is the same as one that is sealed after a property was dropped. -/
theorem validate_of_describe_basket :
    let properties := basket.properties
    let spare : String × Schema := ("note", (Context.standard.ofKind .string).2)
    ∃ s s',
      (Context.standard.ofKind .object).2.edits [.strict true, .properties properties] = .ok s ∧
      (Context.standard.ofKind .object).2.edits
        [.properties (spare :: properties), .drop ["note"], .strict true] = .ok s' ∧
      s.describe = s'.describe ∧ ∀ input, s.validate input = s'.validate input := by
  refine ⟨basket, basket, rfl, rfl, rfl, fun input => ?_⟩
  exact validate_of_describe declarative_basket declarative_basket rfl input

end Schema

end Conform
