import Conform.Schema.Basic

/-!
# The parts of a schema

A schema is a tree whose branches are its properties, the schema of its elements and its
conditional options.  This file has the induction over that tree and the predicate that every
node of it has a property.
-/

namespace Conform

/-- The schemas among the options of a node. -/
def Options.branches {σ : Type} : Options σ → List σ
  | .models ss => ss
  | _ => []

@[simp] theorem Options.branches_none {σ : Type} : (.none : Options σ).branches = [] := rfl

@[simp] theorem Options.branches_values {σ : Type} (vs : List Json) :
    (.values vs : Options σ).branches = [] := rfl

@[simp] theorem Options.branches_models {σ : Type} (ss : List σ) :
    (.models ss : Options σ).branches = ss := rfl

namespace Schema

/-- The schemas directly inside a schema: of its properties, its elements and its options. -/
def parts (s : Schema) : List Schema :=
  s.properties.map Prod.snd ++ s.element?.toList ++ s.options.branches

section

variable {n : Node} {t : Table Schema} {c : Children Schema} {o : Options Schema}

@[simp] theorem node_mk : (Schema.mk n t c o).node = n := rfl

@[simp] theorem table_mk : (Schema.mk n t c o).table = t := rfl

@[simp] theorem options_mk : (Schema.mk n t c o).options = o := rfl

@[simp] theorem kind_mk : (Schema.mk n t c o).kind = n.kind := rfl

@[simp] theorem properties_mk_properties (ps : List (String × Schema)) :
    (Schema.mk n t (.properties ps) o).properties = ps := rfl

@[simp] theorem properties_mk_element (e : Schema) :
    (Schema.mk n t (.element e) o).properties = [] := rfl

@[simp] theorem properties_mk_none : (Schema.mk n t .none o).properties = [] := rfl

@[simp] theorem parts_mk_properties (ps : List (String × Schema)) :
    (Schema.mk n t (.properties ps) o).parts = ps.map Prod.snd ++ o.branches := by
  simp [parts, properties, element?, children, options]

@[simp] theorem parts_mk_element (e : Schema) :
    (Schema.mk n t (.element e) o).parts = e :: o.branches := rfl

@[simp] theorem parts_mk_none : (Schema.mk n t .none o).parts = o.branches := rfl

end

theorem mem_parts_of_property {s : Schema} {p : String × Schema} (h : p ∈ s.properties) :
    p.2 ∈ s.parts := by
  have hmem : p.2 ∈ s.properties.map Prod.snd := List.mem_map.mpr ⟨p, h, rfl⟩
  simp only [parts, List.mem_append]
  exact Or.inl (Or.inl hmem)

theorem mem_parts_of_element {s e : Schema} (h : s.element? = some e) : e ∈ s.parts := by
  simp [parts, h]

theorem mem_parts_of_branch {s b : Schema} (h : b ∈ s.options.branches) : b ∈ s.parts := by
  simp [parts, h]

theorem sizeOf_lt_of_mem_parts {s p : Schema} (h : p ∈ s.parts) : sizeOf p < sizeOf s := by
  obtain ⟨n, t, c, o⟩ := s
  simp only [parts, properties, element?, children, options, List.mem_append] at h
  rw [Schema.mk.sizeOf_spec]
  rcases h with (h | h) | h
  · cases c with
    | properties ps =>
        obtain ⟨q, hq, rfl⟩ := List.mem_map.mp h
        have hlt := List.sizeOf_lt_of_mem hq
        obtain ⟨name, s⟩ := q
        simp only [Prod.mk.sizeOf_spec, Children.properties.sizeOf_spec] at hlt ⊢
        omega
    | none => simp at h
    | element e => simp at h
  · cases c with
    | element e =>
        obtain rfl : p = e := by simpa using h
        simp only [Children.element.sizeOf_spec]
        omega
    | none => simp at h
    | properties ps => simp at h
  · cases o with
    | models ss =>
        have hmem : p ∈ ss := h
        have hlt := List.sizeOf_lt_of_mem hmem
        simp only [Options.models.sizeOf_spec]
        omega
    | none => simp [Options.branches] at h
    | values vs => simp [Options.branches] at h

/-- What passes from the parts of every schema to the whole holds of all schemas. -/
theorem induction {motive : Schema → Prop}
    (mk : ∀ s : Schema, (∀ p ∈ s.parts, motive p) → motive s) (s : Schema) : motive s :=
  mk s fun p _ => induction mk p
termination_by sizeOf s
decreasing_by exact sizeOf_lt_of_mem_parts ‹_›

/-- A schema all of whose nodes, at any depth, have a property. -/
inductive Forall (P : Schema → Prop) : Schema → Prop where
  | intro {s : Schema} (here : P s) (parts : ∀ p ∈ s.parts, Forall P p) : Forall P s

namespace Forall

variable {P : Schema → Prop} {s : Schema}

theorem here (h : s.Forall P) : P s := by
  cases h with
  | intro here _ => exact here

theorem part (h : s.Forall P) {p : Schema} (hp : p ∈ s.parts) : p.Forall P := by
  cases h with
  | intro _ parts => exact parts p hp

theorem property (h : s.Forall P) {p : String × Schema} (hp : p ∈ s.properties) :
    p.2.Forall P :=
  h.part (mem_parts_of_property hp)

theorem element (h : s.Forall P) {e : Schema} (he : s.element? = some e) : e.Forall P :=
  h.part (mem_parts_of_element he)

end Forall

theorem forall_mk {P : Schema → Prop} {n : Node} {t : Table Schema} {c : Children Schema}
    {o : Options Schema} :
    (Schema.mk n t c o).Forall P ↔
      P (.mk n t c o) ∧ ∀ p ∈ (Schema.mk n t c o).parts, p.Forall P :=
  ⟨fun h => ⟨h.here, fun _ hp => h.part hp⟩, fun h => .intro h.1 h.2⟩

end Schema
end Conform
