import Conform.Proofs.Schema.Related
import Conform.Proofs.Standard.Handlers
import Conform.Proofs.Table.Registration

/-!
# Isolation of extensions

What an extension adds reaches the nodes it has handlers for and no others.  A schema none of whose
nodes it targets is validated over the table with the extension like over the table without it, as
long as no handler that was there before looks at what the tables inside a specification list.  One
that does can see the extension arrive.
-/

namespace Conform

/-- An extension targets a node when it has a handler for the kind of the node, or for the kind and
the format. -/
def Extension.Targets {σ : Type} (e : Extension σ) (traits : Traits) : Prop :=
  ∃ h ∈ e.handlers, h.kind = traits.kind ∧ (h.format = none ∨ h.format = traits.format)

namespace Schema

mutual

/-- The schema with all its nodes over one table. -/
def rebind (t : Table Schema) : Schema → Schema
  | .mk n _ c o => .mk n t (rebindChildren t c) (rebindOptions t o)

def rebindChildren (t : Table Schema) : Children Schema → Children Schema
  | .none => .none
  | .properties ps => .properties (rebindProperties t ps)
  | .element e => .element (rebind t e)

def rebindProperties (t : Table Schema) : List (String × Schema) → List (String × Schema)
  | [] => []
  | (name, s) :: rest => (name, rebind t s) :: rebindProperties t rest

def rebindOptions (t : Table Schema) : Options Schema → Options Schema
  | .none => .none
  | .values vs => .values vs
  | .models ss => .models (rebindEach t ss)

def rebindEach (t : Table Schema) : List Schema → List Schema
  | [] => []
  | s :: rest => rebind t s :: rebindEach t rest

end

theorem rebindProperties_eq_map (t : Table Schema) (ps : List (String × Schema)) :
    rebindProperties t ps = ps.map fun p => (p.1, p.2.rebind t) := by
  induction ps with
  | nil => rfl
  | cons p rest ih =>
      obtain ⟨name, s⟩ := p
      simp [rebindProperties, ih]

theorem rebindEach_eq_map (t : Table Schema) (ss : List Schema) :
    rebindEach t ss = ss.map (rebind t) := by
  induction ss with
  | nil => rfl
  | cons s rest ih => simp [rebindEach, ih]

variable {R : Schema → Schema → Prop} {t t' : Table Schema}

/-- A schema that is over one table throughout stays as it is. -/
theorem rebind_of_forall {s : Schema} (h : s.Forall fun s => s.table = t) : s.rebind t = s := by
  induction s using Schema.induction with
  | mk s ih =>
      have hpart : ∀ p ∈ s.parts, p.rebind t = p := fun p hp => ih p hp (h.part hp)
      have htable := h.here
      obtain ⟨n, own, c, o⟩ := s
      obtain rfl : own = t := htable
      have hchildren : rebindChildren own c = c := by
        cases c with
        | none => rfl
        | properties ps =>
            have hsame : ∀ p ∈ ps, (p.1, p.2.rebind own) = p := by
              intro p hp
              rw [hpart p.2 (mem_parts_of_property hp)]
            rw [rebindChildren, rebindProperties_eq_map, List.map_congr_left hsame, List.map_id']
        | element e => rw [rebindChildren, hpart e (mem_parts_of_element rfl)]
      have hoptions : rebindOptions own o = o := by
        cases o with
        | none => rfl
        | values vs => rfl
        | models ss =>
            have hsame : ∀ b ∈ ss, b.rebind own = b :=
              fun b hb => hpart b (mem_parts_of_branch hb)
            rw [rebindOptions, rebindEach_eq_map, List.map_congr_left hsame, List.map_id']
      rw [rebind, hchildren, hoptions]

/-- Schemas over two tables have the same shape. -/
theorem rebindChildren_rel (s : Schema) (h : ∀ p ∈ s.parts, R (p.rebind t') (p.rebind t)) :
    (rebindChildren t' s.children).Rel R (rebindChildren t s.children) := by
  obtain ⟨n, own, c, o⟩ := s
  cases c with
  | none => exact .none
  | properties ps =>
      change (rebindChildren t' (.properties ps)).Rel R (rebindChildren t (.properties ps))
      simp only [rebindChildren, rebindProperties_eq_map]
      exact .properties (Fields.rel_map fun p hp => h p.2 (mem_parts_of_property hp))
  | element e => exact .element (h e (mem_parts_of_element rfl))

theorem rebindOptions_rel (s : Schema) (h : ∀ p ∈ s.parts, R (p.rebind t') (p.rebind t)) :
    (rebindOptions t' s.options).Rel R (rebindOptions t s.options) := by
  obtain ⟨n, own, c, o⟩ := s
  cases o with
  | none => exact .none
  | values vs => exact .values vs
  | models ss =>
      change (rebindOptions t' (.models ss)).Rel R (rebindOptions t (.models ss))
      simp only [rebindOptions, rebindEach_eq_map]
      refine .models ?_
      rw [List.forall₂_map_left_iff, List.forall₂_map_right_iff, List.forall₂_same]
      exact fun b hb => h b (mem_parts_of_branch hb)

end Schema

/-! ### Handlers -/

namespace Table

variable {σ : Type} {t t' : Table σ} {e : Extension σ}

theorem handlersAt_merge {kind : Kind} {format : Option String}
    (h : ∀ g ∈ e.handlers, g.kind = kind → g.format ≠ format) :
    (t.merge e).handlersAt kind format = t.handlersAt kind format := by
  have hnone : (e.handlers.filter fun g => g.kind == kind && g.format == format) = [] := by
    rw [List.filter_eq_nil_iff]
    intro g hg
    simpa using h g hg
  simp only [handlersAt, merge, List.filter_append, hnone, List.append_nil]

/-- An extension adds no handlers to the nodes that it does not target. -/
theorem handlersFor_merge {traits : Traits} (h : ¬e.Targets traits) (phase : Phase) :
    (t.merge e).handlersFor traits.kind traits.format phase =
      t.handlersFor traits.kind traits.format phase := by
  have hkind : ∀ g ∈ e.handlers, g.kind = traits.kind → g.format ≠ none :=
    fun g hg hgkind hnone => h ⟨g, hg, hgkind, .inl hnone⟩
  have hformat : ∀ g ∈ e.handlers, g.kind = traits.kind → g.format ≠ traits.format :=
    fun g hg hgkind hsame => h ⟨g, hg, hgkind, .inr hsame⟩
  cases hnamed : traits.format with
  | none => simp only [handlersFor, handlersAt_merge hkind]
  | some f =>
      rw [hnamed] at hformat
      simp only [handlersFor, handlersAt_merge hkind, handlersAt_merge hformat]

/-- A table that accepts an extension becomes the table with all that the extension adds. -/
theorem eq_merge_of_register (h : t.register e = .ok t') : t' = t.merge e := by
  unfold register at h
  split at h
  · exact (Except.ok.inj h).symm
  · contradiction

end Table

/-- The schemas among the options of a node have no say in its phases. -/
theorem Node.enter_of_rel {n : Node} {t : Treatment} {o' o : Options Schema}
    {R : Schema → Schema → Prop} (ho : o'.Rel R o) (v : Visit) :
    n.enter t o' v = n.enter t o v := by
  cases ho <;> rfl

/-! ### What handlers see of tables -/

/-- Views that differ at most in what the tables list. -/
inductive View.Alike : View → View → Prop where
  | mk {n : Node} {i' i : Inventory} {t : Treatment} {c' c : Children View} {o' o : Options View}
      (children : c'.Rel Alike c) (options : o'.Rel Alike o) :
      Alike (.mk n i' t c' o') (.mk n i t c o)

/-- Specifications that differ at most in what the tables inside list. -/
structure Spec.Alike (x' x : Spec) : Prop where
  node : x'.toNode = x.toNode
  children : x'.children.Rel View.Alike x.children
  options : x'.options.Rel View.Alike x.options

/-- A table whose handlers do not look at what the tables inside a specification list. -/
def Table.Blind {σ : Type} (t : Table σ) : Prop :=
  ∀ x' x : Spec, x'.Alike x → t.treat x' = t.treat x

theorem Table.Shallow.blind {σ : Type} {t : Table σ} (h : t.Shallow) : t.Blind :=
  fun x' x halike => h x' x halike.node

/-- An extension changes nothing about what handlers do at the nodes that it does not target. -/
theorem Table.treat_merge {σ : Type} {t : Table σ} {e : Extension σ} {x : Spec}
    (h : ¬e.Targets x.toTraits) : (t.merge e).treat x = t.treat x := by
  simp only [treat, transforms, assertions, handlersFor_merge h]

namespace Schema

variable {R : Schema → Schema → Prop} {Q : View → View → Prop}

/-- The schema as handlers see it, from what they are given at its root. -/
theorem view_mk (n : Node) (t : Table Schema) (c : Children Schema) (o : Options Schema) :
    view (.mk n t c o) =
      .mk n t.inventory (treatment (.mk n t c o)) (viewChildren c) (viewOptions o) := by
  rw [view]
  rfl

theorem viewEach_eq_map (ss : List Schema) : viewEach ss = ss.map view := by
  induction ss with
  | nil => rfl
  | cons s rest ih => simp [viewEach, ih]

/-- Related children have related views. -/
theorem viewChildren_rel {c' c : Children Schema}
    (h : c'.Rel (fun s' s => Q s'.view s.view) c) :
    (viewChildren c').Rel Q (viewChildren c) := by
  cases h with
  | none => exact .none
  | element rel => exact .element rel
  | @properties ps' ps each =>
      rw [viewChildren, viewChildren]
      refine .properties ?_
      induction each with
      | nil => exact .nil
      | cons head _ ih => exact .cons head ih

theorem viewOptions_rel {o' o : Options Schema} (h : o'.Rel (fun s' s => Q s'.view s.view) o) :
    (viewOptions o').Rel Q (viewOptions o) := by
  cases h with
  | none => exact .none
  | values vs => exact .values vs
  | models each =>
      rw [viewOptions, viewOptions, viewEach_eq_map, viewEach_eq_map]
      refine .models ?_
      rwa [List.forall₂_map_left_iff, List.forall₂_map_right_iff]

/-! ### Schemas that an extension does not target -/

variable {s : Schema} {t t' : Table Schema} {e : Extension Schema}

/-- Blind handlers see the same of a schema that the extension does not target, and do the same. -/
theorem treatment_rebind_merge {n : Node} {own : Table Schema} {c : Children Schema}
    {o : Options Schema} (blind : t.Blind) (here : ¬e.Targets n.toTraits)
    (hparts : ∀ p ∈ (Schema.mk n own c o).parts,
      (p.rebind (t.merge e)).view.Alike (p.rebind t).view) :
    ((Schema.mk n own c o).rebind (t.merge e)).treatment =
      ((Schema.mk n own c o).rebind t).treatment := by
  have halike : ((Schema.mk n own c o).rebind (t.merge e)).spec.Alike
      ((Schema.mk n own c o).rebind t).spec :=
    { node := rfl
      children := viewChildren_rel (rebindChildren_rel (.mk n own c o) hparts)
      options := viewOptions_rel (rebindOptions_rel (.mk n own c o) hparts) }
  exact (Table.treat_merge here).trans (blind _ _ halike)

theorem view_alike_rebind_merge (blind : t.Blind)
    (hs : s.Forall fun s => ¬e.Targets s.node.toTraits) :
    (s.rebind (t.merge e)).view.Alike (s.rebind t).view := by
  induction s using Schema.induction with
  | mk s ih =>
      have hpart : ∀ p ∈ s.parts, (p.rebind (t.merge e)).view.Alike (p.rebind t).view :=
        fun p hp => ih p hp (hs.part hp)
      obtain ⟨n, own, c, o⟩ := s
      have htreatment : ((Schema.mk n own c o).rebind (t.merge e)).treatment =
          ((Schema.mk n own c o).rebind t).treatment :=
        treatment_rebind_merge blind hs.here hpart
      rw [rebind, rebind] at htreatment ⊢
      rw [view_mk, view_mk, htreatment]
      exact .mk (viewChildren_rel (rebindChildren_rel (.mk n own c o) hpart))
        (viewOptions_rel (rebindOptions_rel (.mk n own c o) hpart))

theorem alike_rebind_merge (blind : t.Blind)
    (hs : s.Forall fun s => ¬e.Targets s.node.toTraits) :
    (s.rebind (t.merge e)).Alike (s.rebind t) := by
  induction s using Schema.induction with
  | mk s ih =>
      have hpart : ∀ p ∈ s.parts, (p.rebind (t.merge e)).Alike (p.rebind t) :=
        fun p hp => ih p hp (hs.part hp)
      have hview : ∀ p ∈ s.parts, (p.rebind (t.merge e)).view.Alike (p.rebind t).view :=
        fun p hp => view_alike_rebind_merge blind (hs.part hp)
      obtain ⟨n, own, c, o⟩ := s
      have hchildren := rebindChildren_rel _ hpart
      have hoptions := rebindOptions_rel _ hpart
      have htreatment : ((Schema.mk n own c o).rebind (t.merge e)).treatment =
          ((Schema.mk n own c o).rebind t).treatment :=
        treatment_rebind_merge blind hs.here hview
      refine .mk rfl rfl rfl ?_ hchildren hoptions
      intro v
      rw [rebind, rebind] at htreatment
      rw [htreatment]
      exact Node.enter_of_rel hoptions v

/-- Registering an extension does not disturb the schemas that it does not target, where no handler
that was there before looks at what tables list: with all nodes over the table before or with all
nodes over the table after, every input ends with the same value and the same issues in the same
order. -/
theorem validate_rebind_of_untargeted (hregister : t.register e = .ok t') (blind : t.Blind)
    (hs : s.Forall fun s => ¬e.Targets s.node.toTraits) (input : Option Json) :
    (s.rebind t').validate input = (s.rebind t).validate input := by
  rw [Table.eq_merge_of_register hregister]
  exact run_of_alike (alike_rebind_merge blind hs) (.start input)

/-- An extension for postal codes and dates. -/
def postal : Extension Schema :=
  { name := "postal"
    formats := [(.string, "zip")]
    builders := [("zip", { kind := .string, format := some "zip" })]
    handlers :=
      [⟨.string, some "zip", .parse fun _ _ => some (.str "")⟩,
        ⟨.date, none, .coerce fun _ _ => some .null⟩] }

/-- A contact with a name that is read aloud, and a number of years for those who give it. -/
def contact : Schema :=
  let loud (v : Visit) : Option Json :=
    match v.current with
    | .str text => some (.str text.toUpper)
    | _ => none
  let aged : Schema :=
    .mk { kind := .object, applies := some fun _ => true } Standard.table
      (.properties [("years", .ofNode { kind := .integer, required := false } Standard.table)])
      .none
  .mk { kind := .object } Standard.table
    (.properties [("name", .ofNode { kind := .string, coerce := some loud } Standard.table)])
    (.models [aged])

theorem validate_rebind_contact :
    let input : Option Json := some (.obj [("name", .str "ada"), ("years", .str "36")])
    (∃ t', Standard.table.register postal = .ok t' ∧ Standard.table.Blind ∧
      (contact.Forall fun s => ¬postal.Targets s.node.toTraits) ∧
      (contact.rebind t').validate input = contact.validate input) ∧
      (contact.validate input).conforms = true := by
  intro input
  have hregister : Standard.table.register postal = .ok (Standard.table.merge postal) :=
    Table.register_eq_ok_iff.mpr ⟨by decide, Table.fold_append Standard.extensions postal⟩
  have huntargeted : contact.Forall fun s => ¬postal.Targets s.node.toTraits := by
    simp [contact, ofNode, forall_mk, postal, Extension.Targets]
  have hbound : contact.Forall fun s => s.table = Standard.table := by
    simp [contact, ofNode, forall_mk]
  refine ⟨⟨_, hregister, Standard.shallow.blind, huntargeted, ?_⟩, by decide +kernel⟩
  rw [validate_rebind_of_untargeted hregister Standard.shallow.blind huntargeted,
    rebind_of_forall hbound]

/-- An extension whose handler refuses objects that have schemas inside which know of stamps. -/
def customs : Extension Schema :=
  { name := "customs"
    handlers :=
      [⟨.object, none, .validate fun x _ =>
        match x.children with
        | .properties ps =>
          (some (.rule "knows of stamps")).filter fun _ =>
            ps.any fun p => p.2.inventory.extensions.contains "stamps"
        | _ => none⟩] }

/-- An extension that has nothing but its name. -/
def stamps : Extension Schema :=
  { name := "stamps" }

/-- A shipment that weighs something. -/
def shipment : Schema :=
  .mk { kind := .object } Standard.table
    (.properties [("weight", .ofNode { kind := .number } Standard.table)]) .none

/-- A handler that looks at the tables inside sees an extension arrive that targets nothing at all:
what conformed before is refused after. -/
theorem validate_rebind_shipment :
    let input : Option Json := some (.obj [("weight", .ofInt 3)])
    ∃ t t', Standard.table.register customs = .ok t ∧ t.register stamps = .ok t' ∧
      (shipment.Forall fun s => ¬stamps.Targets s.node.toTraits) ∧
      ((shipment.rebind t).validate input).conforms = true ∧
      ((shipment.rebind t').validate input).issues.map Issue.message = ["knows of stamps"] := by
  intro input
  refine ⟨Standard.table.merge customs, (Standard.table.merge customs).merge stamps, rfl, rfl, ?_,
    by decide +kernel, by decide +kernel⟩
  · simp [shipment, ofNode, forall_mk, stamps, Extension.Targets]

end Schema

end Conform
