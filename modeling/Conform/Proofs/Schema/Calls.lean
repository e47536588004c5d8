import Conform.Proofs.Fields
import Conform.Proofs.Schema.Parts
import Conform.Schema.Build
import Mathlib.Tactic.MkIffOfInductiveProp

/-!
# Building calls

What one building call can do to a schema, and the schemas that come out of sequences of calls.  A
call changes the node alone, the children, or the options, or it goes to a part; the schemas it
brings in are the ones it mentions.
-/

namespace Conform

/-- The schemas that a building call mentions. -/
def Edit.parts {σ : Type} : Edit σ → List σ
  | .properties ps => ps.map Prod.snd
  | .element e => [e]
  | .enumModels ss => ss
  | _ => []

namespace Schema

variable {s s' : Schema} {e : Edit Schema}

/-- No name is repeated exactly when the names are distinct and none was seen before. -/
theorem firstRepeated_eq_none_iff {seen names : List String} :
    firstRepeated seen names = none ↔ names.Nodup ∧ ∀ name ∈ names, name ∉ seen := by
  induction names generalizing seen with
  | nil => simp [firstRepeated]
  | cons name rest ih =>
      rw [firstRepeated]
      by_cases hseen : name ∈ seen
      · simp [hseen]
      · have hcontains : seen.contains name = false := by simpa using hseen
        rw [hcontains, if_neg Bool.false_ne_true, ih, List.nodup_cons]
        constructor
        · rintro ⟨hnodup, hother⟩
          refine ⟨⟨fun hmem => hother name hmem (by simp), hnodup⟩, ?_⟩
          intro n hn hmem
          rcases List.mem_cons.mp hn with rfl | hn
          · exact hseen hmem
          · exact hother n hn (by simp [hmem])
        · rintro ⟨⟨hfresh, hnodup⟩, hother⟩
          refine ⟨hnodup, ?_⟩
          intro n hn hmem
          rcases List.mem_cons.mp hmem with rfl | hmem
          · exact hfresh hn
          · exact hother n (by simp [hn]) hmem

/-! ### One call -/

/-- The changes that a call makes to a schema. -/
inductive Edited (s : Schema) (e : Edit Schema) : Schema → Prop where
  | node (f : Node → Node) (kind : ∀ n, (f n).kind = n.kind)
      (format : ∀ n, (f n).format = n.format) : Edited s e (s.mapNode f)
  | format {name : String} (declared : s.table.hasFormat s.kind name = true) :
      Edited s e (s.mapNode fun n => { n with format := some name })
  | properties {ps : List (String × Schema)} (kind : s.kind = .object)
      (distinct : (ps.map Prod.fst).Nodup) (mentioned : ∀ p ∈ ps, p.2 ∈ e.parts) :
      Edited s e (s.withChildren (.properties ps))
  | selected {ps : List (String × Schema)} (kind : s.kind = .object)
      (kept : ps.Sublist s.properties) : Edited s e (s.withChildren (.properties ps))
  | element {p : Schema} (kind : s.kind = .array) (mentioned : p ∈ e.parts) :
      Edited s e (s.withChildren (.element p))
  | options {o : Options Schema} (mentioned : ∀ b ∈ o.branches, b ∈ e.parts)
      (predicates : ∀ b ∈ o.branches, b.node.applies.isSome) : Edited s e (s.withOptions o)

theorem mapNode_mapNode (s : Schema) (f g : Node → Node) :
    (s.mapNode f).mapNode g = s.mapNode (g ∘ f) := by
  obtain ⟨n, t, c, o⟩ := s
  rfl

theorem edited_of_select {operation : String} {names : List String} {keep : Bool}
    (h : s.select operation names keep = .ok s') : s.Edited e s' := by
  unfold select at h
  split at h
  · rename_i hkind
    split at h
    · contradiction
    · exact Except.ok.inj h ▸ .selected hkind List.filter_sublist
  · contradiction

/-- A call changes the schema in one of these ways, or goes to a part of it. -/
theorem edited_or_part (h : s.edit e = .ok s') : s.Edited e s' ∨ s' ∈ s.parts := by
  have node {f : Node → Node} (h : (.ok (s.mapNode f) : Except BuildError Schema) = .ok s')
      (kind : ∀ n, (f n).kind = n.kind) (format : ∀ n, (f n).format = n.format) :
      s.Edited e s' ∨ s' ∈ s.parts :=
    .inl (Except.ok.inj h ▸ .node f kind format)
  unfold edit at h
  cases e with
  | required on => exact node h (fun _ => rfl) (fun _ => rfl)
  | nullable on => exact node h (fun _ => rfl) (fun _ => rfl)
  | strict on => exact node h (fun _ => rfl) (fun _ => rfl)
  | default d => exact node h (fun _ => rfl) (fun _ => rfl)
  | applies f => exact node h (fun _ => rfl) (fun _ => rfl)
  | parse f => exact node h (fun _ => rfl) (fun _ => rfl)
  | coerce f => exact node h (fun _ => rfl) (fun _ => rfl)
  | validation f => exact node h (fun _ => rfl) (fun _ => rfl)
  | extra name v => exact node h (fun _ => rfl) (fun _ => rfl)
  | enumValues vs =>
      refine .inl (Except.ok.inj h ▸ .options ?_ ?_)
      · simp
      · simp
  | properties ps =>
      simp only [setProperties] at h
      split at h
      · rename_i hkind
        split at h
        · contradiction
        · rename_i hrepeated
          refine .inl (Except.ok.inj h ▸ .properties hkind
            (firstRepeated_eq_none_iff.mp hrepeated).1 ?_)
          exact fun p hp => List.mem_map.mpr ⟨p, hp, rfl⟩
      · contradiction
      · contradiction
  | element p =>
      simp only [setElement] at h
      split at h
      · rename_i hkind
        exact .inl (Except.ok.inj h ▸ .element hkind (List.mem_singleton.mpr rfl))
      · contradiction
      · contradiction
  | pick names => exact .inl (edited_of_select h)
  | drop names => exact .inl (edited_of_select h)
  | enumModels ss =>
      simp only [setModels] at h
      split at h
      · contradiction
      · rename_i hpredicates
        refine .inl (Except.ok.inj h ▸ .options (fun b hb => hb) ?_)
        intro b hb
        have hb' := List.findIdx?_eq_none_iff.mp hpredicates b hb
        simpa [Option.isSome_iff_ne_none] using hb'
  | format name =>
      simp only [setFormat] at h
      split at h
      · rename_i hdeclared
        exact .inl (Except.ok.inj h ▸ .format hdeclared)
      · contradiction
  | pattern source =>
      simp only [setPattern] at h
      split at h
      · rw [setExtra, addCheck, mapNode_mapNode] at h
        exact node h (fun _ => rfl) (fun _ => rfl)
      · contradiction
  | toProperty name =>
      simp only at h
      split at h
      · rename_i p hp
        exact .inr (Except.ok.inj h ▸ mem_parts_of_property (Fields.mem_of_get? hp))
      · contradiction
  | toElement =>
      simp only at h
      split at h
      · rename_i p hp
        exact .inr (Except.ok.inj h ▸ mem_parts_of_element hp)
      · contradiction

namespace Edited

theorem table (h : s.Edited e s') : s'.table = s.table := by
  obtain ⟨n, t, c, o⟩ := s
  cases h <;> rfl

/-- The parts of a changed schema are parts of the schema or are mentioned by the call. -/
theorem mem_parts (h : s.Edited e s') {p : Schema} (hp : p ∈ s'.parts) :
    p ∈ s.parts ∨ p ∈ e.parts := by
  obtain ⟨n, t, c, o⟩ := s
  have hbranch (hp : p ∈ o.branches) : p ∈ (Schema.mk n t c o).parts ∨ p ∈ e.parts :=
    .inl (mem_parts_of_branch hp)
  cases h with
  | node f kind format => exact .inl hp
  | format declared => exact .inl hp
  | properties kind distinct mentioned =>
      rw [withChildren, parts_mk_properties, List.mem_append] at hp
      rcases hp with hp | hp
      · obtain ⟨q, hq, rfl⟩ := List.mem_map.mp hp
        exact .inr (mentioned q hq)
      · exact hbranch hp
  | selected kind kept =>
      rw [withChildren, parts_mk_properties, List.mem_append] at hp
      rcases hp with hp | hp
      · obtain ⟨q, hq, rfl⟩ := List.mem_map.mp hp
        exact .inl (mem_parts_of_property (kept.subset hq))
      · exact hbranch hp
  | element kind mentioned =>
      rw [withChildren, parts_mk_element, List.mem_cons] at hp
      rcases hp with rfl | hp
      · exact .inr mentioned
      · exact hbranch hp
  | options mentioned predicates =>
      rw [withOptions, parts, List.mem_append] at hp
      rcases hp with hp | hp
      · exact .inl (List.mem_append.mpr (.inl hp))
      · exact .inr (mentioned p hp)

/-- Distinct names of properties stay distinct. -/
theorem names_nodup (h : s.Edited e s') (hs : (s.properties.map Prod.fst).Nodup) :
    (s'.properties.map Prod.fst).Nodup := by
  obtain ⟨n, t, c, o⟩ := s
  cases h with
  | node f kind format => exact hs
  | format declared => exact hs
  | properties kind distinct mentioned => exact distinct
  | selected kind kept => exact hs.sublist (kept.map Prod.fst)
  | element kind mentioned => exact List.nodup_nil
  | options mentioned predicates => exact hs

end Edited

/-- What the changes of a call keep at a node, a call keeps at every node, where the schemas it
mentions have it. -/
theorem forall_of_call {P : Schema → Prop}
    (hstep : ∀ {s s' e}, s.Edited e s' → P s → P s') (hs : s.Forall P)
    (he : ∀ p ∈ e.parts, p.Forall P) (h : s.edit e = .ok s') : s'.Forall P := by
  rcases edited_or_part h with hedited | hpart
  · refine .intro (hstep hedited hs.here) ?_
    intro p hp
    rcases hedited.mem_parts hp with hp | hp
    · exact hs.part hp
    · exact he p hp
  · exact hs.part hpart

/-! ### The schemas that calls make -/

/-- A node over a table whose properties have distinct names. -/
@[mk_iff]
structure Built (t : Table Schema) (s : Schema) : Prop where
  table : s.table = t
  names : (s.properties.map Prod.fst).Nodup

/-- The schemas that can be built: bare nodes, and what single calls make of them with other such
schemas. -/
inductive Constructible : Schema → Prop where
  | bare (n : Node) (t : Table Schema) : Constructible (ofNode n t)
  | call {s s' : Schema} {e : Edit Schema} (of : Constructible s)
      (mentioned : ∀ p ∈ e.parts, Constructible p) (made : s.edit e = .ok s') :
      Constructible s'

namespace Constructible

/-- An object of constructible properties with distinct names is constructible. -/
theorem object {n : Node} {t : Table Schema} {ps : List (String × Schema)}
    (kind : n.kind = .object) (names : (ps.map Prod.fst).Nodup)
    (hps : ∀ p ∈ ps, p.2.Constructible) :
    (Schema.mk n t (.properties ps) .none).Constructible := by
  have hrepeated : firstRepeated [] (ps.map Prod.fst) = none :=
    firstRepeated_eq_none_iff.mpr ⟨names, by simp⟩
  have hmade : (ofNode n t).edit (.properties ps) =
      .ok (.mk n t (.properties ps) .none) := by
    simp [edit, setProperties, ofNode, kind, hrepeated, withChildren]
  refine .call (.bare n t) ?_ hmade
  intro p hp
  obtain ⟨q, hq, rfl⟩ := List.mem_map.mp hp
  exact hps q hq

/-- An array of constructible elements is constructible. -/
theorem array {n : Node} {t : Table Schema} {p : Schema} (kind : n.kind = .array)
    (hp : p.Constructible) : (Schema.mk n t (.element p) .none).Constructible := by
  have hmade : (ofNode n t).edit (.element p) = .ok (.mk n t (.element p) .none) := by
    simp [edit, setElement, ofNode, kind, withChildren]
  exact .call (.bare n t) (by simpa [Edit.parts] using hp) hmade

/-- In a constructible schema no node declares a property twice. -/
theorem names_nodup (h : s.Constructible) :
    s.Forall fun s => (s.properties.map Prod.fst).Nodup := by
  induction h with
  | bare n t => exact .intro List.nodup_nil nofun
  | call of mentioned made ih ihmentioned =>
      exact forall_of_call Edited.names_nodup ih ihmentioned made

end Constructible

end Schema

end Conform
