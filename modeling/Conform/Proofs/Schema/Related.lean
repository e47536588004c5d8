import Conform.Proofs.Schema.Run
import Mathlib.Data.List.Forall2

/-!
# Schemas of the same shape

Two schemas have the same shape when their parts stand at the same places and are related one by
one.  What a run does between the phases of the nodes depends on the shape alone, so that related
schemas are validated alike as soon as their parts are, at the visits that reach them.
-/

namespace Conform

/-- Schemas under the same names, in the same order, that are related one by one. -/
inductive Fields.Rel {σ : Type} (R : σ → σ → Prop) : Fields σ → Fields σ → Prop where
  | nil : Rel R [] []
  | cons {name : String} {e' e : σ} {rest' rest : Fields σ} (head : R e' e)
      (tail : Rel R rest' rest) : Rel R ((name, e') :: rest') ((name, e) :: rest)

/-- Children of the same shape that are related one by one. -/
inductive Children.Rel {σ : Type} (R : σ → σ → Prop) : Children σ → Children σ → Prop where
  | none : Rel R .none .none
  | properties {ps' ps : List (String × σ)}
      (each : Fields.Rel R ps' ps) :
      Rel R (.properties ps') (.properties ps)
  | element {e' e : σ} (rel : R e' e) : Rel R (.element e') (.element e)

/-- Options of the same shape whose schemas are related one by one. -/
inductive Options.Rel {σ : Type} (R : σ → σ → Prop) : Options σ → Options σ → Prop where
  | none : Rel R .none .none
  | values (vs : List Json) : Rel R (.values vs) (.values vs)
  | models {ss' ss : List σ} (each : List.Forall₂ R ss' ss) : Rel R (.models ss') (.models ss)

/-- Fields that are changed in two ways are related where the changes are. -/
theorem Fields.rel_map {σ : Type} {R : σ → σ → Prop} {f g : σ → σ} {ps : Fields σ}
    (h : ∀ p ∈ ps, R (f p.2) (g p.2)) :
    Fields.Rel R (ps.map fun p => (p.1, f p.2)) (ps.map fun p => (p.1, g p.2)) := by
  induction ps with
  | nil => exact .nil
  | cons p rest ih =>
      exact .cons (h p List.mem_cons_self) (ih fun q hq => h q (List.mem_cons_of_mem p hq))

theorem Options.isConditional_of_rel {σ : Type} {R : σ → σ → Prop} {o' o : Options σ}
    (h : o'.Rel R o) : o'.isConditional = o.isConditional := by
  cases h <;> rfl

namespace Schema

variable {R : Schema → Schema → Prop} {s s' : Schema} {v : Visit}

/-! ### Undeclared fields -/

theorem lookup_isNone_of_rel {ps' ps : Fields Schema} (h : ps'.Rel R ps) (name : String) :
    (ps'.lookup name).isNone = (ps.lookup name).isNone := by
  induction h with
  | nil => rfl
  | @cons n _ _ _ _ _ _ ih =>
      cases hname : name == n with
      | true => simp [List.lookup_cons, hname]
      | false => simpa [List.lookup_cons, hname] using ih

theorem undeclaredFields_of_rel {ps' ps : Fields Schema} (h : ps'.Rel R ps)
    (fields : Fields Json) : undeclaredFields ps' fields = undeclaredFields ps fields := by
  simp only [undeclaredFields, lookup_isNone_of_rel h]

theorem properties_of_rel (h : s'.children.Rel R s.children) :
    Fields.Rel R s'.properties s.properties := by
  obtain ⟨n', t', c', o'⟩ := s'
  obtain ⟨n, t, c, o⟩ := s
  cases h with
  | none => exact .nil
  | properties each => exact each
  | element _ => exact .nil

/-- The properties that an object refuses are those of its shape and its strictness. -/
theorem refusedNames_of_rel (kind : s'.kind = s.kind) (strict : s'.node.strict = s.node.strict)
    (hchildren : s'.children.Rel R s.children) (hoptions : s'.options.Rel R s.options) :
    s'.refusedNames v = s.refusedNames v := by
  unfold refusedNames
  rw [kind, strict, Options.isConditional_of_rel hoptions]
  split
  · rw [undeclaredFields_of_rel (properties_of_rel hchildren)]
  · rfl

/-! ### The parts of a run -/

theorem runProperties_of_rel {ps' ps : Fields Schema} (h : ps'.Rel R ps) {fields : Fields Json}
    (hrun : ∀ p ∈ ps, ∀ e', R e' p.2 →
      e'.run (v.descend (.key p.1) (fields.get? p.1)) =
        p.2.run (v.descend (.key p.1) (fields.get? p.1))) :
    runProperties ps' fields v = runProperties ps fields v := by
  induction h with
  | nil => rfl
  | @cons name e' e rest' rest head tail ih =>
      rw [List.forall_mem_cons] at hrun
      rw [runProperties, runProperties, hrun.1 e' head, ih hrun.2]

/-- Children are validated alike where each is at the visits that reach it. -/
theorem runChildren_of_rel {c' c : Children Schema} (h : c'.Rel R c) (kind : Kind)
    (hproperty : ∀ (ps : Fields Schema) (fields : Fields Json), c = .properties ps →
      kind = .object → v.value = some (.obj fields) → ps ≠ [] → ∀ p ∈ ps, ∀ e', R e' p.2 →
      e'.run (v.descend (.key p.1) (fields.get? p.1)) =
        p.2.run (v.descend (.key p.1) (fields.get? p.1)))
    (helement : ∀ e items, c = .element e → kind = .array → v.value = some (.arr items) →
      ∀ e', R e' e → ∀ u ∈ v.elements items, e'.run u = e.run u) :
    runChildren kind c' v = runChildren kind c v := by
  cases h with
  | none => rfl
  | @properties ps' ps each =>
      unfold runChildren
      split
      · rename_i fields hvalue
        have hempty : ps'.isEmpty = ps.isEmpty := by cases each <;> rfl
        rw [hempty, undeclaredFields_of_rel each]
        split
        · rfl
        · rename_i hps
          rw [runProperties_of_rel each
            (hproperty ps fields rfl rfl hvalue (by simpa using hps))]
      · rfl
  | @element e' e rel =>
      unfold runChildren
      split
      · rename_i items hvalue
        rw [List.map_congr_left (helement e items rfl rfl hvalue e' rel)]
      · rfl

/-- Options are validated alike where each applies alike and the one that is chosen runs alike. -/
theorem runOptions_of_rel {o' o : Options Schema} (h : o'.Rel R o)
    (happlies : ∀ b ∈ o.branches, ∀ b', R b' b → b'.appliesTo v = b.appliesTo v)
    (hrun : ∀ b, chosen? o v = some b → ∀ b', R b' b → b'.run v = b.run v) :
    runOptions o' v = runOptions o v := by
  cases h with
  | none => rfl
  | values vs => rfl
  | models each =>
      rw [runOptions, runOptions]
      induction each with
      | nil => rfl
      | @cons b' b rest' rest head tail ih =>
          rw [Options.branches_models, List.forall_mem_cons] at happlies
          rw [runFirst, runFirst, happlies.1 b' head]
          split
          · rename_i htrue
            exact hrun b (by simp [chosen?, htrue]) b' head
          · rename_i hfalse
            refine ih happlies.2 fun c hc => hrun c ?_
            simpa [chosen?, hfalse] using hc

/-! ### Schemas with the same phases -/

/-- A schema of the same shape as another one whose nodes go through their phases like those of
that one. -/
inductive Alike : Schema → Schema → Prop where
  | mk {n' n : Node} {t' t : Table Schema} {c' c : Children Schema} {o' o : Options Schema}
      (kind : n'.kind = n.kind) (strict : n'.strict = n.strict) (applies : n'.applies = n.applies)
      (enter : ∀ v, n'.enter (treatment (.mk n' t' c' o')) o' v =
        n.enter (treatment (.mk n t c o)) o v)
      (children : c'.Rel Alike c) (options : o'.Rel Alike o) :
      Alike (.mk n' t' c' o') (.mk n t c o)

theorem appliesTo_of_alike (h : s'.Alike s) (v : Visit) : s'.appliesTo v = s.appliesTo v := by
  cases h with
  | mk _ _ applies _ _ _ => simp only [appliesTo, node_mk, applies]

/-- Schemas whose nodes go through the same phases run alike. -/
theorem run_of_alike (h : s'.Alike s) (v : Visit) : s'.run v = s.run v := by
  induction s using Schema.induction generalizing s' v with
  | mk s ih =>
      cases h with
      | @mk n' n t' t c' c o' o kind strict applies enter hchildren hoptions =>
          have hpart {p e' : Schema} (hp : p ∈ (Schema.mk n t c o).parts) (hrel : e'.Alike p)
              (u : Visit) : e'.run u = p.run u :=
            ih p hp hrel u
          cases henter : n.enter (treatment (.mk n t c o)) o v with
          | ended w =>
              rw [run_of_ended (s := .mk n t c o) henter]
              exact run_of_ended ((enter v).trans henter)
          | going w =>
              rw [run_of_going (s := .mk n t c o) henter,
                run_of_going (s := .mk n' t' c' o') ((enter v).trans henter)]
              have hrefused : (Schema.mk n' t' c' o').refusedNames w =
                  (Schema.mk n t c o).refusedNames w :=
                refusedNames_of_rel kind strict hchildren hoptions
              have hsame : runChildren n'.kind c' w = runChildren n.kind c w := by
                rw [kind]
                refine runChildren_of_rel hchildren n.kind ?_ ?_
                · rintro ps fields rfl - - - p hp e' hrel
                  exact hpart (mem_parts_of_property hp) hrel _
                · rintro e items rfl - - e' hrel u -
                  exact hpart (mem_parts_of_element rfl) hrel u
              rw [hrefused]
              change runOptions o' ((runChildren n'.kind c' w).refuse _) = _
              rw [hsame]
              refine runOptions_of_rel hoptions
                (fun b _ b' hrel => appliesTo_of_alike hrel _) ?_
              intro b hb b' hrel
              exact hpart (mem_parts_of_branch (mem_branches_of_chosen hb)) hrel _

end Schema

end Conform
