import Conform.Proofs.Schema.Rebuild
import Conform.Proofs.Schema.Related
import Conform.Proofs.Standard.Coercion

/-!
# Relaxing flags

A schema relaxes another one when it differs at most in flags and none of them asks for more: some
nodes are no longer strict or required, or became nullable.  What conforms to a schema conforms to
its relaxations, by a run that goes through the same states at every node.
-/

namespace Conform

/-- A node that differs from another at most in flags, none of which asks for more. -/
structure Node.Relaxes (n' n : Node) : Prop where
  flags : n' = { n with required := n'.required, nullable := n'.nullable, strict := n'.strict }
  required : n'.required = true → n.required = true
  nullable : n.nullable = true → n'.nullable = true
  strict : n'.strict = true → n.strict = true

/-- A schema that differs from another at most in the flags of its nodes, at any depth, none of
which asks for more. -/
inductive Schema.Relaxes : Schema → Schema → Prop where
  | mk {n' n : Node} {t : Table Schema} {c' c : Children Schema} {o' o : Options Schema}
      (node : n'.Relaxes n) (children : c'.Rel Relaxes c) (options : o'.Rel Relaxes o) :
      Relaxes (.mk n' t c' o') (.mk n t c o)

/-- A node of the standard context without a coercion of the caller's own and not for dates, so
that values of the kind are left alone. -/
@[mk_iff]
structure Schema.Settled (s : Schema) : Prop where
  table : s.table = Standard.table
  coerce : s.node.coerce = none
  noDate : s.kind ≠ .date

/-! ### The phases of a relaxed node -/

open Standard (treatmentOf)

namespace Node.Relaxes

variable {n n' : Node} {v : Visit} {x : Json}

theorem kind_eq (h : n'.Relaxes n) : n'.kind = n.kind := by
  rw [h.flags]

theorem coerce_eq (h : n'.Relaxes n) : n'.coerce = n.coerce := by
  rw [h.flags]

theorem applies_eq (h : n'.Relaxes n) : n'.applies = n.applies := by
  rw [h.flags]

theorem prepare_eq (h : n'.Relaxes n) (v : Visit) :
    n'.prepare (treatmentOf n'.toTraits) v = n.prepare (treatmentOf n.toTraits) v := by
  simp only [prepare, runParse, fillDefault, treatmentOf]
  rw [h.flags]

theorem firstViolation_eq (h : n'.Relaxes n) (v : Visit) :
    n'.firstViolation (treatmentOf n'.toTraits) v =
      n.firstViolation (treatmentOf n.toTraits) v := by
  simp only [firstViolation, treatmentOf]
  rw [h.flags]
  rfl

theorem valueViolation_eq {R : Schema → Schema → Prop} {o' o : Options Schema}
    (h : n'.Relaxes n) (ho : o'.Rel R o) (v : Visit) :
    n'.valueViolation (treatmentOf n'.toTraits) o' v =
      n.valueViolation (treatmentOf n.toTraits) o v := by
  cases ho with
  | none => exact h.firstViolation_eq v
  | values vs => simp only [valueViolation, h.firstViolation_eq]
  | models => exact h.firstViolation_eq v

end Node.Relaxes

namespace Node.Relaxes

variable {n n' : Node} {o' o : Options Schema} {R : Schema → Schema → Prop} {v w : Visit}

/-- A node that goes on to its children goes on in the same state when it is relaxed.  What a
strict node did not coerce already has the type, so that a lenient one leaves it alone. -/
theorem enter_going (h : n'.Relaxes n) (ho : o'.Rel R o) (hcoerce : n.coerce = none)
    (hdate : n.kind ≠ .date) (henter : n.enter (treatmentOf n.toTraits) o v = .going w) :
    n'.enter (treatmentOf n'.toTraits) o' v = .going w := by
  have houtcome := n.outcome_enter (treatmentOf n.toTraits) o v
  rw [henter] at houtcome
  cases houtcome with
  | @entered x hdefined hpresent htype hviolation =>
      have hprepare := h.prepare_eq v
      have hready := Standard.ready_eq hcoerce hdefined
      have hready' := Standard.ready_eq (h.coerce_eq.trans hcoerce) (hprepare.symm ▸ hdefined)
      have hnull : x ≠ .null := by
        rintro rfl
        rw [hready, Standard.coerced_null, Visit.current_set, Kind.accepts_null] at htype
        contradiction
      -- Only where strictness was dropped do the two nodes coerce differently.
      have hsame : n'.ready (treatmentOf n'.toTraits) v = n.ready (treatmentOf n.toTraits) v := by
        rw [hready, hready', hprepare]
        cases hstrict' : n'.strict with
        | true => simp [coerced, hstrict', h.strict hstrict']
        | false =>
            cases hstrict : n.strict with
            | false => simp [coerced, hstrict', hstrict, h.kind_eq]
            | true =>
                have hcoerced :
                    n.coerced (fun tr => (Standard.coercionOf tr.kind).toList) x = x := by
                  simp [coerced, hstrict]
                rw [hready, hcoerced, Visit.current_set] at htype
                rw [hcoerced, Standard.coerced_accepted (by rwa [h.kind_eq])
                  (by rwa [h.kind_eq])]
      rw [enter_of_present (hprepare.symm ▸ hdefined) (fun hx => (hnull hx).elim), hsame, checkType,
        h.kind_eq, if_pos htype]
      simp [Progress.andThen, checkValue, h.valueViolation_eq ho, hviolation]

/-- A node whose phases are over without an issue ends in the same state when it is relaxed. -/
theorem enter_ended (h : n'.Relaxes n) (henter : n.enter (treatmentOf n.toTraits) o v = .ended w)
    (hw : w.issues = []) : n'.enter (treatmentOf n'.toTraits) o' v = .ended w := by
  have houtcome := n.outcome_enter (treatmentOf n.toTraits) o v
  rw [henter] at houtcome
  cases houtcome with
  | missing => simp [Visit.push] at hw
  | mistyped => simp [Visit.push] at hw
  | refused => simp [Visit.push] at hw
  | absent hundefined hoptional =>
      have hoptional' : n'.required = false := by
        cases hrequired : n'.required with
        | false => rfl
        | true => simp [h.required hrequired] at hoptional
      simp [enter, h.prepare_eq, checkPresence, hundefined, hoptional', Progress.andThen]
  | null hnull hnullable =>
      simp [enter, h.prepare_eq, checkPresence, hnull, h.nullable hnullable, Progress.andThen]

end Node.Relaxes

/-! ### The run of a relaxed schema -/

namespace Schema

variable {s s' : Schema} {v : Visit}

/-- A schema whose runs are those of another one wherever that one finds nothing. -/
def Follows (s' s : Schema) : Prop :=
  ∀ v, (s.run v).issues = [] → s'.run v = s.run v

theorem children_of_relaxes (h : s'.Relaxes s) : s'.children.Rel Relaxes s.children := by
  cases h with
  | mk _ hchildren _ => exact hchildren

theorem isConditional_of_relaxes (h : s'.Relaxes s) :
    s'.options.isConditional = s.options.isConditional := by
  cases h with
  | mk _ _ hoptions => exact Options.isConditional_of_rel hoptions

theorem node_of_relaxes (h : s'.Relaxes s) : s'.node.Relaxes s.node := by
  cases h with
  | mk hnode _ _ => exact hnode

theorem appliesTo_of_relaxes (h : s'.Relaxes s) (v : Visit) : s'.appliesTo v = s.appliesTo v := by
  simp only [appliesTo, (node_of_relaxes h).applies_eq]

/-- A relaxed node refuses no property when the node refuses none. -/
theorem refusedNames_of_relaxes (h : s'.Relaxes s) (hnone : s.refusedNames v = []) :
    s'.refusedNames v = [] := by
  have hnode := node_of_relaxes h
  unfold refusedNames at hnone ⊢
  rw [show s'.kind = s.kind from hnode.kind_eq, isConditional_of_relaxes h]
  split
  · rename_i fields hkind hvalue
    simp only [hkind, hvalue] at hnone
    rw [undeclaredFields_of_rel (properties_of_rel (children_of_relaxes h))]
    cases hstrict' : s'.node.strict with
    | false => rfl
    | true => simpa [hnode.strict hstrict'] using hnone
  · rfl

/-- The children of a relaxed node are validated alike when nothing is found in them. -/
theorem runChildren_of_relaxes {c' c : Children Schema} (h : c'.Rel Relaxes c) (kind : Kind)
    (ihProperty : ∀ ps, c = .properties ps → ∀ p ∈ ps, ∀ e : Schema, e.Relaxes p.2 →
      e.Follows p.2)
    (ihElement : ∀ e, c = .element e → ∀ e' : Schema, e'.Relaxes e → e'.Follows e)
    (hissues : (runChildren kind c v).issues = []) :
    runChildren kind c' v = runChildren kind c v := by
  refine runChildren_of_rel h kind ?property ?element
  case property =>
    rintro ps fields rfl rfl hvalue hps p hp e' hrel
    refine ihProperty ps rfl p hp e' hrel _ ?_
    unfold runChildren at hissues
    simp only [hvalue, List.isEmpty_iff, hps, ↓reduceIte, issues_rebuildObject_eq_nil_iff,
      runProperties_eq_map, List.forall_mem_map] at hissues
    exact hissues.2 p hp
  case element =>
    rintro e items rfl rfl hvalue e' hrel u hu
    refine ihElement e rfl e' hrel u ?_
    unfold runChildren at hissues
    simp only [hvalue, issues_rebuildArray_eq_nil_iff, List.forall_mem_map] at hissues
    exact hissues.2 u hu

/-- A relaxed schema runs like the schema wherever the schema finds nothing. -/
theorem follows_of_relaxes (hs : s.Forall Settled) (h : s'.Relaxes s) : s'.Follows s := by
  induction s using Schema.induction generalizing s' with
  | mk s ih =>
      have hsettled := hs.here
      have ihpart : ∀ p ∈ s.parts, ∀ p' : Schema, p'.Relaxes p → p'.Follows p :=
        fun p hp p' => ih p hp (hs.part hp)
      intro v hissues
      cases h with
      | @mk n' n t c' c o' o hnode hchildren hoptions =>
          obtain rfl : t = Standard.table := hsettled.table
          have htreatment (n : Node) (c : Children Schema) (o : Options Schema) :
              (Schema.mk n Standard.table c o).treatment = treatmentOf n.toTraits :=
            Standard.treatment_eq rfl
          cases henter : n.enter (treatmentOf n.toTraits) o v with
          | ended w =>
              have hrun : (Schema.mk n Standard.table c o).run v = w :=
                run_of_ended ((htreatment n c o).symm ▸ henter)
              rw [hrun] at hissues ⊢
              have henter' : n'.enter (treatmentOf n'.toTraits) o' v = .ended w :=
                hnode.enter_ended henter hissues
              exact run_of_ended (s := .mk n' Standard.table c' o')
                ((htreatment n' c' o').symm ▸ henter')
          | going w =>
              have henter' := hnode.enter_going hoptions hsettled.coerce hsettled.noDate henter
              rw [← htreatment n c o] at henter
              rw [← htreatment n' c' o'] at henter'
              have hrelaxes : (Schema.mk n' Standard.table c' o').Relaxes
                  (.mk n Standard.table c o) := .mk hnode hchildren hoptions
              have hrun := run_of_going (s := .mk n Standard.table c o) henter
              have hrun' := run_of_going (s := .mk n' Standard.table c' o') henter'
              rw [hrun] at hissues ⊢
              rw [hrun']
              -- Issues are only ever added, so that none is found in the children or refused.
              have hbefore := (extends_runOptions (fun p _ u => extends_run p u) _).issues_eq_nil
                hissues
              obtain ⟨hfound, hrefused⟩ := issues_refuse_eq_nil_iff.mp hbefore
              have hsame : runChildren n'.kind c' w = runChildren n.kind c w := by
                rw [hnode.kind_eq]
                refine runChildren_of_relaxes hchildren n.kind ?_ ?_ hfound
                · rintro ps rfl p hp
                  exact ihpart p.2 (mem_parts_of_property hp)
                · rintro e rfl
                  exact ihpart e (mem_parts_of_element rfl)
              rw [refusedNames_of_relaxes hrelaxes hrefused]
              rw [hrefused] at hissues ⊢
              change runOptions o' ((runChildren n'.kind c' w).refuse []) = _
              rw [hsame]
              refine runOptions_of_rel hoptions
                (fun b _ b' hrel => appliesTo_of_relaxes hrel _) ?_
              intro b hb b' hrel
              have hbranch : (b.run ((runChildren n.kind c w).refuse [])).issues = [] :=
                runOptions_of_chosen hb ▸ hissues
              exact ihpart b (mem_parts_of_branch (mem_branches_of_chosen hb)) b' hrel _ hbranch

/-- Relaxing flags never loses an input: what conforms to a schema conforms to its relaxations,
with the same value in the end. -/
theorem validate_relaxed (hs : s.Forall Settled) (hrelaxes : s'.Relaxes s) (input : Option Json)
    (h : (s.validate input).conforms = true) :
    (s'.validate input).conforms = true ∧
      (s'.validate input).value = (s.validate input).value := by
  have hrun : s'.validate input = s.validate input :=
    follows_of_relaxes hs hrelaxes _ (Visit.conforms_iff.mp h)
  rw [hrun]
  exact ⟨h, rfl⟩

/-- A ticket with the same flags everywhere, of which those with a row are checked further. -/
def ticket (required nullable strict : Bool) : Schema :=
  let leaf (kind : Kind) : Schema := .ofNode { kind, required, nullable, strict } Standard.table
  let hasRow (v : Visit) : Bool :=
    match v.current with
    | .obj fields => Fields.contains fields "row"
    | _ => false
  let reserved : Schema :=
    .mk { kind := .object, required, nullable, strict, applies := some hasRow } Standard.table
      (.properties [("row", leaf .string), ("seat", leaf .integer)]) .none
  .mk { kind := .object, required, nullable, strict } Standard.table
    (.properties [("seat", leaf .integer)]) (.models [reserved])

theorem settled_ticket (required nullable strict : Bool) :
    (ticket required nullable strict).Forall Settled := by
  simp [ticket, ofNode, forall_mk, settled_iff]

theorem ticket_relaxes : (ticket false true false).Relaxes (ticket true false true) := by
  have hleaf (kind : Kind) :
      (Schema.ofNode { kind, required := false, nullable := true, strict := false }
        Standard.table).Relaxes
      (.ofNode { kind, required := true, nullable := false, strict := true } Standard.table) :=
    .mk ⟨rfl, nofun, fun _ => rfl, nofun⟩ .none .none
  refine .mk ⟨rfl, nofun, fun _ => rfl, nofun⟩ ?_ ?_
  · exact .properties (.cons (hleaf .integer) .nil)
  · refine .models (.cons (.mk ⟨rfl, nofun, fun _ => rfl, nofun⟩ ?_ .none) .nil)
    exact .properties (.cons (hleaf .string) (.cons (hleaf .integer) .nil))

theorem validate_relaxed_ticket :
    let input : Option Json := some (.obj [("seat", .ofInt 3), ("row", .str "1")])
    ((ticket true false true).validate input).conforms = true ∧
      ((ticket false true false).validate input).conforms = true ∧
      ((ticket false true false).validate input).value =
        ((ticket true false true).validate input).value := by
  intro input
  have hconforms : ((ticket true false true).validate input).conforms = true := by
    decide +kernel
  exact ⟨hconforms,
    validate_relaxed (settled_ticket true false true) ticket_relaxes input hconforms⟩

end Schema

end Conform
