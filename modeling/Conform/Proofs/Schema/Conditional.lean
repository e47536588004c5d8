import Conform.Proofs.Schema.Frame
import Conform.Proofs.Schema.Places
import Conform.Proofs.Standard.Handlers

/-!
# Conditional schemas

A conditional schema goes through the phases of its plain form and validates the children like that
form; then the first option that applies goes on from the state they leave.  Whether a node got as
far as its children can be read off the state it ends in: where it stopped before, there is no
value, or `null`, or an issue of its own.
-/

namespace Conform

open Visit

namespace Visit

/-- A visit that was stopped: it ends without a value, with `null`, or with an issue at the place
where it began. -/
def Stopped (w v : Visit) : Prop :=
  w.value = none ∨ w.value = some .null ∨ ∃ i ∈ w.issues, i.path = v.path

theorem stopped_push {u v : Visit} (h : u.path = v.path) (violation : Violation) :
    (u.push violation).Stopped v :=
  .inr (.inr ⟨.ofViolation u.path violation, by simp [push], h⟩)

end Visit

namespace Node

variable {σ : Type} {n : Node} {t : Treatment} {o : Options σ} {v w : Visit}

/-- The phases before the children take no notice of conditional options. -/
theorem enter_models (n : Node) (t : Treatment) (ss : List σ) (v : Visit) :
    n.enter t (.models ss) v = n.enter t (.none : Options σ) v := rfl

/-- A node whose phases have ended was stopped. -/
theorem stopped_of_ended (h : n.enter t o v = .ended w) : w.Stopped v := by
  have houtcome := n.outcome_enter t o v
  rw [h] at houtcome
  cases houtcome with
  | missing => exact stopped_push (extends_prepare n t v).path _
  | absent undefined => exact .inl undefined
  | null isNull => exact .inr (.inl isNull)
  | mistyped => exact stopped_push (extends_ready n t v).path _
  | refused => exact stopped_push (extends_ready n t v).path _

end Node

namespace Schema

variable {s m : Schema} {v w : Visit}

/-! ### How far a node got -/

/-- The children leave a value of the kind of the node. -/
theorem accepts_runChildren_kind (value : w.value = some w.current)
    (type : s.kind.accepts w.current = true) :
    ∃ x, (runChildren s.kind s.children w).value = some x ∧ s.kind.accepts x = true := by
  have houtcome := s.outcome_runChildren w
  generalize runChildren s.kind s.children w = u at houtcome ⊢
  cases houtcome with
  | unchanged => exact ⟨w.current, value, type⟩
  | object kind => exact ⟨_, rfl, by rw [kind]; rfl⟩
  | array kind => exact ⟨_, rfl, by rw [kind]; rfl⟩

/-- What is reported after the phases of a node went on lies inside its value. -/
theorem path_ne_of_mem_decided (clean : w.issues = []) {i : Issue}
    (hi : i ∈ (s.decided w).issues) : i.path ≠ w.path := by
  have hbelow : ∃ segment, w.path ++ [segment] <+: i.path := by
    rcases List.mem_append.mp hi with hi | hi
    · obtain ⟨segment, hplace, -⟩ := below_of_mem_runChildren clean hi
      exact ⟨segment, hplace⟩
    · obtain ⟨name, -, rfl⟩ := List.mem_map.mp hi
      have hpath := (extends_runChildren (fun p _ => p.extends_run) w : Extends
        (runChildren s.kind s.children w) w).path
      exact ⟨.key name, by simp [unexpectedProperty, Issue.ofViolation, hpath]⟩
  obtain ⟨segment, hplace⟩ := hbelow
  intro heq
  have hlength := hplace.length_le
  rw [heq, List.length_append, List.length_singleton] at hlength
  omega

/-- A node whose phases go on has not stopped when its children are done. -/
theorem not_stopped_decided (clean : v.issues = [])
    (h : s.node.enter s.treatment s.options v = .going w) : ¬(s.decided w).Stopped v := by
  obtain ⟨value, type⟩ := Node.accepts_of_going h
  obtain ⟨x, hx, haccepts⟩ := accepts_runChildren_kind value type
  have hvalue : (s.decided w).value = some x := hx
  rintro (hnone | hnull | ⟨i, hi, hpath⟩)
  · rw [hvalue] at hnone
    contradiction
  · obtain rfl := Option.some.inj (hvalue.symm.trans hnull)
    rw [Kind.accepts_null] at haccepts
    contradiction
  · rw [← path_of_going h] at hpath
    exact path_ne_of_mem_decided ((issues_of_going h).trans clean) hi hpath

/-- Where the phases of a node ended can be read off the state that its run ends in. -/
theorem stopped_run_iff (hplain : s.options.isConditional = false) (clean : v.issues = []) :
    (s.run v).Stopped v ↔ ∃ w, s.node.enter s.treatment s.options v = .ended w := by
  cases h : s.node.enter s.treatment s.options v with
  | ended w =>
      rw [run_of_ended h]
      exact ⟨fun _ => ⟨w, rfl⟩, fun _ => Node.stopped_of_ended h⟩
  | going w =>
      rw [run_eq_decided hplain h]
      refine ⟨fun hstopped => (not_stopped_decided clean h hstopped).elim, ?_⟩
      rintro ⟨u, hu⟩
      contradiction

/-! ### The plain form and the options -/

theorem runFirst_of_first {earlier later : List Schema} {b : Schema}
    (skipped : ∀ a ∈ earlier, a.appliesTo v = false) (applies : b.appliesTo v = true) :
    runFirst (earlier ++ b :: later) v = b.run v := by
  refine runOptions_of_chosen (o := .models (earlier ++ b :: later)) ?_
  refine List.find?_eq_some_iff_append.mpr ⟨applies, earlier, later, rfl, ?_⟩
  intro a ha
  simp [skipped a ha]

theorem runFirst_of_none {ss : List Schema} (skipped : ∀ b ∈ ss, b.appliesTo v = false) :
    runFirst ss v = v.push noOptionViolation := by
  rcases runFirst_cases ss v with ⟨b, hb, happlies, -⟩ | hpush
  · rw [skipped b hb] at happlies
    contradiction
  · exact hpush

theorem edit_enumModels {bs : List Schema} (predicates : ∀ b ∈ bs, b.node.applies.isSome)
    (m : Schema) : m.edit (.enumModels bs) = .ok (m.withOptions (.models bs)) := by
  have hfound : (bs.findIdx? fun b => b.node.applies.isNone) = none := by
    rw [List.findIdx?_eq_none_iff]
    intro b hb
    simpa using predicates b hb
  rw [edit, setModels, hfound]

/-- The options of a lenient node are validated after its plain form, unless that stopped. -/
theorem run_withOptions_models (shallow : m.table.Shallow) (lenient : m.node.strict = false)
    (hplain : m.options = .none) (clean : v.issues = []) (bs : List Schema) :
    ((m.run v).Stopped v → (m.withOptions (.models bs)).run v = m.run v) ∧
      (¬(m.run v).Stopped v →
        (m.withOptions (.models bs)).run v = runFirst bs (m.run v)) := by
  have hunconditional : m.options.isConditional = false := by
    rw [hplain]
    rfl
  rw [stopped_run_iff hunconditional clean]
  obtain ⟨n, t, c, o⟩ := m
  obtain rfl : o = .none := hplain
  have hmodels : n.enter (treatment (.mk n t c (.models bs))) (.models bs) v =
      n.enter (treatment (.mk n t c .none)) (.none : Options Schema) v := by
    have htreatment : treatment (.mk n t c (.models bs)) = treatment (.mk n t c .none) :=
      treatment_eq_of_shallow (s := .mk n t c .none) shallow rfl rfl
    rw [htreatment]
    exact n.enter_models _ bs v
  cases h : n.enter (treatment (.mk n t c .none)) (.none : Options Schema) v with
  | ended w =>
      have hsame : (Schema.mk n t c (.models bs)).run v = (Schema.mk n t c .none).run v :=
        (run_of_ended (s := .mk n t c (.models bs)) (hmodels.trans h)).trans
          (run_of_ended (s := .mk n t c .none) h).symm
      exact ⟨fun _ => hsame, fun hgoing => (hgoing ⟨w, h⟩).elim⟩
  | going w =>
      refine ⟨?_, fun _ => ?_⟩
      · rintro ⟨u, hu⟩
        rw [node_mk, options_mk, h] at hu
        contradiction
      · rw [run_of_going (s := .mk n t c .none) h, withOptions,
          run_of_going (s := .mk n t c (.models bs)) (hmodels.trans h),
          refusedNames_of_lenient (s := .mk n t c .none) lenient,
          refusedNames_of_lenient (s := .mk n t c (.models bs)) lenient]
        rfl

/-- A conditional node is its plain form, followed by the first option that applies.  Where the
plain form ends without a value, with `null` or with an issue at the place of the node, the
conditional one ends alike.  Otherwise the first option whose predicate holds in the state that the
plain form ends in goes on from there, and if there is none, one issue is added at the place of the
node. -/
theorem run_enumModels {bs : List Schema} (shallow : m.table.Shallow)
    (lenient : m.node.strict = false) (hplain : m.options = .none)
    (predicates : ∀ b ∈ bs, b.node.applies.isSome) (clean : v.issues = []) :
    ∃ c, m.edit (.enumModels bs) = .ok c ∧
      ((m.run v).Stopped v → c.run v = m.run v) ∧
      (¬(m.run v).Stopped v →
        (∀ earlier b later, bs = earlier ++ b :: later →
          (∀ a ∈ earlier, a.appliesTo (m.run v) = false) → b.appliesTo (m.run v) = true →
            c.run v = b.run (m.run v)) ∧
        ((∀ b ∈ bs, b.appliesTo (m.run v) = false) →
          c.run v = { m.run v with
            issues := (m.run v).issues ++ [.ofViolation v.path
              { kind := .noApplicableOption
                message := "no conditional option applies to the value" }] })) := by
  obtain ⟨hstopped, hgoing⟩ := run_withOptions_models shallow lenient hplain clean bs
  refine ⟨_, edit_enumModels predicates m, hstopped, fun h => ⟨?_, ?_⟩⟩
  · rintro earlier b later rfl skipped applies
    rw [hgoing h, runFirst_of_first skipped applies]
  · intro skipped
    rw [hgoing h, runFirst_of_none skipped, ← (m.extends_run v).path]
    rfl

/-- A payment whose method is told by a name, with an amount that may be given as a text. -/
def payment : Schema :=
  let leaf (n : Node) : Schema := .ofNode n Standard.table
  .mk { kind := .object } Standard.table
    (.properties [("method", leaf { kind := .string }), ("amount", leaf { kind := .integer })])
    .none

/-- A payment by a method has the further properties of that method.  It is looked at only where
nothing was found wrong so far. -/
def paidBy (method : String) (ps : List (String × Schema)) : Schema :=
  let applies (v : Visit) : Bool :=
    v.conforms && (v.current.step? (.key "method")).any fun x => x.same (.str method)
  .mk { kind := .object, applies := some applies } Standard.table (.properties ps) .none

theorem run_enumModels_payment :
    let leaf (kind : Kind) : Schema := .ofNode { kind } Standard.table
    let transfer := paidBy "transfer" [("account", leaf .integer)]
    let visit (amount : String) : Visit :=
      { value := some (.obj [("method", .str "transfer"), ("amount", .str amount)]),
        root := .null, path := [.key "payment"], issues := [] }
    ∃ c, payment.edit (.enumModels [paidBy "card" [], transfer]) = .ok c ∧
      c.run (visit "12") = transfer.run (payment.run (visit "12")) ∧
      (c.run (visit "12")).issues.map Issue.path = [[.key "payment", .key "account"]] ∧
      (c.run (visit "a dozen")).issues.map Issue.path =
        [[.key "payment", .key "amount"], [.key "payment"]] := by
  intro leaf transfer visit
  have predicates : ∀ b ∈ [paidBy "card" [], transfer], b.node.applies.isSome := by
    simp [transfer, paidBy]
  have hgoing (amount : String) : ¬(payment.run (visit amount)).Stopped (visit amount) := by
    rw [stopped_run_iff rfl rfl]
    rintro ⟨w, hw⟩
    contradiction
  obtain ⟨c, hmade, -, htwelve⟩ :=
    run_enumModels (m := payment) Standard.shallow rfl rfl predicates (v := visit "12") rfl
  obtain ⟨c', hmade', -, hdozen⟩ :=
    run_enumModels (m := payment) Standard.shallow rfl rfl predicates (v := visit "a dozen") rfl
  obtain rfl : c = c' := Except.ok.inj (hmade.symm.trans hmade')
  have htransfer : c.run (visit "12") = transfer.run (payment.run (visit "12")) := by
    refine (htwelve (hgoing "12")).1 [paidBy "card" []] transfer [] rfl ?_ (by decide +kernel)
    simp only [List.forall_mem_singleton]
    decide +kernel
  refine ⟨c, hmade, htransfer, ?_, ?_⟩
  · rw [htransfer]
    decide +kernel
  · have hnone : ∀ b ∈ [paidBy "card" [], transfer],
        b.appliesTo (payment.run (visit "a dozen")) = false := by
      simp only [List.forall_mem_cons]
      exact ⟨by decide +kernel, by decide +kernel, nofun⟩
    rw [(hdozen (hgoing "a dozen")).2 hnone, List.map_append]
    decide +kernel

end Schema

end Conform
