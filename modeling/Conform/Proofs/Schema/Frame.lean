import Conform.Proofs.Schema.Related
import Mathlib.Data.Set.Function

/-!
# The frame of a run

A run reaches the functions of its nodes with states of its own making.  This file names those
states, shows that all of them have the root of the run and a place at or below its place, and that
nothing else about the functions matters: schemas whose functions answer alike at these states run
alike.
-/

namespace Conform

open Visit

/-! ### States below a state -/

namespace Visit

/-- A state of the same call at the same place or below it. -/
structure Below (w v : Visit) : Prop where
  root : w.root = v.root
  path : v.path <+: w.path

namespace Below

theorem refl (v : Visit) : v.Below v :=
  ⟨rfl, List.prefix_refl v.path⟩

theorem trans {u v w : Visit} (h : w.Below v) (h' : v.Below u) : w.Below u :=
  ⟨h.root.trans h'.root, h'.path.trans h.path⟩

theorem of_descend {v w : Visit} {segment : Segment} {x : Option Json}
    (h : w.Below (v.descend segment x)) : w.Below v :=
  h.trans ⟨rfl, List.prefix_append v.path [segment]⟩

end Below

theorem Extends.below {v w : Visit} (h : w.Extends v) : w.Below v :=
  ⟨h.root, h.path ▸ List.prefix_refl v.path⟩

/-- The states that a chain of transforms is given, one for each. -/
def stages : List (Visit → Option Json) → Visit → List Visit
  | [], _ => []
  | f :: fs, v => v :: stages fs (((f v).map v.set).getD v)

theorem below_of_mem_stages {fs : List (Visit → Option Json)} {v w : Visit}
    (h : w ∈ stages fs v) : w.Below v := by
  induction fs generalizing v with
  | nil => contradiction
  | cons f fs ih =>
      rcases List.mem_cons.mp h with rfl | h
      · exact .refl w
      · have hstep : (((f v).map v.set).getD v).Below v := by
          cases f v with
          | none => exact .refl v
          | some x => exact (extends_set v x).below
        exact (ih h).trans hstep

/-- Transforms that answer alike at the states they are given make the same of a value. -/
theorem transform_congr {A : Set Visit} {fs' fs : List (Visit → Option Json)}
    (h : List.Forall₂ (fun f' f => Set.EqOn f' f A) fs' fs) {v : Visit}
    (hA : ∀ w ∈ stages fs v, w ∈ A) : v.transform fs' = v.transform fs := by
  induction h generalizing v with
  | nil => rfl
  | @cons f' f fs' fs hf _ ih =>
      rw [stages, List.forall_mem_cons] at hA
      rw [transform_cons, transform_cons, hf hA.1]
      exact ih hA.2

end Visit

/-! ### What the functions of a node are given -/

namespace Node

/-- The transforms of the parse phase. -/
def parsers (n : Node) (t : Treatment) : List (Visit → Option Json) :=
  t.parse ++ n.parse.toList

/-- The transforms of the coercion phase. -/
def coercers (n : Node) (t : Treatment) : List (Visit → Option Json) :=
  t.coerce ++ n.coerce.toList

/-- The assertions of the handlers and then of the checks. -/
def asserters (n : Node) (t : Treatment) : List (Visit → Option Violation) :=
  t.validate ++ n.checks.map Check.run

/-- The states that the functions of a node are given, phase by phase, as far as the phases go. -/
inductive Asks (n : Node) (t : Treatment) (v : Visit) : Visit → Prop where
  | parse {w : Visit} (stage : w ∈ stages (n.parsers t) v) : Asks n t v w
  | default (undefined : (n.runParse t v).value = none) (given : n.default.isSome) :
      Asks n t v (n.runParse t v)
  | coerce {w : Visit} (present : n.checkPresence (n.prepare t v) = .going (n.prepare t v))
      (lenient : n.strict = false) (stage : w ∈ stages (n.coercers t) (n.prepare t v)) :
      Asks n t v w
  | check (present : n.checkPresence (n.prepare t v) = .going (n.prepare t v))
      (type : n.checkType (n.ready t v) = .going (n.ready t v)) : Asks n t v (n.ready t v)

theorem below_of_asks {n : Node} {t : Treatment} {v w : Visit} (h : n.Asks t v w) : w.Below v := by
  cases h with
  | parse stage => exact below_of_mem_stages stage
  | default => exact (extends_transform _ v).below
  | coerce _ _ stage => exact (below_of_mem_stages stage).trans (extends_prepare n t v).below
  | check => exact (extends_ready n t v).below

/-- A node with the flags of another one whose functions answer like those of that one at some
states. -/
structure AgreesOn (A : Set Visit) (n' : Node) (t' : Treatment) (n : Node) (t : Treatment) :
    Prop where
  kind : n'.kind = n.kind
  required : n'.required = n.required
  nullable : n'.nullable = n.nullable
  strict : n'.strict = n.strict
  parse : List.Forall₂ (fun f' f => Set.EqOn f' f A) (n'.parsers t') (n.parsers t)
  default : Option.Rel (fun d' d => Set.EqOn d'.resolve d.resolve A) n'.default n.default
  coerce : List.Forall₂ (fun f' f => Set.EqOn f' f A) (n'.coercers t') (n.coercers t)
  check : List.Forall₂ (fun f' f => Set.EqOn f' f A) (n'.asserters t') (n.asserters t)
  applies : Option.Rel (fun f' f => Set.EqOn f' f A) n'.applies n.applies

theorem checkPresence_eq_or (n : Node) (v : Visit) :
    n.checkPresence v = .going v ∨ ∃ w, n.checkPresence v = .ended w := by
  unfold checkPresence
  split
  · split
    · exact .inr ⟨_, rfl⟩
    · exact .inr ⟨_, rfl⟩
  · split
    · exact .inr ⟨_, rfl⟩
    · exact .inl rfl
  · exact .inl rfl

theorem checkType_eq_or (n : Node) (v : Visit) :
    n.checkType v = .going v ∨ ∃ w, n.checkType v = .ended w := by
  unfold checkType
  split
  · exact .inl rfl
  · exact .inr ⟨_, rfl⟩

/-- The first violation is the same where the assertions answer alike. -/
theorem findSome?_congr {A : Set Visit} {fs' fs : List (Visit → Option Violation)}
    (h : List.Forall₂ (fun f' f => Set.EqOn f' f A) fs' fs) {v : Visit} (hv : v ∈ A) :
    (fs'.findSome? fun f => f v) = fs.findSome? fun f => f v := by
  induction h with
  | nil => rfl
  | cons hf _ ih => rw [List.findSome?_cons, List.findSome?_cons, hf hv, ih]

namespace AgreesOn

variable {σ : Type} {A : Set Visit} {n' n : Node} {t' t : Treatment} {o' o : Options σ}
  {R : σ → σ → Prop} {v : Visit}

theorem prepare_eq (h : n'.AgreesOn A t' n t) (hA : ∀ w, n.Asks t v w → w ∈ A) :
    n'.prepare t' v = n.prepare t v := by
  have hparse : n'.runParse t' v = n.runParse t v := by
    apply transform_congr h.parse
    intro w hw
    exact hA w (.parse hw)
  rw [prepare, prepare, hparse, fillDefault, fillDefault]
  have hdefault := h.default
  generalize hgiven' : n'.default = d' at hdefault ⊢
  generalize hgiven : n.default = d at hdefault ⊢
  cases hvalue : (n.runParse t v).value with
  | some x => rfl
  | none =>
      cases hdefault with
      | none => rfl
      | some hresolve =>
          have hasked := hA _ (.default hvalue (by rw [hgiven]; rfl))
          simp only [hresolve hasked]

theorem ready_eq (h : n'.AgreesOn A t' n t) (hA : ∀ w, n.Asks t v w → w ∈ A)
    (present : n.checkPresence (n.prepare t v) = .going (n.prepare t v)) :
    n'.ready t' v = n.ready t v := by
  rw [ready, ready, h.prepare_eq hA, runCoerce, runCoerce, h.strict]
  cases lenient : n.strict with
  | true => rfl
  | false =>
      apply transform_congr h.coerce
      intro w hw
      exact hA w (.coerce present lenient hw)

theorem checkValue_eq (h : n'.AgreesOn A t' n t) (ho : o'.Rel R o) (hv : v ∈ A) :
    n'.checkValue t' o' v = n.checkValue t o v := by
  have hfirst : n'.firstViolation t' v = n.firstViolation t v := findSome?_congr h.check hv
  have hvalue : n'.valueViolation t' o' v = n.valueViolation t o v := by
    cases ho with
    | none => exact hfirst
    | values vs => simp only [valueViolation, hfirst]
    | models _ => exact hfirst
  simp only [checkValue, hvalue]

/-- Nodes that agree at the states that one of them asks about go through the same phases. -/
theorem enter_eq (h : n'.AgreesOn A t' n t) (ho : o'.Rel R o)
    (hA : ∀ w, n.Asks t v w → w ∈ A) : n'.enter t' o' v = n.enter t o v := by
  have hpresence (w : Visit) : n'.checkPresence w = n.checkPresence w := by
    simp only [checkPresence, h.required, h.nullable]
  have htype (w : Visit) : n'.checkType w = n.checkType w := by
    simp only [checkType, h.kind]
  rw [enter, enter, h.prepare_eq hA, hpresence]
  rcases n.checkPresence_eq_or (n.prepare t v) with present | ⟨w, ended⟩
  · have hready := h.ready_eq hA present
    rw [ready, h.prepare_eq hA] at hready
    rw [present, Progress.andThen, Progress.andThen, hready, htype]
    rcases n.checkType_eq_or (n.ready t v) with type | ⟨w, ended⟩
    · have hvalue := h.checkValue_eq ho (hA _ (.check present type))
      rw [← ready, type, Progress.andThen, Progress.andThen, hvalue]
    · rw [← ready, ended, Progress.andThen, Progress.andThen]
  · rw [ended, Progress.andThen, Progress.andThen]

end AgreesOn

end Node

/-! ### What the functions of a schema are given -/

namespace Schema

variable {s s' : Schema} {v w : Visit} {A : Set Visit}

/-- The state after the children, in which the options are looked at. -/
def decided (s : Schema) (v : Visit) : Visit :=
  (runChildren s.kind s.children v).refuse (s.refusedNames v)

/-- Without conditional options a run ends in the state after the children. -/
theorem run_eq_decided (hplain : s.options.isConditional = false)
    (h : s.node.enter s.treatment s.options v = .going w) : s.run v = s.decided w := by
  rw [run_of_going h, runOptions_of_not_conditional hplain, decided]

/-- The states that the functions of a schema are given in a run: those of the node, those of its
children at the entries that they are for, one for all the predicates of its options, and those of
the option that is chosen. -/
inductive Asks : Schema → Visit → Visit → Prop where
  | here {s : Schema} {v w : Visit} (asks : s.node.Asks s.treatment v w) : Asks s v w
  | property {s p : Schema} {v u w : Visit} {name : String} {fields : List (String × Json)}
      (entered : s.node.enter s.treatment s.options v = .going u) (kind : s.kind = .object)
      (value : u.value = some (.obj fields)) (declared : (name, p) ∈ s.properties)
      (below : Asks p (u.descend (.key name) (Fields.get? fields name)) w) : Asks s v w
  | element {s e : Schema} {v u w c : Visit} {items : List Json}
      (entered : s.node.enter s.treatment s.options v = .going u) (kind : s.kind = .array)
      (value : u.value = some (.arr items)) (element : s.element? = some e)
      (item : c ∈ u.elements items) (below : Asks e c w) : Asks s v w
  | predicate {s b : Schema} {v u : Visit} {f : Visit → Bool}
      (entered : s.node.enter s.treatment s.options v = .going u) (branch : b ∈ s.options.branches)
      (applies : b.node.applies = some f) : Asks s v (s.decided u)
  | option {s b : Schema} {v u w : Visit}
      (entered : s.node.enter s.treatment s.options v = .going u)
      (chosen : chosen? s.options (s.decided u) = some b) (below : Asks b (s.decided u) w) :
      Asks s v w

theorem below_of_going (h : s.node.enter s.treatment s.options v = .going w) : w.Below v := by
  have hextends := s.node.extends_enter s.treatment s.options v
  rw [h] at hextends
  exact hextends.below

theorem below_decided (s : Schema) (v : Visit) : (s.decided v).Below v :=
  ((extends_refuse _ _).trans (extends_runChildren (fun p _ => p.extends_run) v)).below

/-- Every state that a function is given has the root of the run, at its place or below it. -/
theorem below_of_asks (h : s.Asks v w) : w.Below v := by
  induction h with
  | here asks => exact Node.below_of_asks asks
  | property entered _ _ _ _ ih => exact ih.of_descend.trans (below_of_going entered)
  | element entered _ _ _ item _ ih =>
      obtain ⟨x, -, rfl⟩ := List.mem_map.mp item
      exact ih.of_descend.trans (below_of_going entered)
  | predicate entered _ _ => exact (below_decided _ _).trans (below_of_going entered)
  | option entered _ _ ih => exact (ih.trans (below_decided _ _)).trans (below_of_going entered)

/-- A schema of the same shape as another one, with the same flags and options, whose functions
answer like those of that one at some states. -/
inductive AgreesOn (A : Set Visit) : Schema → Schema → Prop where
  | mk {n' n : Node} {t' t : Table Schema} {c' c : Children Schema} {o' o : Options Schema}
      (node : n'.AgreesOn A (treatment (.mk n' t' c' o')) n (treatment (.mk n t c o)))
      (children : c'.Rel (AgreesOn A) c) (options : o'.Rel (AgreesOn A) o) :
      AgreesOn A (.mk n' t' c' o') (.mk n t c o)

theorem appliesTo_of_agreesOn (h : s'.AgreesOn A s)
    (hA : ∀ f, s.node.applies = some f → v ∈ A) : s'.appliesTo v = s.appliesTo v := by
  cases h with
  | @mk n' n t' t c' c o' o node _ _ =>
      have happlies := node.applies
      rw [node_mk] at hA
      rw [appliesTo, appliesTo, node_mk, node_mk]
      generalize n'.applies = a' at happlies ⊢
      generalize n.applies = a at happlies hA ⊢
      cases happlies with
      | none => rfl
      | some heq => simp only [Option.any_some, heq (hA _ rfl)]

/-- Nothing about the functions of a schema matters to a run but their answers at the states that
they are given. -/
theorem run_of_agreesOn (h : s'.AgreesOn A s) (hA : ∀ w, s.Asks v w → w ∈ A) :
    s'.run v = s.run v := by
  induction s using Schema.induction generalizing s' v with
  | mk s ih =>
      cases h with
      | @mk n' n t' t c' c o' o node hchildren hoptions =>
          have henter : n'.enter (treatment (.mk n' t' c' o')) o' v =
              n.enter (treatment (.mk n t c o)) o v := by
            apply node.enter_eq hoptions
            intro w hw
            exact hA w (.here (s := .mk n t c o) hw)
          cases entered : n.enter (treatment (.mk n t c o)) o v with
          | ended w =>
              rw [run_of_ended (s := .mk n t c o) entered]
              exact run_of_ended (henter.trans entered)
          | going u =>
              rw [run_of_going (s := .mk n t c o) entered,
                run_of_going (s := .mk n' t' c' o') (henter.trans entered)]
              have hrefused : (Schema.mk n' t' c' o').refusedNames u =
                  (Schema.mk n t c o).refusedNames u :=
                refusedNames_of_rel node.kind node.strict hchildren hoptions
              have hsame : runChildren n'.kind c' u = runChildren n.kind c u := by
                rw [node.kind]
                refine runChildren_of_rel hchildren n.kind ?property ?element
                case property =>
                  rintro ps fields rfl kind value - p hp e' hrel
                  apply ih p.2 (mem_parts_of_property hp) hrel
                  intro w hw
                  apply hA
                  exact .property (s := .mk n t (.properties ps) o) entered kind value hp hw
                case element =>
                  rintro e items rfl kind value e' hrel c hc
                  apply ih e (mem_parts_of_element rfl) hrel
                  intro w hw
                  apply hA
                  exact .element (s := .mk n t (.element e) o) entered kind value rfl hc hw
              rw [hrefused]
              change runOptions o' ((runChildren n'.kind c' u).refuse _) = _
              rw [hsame]
              refine runOptions_of_rel hoptions ?_ ?_
              · intro b hb b' hrel
                apply appliesTo_of_agreesOn hrel
                intro f hf
                apply hA
                exact .predicate (s := .mk n t c o) entered hb hf
              · intro b hb b' hrel
                apply ih b (mem_parts_of_branch (mem_branches_of_chosen hb)) hrel
                intro w hw
                apply hA
                exact .option (s := .mk n t c o) entered hb hw

/-- A run stays in its frame.  It keeps the root and the place, and the issues found before, to
which it adds issues at the place or below it; and the functions of the schema are only given
states with that root, at the place or below it.  Those are all the states that matter: a schema
whose functions answer alike there runs alike. -/
theorem run_in_frame (s : Schema) (v : Visit) :
    (s.run v).root = v.root ∧ (s.run v).path = v.path ∧
      (∃ new, (s.run v).issues = v.issues ++ new ∧ ∀ i ∈ new, v.path <+: i.path) ∧
      (∀ w, s.Asks v w → w.root = v.root ∧ v.path <+: w.path) ∧
      ∀ s' : Schema, s'.AgreesOn {w | s.Asks v w} s → s'.run v = s.run v := by
  have hextends := s.extends_run v
  refine ⟨hextends.root, hextends.path, hextends.issues, ?_, ?_⟩
  · intro w hw
    have hbelow := below_of_asks hw
    exact ⟨hbelow.root, hbelow.path⟩
  · intro s' hs'
    exact run_of_agreesOn hs' fun w hw => hw

end Schema

end Conform
