import Conform.Proofs.Schema.Places

/-!
# Where issues point

Which phase of which node reports an issue, and what stands at the place of the issue in the value
that the validation ends with.  A node that reports an issue keeps its value from then on, and the
objects and arrays around it are rebuilt with that value in its place; what nodes report therefore
points into the final value.
-/

namespace Conform

open Visit

namespace Schema

/-! ### The issues of a run -/

/-- An issue that the run of a schema reports, with the node that finds it and the phase. -/
inductive Reports : Schema → Visit → Schema → Origin → Issue → Prop where
  | here {s : Schema} {v w : Visit} {origin : Origin} {violation : Violation}
      (objects : s.node.Objects s.treatment s.options v w origin violation) :
      Reports s v s origin (.ofViolation v.path violation)
  | unexpected {s : Schema} {v w : Visit} {name : String}
      (entered : s.node.enter s.treatment s.options v = .going w)
      (refused : name ∈ s.refusedNames w) :
      Reports s v s (.undeclared name) (v.unexpectedProperty name)
  | property {s p node : Schema} {v w : Visit} {origin : Origin} {i : Issue} {name : String}
      {fields : List (String × Json)}
      (entered : s.node.enter s.treatment s.options v = .going w) (kind : s.kind = .object)
      (value : w.value = some (.obj fields)) (declared : (name, p) ∈ s.properties)
      (below : Reports p (w.descend (.key name) (Fields.get? fields name)) node origin i) :
      Reports s v node origin i
  | element {s e node : Schema} {v w : Visit} {origin : Origin} {i : Issue} {items : List Json}
      {x : Json} {index : Nat} (entered : s.node.enter s.treatment s.options v = .going w)
      (kind : s.kind = .array) (value : w.value = some (.arr items))
      (element : s.element? = some e) (item : items[index]? = some x)
      (below : Reports e (w.descend (.index index) (some x)) node origin i) :
      Reports s v node origin i

variable {s : Schema} {v w : Visit}

/-- Phases that have ended add what the node reports. -/
theorem mem_issues_of_ended {u : Visit} (h : s.node.enter s.treatment s.options v = .ended u)
    {i : Issue} : i ∈ u.issues ↔ i ∈ v.issues ∨ ∃ node origin, s.Reports v node origin i := by
  constructor
  · intro hi
    rcases Node.objects_of_ended h with hissues | ⟨w, origin, violation, hobjects, rfl⟩
    · exact .inl (hissues ▸ hi)
    · simp only [push, hobjects.issues_eq, hobjects.path_eq, List.mem_append,
        List.mem_singleton] at hi
      rcases hi with hi | rfl
      · exact .inl hi
      · exact .inr ⟨s, origin, .here hobjects⟩
  · rintro (hi | ⟨node, origin, hreports⟩)
    · have hextends := s.node.extends_enter s.treatment s.options v
      rw [h] at hextends
      obtain ⟨new, hnew, -⟩ := hextends.issues
      exact hnew ▸ List.mem_append_left new hi
    · cases hreports with
      | here objects =>
          obtain rfl := Progress.ended.inj (h.symm.trans objects.enter_eq)
          simp [push, objects.path_eq]
      | unexpected entered => simp [h] at entered
      | property entered => simp [h] at entered
      | element entered => simp [h] at entered

/-- The children and the refused names add what is reported below the node, where the runs of the
parts do. -/
theorem mem_issues_of_going (h : s.node.enter s.treatment s.options v = .going w)
    (ih : ∀ p ∈ s.parts, ∀ u : Visit, u.issues = [] → ∀ i,
      i ∈ (p.run u).issues ↔ ∃ node origin, p.Reports u node origin i) {i : Issue} :
    i ∈ ((runChildren s.kind s.children w).refuse (s.refusedNames w)).issues ↔
      i ∈ v.issues ∨ ∃ node origin, s.Reports v node origin i := by
  have hpath : (runChildren s.kind s.children w).path = v.path :=
    (extends_runChildren (fun p _ => p.extends_run) w).path.trans (path_of_going h)
  simp only [refuse, List.mem_append, List.mem_map, mem_issues_runChildren_iff,
    issues_of_going h, unexpectedProperty, hpath]
  constructor
  · rintro ((hi | ⟨fields, name, p, kind, value, declared, hi⟩ |
      ⟨items, e, x, index, kind, value, element, item, hi⟩) | ⟨name, hname, rfl⟩)
    · exact .inl hi
    · obtain ⟨node, origin, below⟩ := (ih p (mem_parts_of_property declared) _ rfl i).mp hi
      exact .inr ⟨node, origin, .property h kind value declared below⟩
    · obtain ⟨node, origin, below⟩ := (ih e (mem_parts_of_element element) _ rfl i).mp hi
      exact .inr ⟨node, origin, .element h kind value element item below⟩
    · exact .inr ⟨s, .undeclared name, .unexpected h hname⟩
  · rintro (hi | ⟨node, origin, hreports⟩)
    · exact .inl (.inl hi)
    · cases hreports with
      | here objects =>
          rw [objects.enter_eq] at h
          contradiction
      | unexpected entered refused =>
          obtain rfl := Progress.going.inj (h.symm.trans entered)
          exact .inr ⟨_, refused, rfl⟩
      | property entered kind value declared below =>
          obtain rfl := Progress.going.inj (h.symm.trans entered)
          have hi := (ih _ (mem_parts_of_property declared) _ rfl i).mpr ⟨node, origin, below⟩
          exact .inl (.inr (.inl ⟨_, _, _, kind, value, declared, hi⟩))
      | element entered kind value element item below =>
          obtain rfl := Progress.going.inj (h.symm.trans entered)
          have hi := (ih _ (mem_parts_of_element element) _ rfl i).mpr ⟨node, origin, below⟩
          exact .inl (.inr (.inr ⟨_, _, _, _, kind, value, element, item, hi⟩))

/-- The issues that a run adds are those that it reports. -/
theorem mem_issues_run_iff (hplain : s.Forall fun s => s.options.isConditional = false)
    {i : Issue} :
    i ∈ (s.run v).issues ↔ i ∈ v.issues ∨ ∃ node origin, s.Reports v node origin i := by
  induction s using Schema.induction generalizing v i with
  | mk s ih =>
      cases h : s.node.enter s.treatment s.options v with
      | ended u =>
          rw [run_of_ended h]
          exact mem_issues_of_ended h
      | going w =>
          rw [run_of_going h, runOptions_of_not_conditional hplain.here]
          refine mem_issues_of_going h ?_
          intro p hp u hu i
          simpa [hu] using ih p hp (hplain.part hp) (v := u) (i := i)

end Schema

/-! ### What stands at the place of an issue -/

/-- What stands at the place of an issue in the final value.  A missing value is undefined, or its
name is missing from an object; a refused name stands in the value and is not declared by the node;
a value of another type stands there; and so does the value that is none of the options or that
exceeds the bounds. -/
def Origin.PointsInto (w : Option Json) (place : Path) (node : Schema) (i : Issue) :
    Origin → Prop
  | .presence =>
    (place = [] ∧ w = none) ∨
      ∃ (q : Path) (name : String) (fields : List (String × Json)), place = q ++ [.key name] ∧
        q.resolve? w = some (.obj fields) ∧ Fields.get? fields name = none
  | .type =>
    ∃ x, place.resolve? w = some x ∧ node.kind.accepts x = false ∧
      i.expected = some (.str node.kind.name) ∧ i.actual = some (.str x.typeName)
  | .options => ∃ x, place.resolve? w = some x ∧ i.actual = some x
  | .check f =>
    (∃ tr, f = Standard.checkRange tr ∨ f = Standard.checkLength tr) →
      ∃ x, place.resolve? w = some x ∧ i.actual = some x
  | .undeclared name =>
    (∃ q, place = q ++ [.key name]) ∧ (place.resolve? w).isSome ∧ node.property? name = none

namespace Standard

theorem actual_of_checkBounds {tr : Traits} {x : Json} {m : Measure} {violation : Violation}
    (h : checkBounds tr x m = some violation) : violation.actual = some x := by
  simp only [checkBounds] at h
  split at h
  · exact Option.some.inj h ▸ rfl
  · exact Option.some.inj h ▸ rfl
  · contradiction

/-- A violation of the bounds shows the value that was measured. -/
theorem actual_of_bounds {f : Visit → Option Violation} {w : Visit} {violation : Violation}
    (hf : ∃ tr, f = checkRange tr ∨ f = checkLength tr) (h : f w = some violation) :
    violation.actual = some w.current := by
  rcases hf with ⟨tr, rfl | rfl⟩
  · obtain ⟨x, -, hbounds⟩ := Option.bind_eq_some_iff.mp h
    exact actual_of_checkBounds hbounds
  · unfold checkLength at h
    split at h
    · exact actual_of_checkBounds h
    · exact actual_of_checkBounds h
    · contradiction

end Standard

namespace Origin.PointsInto

variable {origin : Origin} {w w' : Option Json} {place : Path} {node : Schema} {i : Issue}

/-- What points into a part of a value points into the value.  Only the entries of objects can be
undefined. -/
theorem lift {segment : Segment} (hstep : (w.bind fun x => x.step? segment) = w')
    (hentry : w' = none → ∃ fields name, w = some (.obj fields) ∧ segment = .key name)
    (h : origin.PointsInto w' place node i) : origin.PointsInto w (segment :: place) node i := by
  subst hstep
  cases origin with
  | presence =>
      right
      rcases h with ⟨rfl, hnone⟩ | ⟨q, name, fields, rfl, hobject, hget⟩
      · obtain ⟨fields, name, rfl, rfl⟩ := hentry hnone
        exact ⟨[], name, fields, rfl, rfl, hnone⟩
      · exact ⟨segment :: q, name, fields, rfl, hobject, hget⟩
  | type => exact h
  | options => exact h
  | check f => exact h
  | undeclared name =>
      obtain ⟨⟨q, rfl⟩, hresolve, hundeclared⟩ := h
      exact ⟨⟨segment :: q, rfl⟩, hresolve, hundeclared⟩

end Origin.PointsInto

namespace Schema

variable {s : Schema} {v w : Visit}

/-- A node that objects keeps the value that it looked at. -/
theorem pointsInto_of_objects {origin : Origin} {violation : Violation}
    (h : s.node.Objects s.treatment s.options v w origin violation) :
    origin.PointsInto (s.run v).value [] s (.ofViolation v.path violation) := by
  rw [run_of_ended h.enter_eq]
  cases h with
  | missing undefined required => exact .inl ⟨rfl, undefined⟩
  | mistyped defined present type =>
      exact ⟨_, Node.value_ready_of_defined defined, type, rfl, rfl⟩
  | unlisted defined present type values none =>
      exact ⟨_, Node.value_ready_of_defined defined, rfl⟩
  | rejected defined present type listed checks passed found =>
      intro hf
      exact ⟨_, Node.value_ready_of_defined defined, Standard.actual_of_bounds hf found⟩

/-- What the run of a schema reports points into the value that it ends with. -/
theorem pointsInto_of_reports (hnames : s.Forall fun s => (s.properties.map Prod.fst).Nodup)
    (hplain : s.Forall fun s => s.options.isConditional = false) {node : Schema}
    {origin : Origin} {i : Issue} (h : s.Reports v node origin i) :
    ∃ place, i.path = v.path ++ place ∧ origin.PointsInto (s.run v).value place node i := by
  have hvalue {s : Schema} {v w : Visit}
      (hplain : s.Forall fun s => s.options.isConditional = false)
      (entered : s.node.enter s.treatment s.options v = .going w) :
      (s.run v).value = (runChildren s.kind s.children w).value := by
    rw [run_of_going entered, runOptions_of_not_conditional hplain.here]
    rfl
  -- From the node that reports outwards: every node around it rebuilds its value from its parts.
  induction h with
  | here objects => exact ⟨[], (List.append_nil _).symm, pointsInto_of_objects objects⟩
  | @unexpected s v w name entered refused =>
      obtain ⟨fields, kind, value, -, -, hpresent, hundeclared⟩ := mem_refusedNames_iff.mp refused
      obtain ⟨out, hout, hget⟩ := value_runChildren_object hnames.here kind value
      refine ⟨[.key name], rfl, ⟨[], rfl⟩, ?_, hundeclared⟩
      rw [hvalue hplain entered, hout]
      have hname := hget name
      rw [hundeclared] at hname
      change (Fields.get? out name).isSome
      rwa [hname]
  | @property s p node v w origin i name fields entered kind value declared below ih =>
      obtain ⟨place, hpath, hpoints⟩ := ih (hnames.property declared) (hplain.property declared)
      obtain ⟨out, hout, hget⟩ := value_runChildren_object hnames.here kind value
      have hlookup : s.property? name = some p := Fields.get?_of_mem hnames.here declared
      have hname := hget name
      rw [hlookup] at hname
      refine ⟨.key name :: place, ?_, ?_⟩
      · rw [hpath, ← path_of_going entered]
        simp [descend]
      · rw [hvalue hplain entered, hout]
        exact hpoints.lift hname fun _ => ⟨out, name, rfl, rfl⟩
  | @element s e node v w origin i items x index entered kind value element item below ih =>
      obtain ⟨place, hpath, hpoints⟩ := ih (hnames.element element) (hplain.element element)
      have hitem : ((w.elements items).map fun u => (e.run u).current)[index]? =
          some (e.run (w.descend (.index index) (some x))).current := by
        simp [elements, item]
      have hdefined := value_run_of_defined (s := e)
        (v := w.descend (.index index) (some x)) rfl
      refine ⟨.index index :: place, ?_, ?_⟩
      · rw [hpath, ← path_of_going entered]
        simp [descend]
      · rw [hvalue hplain entered, runChildren_array kind value element, rebuildArray, List.map_map]
        rw [hdefined] at hpoints
        exact hpoints.lift hitem (by simp)

/-- The issues of a validation are those that its nodes report, and each points into the final
value: at what is missing, refused, of another type, none of the options or out of bounds. -/
theorem issues_point_into_value (hs : s.Constructible)
    (hplain : s.Forall fun s => s.options.isConditional = false) (input : Option Json) :
    (∀ i, i ∈ (s.validate input).issues ↔
        ∃ node origin, s.Reports (.start input) node origin i) ∧
      ∀ node origin i, s.Reports (.start input) node origin i →
        origin.PointsInto (s.validate input).value i.path node i := by
  constructor
  · intro i
    rw [validate, mem_issues_run_iff hplain]
    simp [start]
  · intro node origin i hreports
    obtain ⟨place, hpath, hpoints⟩ := pointsInto_of_reports hs.names_nodup hplain hreports
    obtain rfl : i.path = place := hpath
    exact hpoints

/-- A survey with a grade, an age that is bounded, a name and remarks. -/
def survey : Schema :=
  let leaf (n : Node) : Schema := .ofNode n Standard.table
  .mk { kind := .object, strict := true } Standard.table
    (.properties [
      ("grade", .mk { kind := .integer } Standard.table .none (.values [.ofInt 1, .ofInt 2])),
      ("age", leaf { kind := .integer, extra := [("min", .ofInt 18)] }),
      ("name", leaf { kind := .string }),
      ("remarks", .mk { kind := .array } Standard.table (.element (leaf { kind := .string }))
        .none)]) .none

theorem constructible_survey : survey.Constructible := by
  refine .object rfl (by decide) ?_
  simp only [List.forall_mem_cons]
  refine ⟨?_, .bare _ _, .bare _ _, .array rfl (.bare _ _), nofun⟩
  exact .call (e := .enumValues [.ofInt 1, .ofInt 2])
    (.bare { kind := .integer } Standard.table) nofun rfl

theorem issues_point_into_survey :
    let input : Json := .obj [("grade", .ofInt 3), ("age", .ofInt 7),
      ("remarks", .arr [.str "late", .null]), ("phone", .str "none")]
    survey.Constructible ∧ (survey.Forall fun s => s.options.isConditional = false) ∧
      ((survey.validate (some input)).issues.map Issue.kind) =
        [.enumMembershipViolation, .rangeViolation, .requiredValueMissing, .typeMismatch,
          .unexpectedProperty] ∧
      ∀ i ∈ (survey.validate (some input)).issues, ∃ node origin,
        survey.Reports (.start (some input)) node origin i ∧
          origin.PointsInto (survey.validate (some input)).value i.path node i := by
  intro input
  have hplain : survey.Forall fun s => s.options.isConditional = false := by
    simp [survey, ofNode, forall_mk, Options.isConditional]
  obtain ⟨hreports, hpoints⟩ :=
    issues_point_into_value constructible_survey hplain (some input)
  refine ⟨constructible_survey, hplain, by decide +kernel, ?_⟩
  intro i hi
  obtain ⟨node, origin, h⟩ := (hreports i).mp hi
  exact ⟨node, origin, h, hpoints node origin i h⟩

end Schema

end Conform
