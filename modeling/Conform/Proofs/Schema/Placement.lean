import Conform.Proofs.Schema.Calls
import Conform.Proofs.Schema.Rebuild
import Conform.Standard.Basic

/-!
# Validation at a place

A schema whose functions look at the value alone validates a value in the same way wherever it
stands: the run at a place ends with the value that the run on its own ends with, and finds the
same issues, each under the path of the place.  Objects and arrays are therefore validated part by
part.
-/

namespace Conform

/-- The issue as it is reported from further up: the path of the place comes first. -/
def Issue.under (place : Path) (i : Issue) : Issue :=
  { i with path := place ++ i.path }

namespace Visit

/-- A function of visits that answers from the value alone, or from its absence. -/
def Local {α : Type} (f : Visit → α) : Prop :=
  ∀ v w : Visit, v.value = w.value → f v = f w

/-- A visit as it is seen inside a frame: the root and the earlier issues are those of the frame,
and every path starts with the path of the frame. -/
def within (v frame : Visit) : Visit where
  value := v.value
  root := frame.root
  path := frame.path ++ v.path
  issues := frame.issues ++ v.issues.map (Issue.under frame.path)

/-- The frame of the children: the same place, before any issue. -/
def cleared (frame : Visit) : Visit :=
  { frame with issues := [] }

@[simp] theorem value_within (v frame : Visit) : (v.within frame).value = v.value := rfl

@[simp] theorem current_within (v frame : Visit) : (v.within frame).current = v.current := rfl

@[simp] theorem set_within (v frame : Visit) (x : Json) :
    (v.within frame).set x = (v.set x).within frame := rfl

@[simp] theorem push_within (v frame : Visit) (violation : Violation) :
    (v.within frame).push violation = (v.push violation).within frame := by
  simp [push, within, Issue.under, Issue.ofViolation]

@[simp] theorem refuse_within (v frame : Visit) (names : List String) :
    (v.within frame).refuse names = (v.refuse names).within frame := by
  simp [refuse, within, Issue.under, Issue.ofViolation, unexpectedProperty]

@[simp] theorem descend_within (v frame : Visit) (segment : Segment) (x : Option Json) :
    (v.within frame).descend segment x = (v.descend segment x).within frame.cleared := by
  simp [descend, within, cleared]

/-- Every visit is the start of a validation, seen inside itself. -/
theorem start_within (v : Visit) : (start v.value).within v = v := by
  simp [start, within]

theorem Local.within {α : Type} {f : Visit → α} (h : Local f) (v frame : Visit) :
    f (v.within frame) = f v :=
  h _ _ rfl

theorem transform_within {fs : List (Visit → Option Json)} (h : ∀ f ∈ fs, Local f)
    (v frame : Visit) : (v.within frame).transform fs = (v.transform fs).within frame := by
  induction fs generalizing v with
  | nil => rfl
  | cons f fs ih =>
      have hf : f (v.within frame) = f v := (h f (by simp)).within v frame
      have hrest : ∀ g ∈ fs, Local g := fun g hg => h g (by simp [hg])
      rw [transform_cons, transform_cons, hf]
      cases f v with
      | none => exact ih hrest v
      | some x => exact ih hrest (v.set x)

theorem findSome?_within {fs : List (Visit → Option Violation)} (h : ∀ f ∈ fs, Local f)
    (v frame : Visit) :
    (fs.findSome? fun f => f (v.within frame)) = fs.findSome? fun f => f v := by
  induction fs with
  | nil => rfl
  | cons f fs ih =>
      have hf : f (v.within frame) = f v := (h f (by simp)).within v frame
      have hrest := ih fun g hg => h g (by simp [hg])
      simp only [List.findSome?_cons, hf, hrest]

theorem rebuildObject_within (v frame : Visit) (declared : List (String × Visit))
    (undeclared : Fields Json) :
    (v.within frame).rebuildObject (declared.map fun d => (d.1, d.2.within frame.cleared))
        undeclared =
      (v.rebuildObject declared undeclared).within frame := by
  simp [rebuildObject, definedFields, within, cleared, List.filterMap_map, List.flatMap_map,
    List.map_flatMap, Function.comp_def]

theorem rebuildArray_within (v frame : Visit) (elements : List Visit) :
    (v.within frame).rebuildArray (elements.map fun e => e.within frame.cleared) =
      (v.rebuildArray elements).within frame := by
  simp [rebuildArray, within, cleared, List.flatMap_map, List.map_flatMap, Function.comp_def,
    current]

end Visit

namespace Progress

/-- The state of the phases seen inside a frame. -/
def within (p : Progress) (frame : Visit) : Progress :=
  match p with
  | .ended v => .ended (v.within frame)
  | .going v => .going (v.within frame)

theorem andThen_within {next : Visit → Progress} {frame : Visit}
    (h : ∀ v, next (v.within frame) = (next v).within frame) (p : Progress) :
    (p.within frame).andThen next = (p.andThen next).within frame := by
  cases p with
  | ended v => rfl
  | going v => exact h v

end Progress

/-- A handler that answers from the specification of a node and the value alone. -/
def Handler.Local : Handler → Prop
  | .parse f => ∀ x, Visit.Local (f x)
  | .coerce f => ∀ x, Visit.Local (f x)
  | .validate f => ∀ x, Visit.Local (f x)

/-- A node all of whose functions, and all of whose handlers, answer from the value alone. -/
@[mk_iff]
structure Schema.Local (s : Schema) : Prop where
  default : ∀ f, s.node.default = some (.computed f) → Visit.Local f
  applies : ∀ f, s.node.applies = some f → Visit.Local f
  parse : ∀ f, s.node.parse = some f → Visit.Local f
  coerce : ∀ f, s.node.coerce = some f → Visit.Local f
  checks : ∀ f, Check.custom f ∈ s.node.checks → Visit.Local f
  handlers : ∀ h ∈ s.table.handlers, h.handler.Local

/-! ### The handlers of the standard context -/

namespace Standard

/-- The coercions and the bounds of the standard context look at the value alone. -/
theorem local_of_mem_handlers : ∀ e ∈ table.handlers, e.handler.Local := by
  have hcoercion : ∀ f, (coercion f).Local := fun f x v w h => by simp [Visit.current, h]
  have hrange : rangeCheck.Local := fun x v w h => by simp [checkRange, Visit.current, h]
  have hlength : lengthCheck.Local := fun x v w h => by simp [checkLength, Visit.current, h]
  intro e he
  rcases List.mem_append.mp he with he | he
  · simp only [coreTypes, Table.merge, List.nil_append, List.mem_cons, List.not_mem_nil,
      or_false] at he
    rcases he with rfl | rfl | rfl | rfl | rfl | rfl <;> exact hcoercion _
  · simp only [constraints, List.mem_cons, List.not_mem_nil, or_false] at he
    rcases he with rfl | rfl | rfl | rfl
    · exact hrange
    · exact hrange
    · exact hlength
    · exact hlength

end Standard

/-! ### The phases inside a frame -/

namespace Table

variable {σ : Type} {t : Table σ}

theorem mem_handlers_of_mem_handlersAt {kind : Kind} {format : Option String} {h : Handler}
    (hmem : h ∈ t.handlersAt kind format) : ∃ e ∈ t.handlers, e.handler = h := by
  obtain ⟨e, he, rfl⟩ := List.mem_map.mp hmem
  exact ⟨e, List.mem_of_mem_filter he, rfl⟩

/-- The handlers of a node are among those that are registered. -/
theorem mem_handlers_of_mem_handlersFor {kind : Kind} {format : Option String} {phase : Phase}
    {h : Handler} (hmem : h ∈ t.handlersFor kind format phase) :
    ∃ e ∈ t.handlers, e.handler = h := by
  have hlists := List.mem_of_mem_filter hmem
  rcases List.mem_append.mp hlists with hspecific | hdefault
  · cases format with
    | none => simp at hspecific
    | some f => exact mem_handlers_of_mem_handlersAt hspecific
  · exact mem_handlers_of_mem_handlersAt hdefault

theorem local_of_mem_transforms (ht : ∀ e ∈ t.handlers, e.handler.Local) {x : Spec}
    {phase : Phase} {f : Visit → Option Json} (hf : f ∈ t.transforms x phase) :
    Visit.Local f := by
  obtain ⟨h, hmem, hfun⟩ := List.mem_filterMap.mp hf
  obtain ⟨e, he, rfl⟩ := mem_handlers_of_mem_handlersFor hmem
  have hlocal := ht e he
  cases hhandler : e.handler with
  | parse g =>
      rw [hhandler] at hfun hlocal
      obtain rfl : g x = f := by simpa [Handler.transform?] using hfun
      exact hlocal x
  | coerce g =>
      rw [hhandler] at hfun hlocal
      obtain rfl : g x = f := by simpa [Handler.transform?] using hfun
      exact hlocal x
  | validate g =>
      rw [hhandler] at hfun
      simp [Handler.transform?] at hfun

theorem local_of_mem_assertions (ht : ∀ e ∈ t.handlers, e.handler.Local) {x : Spec}
    {f : Visit → Option Violation} (hf : f ∈ t.assertions x) : Visit.Local f := by
  obtain ⟨h, hmem, hfun⟩ := List.mem_filterMap.mp hf
  obtain ⟨e, he, rfl⟩ := mem_handlers_of_mem_handlersFor hmem
  have hlocal := ht e he
  cases hhandler : e.handler with
  | parse g =>
      rw [hhandler] at hfun
      simp [Handler.assertion?] at hfun
  | coerce g =>
      rw [hhandler] at hfun
      simp [Handler.assertion?] at hfun
  | validate g =>
      rw [hhandler] at hfun hlocal
      obtain rfl : g x = f := by simpa [Handler.assertion?] using hfun
      exact hlocal x

end Table

namespace Node

theorem checkPresence_within (n : Node) (v frame : Visit) :
    n.checkPresence (v.within frame) = (n.checkPresence v).within frame := by
  unfold checkPresence
  rw [Visit.value_within]
  split
  · split
    · exact congrArg Progress.ended (Visit.push_within v frame missingViolation)
    · rfl
  · split
    · rfl
    · rfl
  · rfl

theorem checkType_within (n : Node) (v frame : Visit) :
    n.checkType (v.within frame) = (n.checkType v).within frame := by
  unfold checkType
  rw [Visit.current_within]
  split
  · rfl
  · exact congrArg Progress.ended (Visit.push_within v frame _)

end Node

namespace Schema.Local

variable {s : Schema}

theorem prepare_within (h : s.Local) (v frame : Visit) :
    s.node.prepare s.treatment (v.within frame) = (s.node.prepare s.treatment v).within frame := by
  have hparse : s.node.runParse s.treatment (v.within frame) =
      (s.node.runParse s.treatment v).within frame := by
    apply Visit.transform_within
    intro f hf
    rcases List.mem_append.mp hf with hf | hf
    · exact Table.local_of_mem_transforms h.handlers hf
    · exact h.parse f (by simpa using hf)
  rw [Node.prepare, Node.prepare, hparse]
  generalize s.node.runParse s.treatment v = w
  unfold Node.fillDefault
  rw [Visit.value_within]
  cases hvalue : w.value with
  | some x => rfl
  | none =>
      cases hdefault : s.node.default with
      | none => rfl
      | some d =>
          cases d with
          | literal x => rfl
          | computed f =>
              have hf : f (w.within frame) = f w := (h.default f hdefault).within w frame
              simp [Default.resolve, hf]

theorem runCoerce_within (h : s.Local) (v frame : Visit) :
    s.node.runCoerce s.treatment (v.within frame) =
      (s.node.runCoerce s.treatment v).within frame := by
  unfold Node.runCoerce
  split
  · rfl
  · apply Visit.transform_within
    intro f hf
    rcases List.mem_append.mp hf with hf | hf
    · exact Table.local_of_mem_transforms h.handlers hf
    · exact h.coerce f (by simpa using hf)

theorem firstViolation_within (h : s.Local) (v frame : Visit) :
    s.node.firstViolation s.treatment (v.within frame) = s.node.firstViolation s.treatment v := by
  apply Visit.findSome?_within
  intro f hf
  rcases List.mem_append.mp hf with hf | hf
  · exact Table.local_of_mem_assertions h.handlers hf
  · obtain ⟨c, hc, rfl⟩ := List.mem_map.mp hf
    cases c with
    | custom g => exact h.checks g hc
    | pattern p =>
        intro u w huw
        simp [Check.run, Visit.current, huw]

theorem valueViolation_within (h : s.Local) (v frame : Visit) :
    s.node.valueViolation s.treatment s.options (v.within frame) =
      s.node.valueViolation s.treatment s.options v := by
  unfold Node.valueViolation
  rw [h.firstViolation_within v frame, Visit.current_within]

theorem checkValue_within (h : s.Local) (v frame : Visit) :
    s.node.checkValue s.treatment s.options (v.within frame) =
      (s.node.checkValue s.treatment s.options v).within frame := by
  unfold Node.checkValue
  rw [h.valueViolation_within v frame]
  cases s.node.valueViolation s.treatment s.options v with
  | none => rfl
  | some violation => exact congrArg Progress.ended (Visit.push_within v frame violation)

/-- The phases before the children take no notice of the frame. -/
theorem enter_within (h : s.Local) (v frame : Visit) :
    s.node.enter s.treatment s.options (v.within frame) =
      (s.node.enter s.treatment s.options v).within frame := by
  rw [Node.enter, Node.enter, h.prepare_within v frame, s.node.checkPresence_within]
  apply Progress.andThen_within
  intro w
  rw [h.runCoerce_within w frame, s.node.checkType_within]
  apply Progress.andThen_within
  intro u
  exact h.checkValue_within u frame

end Schema.Local

/-! ### The run inside a frame -/

namespace Schema

open Visit

variable {s : Schema}

/-- A schema that runs inside every frame as it runs on its own. -/
def Transparent (s : Schema) : Prop :=
  ∀ v frame : Visit, s.run (v.within frame) = (s.run v).within frame

theorem runProperties_within {ps : List (String × Schema)}
    (ih : ∀ p ∈ ps, p.2.Transparent) (fields : Fields Json) (v frame : Visit) :
    runProperties ps fields (v.within frame) =
      (runProperties ps fields v).map fun d => (d.1, d.2.within frame.cleared) := by
  rw [runProperties_eq_map, runProperties_eq_map, List.map_map]
  apply List.map_congr_left
  intro p hp
  simp [ih p hp (v.descend (.key p.1) (fields.get? p.1)) frame.cleared]

theorem runElements_within {e : Schema} (ih : e.Transparent) (items : List Json)
    (v frame : Visit) :
    ((v.within frame).elements items).map (fun w => e.run w) =
      ((v.elements items).map fun w => e.run w).map fun w => w.within frame.cleared := by
  simp [elements, ih _ frame.cleared]

theorem runChildren_within (ih : ∀ p ∈ s.parts, p.Transparent) (v frame : Visit) :
    runChildren s.kind s.children (v.within frame) =
      (runChildren s.kind s.children v).within frame := by
  obtain ⟨n, t, c, o⟩ := s
  change runChildren n.kind c (v.within frame) = (runChildren n.kind c v).within frame
  cases c with
  | none =>
      unfold runChildren
      rfl
  | properties ps =>
      unfold runChildren
      rw [value_within]
      split
      · rename_i fields hkind hvalue
        split
        · rfl
        · rw [runProperties_within (fun p hp => ih p.2 (by simp; exact Or.inl ⟨p.1, hp⟩)),
            rebuildObject_within]
      · rfl
  | element e =>
      unfold runChildren
      rw [value_within]
      split
      · rw [runElements_within (ih e (by simp)), rebuildArray_within]
      · rfl

theorem appliesTo_within (h : s.Local) (v frame : Visit) :
    s.appliesTo (v.within frame) = s.appliesTo v := by
  unfold appliesTo
  cases happlies : s.node.applies with
  | none => rfl
  | some f => exact (h.applies f happlies).within v frame

theorem runFirst_within {ss : List Schema} (hs : ∀ b ∈ ss, b.Local)
    (ih : ∀ b ∈ ss, b.Transparent) (v frame : Visit) :
    runFirst ss (v.within frame) = (runFirst ss v).within frame := by
  induction ss with
  | nil => exact push_within v frame _
  | cons b rest ihrest =>
      simp only [List.mem_cons, forall_eq_or_imp] at hs ih
      unfold runFirst
      rw [appliesTo_within hs.1 v frame]
      split
      · exact ih.1 v frame
      · exact ihrest hs.2 ih.2

theorem transparent_of_local (hs : s.Forall Local) : s.Transparent := by
  induction s using Schema.induction with
  | mk s ih =>
      intro v frame
      have hparts : ∀ p ∈ s.parts, p.Transparent := fun p hp => ih p hp (hs.part hp)
      have henter := hs.here.enter_within v frame
      cases h : s.node.enter s.treatment s.options v with
      | ended w =>
          rw [h] at henter
          rw [run_of_ended h, run_of_ended henter]
      | going w =>
          rw [h] at henter
          rw [run_of_going h, run_of_going henter, runChildren_within hparts,
            show s.refusedNames (w.within frame) = s.refusedNames w from rfl, refuse_within]
          generalize (runChildren s.kind s.children w).refuse (s.refusedNames w) = u
          cases ho : s.options with
          | none => rfl
          | values vs => rfl
          | models ss =>
              have hbranch : ∀ b ∈ ss, b ∈ s.parts := by
                intro b hb
                exact mem_parts_of_branch (by rwa [ho])
              exact runFirst_within (fun b hb => (hs.part (hbranch b hb)).here)
                (fun b hb => hparts b (hbranch b hb)) u frame

/-- The run of a local schema at a visit is its validation of the value, seen inside the visit. -/
theorem run_eq_validate_within (hs : s.Forall Local) (v : Visit) :
    s.run v = (s.validate v.value).within v := by
  have h := transparent_of_local hs (.start v.value) v
  rwa [start_within] at h

/-- A child of a visit without issues is validated on its own. -/
theorem run_descend (hs : s.Forall Local) (input x : Option Json) (segment : Segment) :
    (s.run ((start input).descend segment x)).value = (s.validate x).value ∧
      (s.run ((start input).descend segment x)).issues =
        (s.validate x).issues.map (Issue.under [segment]) := by
  rw [run_eq_validate_within hs]
  exact ⟨rfl, rfl⟩

/-! ### Objects and arrays part by part -/

/-- The schema of a lenient object with these properties, as the standard context makes it. -/
theorem objectOf_standard {ps : List (String × Schema)} (hnd : (ps.map Prod.fst).Nodup) :
    (Context.standard.objectOf ps).2 =
      .ok (.mk (Context.standard.seeded .object) Standard.table (.properties ps) .none) := by
  have hrepeated : firstRepeated [] (ps.map Prod.fst) = none :=
    firstRepeated_eq_none_iff.mpr ⟨hnd, by simp⟩
  change setProperties (ofNode (Context.standard.seeded .object) Standard.table) ps = _
  simp [setProperties, kind, node, ofNode, Context.seeded, hrepeated, withChildren]

/-- A lenient object validates each declared property on its own and leaves the other entries
alone. -/
theorem validate_objectOf {ps : List (String × Schema)} (hps : ∀ p ∈ ps, p.2.Forall Local)
    (hnd : (ps.map Prod.fst).Nodup) :
    ∃ s, (Context.standard.objectOf ps).2 = .ok s ∧ ∀ fields : Fields Json,
      (s.validate (some (.obj fields))).issues =
          (ps.flatMap fun p =>
            (p.2.validate (fields.get? p.1)).issues.map (Issue.under [.key p.1])) ∧
        ∃ out : Fields Json, (s.validate (some (.obj fields))).value = some (.obj out) ∧
          ∀ name, out.get? name =
            match ps.lookup name with
            | some p => (p.validate (fields.get? name)).value
            | none => fields.get? name := by
  refine ⟨_, objectOf_standard hnd, ?_⟩
  intro fields
  -- No phase of the object touches the value, so that its run is that of the properties.
  have hrun : (Schema.mk (Context.standard.seeded .object) Standard.table (.properties ps)
      .none).validate (some (.obj fields)) =
        (runChildren .object (.properties ps) (start (some (.obj fields)))).refuse [] := rfl
  rw [hrun]
  constructor
  · have hissues := issues_runChildren_object (s := .mk (Context.standard.seeded .object)
      Standard.table (.properties ps) .none) (v := start (some (.obj fields))) rfl rfl
    refine ((List.append_nil _).trans hissues).trans ?_
    apply List.flatMap_congr
    intro p hp
    exact (run_descend (hps p hp) (some (.obj fields)) _ (.key p.1)).2
  · obtain ⟨out, hout, hget⟩ := value_runChildren_object
      (s := .mk (Context.standard.seeded .object) Standard.table (.properties ps) .none)
      (v := start (some (.obj fields))) hnd rfl rfl
    refine ⟨out, hout, ?_⟩
    intro name
    rw [hget, property?, properties_mk_properties]
    cases hlookup : ps.lookup name with
    | none => rfl
    | some e =>
        have he : e.Forall Local := hps (name, e) (Fields.mem_of_get? hlookup)
        exact (run_descend he (some (.obj fields)) _ (.key name)).1

/-- A lenient array validates each element on its own. -/
theorem validate_arrayOf {e : Schema} (he : e.Forall Local) (items : List Json) :
    ((Context.standard.arrayOf e).2.validate (some (.arr items))).issues =
        (items.zipIdx.flatMap fun (x, i) =>
          (e.validate (some x)).issues.map (Issue.under [.index i])) ∧
      ∃ out, ((Context.standard.arrayOf e).2.validate (some (.arr items))).value =
          some (.arr out) ∧
        out.map some = items.map fun x => (e.validate (some x)).value := by
  have hrun : (Context.standard.arrayOf e).2.validate (some (.arr items)) =
      ((start (some (.arr items))).rebuildArray
        (((start (some (.arr items))).elements items).map fun w => e.run w)).refuse [] := rfl
  have helement := run_descend he (some (.arr items))
  rw [hrun]
  constructor
  · simp only [refuse, rebuildArray, elements, start, List.nil_append, List.map_nil,
      List.append_nil, List.flatMap_map]
    apply List.flatMap_congr
    rintro ⟨x, i⟩ -
    exact (helement (some x) (.index i)).2
  · refine ⟨_, rfl, ?_⟩
    have hpaired : (items.map fun x => (e.validate (some x)).value) =
        items.zipIdx.map fun p => (e.validate (some p.1)).value := by
      have hitems : items.zipIdx.map Prod.fst = items := by simp
      conv_lhs => rw [← hitems, List.map_map]
      rfl
    rw [elements, List.map_map, List.map_map, List.map_map, hpaired]
    apply List.map_congr_left
    rintro ⟨x, i⟩ -
    have hdefined := value_run_of_defined (s := e)
      (v := (start (some (.arr items))).descend (.index i) (some x)) rfl
    exact hdefined.symm.trans (helement (some x) (.index i)).1

/-- Validation is compositional and takes no notice of the place.  Wherever a local schema runs,
it ends with the value of its validation on its own and adds the issues of that, under the path of
the place.  A lenient object therefore reports, property by property, and a lenient array, element
by element, what the parts report on their own. -/
theorem run_at_place {m : Schema} {ps : List (String × Schema)} (hm : m.Forall Local)
    (hps : ∀ p ∈ ps, p.2.Forall Local) (hnd : (ps.map Prod.fst).Nodup) :
    (∀ v : Visit, (m.run v).value = (m.validate v.value).value ∧
      (m.run v).issues =
        v.issues ++ (m.validate v.value).issues.map (Issue.under v.path)) ∧
    (∃ s, (Context.standard.objectOf ps).2 = .ok s ∧ ∀ fields : Fields Json,
      (s.validate (some (.obj fields))).issues =
          (ps.flatMap fun p =>
            (p.2.validate (fields.get? p.1)).issues.map (Issue.under [.key p.1])) ∧
        ∃ out : Fields Json, (s.validate (some (.obj fields))).value = some (.obj out) ∧
          ∀ name, out.get? name =
            match ps.lookup name with
            | some p => (p.validate (fields.get? name)).value
            | none => fields.get? name) ∧
    ∀ items : List Json,
      ((Context.standard.arrayOf m).2.validate (some (.arr items))).issues =
          (items.zipIdx.flatMap fun (x, i) =>
            (m.validate (some x)).issues.map (Issue.under [.index i])) ∧
        ∃ out, ((Context.standard.arrayOf m).2.validate (some (.arr items))).value =
            some (.arr out) ∧
          out.map some = items.map fun x => (m.validate (some x)).value := by
  refine ⟨?_, validate_objectOf hps hnd, validate_arrayOf hm⟩
  intro v
  rw [run_eq_validate_within hm]
  exact ⟨rfl, rfl⟩

/-- A dose that is a dozen unless it is given, where more than five may not be a dozen. -/
def dose : Schema :=
  let leaf (n : Node) : Schema := .ofNode n Standard.table
  let atMost (most : Int) (v : Visit) : Bool := v.current.int64?.any fun i => i ≤ most
  let notDozen (v : Visit) : Option Violation :=
    (some (.rule "must not be a dozen")).filter fun _ => v.current.same (.ofInt 12)
  let dozen (v : Visit) : Option Json := (some (.str "12")).filter fun _ => v.value.isNone
  .mk { kind := .integer, parse := some dozen } Standard.table .none
    (.models [leaf { kind := .integer, applies := some (atMost 5) },
      leaf { kind := .integer, applies := some (atMost 100), checks := [.custom notDozen] }])

theorem local_dose : dose.Forall Local := by
  simp +contextual [dose, ofNode, forall_mk, local_iff, Visit.Local, Visit.current,
    Standard.local_of_mem_handlers]

theorem run_at_place_dose :
    let ward : Visit :=
      { value := none, root := .null, path := [.key "ward", .index 2], issues := [] }
    dose.Forall Local ∧
      (dose.run ward).issues = (dose.validate none).issues.map (Issue.under ward.path) ∧
      (dose.validate none).issues.length = 1 ∧
      ((Context.standard.arrayOf dose).2.validate (some (.arr [.ofInt 3, .ofInt 12]))).issues =
        (dose.validate (some (.ofInt 12))).issues.map (Issue.under [.index 1]) := by
  intro ward
  have hps : ∀ p ∈ [("morning", dose)], p.2.Forall Local := by simpa using local_dose
  obtain ⟨hrun, -, harray⟩ := run_at_place local_dose hps (by simp)
  refine ⟨local_dose, ?_, ?_, ?_⟩
  · simpa [ward] using (hrun ward).2
  · decide +kernel
  · have hthree : (dose.validate (some (.ofInt 3))).issues = [] := by
      rw [← List.length_eq_zero_iff]
      decide +kernel
    simpa [hthree] using (harray [.ofInt 3, .ofInt 12]).1

end Schema

end Conform
