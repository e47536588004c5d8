import Conform.Proofs.Schema.Soundness
import Mathlib.Data.List.Forall2

/-!
# JSON text in place of values

A lenient node for objects or arrays reads a text that is JSON for a value of its kind as that
value.  Inputs that differ only in this way are therefore validated alike, issue by issue.  Their
final values differ at most inside the arrays that are refused for their length: the elements of
such an array are not visited, so that what stands there is never read.
-/

namespace Conform

/-- A violation without the value that it shows. -/
def Violation.outline (violation : Violation) : Violation :=
  { violation with actual := none }

/-- An issue without the value that it shows: the kind, the message, the place and what was
expected. -/
def Issue.outline (i : Issue) : Issue :=
  { i with actual := none }

theorem Issue.outline_ofViolation (path : Path) (violation : Violation) :
    (Issue.ofViolation path violation).outline = .ofViolation path violation.outline := rfl

namespace Visit

/-- States at one place whose issues differ at most in the values that they show, and whose values
are related. -/
structure Mirrors (R : Json → Json → Prop) (v' v : Visit) : Prop where
  path : v'.path = v.path
  outlines : v'.issues.map Issue.outline = v.issues.map Issue.outline
  value : Option.Rel R v'.value v.value

namespace Mirrors

variable {R R' : Json → Json → Prop} {v' v : Visit} {x' x : Json}

theorem set (h : v'.Mirrors R v) (hx : R' x' x) : (v'.set x').Mirrors R' (v.set x) :=
  ⟨h.path, h.outlines, .some hx⟩

theorem push (h : v'.Mirrors R v) {violation' violation : Violation}
    (hviolation : violation'.outline = violation.outline) :
    (v'.push violation').Mirrors R (v.push violation) := by
  refine ⟨h.path, ?_, h.value⟩
  simp only [Visit.push, List.map_append, h.outlines, List.map_cons, List.map_nil,
    Issue.outline_ofViolation, hviolation, h.path]

theorem descend (h : v'.Mirrors R v) (segment : Segment) {x' x : Option Json}
    (hx : Option.Rel R' x' x) : (v'.descend segment x').Mirrors R' (v.descend segment x) := by
  refine ⟨?_, rfl, hx⟩
  simp only [Visit.descend, h.path]

/-- Related items stand at related elements. -/
theorem elements (h : v'.Mirrors R v) {items' items : List Json}
    (hitems : List.Forall₂ R' items' items) :
    List.Forall₂ (fun u' u => u'.Mirrors R' u) (v'.elements items') (v.elements items) := by
  unfold Visit.elements
  generalize 0 = start
  induction hitems generalizing start with
  | nil => exact .nil
  | cons hitem _ ih =>
      rw [List.zipIdx_cons, List.zipIdx_cons, List.map_cons, List.map_cons]
      exact .cons (h.descend _ (.some hitem)) (ih (start + 1))

theorem value_eq_none (h : v'.Mirrors R v) (hv : v.value = none) : v'.value = none := by
  have hvalue := h.value
  rw [hv] at hvalue
  generalize v'.value = y at hvalue ⊢
  cases hvalue
  rfl

theorem exists_value (h : v'.Mirrors R v) (hv : v.value = some x) :
    ∃ x', v'.value = some x' ∧ R x' x := by
  have hvalue := h.value
  rw [hv] at hvalue
  generalize v'.value = y at hvalue ⊢
  cases hvalue with
  | some hx => exact ⟨_, rfl, hx⟩

theorem current (h : v'.Mirrors R v) (hnull : R .null .null) : R v'.current v.current := by
  have hvalue := h.value
  unfold Visit.current
  generalize v'.value = y', v.value = y at hvalue ⊢
  cases hvalue with
  | none => exact hnull
  | some hx => exact hx

end Mirrors

end Visit

open Visit

namespace Schema

/-! ### Values and texts -/

/-- Entries under one name whose values are related where the name is declared, and the same where
it is not. -/
structure Entry (R : Schema → Json → Json → Prop) (s : Schema) (f' f : String × Json) : Prop where
  name : f'.1 = f.1
  declared : ∀ p, s.property? f.1 = some p → R p f'.2 f.2
  undeclared : s.property? f.1 = none → f'.2 = f.2

/-- Values that are the same apart from what stands at the places of the children of a node, where
they are related. -/
inductive Inside (R : Schema → Json → Json → Prop) (s : Schema) : Json → Json → Prop where
  | same {x : Json} : Inside R s x x
  | object {fields' fields : List (String × Json)} (kind : s.kind = .object)
      (entries : List.Forall₂ (s.Entry R) fields' fields) :
      Inside R s (.obj fields') (.obj fields)
  | array {e : Schema} {items' items : List Json} (kind : s.kind = .array)
      (element : s.element? = some e) (each : List.Forall₂ (R e) items' items) :
      Inside R s (.arr items') (.arr items)

/-- Values of which the first is the second one with some values at the places of lenient nodes for
objects and arrays replaced by their JSON text.  Inside a value that is replaced, others may have
been replaced before.  The relation of the children is any that this one contains. -/
inductive Texted : Schema → Json → Json → Prop where
  | value {R : Schema → Json → Json → Prop} {s : Schema} {x' x : Json}
      (children : ∀ p y' y, R p y' y → Texted p y' y) (inside : s.Inside R x' x) : Texted s x' x
  | text {R : Schema → Json → Json → Prop} {s : Schema} {x' x : Json}
      (composite : s.kind.isComposite = true) (lenient : s.node.strict = false)
      (type : s.kind.accepts x' = true) (read : Json.parse? x'.text = some x')
      (children : ∀ p y' y, R p y' y → Texted p y' y) (inside : s.Inside R x' x) :
      Texted s (.str x'.text) x

/-- Values that are the same apart from the texts inside the arrays that a node refuses for their
length. -/
inductive Unread : Schema → Json → Json → Prop where
  | value {R : Schema → Json → Json → Prop} {s : Schema} {x' x : Json}
      (children : ∀ p y' y, R p y' y → Unread p y' y) (inside : s.Inside R x' x) : Unread s x' x
  | refused {s : Schema} {items' items : List Json} (kind : s.kind = .array)
      (outside : ¬s.node.toTraits.WithinBounds (.arr items))
      (inside : s.Inside Texted (.arr items') (.arr items)) :
      Unread s (.arr items') (.arr items)

/-- A plain node of the standard context whose default is no function. -/
@[mk_iff]
structure Literal (s : Schema) : Prop extends Plain Standard.table s where
  default : ∀ f, s.node.default ≠ some (.computed f)

variable {R R' : Schema → Json → Json → Prop} {s : Schema} {x' x : Json} {v' v : Visit}

theorem Texted.refl (s : Schema) (x : Json) : s.Texted x x :=
  .value (fun _ _ _ h => h) .same

theorem Unread.refl (s : Schema) (x : Json) : s.Unread x x :=
  .value (fun _ _ _ h => h) .same

namespace Inside

theorem mono (hchildren : ∀ p y' y, R p y' y → R' p y' y) (h : s.Inside R x' x) :
    s.Inside R' x' x := by
  cases h with
  | same => exact .same
  | object kind entries =>
      refine .object kind (entries.imp ?_)
      intro f' f hentry
      refine ⟨hentry.name, ?_, hentry.undeclared⟩
      intro p hp
      exact hchildren p f'.2 f.2 (hentry.declared p hp)
  | array kind element each =>
      refine .array kind element (each.imp ?_)
      intro y' y
      exact hchildren _ y' y

/-- What is related to an object is an object with related entries. -/
theorem exists_entries (hrefl : ∀ p y, R p y y) {fields : List (String × Json)}
    (h : s.Inside R x' (.obj fields)) :
    ∃ fields', x' = .obj fields' ∧ List.Forall₂ (s.Entry R) fields' fields := by
  cases h with
  | same =>
      refine ⟨fields, rfl, ?_⟩
      rw [List.forall₂_same]
      intro f _
      exact ⟨rfl, fun p _ => hrefl p f.2, fun _ => rfl⟩
  | object _ entries => exact ⟨_, rfl, entries⟩

/-- What is related to an array is an array with related items. -/
theorem exists_items (hrefl : ∀ p y, R p y y) {items : List Json} {e : Schema}
    (element : s.element? = some e) (h : s.Inside R x' (.arr items)) :
    ∃ items', x' = .arr items' ∧ List.Forall₂ (R e) items' items := by
  cases h with
  | same => exact ⟨items, rfl, List.forall₂_same.mpr fun y _ => hrefl e y⟩
  | array _ element' each =>
      obtain rfl := Option.some.inj (element.symm.trans element')
      exact ⟨_, rfl, each⟩

/-- Related values are of one kind. -/
theorem accepts_eq (h : s.Inside R x' x) : s.kind.accepts x' = s.kind.accepts x := by
  cases h with
  | same => rfl
  | object kind => rw [kind]; rfl
  | array kind => rw [kind]; rfl

/-- Only nodes for objects and arrays have values that differ, and only values of their kind. -/
theorem eq_or_composite (h : s.Inside R x' x) :
    x' = x ∨ s.kind.isComposite = true ∧ s.kind.accepts x = true := by
  cases h with
  | same => exact Or.inl rfl
  | object kind =>
      right
      rw [kind]
      exact ⟨rfl, rfl⟩
  | array kind =>
      right
      rw [kind]
      exact ⟨rfl, rfl⟩

end Inside

/-- There is no text for `null`. -/
theorem Texted.eq_null_iff (h : s.Texted x' x) : x' = .null ↔ x = .null := by
  cases h with
  | value _ inside =>
      cases inside with
      | same => rfl
      | object => exact iff_of_false nofun nofun
      | array => exact iff_of_false nofun nofun
  | text _ _ type _ _ inside =>
      refine iff_of_false nofun ?_
      rintro rfl
      rw [inside.accepts_eq, Kind.accepts_null] at type
      contradiction

/-! ### Phases -/

/-- What a node makes of a value before it looks at the type. -/
def settled (s : Schema) (x : Json) : Json :=
  s.node.coerced (fun tr => (Standard.coercionOf tr.kind).toList) x

theorem settled_of_accepts (hkind : s.kind.isComposite = true) (hx : s.kind.accepts x = true) :
    s.settled x = x := by
  apply Standard.coerced_accepted
  · intro hdate
    rw [show s.kind = .date from hdate] at hkind
    contradiction
  · exact hx

/-- A lenient node for objects or arrays reads the text of a value of its kind. -/
theorem settled_text (composite : s.kind.isComposite = true) (lenient : s.node.strict = false)
    (type : s.kind.accepts x = true) (read : Json.parse? x.text = some x) :
    s.settled (.str x.text) = x := by
  have hcoercion : Standard.coercionOf s.kind = some (Coercion.ofJsonText s.kind) := by
    cases hkind : s.kind with
    | object => rfl
    | array => rfl
    | _ =>
        rw [hkind] at composite
        contradiction
  have hread : Coercion.ofJsonText s.kind (.str x.text) = some x := by
    rw [Coercion.ofJsonText, read, Option.filter_some, if_pos type]
  rw [settled, Node.coerced, lenient, if_neg Bool.false_ne_true]
  change Coercion.applyAll (Standard.coercionOf s.kind).toList _ = x
  rw [hcoercion, Option.toList_some, Coercion.applyAll_cons, hread, Coercion.applyAll_nil,
    Option.getD_some]

/-- Once a node has read the texts of its own place, there are only texts left inside. -/
theorem inside_settled (h : s.Texted x' x) : s.Inside Texted (s.settled x') (s.settled x) := by
  cases h with
  | value children inside =>
      have hinside := inside.mono children
      rcases hinside.eq_or_composite with rfl | ⟨composite, type⟩
      · exact .same
      · rwa [settled_of_accepts composite type,
          settled_of_accepts composite (hinside.accepts_eq.trans type)]
  | text composite lenient type read children inside =>
      have hinside := inside.mono children
      rw [settled_text composite lenient type read,
        settled_of_accepts composite (hinside.accepts_eq.symm.trans type)]
      exact hinside

namespace Literal

theorem mirrors_prepare (hs : s.Literal) (h : v'.Mirrors s.Texted v) :
    (s.node.prepare s.treatment v').Mirrors s.Texted (s.node.prepare s.treatment v) := by
  rw [hs.prepare_eq Standard.coercesBy, hs.prepare_eq Standard.coercesBy]
  unfold Node.fillDefault
  cases hv : v.value with
  | some x =>
      obtain ⟨x', hv', -⟩ := h.exists_value hv
      rw [hv']
      exact h
  | none =>
      rw [h.value_eq_none hv]
      cases hdefault : s.node.default with
      | none => exact h
      | some d =>
          cases d with
          | literal x => exact h.set (Texted.refl s x)
          | computed f => exact (hs.default f hdefault).elim

theorem mirrors_ready (hs : s.Literal) (h : v'.Mirrors s.Texted v)
    (hx : (s.node.prepare s.treatment v).value = some x) :
    (s.node.ready s.treatment v').Mirrors (s.Inside Texted) (s.node.ready s.treatment v) := by
  have hprepare := hs.mirrors_prepare h
  obtain ⟨x', hx', htexted⟩ := hprepare.exists_value hx
  have hready {u : Visit} {y : Json} (hy : (s.node.prepare s.treatment u).value = some y) :
      s.node.ready s.treatment u = (s.node.prepare s.treatment u).set (s.settled y) := by
    exact ready_eq Standard.coercesBy hs.table hs.coerce hy
  rw [hready hx, hready hx']
  exact hprepare.set (inside_settled htexted)

end Literal

/-! ### The check of the value -/

theorem outline_checkBounds (tr : Traits) (x' x : Json) (m : Standard.Measure) :
    (Standard.checkBounds tr x' m).map Violation.outline =
      (Standard.checkBounds tr x m).map Violation.outline := by
  simp only [Standard.checkBounds]
  split
  · rfl
  · rfl
  · rfl

/-- The bounds of an array depend on the number of its items, which texts do not change. -/
theorem outline_boundChecks {tr : Traits} {f : Visit → Option Violation}
    (hf : f ∈ Standard.boundChecks tr) (h : s.Inside R v'.current v.current) :
    (f v').map Violation.outline = (f v).map Violation.outline := by
  have hbounds : f = Standard.checkRange tr ∨ f = Standard.checkLength tr := by
    unfold Standard.boundChecks at hf
    split at hf
    · exact .inl (List.mem_singleton.mp hf)
    · exact .inl (List.mem_singleton.mp hf)
    · exact .inr (List.mem_singleton.mp hf)
    · exact .inr (List.mem_singleton.mp hf)
    · contradiction
  rcases hbounds with rfl | rfl
  · unfold Standard.checkRange
    generalize v'.current = x', v.current = x at h ⊢
    cases h with
    | same => rfl
    | object => rfl
    | array => rfl
  · unfold Standard.checkLength
    generalize v'.current = x', v.current = x at h ⊢
    cases h with
    | same => rfl
    | object => rfl
    | array _ _ each =>
        simp only [each.length_eq]
        exact outline_checkBounds tr _ _ _

theorem outline_pattern (p : Pattern) (h : s.Inside R v'.current v.current) :
    ((Check.pattern p).run v').map Violation.outline =
      ((Check.pattern p).run v).map Violation.outline := by
  simp only [Check.run]
  generalize v'.current = x', v.current = x at h ⊢
  cases h with
  | same => rfl
  | object => rfl
  | array => rfl

theorem outline_findSome? {fs : List (Visit → Option Violation)}
    (h : ∀ f ∈ fs, (f v').map Violation.outline = (f v).map Violation.outline) :
    (fs.findSome? fun f => f v').map Violation.outline =
      (fs.findSome? fun f => f v).map Violation.outline := by
  induction fs with
  | nil => rfl
  | cons f fs ih =>
      rw [List.forall_mem_cons] at h
      have hfirst := h.1
      rw [List.findSome?_cons, List.findSome?_cons]
      cases hf' : f v' with
      | none =>
          rw [hf', Option.map_none, eq_comm, Option.map_eq_none_iff] at hfirst
          rw [hfirst]
          exact ih h.2
      | some violation' =>
          rw [hf', Option.map_some, eq_comm, Option.map_eq_some_iff] at hfirst
          obtain ⟨violation, hf, houtline⟩ := hfirst
          rw [hf, Option.map_some, Option.map_some, houtline]

namespace Literal

/-- The check of a value finds the same whatever texts are inside the value. -/
theorem outline_valueViolation (hs : s.Literal) (h : s.Inside R v'.current v.current) :
    (s.node.valueViolation s.treatment s.options v').map Violation.outline =
      (s.node.valueViolation s.treatment s.options v).map Violation.outline := by
  have hfirst : (s.node.firstViolation s.treatment v').map Violation.outline =
      (s.node.firstViolation s.treatment v).map Violation.outline := by
    apply outline_findSome?
    intro f hf
    rw [Standard.treatment_eq hs.table] at hf
    rcases List.mem_append.mp hf with hf | hf
    · exact outline_boundChecks hf h
    · obtain ⟨c, hc, rfl⟩ := List.mem_map.mp hf
      obtain ⟨p, rfl⟩ := hs.checks c hc
      exact outline_pattern p h
  cases hoptions : s.options with
  | none => exact hfirst
  | models ss => exact hfirst
  | values vs =>
      -- Options are only listed where the values are the same.
      have hsame : v'.current = v.current := by
        rcases h.eq_or_composite with hsame | ⟨composite, -⟩
        · exact hsame
        · rw [hs.scalarOptions composite] at hoptions
          contradiction
      simp only [Node.valueViolation, hsame]
      split
      · exact hfirst
      · rfl

/-- A node only refuses a value in which there are texts when it is an array of a wrong length. -/
theorem unread_of_refused (hs : s.Literal) {violation : Violation}
    (htype : s.kind.accepts v.current = true)
    (hviolation : s.node.valueViolation s.treatment s.options v = some violation)
    (h : s.Inside Texted x' v.current) : s.Unread x' v.current := by
  have hrefused : ¬s.node.Admits s.options v.current := by
    rw [← hs.valueViolation_eq_none_iff htype, hviolation]
    exact nofun
  generalize v.current = x at h htype hrefused ⊢
  cases h with
  | same => exact Unread.refl s _
  | object kind => exact (hrefused (hs.admits_object kind _)).elim
  | array kind element each =>
      refine .refused kind ?_ (.array kind element each)
      intro hbounds
      refine hrefused ⟨htype, hbounds, ?_, ?_⟩
      · intro p text _ htext
        contradiction
      · intro vs hvs
        rw [hs.scalarOptions (by rw [kind]; rfl)] at hvs
        contradiction

end Literal

/-! ### The phases before the children -/

/-- Results of which the first differs from the second one in what is shown in issues, and in texts
that were not read.  Where nothing is found the values are the same. -/
structure Answers (s : Schema) (v' v : Visit) : Prop extends v'.Mirrors s.Unread v where
  clean : v.issues = [] → v'.value = v.value

/-- Phases that end with such results or go on with the same texts inside the value. -/
inductive Tracks (s : Schema) : Progress → Progress → Prop where
  | ended {v' v : Visit} (answers : s.Answers v' v) : Tracks s (.ended v') (.ended v)
  | going {v' v : Visit} (mirrors : v'.Mirrors (s.Inside Texted) v) :
      Tracks s (.going v') (.going v)

theorem answers_of_eq {R : Json → Json → Prop} (h : v'.Mirrors R v)
    (hvalue : v'.value = v.value) : s.Answers v' v := by
  refine ⟨⟨h.path, h.outlines, ?_⟩, fun _ => hvalue⟩
  rw [hvalue]
  cases v.value with
  | none => exact .none
  | some x => exact .some (Unread.refl s x)

/-- Where there is an issue it does not matter what the values are. -/
theorem answers_of_push {R : Json → Json → Prop} {violation' violation : Violation}
    (h : v'.Mirrors R v) (hoption : Option.Rel s.Unread v'.value v.value)
    (houtline : violation'.outline = violation.outline) :
    s.Answers (v'.push violation') (v.push violation) := by
  have hpush := h.push houtline
  refine ⟨⟨hpush.path, hpush.outlines, hoption⟩, ?_⟩
  intro hclean
  simp [push] at hclean

/-- The checks of a value refuse the same, with the same texts inside the value. -/
theorem tracks_checks (hs : s.Literal) (h : v'.Mirrors (s.Inside Texted) v)
    (hv' : v'.value = some v'.current) (hv : v.value = some v.current) :
    s.Tracks ((s.node.checkType v').andThen (s.node.checkValue s.treatment s.options))
      ((s.node.checkType v).andThen (s.node.checkValue s.treatment s.options)) := by
  have hinside := h.current .same
  have haccepts : s.node.kind.accepts v'.current = s.node.kind.accepts v.current :=
    hinside.accepts_eq
  rw [Node.checkType, Node.checkType, haccepts]
  cases htype : s.node.kind.accepts v.current with
  | false =>
      have hsame : v'.current = v.current := by
        apply hinside.eq_or_composite.resolve_right
        rintro ⟨-, haccepts⟩
        exact Bool.false_ne_true (htype.symm.trans haccepts)
      rw [if_neg Bool.false_ne_true, if_neg Bool.false_ne_true, hsame]
      refine .ended (answers_of_push h ?_ rfl)
      rw [hv', hv, hsame]
      exact .some (Unread.refl s _)
  | true =>
      have hviolation := hs.outline_valueViolation hinside
      rw [if_pos rfl, if_pos rfl, Progress.andThen, Progress.andThen, Node.checkValue,
        Node.checkValue]
      cases hfound : s.node.valueViolation s.treatment s.options v with
      | none =>
          rw [hfound, Option.map_none, Option.map_eq_none_iff] at hviolation
          rw [hviolation]
          exact .going h
      | some violation =>
          rw [hfound, Option.map_some, Option.map_eq_some_iff] at hviolation
          obtain ⟨violation', hfound', houtline⟩ := hviolation
          rw [hfound']
          refine .ended (answers_of_push h ?_ houtline)
          rw [hv', hv]
          exact .some (hs.unread_of_refused htype hfound hinside)

/-- The phases of a node look alike, whether a value stands there or its text. -/
theorem tracks_enter (hs : s.Literal) (h : v'.Mirrors s.Texted v) :
    s.Tracks (s.node.enter s.treatment s.options v') (s.node.enter s.treatment s.options v) := by
  have hprepare := hs.mirrors_prepare h
  cases hx : (s.node.prepare s.treatment v).value with
  | none =>
      have hx' := hprepare.value_eq_none hx
      simp only [Node.enter, Node.checkPresence, hx, hx']
      split
      · refine .ended (answers_of_push hprepare ?_ rfl)
        rw [hx, hx']
        exact .none
      · exact .ended (answers_of_eq hprepare (hx'.trans hx.symm))
  | some x =>
      obtain ⟨x', hx', htexted⟩ := hprepare.exists_value hx
      by_cases hnull : x = .null ∧ s.node.nullable = true
      · obtain ⟨rfl, hnullable⟩ := hnull
        obtain rfl := htexted.eq_null_iff.mpr rfl
        simp only [Node.enter, Node.checkPresence, hx, hx', hnullable, if_true]
        exact .ended (answers_of_eq hprepare (hx'.trans hx.symm))
      · have hpresent : x = .null → s.node.nullable = false := by simpa using hnull
        have hpresent' : x' = .null → s.node.nullable = false :=
          fun hx' => hpresent (htexted.eq_null_iff.mp hx')
        have hready := hs.mirrors_ready h hx
        have hinside := hready.current .same
        rw [Node.enter_of_present hx' hpresent', Node.enter_of_present hx hpresent]
        have hvalue := Node.value_ready_of_defined hx
        have hvalue' := Node.value_ready_of_defined hx'
        generalize s.node.ready s.treatment v' = u', s.node.ready s.treatment v = u at *
        exact tracks_checks hs hready hvalue' hvalue

/-! ### Entries -/

section

variable {fields' fields : List (String × Json)}

theorem rel_get? (h : List.Forall₂ (s.Entry R) fields' fields) {name : String} {p : Schema}
    (hp : s.property? name = some p) :
    Option.Rel (R p) (Fields.get? fields' name) (Fields.get? fields name) := by
  induction h with
  | nil => exact .none
  | @cons f' f rest' rest hentry _ ih =>
      obtain ⟨name', x'⟩ := f'
      obtain ⟨name'', x⟩ := f
      obtain rfl : name' = name'' := hentry.name
      rw [Fields.get?_cons, Fields.get?_cons]
      by_cases hname : name = name'
      · subst hname
        rw [beq_self_eq_true, if_pos rfl, if_pos rfl]
        exact .some (hentry.declared p hp)
      · rw [if_neg (by simpa using hname), if_neg (by simpa using hname)]
        exact ih

theorem undeclaredFields_of_entries (h : List.Forall₂ (s.Entry R) fields' fields) :
    undeclaredFields s.properties fields' = undeclaredFields s.properties fields := by
  unfold undeclaredFields Fields.distinct
  generalize ([] : List String) = seen
  induction h generalizing seen with
  | nil => rfl
  | @cons f' f rest' rest hentry _ ih =>
      obtain ⟨name', x'⟩ := f'
      obtain ⟨name, x⟩ := f
      obtain rfl : name' = name := hentry.name
      rw [Fields.distinctFrom, Fields.distinctFrom]
      split
      · exact ih seen
      · rw [List.filter_cons, List.filter_cons, ih]
        cases hlookup : s.properties.lookup name' with
        | some p => rfl
        | none =>
            obtain rfl : x' = x := hentry.undeclared hlookup
            rfl

theorem eq_of_entries (h : List.Forall₂ (s.Entry R) fields' fields) (hnone : s.properties = []) :
    fields' = fields := by
  rw [← List.forall₂_eq_eq_eq]
  refine h.imp fun f' f hentry => Prod.ext hentry.name (hentry.undeclared ?_)
  rw [property?, hnone, List.lookup_nil]

theorem entries_definedFields {ps : List (String × Schema)} {f' f : String × Schema → Visit}
    (hdeclared : ∀ p ∈ ps, s.property? p.1 = some p.2)
    (h : ∀ p ∈ ps, (f' p).Mirrors (R p.2) (f p)) :
    List.Forall₂ (s.Entry R) (definedFields (ps.map fun p => (p.1, f' p)))
      (definedFields (ps.map fun p => (p.1, f p))) := by
  induction ps with
  | nil => exact .nil
  | cons p rest ih =>
      rw [List.forall_mem_cons] at hdeclared h
      have hrest := ih hdeclared.2 h.2
      cases hx : (f p).value with
      | none =>
          have hx' := h.1.value_eq_none hx
          simpa [definedFields, hx, hx'] using hrest
      | some x =>
          obtain ⟨x', hx', hrel⟩ := h.1.exists_value hx
          have hentry : s.Entry R (p.1, x') (p.1, x) := by
            refine ⟨rfl, fun q hq => ?_, fun hnone => ?_⟩
            · obtain rfl := Option.some.inj (hdeclared.1.symm.trans hq)
              exact hrel
            · rw [hdeclared.1] at hnone
              contradiction
          simpa [definedFields, hx, hx'] using And.intro hentry hrest

theorem entries_undeclaredFields (R : Schema → Json → Json → Prop) (s : Schema)
    (fields : Fields Json) :
    List.Forall₂ (s.Entry R) (undeclaredFields s.properties fields)
      (undeclaredFields s.properties fields) := by
  rw [List.forall₂_same]
  intro f hf
  refine ⟨rfl, fun p hp => ?_, fun _ => rfl⟩
  have hnone := (List.mem_filter.mp hf).2
  rw [show s.properties.lookup f.1 = some p from hp] at hnone
  contradiction

end

/-! ### The children -/

/-- The results of the elements of an array report the same. -/
theorem outlines_flatMap {e : Schema} {rs' rs : List Visit} (h : List.Forall₂ e.Answers rs' rs) :
    (rs'.flatMap fun r => r.issues.map Issue.outline) =
      rs.flatMap fun r => r.issues.map Issue.outline := by
  induction h with
  | nil => rfl
  | cons hanswers _ ih => rw [List.flatMap_cons, List.flatMap_cons, hanswers.outlines, ih]

theorem map_current_of_clean {e : Schema} {rs' rs : List Visit}
    (h : List.Forall₂ e.Answers rs' rs) (hclean : ∀ r ∈ rs, r.issues = []) :
    rs'.map current = rs.map current := by
  induction h with
  | nil => rfl
  | @cons r' r rest' rest hanswers _ ih =>
      rw [List.forall_mem_cons] at hclean
      have hcurrent : r'.current = r.current := by
        rw [current, current, hanswers.clean hclean.1]
      rw [List.map_cons, List.map_cons, hcurrent, ih hclean.2]

/-- Where the children change nothing, there is no text left inside the value. -/
theorem value_eq_of_childless (h : v'.Mirrors (s.Inside R) v)
    (object : ∀ fields, s.kind = .object → v.value = some (.obj fields) → s.properties = [])
    (array : ∀ items, s.kind = .array → v.value = some (.arr items) → s.element? = none) :
    v'.value = v.value := by
  cases hx : v.value with
  | none => exact h.value_eq_none hx
  | some x =>
      obtain ⟨x', hx', hinside⟩ := h.exists_value hx
      rw [hx']
      cases hinside with
      | same => rfl
      | object kind entries => rw [eq_of_entries entries (object _ kind hx)]
      | array kind element =>
          rw [array _ kind hx] at element
          contradiction

/-- The children of an array are validated alike, whatever texts stand in their places. -/
theorem answers_array {items : List Json} {e : Schema}
    (ih : ∀ p ∈ s.parts, ∀ u' u, u'.Mirrors p.Texted u → p.Answers (p.run u') (p.run u))
    (h : v'.Mirrors (s.Inside Texted) v) (kind : s.kind = .array)
    (value : v.value = some (.arr items)) (element : s.element? = some e) :
    s.Answers (runChildren s.kind s.children v') (runChildren s.kind s.children v) := by
  obtain ⟨x', value', hinside⟩ := h.exists_value value
  obtain ⟨items', rfl, hitems⟩ := hinside.exists_items Texted.refl element
  have hrun : List.Forall₂ e.Answers ((v'.elements items').map fun u => e.run u)
      ((v.elements items).map fun u => e.run u) := by
    rw [List.forall₂_map_left_iff, List.forall₂_map_right_iff]
    exact (h.elements hitems).imp fun u' u => ih e (mem_parts_of_element element) u' u
  rw [runChildren_array kind value element, runChildren_array kind value' element]
  refine ⟨⟨h.path, ?outlines, .some (.value (fun _ _ _ h => h) (.array kind element ?each))⟩,
    ?clean⟩
  case outlines =>
    simp only [rebuildArray, List.map_append, h.outlines, List.map_flatMap]
    rw [outlines_flatMap hrun]
  case each =>
    rw [List.forall₂_map_left_iff, List.forall₂_map_right_iff]
    exact hrun.imp fun u' u hanswers => hanswers.current (Unread.refl e _)
  case clean =>
    intro hclean
    rw [issues_rebuildArray_eq_nil_iff] at hclean
    simp only [rebuildArray]
    rw [map_current_of_clean hrun hclean.2]

namespace Literal

/-- The children of an object are validated alike, whatever texts stand in their places. -/
theorem answers_object (hs : s.Literal) {fields : List (String × Json)}
    (ih : ∀ p ∈ s.parts, ∀ u' u, u'.Mirrors p.Texted u → p.Answers (p.run u') (p.run u))
    (h : v'.Mirrors (s.Inside Texted) v) (kind : s.kind = .object)
    (value : v.value = some (.obj fields)) (declares : s.properties ≠ []) :
    s.Answers (runChildren s.kind s.children v') (runChildren s.kind s.children v) := by
  obtain ⟨x', value', hinside⟩ := h.exists_value value
  obtain ⟨fields', rfl, hentries⟩ := hinside.exists_entries Texted.refl
  have hundeclared := undeclaredFields_of_entries hentries
  have hdeclared : ∀ p ∈ s.properties, s.property? p.1 = some p.2 :=
    fun p hp => Fields.get?_of_mem hs.names hp
  have hrun : ∀ p ∈ s.properties,
      p.2.Answers (p.2.run (v'.descend (.key p.1) (Fields.get? fields' p.1)))
        (p.2.run (v.descend (.key p.1) (Fields.get? fields p.1))) := by
    intro p hp
    apply ih p.2 (mem_parts_of_property hp)
    exact h.descend _ (rel_get? hentries (hdeclared p hp))
  rw [runChildren_object kind value declares, runChildren_object kind value' declares,
    hundeclared, runProperties_eq_map, runProperties_eq_map]
  refine ⟨⟨h.path, ?outlines, .some (.value (fun _ _ _ h => h) (.object kind ?entries))⟩, ?clean⟩
  case outlines =>
    simp only [rebuildObject, List.map_append, h.outlines, List.flatMap_map, List.map_flatMap]
    rw [List.flatMap_congr fun p hp => (hrun p hp).outlines]
  case entries =>
    have hdefined := entries_definedFields hdeclared fun p hp => (hrun p hp).toMirrors
    exact List.rel_append hdefined (entries_undeclaredFields _ s fields)
  case clean =>
    intro hclean
    rw [issues_rebuildObject_eq_nil_iff, List.forall_mem_map] at hclean
    simp only [rebuildObject]
    rw [definedFields_congr fun p hp => (hrun p hp).clean (hclean.2 p hp)]

/-- The children of a value are validated alike, whatever texts stand in their places. -/
theorem answers_runChildren (hs : s.Literal)
    (ih : ∀ p ∈ s.parts, ∀ u' u, u'.Mirrors p.Texted u → p.Answers (p.run u') (p.run u))
    (h : v'.Mirrors (s.Inside Texted) v) :
    s.Answers (runChildren s.kind s.children v') (runChildren s.kind s.children v) := by
  have houtcome := s.outcome_runChildren v
  generalize hu : runChildren s.kind s.children v = u at houtcome ⊢
  cases houtcome with
  | object kind value declares => exact hu ▸ hs.answers_object ih h kind value declares
  | array kind value element => exact hu ▸ answers_array ih h kind value element
  | unchanged object array =>
      have hvalue := value_eq_of_childless h object array
      have houtcome' := s.outcome_runChildren v'
      generalize runChildren s.kind s.children v' = u' at houtcome' ⊢
      cases houtcome' with
      | object kind value declares =>
          exact (declares (object _ kind (hvalue.symm.trans value))).elim
      | array kind value element =>
          rw [array _ kind (hvalue.symm.trans value)] at element
          contradiction
      | unchanged => exact answers_of_eq h hvalue

end Literal

/-! ### The run -/

theorem Answers.refuse (h : s.Answers v' v) (names : List String) :
    s.Answers (v'.refuse names) (v.refuse names) := by
  refine ⟨⟨h.path, ?_, h.value⟩, ?_⟩
  · simp only [Visit.refuse, List.map_append, h.outlines, List.map_map]
    congr 2
    funext name
    simp only [Function.comp_apply, unexpectedProperty, h.path]
  · intro hclean
    exact h.clean (issues_refuse_eq_nil_iff.mp hclean).1

/-- The names that are refused are not those of the places where texts stand. -/
theorem refusedNames_of_inside (h : v'.Mirrors (s.Inside R) v) :
    s.refusedNames v' = s.refusedNames v := by
  cases hx : v.value with
  | none => exact refusedNames_congr ((h.value_eq_none hx).trans hx.symm)
  | some x =>
      obtain ⟨x', hx', hinside⟩ := h.exists_value hx
      cases hinside with
      | same => exact refusedNames_congr (hx'.trans hx.symm)
      | object kind entries =>
          rw [refusedNames_object kind hx, refusedNames_object kind hx',
            undeclaredFields_of_entries entries]
      | array kind => simp [refusedNames, kind]

/-- A run answers alike whether values stand in an input or their texts. -/
theorem answers_run (hs : s.Forall Literal) (h : v'.Mirrors s.Texted v) :
    s.Answers (s.run v') (s.run v) := by
  induction s using Schema.induction generalizing v' v with
  | mk s ih =>
      have hliteral := hs.here
      have htracks := tracks_enter hliteral h
      generalize henter' : s.node.enter s.treatment s.options v' = p' at htracks
      generalize henter : s.node.enter s.treatment s.options v = p at htracks
      cases htracks with
      | ended answers =>
          rw [run_of_ended henter, run_of_ended henter']
          exact answers
      | going mirrors =>
          have hpart : ∀ p ∈ s.parts, ∀ u' u, u'.Mirrors p.Texted u →
              p.Answers (p.run u') (p.run u) :=
            fun p hp u' u => ih p hp (hs.part hp)
          rw [run_of_going henter, run_of_going henter',
            runOptions_of_not_conditional hliteral.unconditional,
            runOptions_of_not_conditional hliteral.unconditional, refusedNames_of_inside mirrors]
          exact (hliteral.answers_runChildren hpart mirrors).refuse _

/-- A strict cart of lines, each of which is counted once where it has no count. -/
def cart : Schema :=
  let count : Schema :=
    .ofNode { kind := .integer, default := some (.literal (.ofInt 1)) } Standard.table
  let line : Schema := .mk { kind := .object } Standard.table (.properties [("count", count)]) .none
  .mk { kind := .object, strict := true } Standard.table
    (.properties [("lines", .mk { kind := .array } Standard.table (.element line) .none)]) .none

theorem literal_cart : cart.Forall Literal := by
  simp [cart, ofNode, forall_mk, literal_iff, plain_iff, closureFree_iff, built_iff,
    Options.isConditional, Kind.isComposite]

/-- The line of a cart, and the text of the line among the lines. -/
def line : Json :=
  .obj []

def textLines : Json :=
  .arr [.str line.text]

set_option maxRecDepth 2000 in
theorem parse_text_line : Json.parse? line.text = some line := by
  cbv

set_option maxRecDepth 4000 in
theorem parse_text_textLines : Json.parse? textLines.text = some textLines := by
  cbv

/-- The lines stand in the cart as a text in which the line is a text again. -/
theorem texted_cart :
    cart.Texted (.obj [("lines", .str textLines.text)]) (.obj [("lines", .arr [line])]) := by
  have hsub {p : Schema} {y' y : Json} (h : p.Texted y' y) : p.Texted y' y := h
  refine .value (fun _ _ _ => hsub) (.object rfl (.cons ⟨rfl, ?_, nofun⟩ .nil))
  rintro p hp
  obtain rfl := Option.some.inj hp
  refine .text rfl rfl rfl parse_text_textLines (fun _ _ _ => hsub) (.array rfl rfl (.cons ?_ .nil))
  exact .text rfl rfl rfl parse_text_line (fun _ _ _ => hsub) .same

/-- A shelf that has to be empty. -/
def shelf : Schema :=
  .mk { kind := .array, extra := [("max", Edit.boundValue (some (Double.ofInt 0)))] }
    Standard.table (.element (.ofNode { kind := .object } Standard.table)) .none

end Schema

end Conform
