import Conform.Proofs.Schema.Soundness
import Conform.Proofs.Standard.Settling

/-!
# Stability of conforming results

A value that conforms once is in normal form: validating it again finds nothing and gives it back
as it is.  A schema keeps a value when every run on it does that, and the value that a run without
issues ends with is kept.  Coercions have settled by then, defaults are filled in, and an object
already has its declared properties in front.
-/

namespace Conform

namespace Node

variable {n : Node} {v : Visit} {z : Json}

theorem fillDefault_of_defined (hz : v.value = some z) : n.fillDefault v = v := by
  simp [fillDefault, hz]

end Node

namespace Schema

open Visit

variable {t : Table Schema} {fs : Traits → List (Json → Option Json)}
  {holds : Traits → String → Prop} {s : Schema} {v w : Visit} {z : Json}

/-- A schema keeps a value when every run on it finds nothing and ends with it. -/
def Keeps (s : Schema) (x : Option Json) : Prop :=
  ∀ v : Visit, v.value = x → v.issues = [] → (s.run v).issues = [] ∧ (s.run v).value = x

/-- A value that the coercions of a node leave alone and that passes its checks. -/
structure Accepts (s : Schema) (fs : Traits → List (Json → Option Json))
    (holds : Traits → String → Prop) (z : Json) : Prop where
  coerced : s.node.coerced fs z = z
  admits : s.node.Admits s.options z
  form : ∀ text, z = .str text → holds s.node.toTraits text

/-! ### The node -/

theorem Plain.valueViolation_eq_none_iff (hs : s.Plain t) (ht : t.Settles fs holds)
    (htype : s.node.kind.accepts v.current = true) :
    s.node.valueViolation s.treatment s.options v = none ↔
      s.node.Admits s.options v.current ∧
        ∀ text, v.current = .str text → holds s.node.toTraits text := by
  rw [Node.valueViolation_eq_none_iff hs.checks, ht.validate_treatment hs.table htype]
  constructor
  · rintro ⟨hoptions, ⟨hholds, hbounds⟩, hpatterns⟩
    exact ⟨⟨htype, hbounds, hpatterns, hoptions⟩, hholds⟩
  · rintro ⟨hadmits, hholds⟩
    exact ⟨hadmits.options, ⟨hholds, hadmits.bounds⟩, hadmits.patterns⟩

/-- A node goes on with a value that it accepts, in the same state. -/
theorem Plain.enter_of_accepts (hs : s.Plain t) (ht : t.Settles fs holds)
    (hz : v.value = some z) (haccepts : s.Accepts fs holds z) :
    s.node.enter s.treatment s.options v = .going v := by
  have hcurrent : v.current = z := by simp [current, hz]
  have hprepare : s.node.prepare s.treatment v = v := by
    rw [hs.prepare_eq ht.toCoercesBy, Node.fillDefault_of_defined hz]
  have hready : s.node.ready s.treatment v = v := by
    rw [ready_eq ht.toCoercesBy hs.table hs.coerce (hprepare.symm ▸ hz), hprepare,
      haccepts.coerced]
    obtain ⟨value, root, path, issues⟩ := v
    subst hz
    rfl
  have hpresent : z = .null → s.node.nullable = false := by
    rintro rfl
    have htype := haccepts.admits.type
    rw [Kind.accepts_null] at htype
    contradiction
  have htype : s.node.kind.accepts v.current = true := hcurrent ▸ haccepts.admits.type
  have hnone : s.node.valueViolation s.treatment s.options v = none := by
    refine (hs.valueViolation_eq_none_iff ht htype).mpr ?_
    rw [hcurrent]
    exact ⟨haccepts.admits, haccepts.form⟩
  rw [Node.enter_of_present (hprepare.symm ▸ hz) hpresent, hready, Node.checkType, if_pos htype]
  simp [Progress.andThen, Node.checkValue, hnone]

theorem keeps_none (hs : s.Plain t) (ht : t.Settles fs holds)
    (hoptional : s.node.required = false) (hdefault : s.node.default = none) :
    s.Keeps none := by
  intro v hv hissues
  have hprepare : s.node.prepare s.treatment v = v := by
    rw [hs.prepare_eq ht.toCoercesBy, Node.fillDefault, hdefault]
    cases v.value <;> rfl
  have henter : s.node.enter s.treatment s.options v = .ended v := by
    simp [Node.enter, hprepare, Node.checkPresence, hv, hoptional, Progress.andThen]
  rw [run_of_ended henter]
  exact ⟨hissues, hv⟩

theorem keeps_null (hs : s.Plain t) (ht : t.Settles fs holds)
    (hnullable : s.node.nullable = true) : s.Keeps (some .null) := by
  intro v hv hissues
  have hprepare : s.node.prepare s.treatment v = v := by
    rw [hs.prepare_eq ht.toCoercesBy, Node.fillDefault_of_defined hv]
  have henter : s.node.enter s.treatment s.options v = .ended v := by
    simp [Node.enter, hprepare, Node.checkPresence, hv, hnullable, Progress.andThen]
  rw [run_of_ended henter]
  exact ⟨hissues, hv⟩

/-- What a node goes on with is what it accepts. -/
theorem Plain.accepts_of_entered (hs : s.Plain t) (ht : t.Settles fs holds) {x : Json}
    (hdefined : (s.node.prepare s.treatment v).value = some x)
    (htype : s.node.kind.accepts (s.node.ready s.treatment v).current = true)
    (hnone : s.node.valueViolation s.treatment s.options (s.node.ready s.treatment v) = none) :
    s.Accepts fs holds (s.node.ready s.treatment v).current := by
  obtain ⟨hadmits, hholds⟩ := (hs.valueViolation_eq_none_iff ht htype).mp hnone
  refine ⟨?_, hadmits, hholds⟩
  rw [ready_eq ht.toCoercesBy hs.table hs.coerce hdefined, Visit.current_set] at htype ⊢
  by_cases hstrict : s.node.strict = true
  · simp [Node.coerced, hstrict]
  · simp only [Node.coerced, if_neg hstrict] at htype ⊢
    exact ht.again _ _ htype

theorem accepts_of_composite (ht : t.Settles fs holds)
    (hkind : s.kind.isComposite = true) (hadmits : s.node.Admits s.options z) :
    s.Accepts fs holds z := by
  refine ⟨?_, hadmits, ?_⟩
  · unfold Node.coerced
    split
    · rfl
    · exact ht.composite _ _ hkind hadmits.type
  · rintro text rfl
    have htype := hadmits.type
    rw [show s.node.kind = s.kind from rfl] at htype
    cases hk : s.kind <;> simp [hk, Kind.isComposite, Kind.accepts] at hkind htype

/-! ### The children -/

/-- What the children of an accepted value leave is accepted again. -/
theorem accepts_runChildren (hs : s.Plain t) (ht : t.Settles fs holds)
    (hvalue : w.value = some w.current) (haccepts : s.Accepts fs holds w.current) :
    ∃ z, (runChildren s.kind s.children w).value = some z ∧ s.Accepts fs holds z := by
  have houtcome := s.outcome_runChildren w
  generalize runChildren s.kind s.children w = r at houtcome ⊢
  cases houtcome with
  | unchanged => exact ⟨w.current, hvalue, haccepts⟩
  | object hkind =>
      exact ⟨_, rfl, accepts_of_composite ht (by rw [hkind]; rfl) (hs.admits_object hkind _)⟩
  | @array items e hkind hitems helement =>
      have hcurrent : w.current = .arr items := by simp [current, hitems]
      have hadmits : s.node.Admits s.options (.arr items) := hcurrent ▸ haccepts.admits
      refine ⟨_, rfl, accepts_of_composite ht (by rw [hkind]; rfl)
        (hs.admits_array hkind hadmits ?_)⟩
      simp [elements]

/-- An array whose items are all kept is rebuilt as it is. -/
theorem map_run_elements {e : Schema} {items : List Json} (h : ∀ x ∈ items, e.Keeps (some x))
    (v : Visit) : ((v.elements items).map fun u => e.run u).map current = items := by
  have hpairs : items.zipIdx.map Prod.fst = items := by simp
  rw [elements, List.map_map, List.map_map]
  nth_rewrite 2 [← hpairs]
  apply List.map_congr_left
  rintro ⟨x, i⟩ hx
  have hmem : x ∈ items := by
    rw [← hpairs]
    exact List.mem_map.mpr ⟨(x, i), hx, rfl⟩
  have hvalue := (h x hmem (v.descend (.index i) (some x)) rfl rfl).2
  simp [current, hvalue]

/-- An object that was rebuilt without an issue is rebuilt as it is. -/
theorem keeps_rebuiltFields {ps : List (String × Schema)} {fields : Fields Json}
    (hnd : (ps.map Prod.fst).Nodup)
    (h : ∀ p ∈ ps, p.2.Keeps (p.2.run (w.descend (.key p.1) (fields.get? p.1))).value)
    (v : Visit) :
    (∀ d ∈ runProperties ps (rebuiltFields ps fields w) v, d.2.issues = []) ∧
      rebuiltFields ps (rebuiltFields ps fields w) v = rebuiltFields ps fields w := by
  -- The second run reads under a declared name what the first run ended with there.
  have hget : ∀ p ∈ ps, (rebuiltFields ps fields w).get? p.1 =
      (p.2.run (w.descend (.key p.1) (fields.get? p.1))).value := by
    intro p hp
    have hlookup : ps.lookup p.1 = some p.2 := Fields.get?_of_mem hnd hp
    rw [get?_rebuiltFields hnd, hlookup]
  have hrun : ∀ p ∈ ps,
      (p.2.run (v.descend (.key p.1) ((rebuiltFields ps fields w).get? p.1))).issues = [] ∧
        (p.2.run (v.descend (.key p.1) ((rebuiltFields ps fields w).get? p.1))).value =
          (p.2.run (w.descend (.key p.1) (fields.get? p.1))).value :=
    fun p hp => h p hp _ (hget p hp) rfl
  constructor
  · intro d hd
    rw [runProperties_eq_map] at hd
    obtain ⟨p, hp, rfl⟩ := List.mem_map.mp hd
    exact (hrun p hp).1
  · have hdefined := definedFields_congr fun p hp => (hrun p hp).2
    rw [← runProperties_eq_map, ← runProperties_eq_map] at hdefined
    calc
      rebuiltFields ps (rebuiltFields ps fields w) v =
          definedFields (runProperties ps (rebuiltFields ps fields w) v) ++
            undeclaredFields ps (rebuiltFields ps fields w) := rfl
      _ = definedFields (runProperties ps fields w) ++ undeclaredFields ps fields := by
        rw [hdefined, undeclaredFields_rebuiltFields hnd]

/-- What a run on the children of a value ended with, without an issue, is kept. -/
theorem keeps_runChildren (hs : s.Plain t)
    (ih : ∀ p ∈ s.parts, ∀ u, (p.run u).issues = [] → p.Keeps (p.run u).value)
    (hchildren : (runChildren s.kind s.children w).issues = []) (hrefused : s.refusedNames w = [])
    (hvalue : v.value = (runChildren s.kind s.children w).value) (hissues : v.issues = []) :
    (runChildren s.kind s.children v).issues = [] ∧
      (runChildren s.kind s.children v).value = v.value ∧ s.refusedNames v = [] := by
  -- Both runs take the same way: the kind is the same, and so is the shape of the value.
  have hfirst := s.outcome_runChildren w
  have hagain := s.outcome_runChildren v
  generalize runChildren s.kind s.children w = r at hfirst hchildren hvalue
  generalize runChildren s.kind s.children v = r' at hagain ⊢
  cases hfirst with
  | unchanged hobject harray =>
      have hnames : s.refusedNames v = [] := (refusedNames_congr hvalue).trans hrefused
      cases hagain with
      | unchanged => exact ⟨hissues, rfl, hnames⟩
      | object hkind hfields hdeclares =>
          exact (hdeclares (hobject _ hkind (hvalue.symm.trans hfields))).elim
      | array hkind hitems helement =>
          rw [harray _ hkind (hvalue.symm.trans hitems)] at helement
          contradiction
  | @object fields hkind hfields hdeclares =>
      have hobject : v.value = some (.obj (rebuiltFields s.properties fields w)) := hvalue
      rw [issues_rebuildObject_eq_nil_iff, runProperties_eq_map] at hchildren
      obtain ⟨hfound, hsame⟩ := keeps_rebuiltFields hs.names
        (fun p hp => ih p.2 (mem_parts_of_property hp) _
          (hchildren.2 _ (List.mem_map.mpr ⟨p, hp, rfl⟩))) v
      have hnames : s.refusedNames v = [] := by
        rw [refusedNames_object hkind hfields] at hrefused
        rwa [refusedNames_object hkind hobject, undeclaredFields_rebuiltFields hs.names]
      cases hagain with
      | unchanged hother => exact (hdeclares (hother _ hkind hobject)).elim
      | array harray =>
          rw [hkind] at harray
          contradiction
      | object _ hfields' =>
          obtain rfl := Json.obj.inj (Option.some.inj (hobject.symm.trans hfields'))
          refine ⟨issues_rebuildObject_eq_nil_iff.mpr ⟨hissues, hfound⟩, ?_, hnames⟩
          rw [hobject]
          exact congrArg (fun fields => some (Json.obj fields)) hsame
  | @array items e hkind hitems helement =>
      have hnames : s.refusedNames v = [] := by
        simp [refusedNames, hkind]
      rw [issues_rebuildArray_eq_nil_iff] at hchildren
      have hkeeps : ∀ x ∈ ((w.elements items).map fun u => e.run u).map current,
          e.Keeps (some x) := by
        intro x hx
        obtain ⟨r, hr, rfl⟩ := List.mem_map.mp hx
        obtain ⟨u, hu, rfl⟩ := List.mem_map.mp hr
        obtain ⟨i, y, -, rfl⟩ := of_mem_elements hu
        have hkeep := ih e (mem_parts_of_element helement) _ (hchildren.2 _ hr)
        rwa [value_run_of_defined rfl] at hkeep
      cases hagain with
      | unchanged _ hother =>
          rw [hother _ hkind hvalue] at helement
          contradiction
      | object hobject =>
          rw [hkind] at hobject
          contradiction
      | @array items' e' _ hitems' helement' =>
          obtain rfl := Option.some.inj (helement.symm.trans helement')
          obtain rfl := Json.arr.inj (Option.some.inj (hvalue.symm.trans hitems'))
          refine ⟨issues_rebuildArray_eq_nil_iff.mpr ⟨hissues, ?_⟩, ?_, hnames⟩
          · intro r hr
            obtain ⟨u, hu, rfl⟩ := List.mem_map.mp hr
            obtain ⟨i, x, hx, rfl⟩ := of_mem_elements hu
            exact (hkeeps x hx _ rfl rfl).1
          · rw [hitems']
            exact congrArg (fun items => some (Json.arr items)) (map_run_elements hkeeps v)

/-! ### The run -/

/-- What a run without issues ends with is kept. -/
theorem keeps_of_run (hs : s.Forall (Plain t)) (ht : t.Settles fs holds)
    (h : (s.run v).issues = []) : s.Keeps (s.run v).value := by
  induction s using Schema.induction generalizing v with
  | mk s ih =>
      have hplain := hs.here
      have houtcome := cleanOutcome_run hplain.unconditional h
      generalize s.run v = r at houtcome
      cases houtcome with
      | absent hundefined hoptional =>
          rw [hundefined]
          exact keeps_none hplain ht hoptional (Node.default_eq_none_of_undefined hundefined)
      | null hnull hnullable =>
          rw [hnull]
          exact keeps_null hplain ht hnullable
      | entered hdefined htype hnone hchildren hrefused =>
          -- The check of the value ran before the children were put back, so that what they
          -- left has to be accepted anew.
          obtain ⟨z, hz, haccepts⟩ := accepts_runChildren hplain ht
            (Node.value_ready_of_defined hdefined)
            (hplain.accepts_of_entered ht hdefined htype hnone)
          intro u hu hissues
          obtain ⟨hfound, hsame, hnames⟩ := keeps_runChildren hplain
            (fun p hp u hu => ih p hp (hs.part hp) hu) hchildren hrefused hu hissues
          rw [run_of_going (hplain.enter_of_accepts ht (hu.trans hz) haccepts),
            runOptions_of_not_conditional hplain.unconditional, hnames]
          exact ⟨issues_refuse_eq_nil_iff.mpr ⟨hfound, rfl⟩, hsame.trans hu⟩

/-- Validation is idempotent: what a conforming input ends with conforms, and ends as it is. -/
theorem validate_again {c : Context}
    (hc : c = Context.standard ∨
      ∃ source, Context.standard.useExtension (Format.formats source) = .ok c)
    (hs : s.Forall (Plain c.capabilities.2)) (input : Option Json)
    (h : (s.validate input).conforms = true) :
    (s.validate (s.validate input).value).conforms = true ∧
      (s.validate (s.validate input).value).value = (s.validate input).value := by
  have hkeeps : s.Keeps (s.validate input).value := by
    rcases hc with rfl | ⟨source, hsource⟩
    · exact keeps_of_run hs Standard.settles (conforms_iff.mp h)
    · rw [Format.useExtension_formats] at hsource
      obtain rfl := Except.ok.inj hsource
      exact keeps_of_run hs (Format.settles source) (conforms_iff.mp h)
  obtain ⟨hissues, hvalue⟩ := hkeeps (.start (s.validate input).value) rfl rfl
  exact ⟨conforms_iff.mpr hissues, hvalue⟩

/-- A source of the same identifier and the same time at every visit. -/
def fixedSource : Format.Source :=
  ⟨fun _ => Uuid.ofNat 0, fun _ => Instant.epoch⟩

/-- A lenient booking: an identifier, a day, rooms and a number of guests with a default. -/
def booking : Schema :=
  let leaf (n : Node) : Schema := .ofNode n (Format.table fixedSource)
  let rooms : Schema :=
    .mk { kind := .array, extra := [("min", .ofInt 1)] } (Format.table fixedSource)
      (.element (leaf { kind := .integer })) .none
  .mk { kind := .object } (Format.table fixedSource)
    (.properties [("id", leaf { kind := .string, format := some "uuid" }),
      ("day", leaf { kind := .date }), ("rooms", rooms),
      ("guests", leaf { kind := .number, default := some (.literal (.str "2.50")) })])
    .none

theorem plain_booking : booking.Forall (Plain (Format.table fixedSource)) := by
  simp [booking, ofNode, forall_mk, plain_iff, closureFree_iff, built_iff, Options.isConditional,
    Kind.isComposite]

/-- A booking in which almost every value has to be coerced. -/
def bookingInput : Json :=
  .obj [("rooms", .str "[7, \"8\"]"), ("note", .null), ("day", .str "2024-2-29"),
    ("id", .str " F81D4FAE7DEC11D0A76500A0C91E6BF6")]

theorem validate_again_booking :
    (booking.validate (some bookingInput)).conforms = true ∧
      (booking.validate (booking.validate (some bookingInput)).value).conforms = true ∧
      (booking.validate (booking.validate (some bookingInput)).value).value =
        (booking.validate (some bookingInput)).value := by
  have hconforms : (booking.validate (some bookingInput)).conforms = true := by decide +kernel
  exact ⟨hconforms, validate_again
    (Or.inr ⟨fixedSource, Format.useExtension_formats fixedSource⟩) plain_booking
    (some bookingInput) hconforms⟩

end Schema
end Conform
