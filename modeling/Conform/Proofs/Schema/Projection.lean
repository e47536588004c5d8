import Conform.Proofs.Schema.Conditional

/-!
# Picking properties

A lenient object that keeps only some of its properties is validated like the whole one, as far as
the kept properties go: no property has a say in what becomes of another.  The ones that were
dropped are entries like any that were never declared.
-/

namespace Conform

open Visit

/-- Whether a place is the root or lies under one of some names. -/
def Path.startsIn (names : List String) : Path → Bool
  | [] => true
  | .key name :: _ => names.contains name
  | .index _ :: _ => false

theorem Path.startsIn_of_prefix {names : List String} {name : String} {p : Path}
    (h : [.key name] <+: p) : p.startsIn names = names.contains name := by
  obtain ⟨rest, rfl⟩ := h
  rfl

namespace Schema

variable {m : Schema} {names : List String} {u v : Visit} {fields : Fields Json}

/-- The schema with the picked properties only. -/
def picked (m : Schema) (names : List String) : Schema :=
  m.withChildren (.properties (m.properties.filter fun p => names.contains p.1))

theorem edit_pick (kind : m.kind = .object) (declared : ∀ name ∈ names, (m.property? name).isSome) :
    m.edit (.pick names) = .ok (m.picked names) := by
  have hfound : (names.find? fun name => (m.property? name).isNone) = none := by
    rw [List.find?_eq_none]
    intro name hname
    simpa [Option.isSome_iff_ne_none] using declared name hname
  rw [edit, pick, select, kind, hfound]
  simp [picked]

theorem node_picked (m : Schema) (names : List String) : (m.picked names).node = m.node := by
  obtain ⟨n, t, c, o⟩ := m
  rfl

theorem kind_picked (m : Schema) (names : List String) : (m.picked names).kind = m.kind :=
  congrArg (·.kind) (node_picked m names)

theorem strict_picked (m : Schema) (names : List String) :
    (m.picked names).node.strict = m.node.strict :=
  congrArg (·.strict) (node_picked m names)

theorem table_picked (m : Schema) (names : List String) : (m.picked names).table = m.table := by
  obtain ⟨n, t, c, o⟩ := m
  rfl

theorem options_picked (m : Schema) (names : List String) :
    (m.picked names).options = m.options := by
  obtain ⟨n, t, c, o⟩ := m
  rfl

theorem properties_picked (m : Schema) (names : List String) :
    (m.picked names).properties = m.properties.filter fun p => names.contains p.1 := by
  obtain ⟨n, t, c, o⟩ := m
  rfl

theorem property?_picked (m : Schema) (names : List String) (name : String) :
    (m.picked names).property? name = if name ∈ names then m.property? name else none := by
  rw [property?, properties_picked]
  refine (Fields.get?_filter (fun n => names.contains n) m.properties name).trans ?_
  simp only [List.contains_iff_mem]
  rfl

/-! ### The two runs -/

/-- A schema and its picked form go through the same phases. -/
theorem enter_picked (shallow : m.table.Shallow) (names : List String) (v : Visit) :
    (m.picked names).node.enter (m.picked names).treatment (m.picked names).options v =
      m.node.enter m.treatment m.options v := by
  have htreatment : (m.picked names).treatment = m.treatment :=
    treatment_eq_of_shallow shallow (table_picked m names) (node_picked m names)
  rw [node_picked, htreatment, options_picked]

theorem decided_of_lenient (lenient : m.node.strict = false) (u : Visit) :
    m.decided u = runChildren m.kind m.children u := by
  rw [decided, refusedNames_of_lenient lenient, refuse, List.map_nil, List.append_nil]

/-- Selecting from joined lists by what belongs to each of them is selecting whole lists. -/
theorem filter_flatMap_eq {α β : Type} {f : α → List β} {keep : α → Bool} {keeps : β → Bool}
    {as : List α} (h : ∀ a ∈ as, ∀ b ∈ f a, keeps b = keep a) :
    (as.flatMap f).filter keeps = (as.filter keep).flatMap f := by
  induction as with
  | nil => rfl
  | cons a rest ih =>
      rw [List.forall_mem_cons] at h
      rw [List.flatMap_cons, List.filter_append, ih h.2]
      cases hkeep : keep a with
      | true =>
          have hall : (f a).filter keeps = f a := by
            rw [List.filter_eq_self]
            intro b hb
            rw [h.1 b hb, hkeep]
          rw [hall, List.filter_cons_of_pos hkeep, List.flatMap_cons]
      | false =>
          have hnone : (f a).filter keeps = [] := by
            rw [List.filter_eq_nil_iff]
            intro b hb
            rw [h.1 b hb, hkeep]
            exact Bool.false_ne_true
          rw [hnone, List.filter_cons_of_neg (by simp [hkeep]), List.nil_append]

/-- What is reported by a node whose phases ended is at the place of the node. -/
theorem path_of_mem_ended (clean : v.issues = [])
    (h : m.node.enter m.treatment m.options v = .ended u) {i : Issue} (hi : i ∈ u.issues) :
    i.path = v.path := by
  rcases Node.objects_of_ended h with hissues | ⟨w, origin, violation, hobjects, rfl⟩
  · simp [hissues, clean] at hi
  · obtain rfl : i = .ofViolation w.path violation := by
      simpa [push, hobjects.issues_eq, clean] using hi
    exact hobjects.path_eq

section

variable (kind : m.kind = .object) (lenient : m.node.strict = false)
  (value : u.value = some (.obj fields))
include kind lenient value

/-- The children of a picked object report what the picked properties of the whole one report. -/
theorem issues_decided_picked (place : u.path = []) (clean : u.issues = [])
    (names : List String) :
    ((m.picked names).decided u).issues =
      (m.decided u).issues.filter fun i => i.path.startsIn names := by
  have hkind : (m.picked names).kind = .object := (kind_picked m names).trans kind
  have hlenient : (m.picked names).node.strict = false := (strict_picked m names).trans lenient
  rw [decided_of_lenient lenient, decided_of_lenient hlenient,
    issues_runChildren_object kind value, issues_runChildren_object hkind value,
    properties_picked, clean, List.nil_append, List.nil_append]
  refine (filter_flatMap_eq ?_).symm
  intro p _ i hi
  have hprefix := (extends_run p.2 _).path_prefix_of_descend hi
  rw [place, List.nil_append] at hprefix
  exact Path.startsIn_of_prefix hprefix

/-- A picked object ends with the values of the whole one under the picked names, and with the old
values under all others. -/
theorem value_decided_picked (distinct : (m.properties.map Prod.fst).Nodup)
    (names : List String) {out : Fields Json} (hout : (m.decided u).value = some (.obj out)) :
    ∃ kept : Fields Json, ((m.picked names).decided u).value = some (.obj kept) ∧
      (∀ name, m.property? name = none → out.get? name = fields.get? name) ∧
      ∀ name, kept.get? name =
        if name ∈ names ∧ (m.property? name).isSome then out.get? name else fields.get? name := by
  have hkind : (m.picked names).kind = .object := (kind_picked m names).trans kind
  have hlenient : (m.picked names).node.strict = false := (strict_picked m names).trans lenient
  have hdistinct : ((m.picked names).properties.map Prod.fst).Nodup := by
    rw [properties_picked]
    exact distinct.sublist (List.filter_sublist.map Prod.fst)
  rw [decided_of_lenient lenient] at hout
  rw [decided_of_lenient hlenient]
  obtain ⟨out', hout', hget⟩ := value_runChildren_object distinct kind value
  obtain rfl : out' = out := Json.obj.inj (Option.some.inj (hout'.symm.trans hout))
  obtain ⟨kept, hkept, hgetKept⟩ := value_runChildren_object hdistinct hkind value
  refine ⟨kept, hkept, fun name hname => by rw [hget, hname], ?_⟩
  intro name
  rw [hgetKept, hget, property?_picked]
  by_cases hpicked : name ∈ names
  · cases m.property? name with
    | none => simp
    | some p => simp [hpicked]
  · simp [hpicked]

end

/-- Picking properties projects the validation.  Of a lenient object without conditional options,
the picked form reports what the whole one reports at the root and under the picked names, in the
same order.  Where the whole one ends with an object and finds nothing at the root, the picked form
ends with an object too, which has the same values under the picked names and under all names that
are not declared; a declared name that was dropped keeps what the object had under it, if anything,
before its children were validated. -/
theorem validate_pick (shallow : m.table.Shallow) (kind : m.kind = .object)
    (lenient : m.node.strict = false)
    (hplain : m.options.isConditional = false) (distinct : (m.properties.map Prod.fst).Nodup)
    (declared : ∀ name ∈ names, (m.property? name).isSome) (input : Option Json) :
    ∃ p, m.edit (.pick names) = .ok p ∧
      (p.validate input).issues =
        (m.validate input).issues.filter (fun i => i.path.startsIn names) ∧
      ∀ out : Fields Json, (m.validate input).value = some (.obj out) →
        (∀ i ∈ (m.validate input).issues, i.path ≠ []) →
        ∃ (u : Visit) (before kept : Fields Json),
          m.node.enter m.treatment m.options (.start input) = .going u ∧
            u.value = some (.obj before) ∧ (p.validate input).value = some (.obj kept) ∧
            (∀ name ∈ names, kept.get? name = out.get? name) ∧
            (∀ name, m.property? name = none → kept.get? name = out.get? name) ∧
            ∀ name, (m.property? name).isSome → name ∉ names →
              kept.get? name = before.get? name := by
  refine ⟨m.picked names, edit_pick kind declared, ?_⟩
  have hplain' : (m.picked names).options.isConditional = false := by
    rw [options_picked]
    exact hplain
  have henter := enter_picked shallow names (.start input)
  rw [validate, validate]
  cases h : m.node.enter m.treatment m.options (.start input) with
  | ended u =>
      rw [run_of_ended h, run_of_ended (henter.trans h)]
      constructor
      · symm
        rw [List.filter_eq_self]
        intro i hi
        rw [path_of_mem_ended rfl h hi]
        rfl
      · intro out hout hroot
        rcases Node.stopped_of_ended h with hnone | hnull | ⟨i, hi, hpath⟩
        · simp [hout] at hnone
        · simp [hout] at hnull
        · exact (hroot i hi hpath).elim
  | going u =>
      rw [run_eq_decided hplain h, run_eq_decided hplain' (henter.trans h)]
      obtain ⟨before, hbefore⟩ : ∃ before, u.value = some (.obj before) := by
        obtain ⟨hvalue, htype⟩ := Node.accepts_of_going h
        rw [show m.node.kind = .object from kind] at htype
        cases hcurrent : u.current with
        | obj before => exact ⟨before, hvalue.trans (congrArg some hcurrent)⟩
        | _ => simp [hcurrent, Kind.accepts] at htype
      refine ⟨issues_decided_picked kind lenient hbefore (path_of_going h)
        (issues_of_going h) names, ?_⟩
      intro out hout _
      obtain ⟨kept, hkept, hother, hget⟩ :=
        value_decided_picked kind lenient hbefore distinct names hout
      refine ⟨u, before, kept, rfl, hbefore, hkept, ?_, ?_, ?_⟩
      · intro name hname
        rw [hget, if_pos ⟨hname, declared name hname⟩]
      · intro name hname
        rw [hget, hother name hname]
        simp [hname]
      · intro name _ hname
        rw [hget, if_neg]
        exact fun hpicked => hname hpicked.1

/-- A trip with numbers of seats and bags, and a price that the caller checks. -/
def trip : Schema :=
  let leaf (n : Node) : Schema := .ofNode n Standard.table
  let positive (v : Visit) : Option Violation :=
    (some (.rule "must be positive")).filter fun _ => v.current.int64?.any fun i => i ≤ 0
  .mk { kind := .object } Standard.table
    (.properties [("seats", leaf { kind := .integer }), ("bags", leaf { kind := .integer }),
      ("price", leaf { kind := .integer, checks := [.custom positive] })]) .none

theorem validate_pick_trip :
    let input : Fields Json :=
      [("price", .str "0"), ("bags", .str "two"), ("seats", .str "3"), ("note", .null)]
    ∃ p, trip.edit (.pick ["price", "seats"]) = .ok p ∧
      (trip.validate (some (.obj input))).issues.map Issue.path =
        [[.key "bags"], [.key "price"]] ∧
      (p.validate (some (.obj input))).issues.map Issue.path = [[.key "price"]] ∧
      ∃ kept : Fields Json, (p.validate (some (.obj input))).value = some (.obj kept) ∧
        kept.get? "seats" = some (.ofInt 3) ∧ kept.get? "bags" = some (.str "two") ∧
        kept.get? "note" = some .null := by
  intro input
  have declared : ∀ name ∈ ["price", "seats"], (trip.property? name).isSome := by decide
  obtain ⟨p, hmade, hissues, hvalue⟩ :=
    validate_pick (m := trip) Standard.shallow rfl rfl rfl (by decide) declared (some (.obj input))
  have hpaths : (trip.validate (some (.obj input))).issues.map Issue.path =
      [[.key "bags"], [.key "price"]] := by
    decide +kernel
  have hout : (trip.validate (some (.obj input))).value = some (.obj [("seats", .ofInt 3),
      ("bags", .str "two"), ("price", .ofInt 0), ("note", .null)]) := rfl
  have hroot : ∀ i ∈ (trip.validate (some (.obj input))).issues, i.path ≠ [] := by
    intro i hi
    have hmem := List.mem_map_of_mem (f := Issue.path) hi
    rw [hpaths] at hmem
    intro heq
    simp [heq] at hmem
  obtain ⟨u, before, kept, entered, hbefore, hkept, hpicked, hother, hdropped⟩ :=
    hvalue _ hout hroot
  have henter : trip.node.enter trip.treatment trip.options (.start (some (.obj input))) =
      .going (.start (some (.obj input))) := rfl
  obtain rfl : u = .start (some (.obj input)) := Progress.going.inj (entered.symm.trans henter)
  obtain rfl : input = before := Json.obj.inj (Option.some.inj hbefore)
  refine ⟨p, hmade, hpaths, ?_, kept, hkept, ?_, ?_, ?_⟩
  · rw [hissues]
    decide +kernel
  · exact hpicked "seats" (by decide)
  · exact hdropped "bags" (by decide +kernel) (by decide)
  · exact hother "note" rfl

end Schema

end Conform
