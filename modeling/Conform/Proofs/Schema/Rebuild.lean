import Conform.Proofs.Fields
import Conform.Proofs.Schema.Run

/-!
# Rebuilt objects and arrays

What stands in an object after its declared properties were validated and put back: the results
of the declared properties under their names, and the undeclared entries as they were.  Rebuilding
what was rebuilt from the same results changes nothing.
-/

namespace Conform

namespace Visit

theorem names_definedFields_sublist (rs : List (String × Visit)) :
    ((definedFields rs).map Prod.fst).Sublist (rs.map Prod.fst) := by
  induction rs with
  | nil => simp [definedFields]
  | cons r rest ih =>
      obtain ⟨name, w⟩ := r
      cases hw : w.value with
      | none => simpa [definedFields, hw] using ih.cons name
      | some x => simpa [definedFields, hw] using ih

/-- Under the name of a declared property stands what its validation ended with. -/
theorem get?_definedFields {rs : List (String × Visit)} (hnd : (rs.map Prod.fst).Nodup)
    (name : String) :
    Fields.get? (definedFields rs) name = (Fields.get? rs name).bind Visit.value := by
  induction rs with
  | nil => rfl
  | cons r rest ih =>
      obtain ⟨n, w⟩ := r
      simp only [List.map_cons, List.nodup_cons] at hnd
      by_cases h : name = n
      · subst h
        cases hw : w.value with
        | some x => simp [definedFields, hw, Fields.get?_cons]
        | none =>
            have hnone : Fields.get? (definedFields rest) name = none := by
              rw [Fields.get?_eq_none_iff]
              exact fun hmem => hnd.1 ((names_definedFields_sublist rest).subset hmem)
            simpa [definedFields, hw, Fields.get?_cons] using hnone
      · have hrest := ih hnd.2
        cases hw : w.value with
        | none => simpa [definedFields, hw, Fields.get?_cons, h] using hrest
        | some x => simpa [definedFields, hw, Fields.get?_cons, h] using hrest

/-- The entries depend on the values that the properties end with, and on nothing else. -/
theorem definedFields_congr {σ : Type} {ps : List (String × σ)} {f g : String × σ → Visit}
    (h : ∀ p ∈ ps, (f p).value = (g p).value) :
    definedFields (ps.map fun p => (p.1, f p)) = definedFields (ps.map fun p => (p.1, g p)) := by
  simp only [definedFields, List.filterMap_map]
  apply List.filterMap_congr
  intro p hp
  simp [h p hp]

end Visit

namespace Schema

open Visit

variable {ps : List (String × Schema)} {fields : Fields Json} {v : Visit}

/-- The entries of an object after its declared properties were validated. -/
def rebuiltFields (ps : List (String × Schema)) (fields : Fields Json) (v : Visit) :
    Fields Json :=
  definedFields (runProperties ps fields v) ++ undeclaredFields ps fields

theorem names_runProperties (ps : List (String × Schema)) (fields : Fields Json) (v : Visit) :
    (runProperties ps fields v).map Prod.fst = ps.map Prod.fst := by
  rw [runProperties_eq_map, List.map_map]
  rfl

theorem get?_runProperties (ps : List (String × Schema)) (fields : Fields Json) (v : Visit)
    (name : String) :
    Fields.get? (runProperties ps fields v) name =
      (ps.lookup name).map fun s => s.run (v.descend (.key name) (fields.get? name)) := by
  induction ps with
  | nil => rfl
  | cons p rest ih =>
      obtain ⟨n, s⟩ := p
      by_cases h : name = n
      · subst h
        simp [runProperties, Fields.get?_cons]
      · have hbeq : (name == n) = false := by simpa using h
        simp [runProperties, Fields.get?_cons, List.lookup_cons, hbeq, ih]

theorem get?_undeclaredFields (ps : List (String × Schema)) (fields : Fields Json)
    (name : String) :
    Fields.get? (undeclaredFields ps fields) name =
      if (ps.lookup name).isNone then fields.get? name else none := by
  have h := Fields.get?_filter (fun n => (ps.lookup n).isNone) fields.distinct name
  rwa [Fields.get?_distinct] at h

/-- A rebuilt object has the results of the declared properties under their names and the old
values under all other names. -/
theorem get?_rebuiltFields (hnd : (ps.map Prod.fst).Nodup) (fields : Fields Json) (v : Visit)
    (name : String) :
    (rebuiltFields ps fields v).get? name =
      match ps.lookup name with
      | some s => (s.run (v.descend (.key name) (fields.get? name))).value
      | none => fields.get? name := by
  have hnames : ((runProperties ps fields v).map Prod.fst).Nodup := by
    rwa [names_runProperties]
  rw [rebuiltFields, Fields.get?_append, get?_definedFields hnames, get?_runProperties,
    get?_undeclaredFields]
  cases ps.lookup name with
  | none => simp
  | some s => simp

/-- The names in a rebuilt object are distinct. -/
theorem nodup_rebuiltFields (hnd : (ps.map Prod.fst).Nodup) (fields : Fields Json) (v : Visit) :
    ((rebuiltFields ps fields v).map Prod.fst).Nodup := by
  rw [rebuiltFields, List.map_append]
  refine List.Nodup.append ?_ ?_ ?_
  · have hnames := names_definedFields_sublist (runProperties ps fields v)
    rw [names_runProperties] at hnames
    exact hnd.sublist hnames
  · exact (Fields.nodup_distinct fields).sublist (List.Sublist.map Prod.fst List.filter_sublist)
  · intro name hdeclared hundeclared
    have hmem : name ∈ ps.map Prod.fst := by
      have hsub := (names_definedFields_sublist (runProperties ps fields v)).subset hdeclared
      rwa [names_runProperties] at hsub
    obtain ⟨f, hf, rfl⟩ := List.mem_map.mp hundeclared
    have hlookup : Fields.get? ps f.1 = none := by
      simpa [Fields.get?] using (List.mem_filter.mp hf).2
    exact Fields.get?_eq_none_iff.mp hlookup hmem

/-- Rebuilding an object leaves its undeclared entries as they are, and in their order. -/
theorem undeclaredFields_rebuiltFields (hnd : (ps.map Prod.fst).Nodup) (fields : Fields Json)
    (v : Visit) :
    undeclaredFields ps (rebuiltFields ps fields v) = undeclaredFields ps fields := by
  have hdeclared : (definedFields (runProperties ps fields v)).filter
      (fun f => (ps.lookup f.1).isNone) = [] := by
    rw [List.filter_eq_nil_iff]
    intro f hf hnone
    have hmem := (names_definedFields_sublist (runProperties ps fields v)).subset
      (List.mem_map.mpr ⟨f, hf, rfl⟩)
    rw [names_runProperties] at hmem
    exact Fields.get?_eq_none_iff.mp (by simpa [Fields.get?] using hnone) hmem
  rw [undeclaredFields, Fields.distinct_of_nodup (nodup_rebuiltFields hnd fields v),
    rebuiltFields, List.filter_append, hdeclared, List.nil_append]
  simp [undeclaredFields, List.filter_filter]

/-! ### Elements -/

theorem of_mem_elements {items : List Json} {u : Visit} (h : u ∈ v.elements items) :
    ∃ i, ∃ x ∈ items, u = v.descend (.index i) (some x) := by
  obtain ⟨⟨x, i⟩, hx, rfl⟩ := List.mem_map.mp h
  refine ⟨i, x, ?_, rfl⟩
  have hmem : x ∈ items.zipIdx.map Prod.fst := List.mem_map.mpr ⟨(x, i), hx, rfl⟩
  simpa using hmem

theorem exists_mem_elements (v : Visit) {items : List Json} {x : Json} (h : x ∈ items) :
    ∃ i, v.descend (.index i) (some x) ∈ v.elements items := by
  have hmem : x ∈ items.zipIdx.map Prod.fst := by simpa using h
  obtain ⟨⟨y, i⟩, hy, rfl⟩ := List.mem_map.mp hmem
  exact ⟨i, List.mem_map.mpr ⟨(y, i), hy, rfl⟩⟩

/-! ### The children of objects and arrays -/

section

variable {s : Schema}

/-- Under the names of an object stand, after its children, the results of the declared properties
and the old values. -/
theorem value_runChildren_object (hnames : (s.properties.map Prod.fst).Nodup)
    (kind : s.kind = .object) (value : v.value = some (.obj fields)) :
    ∃ out : Fields Json, (runChildren s.kind s.children v).value = some (.obj out) ∧
      ∀ name, out.get? name =
        match s.property? name with
        | some p => (p.run (v.descend (.key name) (fields.get? name))).value
        | none => fields.get? name := by
  have h := s.outcome_runChildren v
  generalize runChildren s.kind s.children v = u at h ⊢
  cases h with
  | object kind' value' declares =>
      obtain rfl := Json.obj.inj (Option.some.inj (value.symm.trans value'))
      exact ⟨rebuiltFields s.properties fields v, rfl, get?_rebuiltFields hnames fields v⟩
  | array kind' => simp [kind] at kind'
  | unchanged object array =>
      refine ⟨fields, value, ?_⟩
      intro name
      rw [property?, object fields kind value, List.lookup_nil]

/-- An object that declares properties stands, after its children, rebuilt from them. -/
theorem runChildren_object (kind : s.kind = .object) (value : v.value = some (.obj fields))
    (declares : s.properties ≠ []) :
    runChildren s.kind s.children v =
      v.rebuildObject (runProperties s.properties fields v)
        (undeclaredFields s.properties fields) := by
  have h := s.outcome_runChildren v
  generalize runChildren s.kind s.children v = u at h ⊢
  cases h with
  | object kind' value' declares' =>
      obtain rfl := Json.obj.inj (Option.some.inj (value.symm.trans value'))
      rfl
  | array kind' => simp [kind] at kind'
  | unchanged object array => exact (declares (object fields kind value)).elim

/-- The children of an object report what its declared properties report. -/
theorem issues_runChildren_object (kind : s.kind = .object)
    (value : v.value = some (.obj fields)) :
    (runChildren s.kind s.children v).issues =
      v.issues ++ s.properties.flatMap fun p =>
        (p.2.run (v.descend (.key p.1) (fields.get? p.1))).issues := by
  have h := s.outcome_runChildren v
  generalize runChildren s.kind s.children v = u at h ⊢
  cases h with
  | object kind' value' declares =>
      obtain rfl := Json.obj.inj (Option.some.inj (value.symm.trans value'))
      simp [rebuildObject, runProperties_eq_map, List.flatMap_map]
  | array kind' => simp [kind] at kind'
  | unchanged object array => simp [object fields kind value]

/-- An array stands, after its children, rebuilt from its elements, and reports what they report. -/
theorem runChildren_array {items : List Json} {e : Schema} (kind : s.kind = .array)
    (value : v.value = some (.arr items)) (element : s.element? = some e) :
    runChildren s.kind s.children v =
      v.rebuildArray ((v.elements items).map fun w => e.run w) := by
  have h := s.outcome_runChildren v
  generalize runChildren s.kind s.children v = u at h ⊢
  cases h with
  | object kind' => simp [kind] at kind'
  | array kind' value' element' =>
      obtain rfl := Json.arr.inj (Option.some.inj (value.symm.trans value'))
      obtain rfl := Option.some.inj (element.symm.trans element')
      rfl
  | unchanged object array => simp [array items kind value] at element

/-- The issues of the children are those of the runs of the properties or of the elements. -/
theorem mem_issues_runChildren_iff {i : Issue} :
    i ∈ (runChildren s.kind s.children v).issues ↔
      i ∈ v.issues ∨
      (∃ fields name p, s.kind = .object ∧ v.value = some (.obj fields) ∧
        (name, p) ∈ s.properties ∧
        i ∈ (p.run (v.descend (.key name) (Fields.get? fields name))).issues) ∨
      ∃ items e x index, s.kind = .array ∧ v.value = some (.arr items) ∧
        s.element? = some e ∧ items[index]? = some x ∧
        i ∈ (e.run (v.descend (.index index) (some x))).issues := by
  have h := s.outcome_runChildren v
  generalize runChildren s.kind s.children v = u at h ⊢
  cases h with
  | object kind value declares =>
      simp [rebuildObject, runProperties_eq_map, kind, value]
  | array kind value element =>
      simp [rebuildArray, elements, kind, value, element, List.mem_zipIdx_iff_getElem?]
  | unchanged object array =>
      refine ⟨.inl, ?_⟩
      rintro (hi | ⟨fields, name, p, hkind, hvalue, hp, -⟩ |
        ⟨items, e, x, index, hkind, hvalue, he, -⟩)
      · exact hi
      · simp [object fields hkind hvalue] at hp
      · simp [array items hkind hvalue] at he

end

/-! ### Issues -/

theorem issues_rebuildObject_eq_nil_iff {declared : List (String × Visit)}
    {undeclared : Fields Json} :
    (v.rebuildObject declared undeclared).issues = [] ↔
      v.issues = [] ∧ ∀ d ∈ declared, d.2.issues = [] := by
  simp [rebuildObject, List.flatMap_eq_nil_iff]

theorem issues_rebuildArray_eq_nil_iff {elements : List Visit} :
    (v.rebuildArray elements).issues = [] ↔ v.issues = [] ∧ ∀ e ∈ elements, e.issues = [] := by
  simp [rebuildArray, List.flatMap_eq_nil_iff]

theorem issues_refuse_eq_nil_iff {names : List String} :
    (v.refuse names).issues = [] ↔ v.issues = [] ∧ names = [] := by
  simp [refuse]

/-! ### Refused names -/

theorem refusedNames_congr {s : Schema} {w : Visit} (h : v.value = w.value) :
    s.refusedNames v = s.refusedNames w := by
  simp only [refusedNames, h]

/-- A lenient node refuses nothing. -/
theorem refusedNames_of_lenient {s : Schema} (h : s.node.strict = false) (v : Visit) :
    s.refusedNames v = [] := by
  unfold refusedNames
  split
  · simp [h]
  · rfl

theorem refusedNames_object {s : Schema} (hkind : s.kind = .object)
    (hfields : v.value = some (.obj fields)) :
    s.refusedNames v =
      if s.node.strict && !s.options.isConditional then
        (undeclaredFields s.properties fields).map Prod.fst
      else [] := by
  unfold refusedNames
  rw [hkind, hfields]

theorem mem_names_undeclaredFields_iff {name : String} :
    name ∈ (undeclaredFields ps fields).map Prod.fst ↔
      (fields.get? name).isSome ∧ ps.lookup name = none := by
  rw [Fields.mem_names_iff, get?_undeclaredFields]
  cases ps.lookup name with
  | none => simp
  | some s => simp

/-- What a schema refuses are the names that its strict node does not declare. -/
theorem mem_refusedNames_iff {s : Schema} {name : String} :
    name ∈ s.refusedNames v ↔
      ∃ fields, s.kind = .object ∧ v.value = some (.obj fields) ∧ s.node.strict = true ∧
        s.options.isConditional = false ∧ (Fields.get? fields name).isSome ∧
          s.property? name = none := by
  unfold refusedNames
  split
  · rename_i fields hkind hvalue
    have hiff : name ∈ (undeclaredFields s.properties fields).map Prod.fst ↔
        (Fields.get? fields name).isSome ∧ s.property? name = none :=
      mem_names_undeclaredFields_iff
    split
    · rename_i hstrict
      rw [hiff]
      simp_all
    · rename_i hlenient
      simp_all
  · rename_i hother
    simp only [List.not_mem_nil, false_iff]
    rintro ⟨fields, hkind, hvalue, -⟩
    exact hother fields hkind hvalue

theorem nodup_refusedNames (s : Schema) (v : Visit) : (s.refusedNames v).Nodup := by
  unfold refusedNames
  split
  · split
    · exact (Fields.nodup_distinct _).sublist (List.Sublist.map Prod.fst List.filter_sublist)
    · exact List.nodup_nil
  · exact List.nodup_nil

/-- A schema without conditional options refuses nothing exactly when its strict node declares
every name that occurs in an object. -/
theorem refusedNames_eq_nil_iff {s : Schema} (hconditional : s.options.isConditional = false) :
    s.refusedNames v = [] ↔
      ∀ fields, s.kind = .object → v.value = some (.obj fields) → s.node.strict = true →
        ∀ name, (Fields.get? fields name).isSome → (s.property? name).isSome := by
  simp only [List.eq_nil_iff_forall_not_mem, mem_refusedNames_iff, hconditional, true_and,
    not_exists, not_and, Option.isSome_iff_ne_none (o := s.property? _)]
  exact ⟨fun h fields hkind hvalue hstrict name => h name fields hkind hvalue hstrict,
    fun h name fields hkind hvalue hstrict => h fields hkind hvalue hstrict name⟩

end Schema
end Conform
