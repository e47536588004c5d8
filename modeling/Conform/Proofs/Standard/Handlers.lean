import Conform.Format.Basic
import Conform.Standard.Basic

/-!
# Handlers by value

The handlers of the standard context look at the current value only, and none of them takes part
in parsing.  Here they are computed for every kind and format, and a chain of such coercions
becomes a function on values.
-/

namespace Conform

namespace Coercion

/-- What a chain of coercions makes of a value.  One that declines leaves the value as it is. -/
def applyAll (fs : List (Json → Option Json)) (x : Json) : Json :=
  fs.foldl (fun x f => (f x).getD x) x

@[simp] theorem applyAll_nil (x : Json) : applyAll [] x = x := rfl

@[simp] theorem applyAll_cons (f : Json → Option Json) (fs : List (Json → Option Json))
    (x : Json) : applyAll (f :: fs) x = applyAll fs ((f x).getD x) := rfl

/-- A chain of coercions that all decline changes nothing. -/
theorem applyAll_of_declines {fs : List (Json → Option Json)} {x : Json}
    (h : ∀ f ∈ fs, f x = none) : applyAll fs x = x := by
  induction fs with
  | nil => rfl
  | cons f fs ih =>
      rw [applyAll_cons, h f (by simp), Option.getD_none]
      exact ih fun g hg => h g (by simp [hg])

end Coercion

/-- On a defined value, transforms that look at the value only are a chain of coercions. -/
theorem Visit.transform_values (fs : List (Json → Option Json)) {v : Visit} {x : Json}
    (h : v.value = some x) :
    v.transform (fs.map fun f w => f w.current) = v.set (Coercion.applyAll fs x) := by
  induction fs generalizing v x with
  | nil =>
      obtain ⟨value, root, path, issues⟩ := v
      subst h
      rfl
  | cons f fs ih =>
      have hcurrent : v.current = x := by simp [current, h]
      rw [List.map_cons, transform_cons, hcurrent, Coercion.applyAll_cons]
      cases f x with
      | none => exact ih h
      | some y => exact ih rfl

/-- A table none of whose handlers takes part in parsing and whose coercions are the given
functions of the value. -/
structure Table.CoercesBy (t : Table Schema) (fs : Traits → List (Json → Option Json)) :
    Prop where
  parse : ∀ x, (t.treat x).parse = []
  coerce : ∀ x, (t.treat x).coerce = (fs x.toTraits).map fun f v => f v.current

namespace Table.CoercesBy

variable {t : Table Schema} {fs : Traits → List (Json → Option Json)} {s : Schema}

theorem parse_treatment (ht : t.CoercesBy fs) (hs : s.table = t) : s.treatment.parse = [] := by
  rw [Schema.treatment, hs, ht.parse]

theorem coerce_treatment (ht : t.CoercesBy fs) (hs : s.table = t) :
    s.treatment.coerce = (fs s.node.toTraits).map fun f v => f v.current := by
  rw [Schema.treatment, hs, ht.coerce, Schema.toNode_spec]

end Table.CoercesBy

/-- A table whose handlers look at a node and the state of a visit, and not at the schemas
inside. -/
def Table.Shallow {σ : Type} (t : Table σ) : Prop :=
  ∀ x y : Spec, x.toNode = y.toNode → t.treat x = t.treat y

/-- Over such a table the handlers do the same at a node whatever its children and options are. -/
theorem Schema.treatment_eq_of_shallow {s s' : Schema} (hs : s.table.Shallow)
    (htable : s'.table = s.table) (hnode : s'.node = s.node) : s'.treatment = s.treatment := by
  rw [treatment, treatment, htable]
  apply hs
  rw [toNode_spec, toNode_spec, hnode]

namespace Standard

/-- The coercion that the core types have for a kind. -/
def coercionOf : Kind → Option (Json → Option Json)
  | .number => some Coercion.toNumber
  | .integer => some Coercion.toInteger
  | .boolean => some Coercion.toBoolean
  | .date => some Coercion.toDate
  | .object => some (Coercion.ofJsonText .object)
  | .array => some (Coercion.ofJsonText .array)
  | .any | .string => none

theorem handlersAt_format (k : Kind) (f : String) : table.handlersAt k (some f) = [] := by
  cases k <;> rfl

/-- The check of the bounds that belongs to a kind. -/
def boundChecks (tr : Traits) : List (Visit → Option Violation) :=
  match tr.kind with
  | .number | .integer => [checkRange tr]
  | .string | .array => [checkLength tr]
  | _ => []

/-- What the standard handlers do at a node. -/
def treatmentOf (tr : Traits) : Treatment :=
  { parse := []
    coerce := (coercionOf tr.kind).toList.map fun f v => f v.current
    validate := boundChecks tr }

/-- The standard handlers look at the traits of a node and at nothing else of its specification. -/
theorem treat_table (x : Spec) : table.treat x = treatmentOf x.toTraits := by
  obtain ⟨⟨⟨k, f, _, _, _, _⟩, _, _, _, _, _⟩, _, _⟩ := x
  cases k <;> cases f <;> rfl

theorem shallow : table.Shallow := by
  intro x y h
  rw [treat_table, treat_table, h]

theorem assertions_table (x : Spec) : table.assertions x = boundChecks x.toTraits :=
  congrArg Treatment.validate (treat_table x)

theorem treatment_eq {s : Schema} (hs : s.table = table) :
    s.treatment = treatmentOf s.node.toTraits := by
  rw [Schema.treatment, hs, treat_table, Schema.toNode_spec]

theorem coercesBy : table.CoercesBy fun tr => (coercionOf tr.kind).toList where
  parse x := by rw [treat_table, treatmentOf]
  coerce x := by rw [treat_table, treatmentOf]

end Standard

namespace Format

/-- The capabilities of the standard context after the formats are registered. -/
def table (source : Source) : Table Schema :=
  Standard.table.merge (formats source)

/-- The standard context takes the formats. -/
theorem useExtension_formats (source : Source) :
    Context.standard.useExtension (formats source) =
      .ok { Context.standard with pending := table source } := rfl

/-- A form of texts: how a text is brought into it, and which texts have it. -/
structure Form where
  coercion : Json → Option Json
  holds : String → Bool

/-- The form that the nodes of a kind and format have. -/
def form? : Kind → Option String → Option Form
  | .string, some f =>
    if f = "email" then some ⟨trimText, Email.isAddress⟩
    else if f = "uuid" then some ⟨normalizeUuid, fun s => (Uuid.ofText? s).isSome⟩
    else if f = "url" then some ⟨trimText, Url.isAbsolute⟩
    else none
  | _, _ => none

/-- The handlers of a form. -/
def Form.handlers (f : Form) (name : String) : List Handler :=
  [Standard.coercion f.coercion, textCheck name f.holds]

theorem handlersAt_table (source : Source) (k : Kind) (f : String) :
    (table source).handlersAt k (some f) =
      (form? k (some f)).toList.flatMap fun form => form.handlers f := by
  have hat : (table source).handlersAt k (some f) =
      (((formats source).handlers.filter fun h => h.kind == k && h.format == some f).map
        HandlerEntry.handler) := by
    cases k <;> rfl
  rw [hat]
  cases k with
  | string =>
      by_cases hemail : f = "email"
      · subst hemail
        simp [formats, form?, Form.handlers]
      by_cases huuid : f = "uuid"
      · subst huuid; rfl
      by_cases hurl : f = "url"
      · subst hurl; rfl
      · simp [formats, form?, hemail, huuid, hurl, Ne.symm hemail, Ne.symm huuid, Ne.symm hurl]
  | _ => rfl

theorem handlersAt_table_none (source : Source) (k : Kind) :
    (table source).handlersAt k none = Standard.table.handlersAt k none := by
  cases k <;> rfl

/-- The handlers of a node are those of its form and then those of the standard context. -/
theorem handlersFor_table (source : Source) (k : Kind) (f : Option String) (ph : Phase) :
    (table source).handlersFor k f ph =
      (((form? k f).toList.flatMap fun form => form.handlers (f.getD "")).filter fun h =>
        h.phase == ph) ++ Standard.table.handlersFor k f ph := by
  cases f with
  | none =>
      have hform : form? k none = none := by cases k <;> rfl
      simp [Table.handlersFor, handlersAt_table_none, hform]
  | some name =>
      simp [Table.handlersFor, handlersAt_table_none, handlersAt_table,
        Standard.handlersAt_format]

theorem coercesBy (source : Source) :
    (table source).CoercesBy fun tr =>
      ((form? tr.kind tr.format).map Form.coercion).toList ++
        (Standard.coercionOf tr.kind).toList := by
  constructor
  · intro x
    have hstandard : Standard.table.transforms x .parse = [] := Standard.coercesBy.parse x
    change (table source).transforms x .parse = []
    rw [Table.transforms] at hstandard ⊢
    rw [handlersFor_table, List.filterMap_append, hstandard]
    cases form? x.kind x.format with
    | none => rfl
    | some form => rfl
  · intro x
    have hstandard : Standard.table.transforms x .coerce = _ := Standard.coercesBy.coerce x
    change (table source).transforms x .coerce = _
    rw [Table.transforms] at hstandard ⊢
    rw [handlersFor_table, List.filterMap_append, hstandard, List.map_append]
    cases form? x.kind x.format with
    | none => rfl
    | some form => rfl

theorem textCheck_eq_none_iff (name : String) (holds : String → Bool) (x : Spec) (v : Visit) :
    (∀ f ∈ ((textCheck name holds).assertion?.map fun f => f x).toList, f v = none) ↔
      ∀ s, v.current = .str s → holds s = true := by
  cases hv : v.current with
  | str s => simp [textCheck, Handler.assertion?, hv]
  | _ => simp [textCheck, Handler.assertion?, hv]

/-- The assertions of a node find nothing when a text has the form of the node and the assertions
of the standard context find nothing. -/
theorem assertions_table_eq_none_iff (source : Source) (x : Spec) (v : Visit) :
    (∀ f ∈ (table source).assertions x, f v = none) ↔
      (∀ form, form? x.kind x.format = some form → ∀ s, v.current = .str s →
          form.holds s = true) ∧
        ∀ f ∈ Standard.table.assertions x, f v = none := by
  have hsplit : (table source).assertions x =
      ((form? x.kind x.format).toList.flatMap fun form =>
        ((textCheck (x.format.getD "") form.holds).assertion?.map fun f => f x).toList) ++
        Standard.table.assertions x := by
    rw [Table.assertions, handlersFor_table, List.filterMap_append]
    cases form? x.kind x.format with
    | none => rfl
    | some form => rfl
  rw [hsplit]
  cases form? x.kind x.format with
  | none => simp
  | some form =>
      have hform := textCheck_eq_none_iff (x.format.getD "") form.holds x v
      simp only [Option.toList_some, List.flatMap_singleton, List.mem_append, or_imp, forall_and,
        hform, Option.some.injEq, forall_eq']

end Format

end Conform
