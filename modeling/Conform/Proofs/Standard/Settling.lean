import Conform.Proofs.Format.Uuid
import Conform.Proofs.Schema.Satisfies
import Conform.Proofs.Standard.Idempotence

/-!
# Coercions settle

What the coercions of a node make of a value is left alone by them from then on, as long as it has
the type of the node.  This holds of the standard context and stays so when the formats are
registered, and the assertions of both are about the bounds of a value and the form of its text.
-/

namespace Conform

/-- A table whose coercions are the given functions and settle at once, and whose assertions are
about the bounds of a value and the texts that hold for a node. -/
structure Table.Settles (t : Table Schema) (fs : Traits → List (Json → Option Json))
    (holds : Traits → String → Prop) : Prop extends Table.CoercesBy t fs where
  again : ∀ tr x, tr.kind.accepts (Coercion.applyAll (fs tr) x) = true →
    Coercion.applyAll (fs tr) (Coercion.applyAll (fs tr) x) = Coercion.applyAll (fs tr) x
  composite : ∀ tr x, tr.kind.isComposite = true → tr.kind.accepts x = true →
    Coercion.applyAll (fs tr) x = x
  assertions : ∀ (x : Spec) (v : Visit), x.kind.accepts v.current = true →
    ((∀ f ∈ t.assertions x, f v = none) ↔
      (∀ s, v.current = .str s → holds x.toTraits s) ∧ x.toTraits.WithinBounds v.current)

/-- What the assertions of such a table find at a node of a schema. -/
theorem Table.Settles.validate_treatment {t : Table Schema}
    {fs : Traits → List (Json → Option Json)} {holds : Traits → String → Prop} {s : Schema}
    {v : Visit} (ht : t.Settles fs holds) (hs : s.table = t)
    (htype : s.node.kind.accepts v.current = true) :
    (∀ f ∈ s.treatment.validate, f v = none) ↔
      (∀ text, v.current = .str text → holds s.node.toTraits text) ∧
        s.node.toTraits.WithinBounds v.current := by
  have hassertions := ht.assertions s.spec v
  rw [Schema.toNode_spec] at hassertions
  rw [Schema.treatment, hs]
  exact hassertions htype

namespace Standard

theorem applyAll_coercionOf_composite {k : Kind} (hk : k.isComposite = true) {x : Json}
    (hx : k.accepts x = true) : Coercion.applyAll (coercionOf k).toList x = x := by
  apply Coercion.applyAll_of_declines
  intro f hf
  have hdate : k ≠ .date := by
    rintro rfl
    contradiction
  exact coercionOf_accepted (by simpa using hf) hdate hx

/-- The coercions of the standard context settle. -/
theorem settles :
    table.Settles (fun tr => (coercionOf tr.kind).toList) fun _ _ => True where
  toCoercesBy := coercesBy
  again := fun tr x _ => applyAll_coercionOf_again tr.kind x
  composite := fun _ _ hk hx => applyAll_coercionOf_composite hk hx
  assertions := by
    intro x v htype
    rw [assertions_table, boundChecks_eq_none_iff htype]
    simp

end Standard

namespace Format

theorem trimText_again {x y : Json} (h : trimText x = some y) : trimText y = none := by
  cases x with
  | str s =>
      rw [trimText] at h
      split at h
      · simp at h
      · obtain rfl := Option.some.inj h
        simp [trimText]
  | _ => simp [trimText] at h

theorem exists_text_of_normalizeUuid {x y : Json} (h : normalizeUuid x = some y) :
    ∃ u : Uuid, y = .str u.text := by
  cases x with
  | str s =>
      rw [normalizeUuid] at h
      split at h
      · rename_i u _
        split at h
        · simp at h
        · exact ⟨u, (Option.some.inj h).symm⟩
      · simp at h
  | _ => simp [normalizeUuid] at h

theorem normalizeUuid_again {x y : Json} (h : normalizeUuid x = some y) :
    normalizeUuid y = none := by
  obtain ⟨u, rfl⟩ := exists_text_of_normalizeUuid h
  simp [normalizeUuid, Text.trimmed_of_unpadded u.unpadded_text, Uuid.ofText?_text]

/-- The coercion of a form declines what it made. -/
theorem form_again {k : Kind} {f : Option String} {form : Form} (hform : form? k f = some form)
    {x y : Json} (h : form.coercion x = some y) : form.coercion y = none := by
  unfold form? at hform
  split at hform
  · split at hform
    · obtain rfl := Option.some.inj hform
      exact trimText_again h
    · split at hform
      · obtain rfl := Option.some.inj hform
        exact normalizeUuid_again h
      · split at hform
        · obtain rfl := Option.some.inj hform
          exact trimText_again h
        · contradiction
  · contradiction

theorem kind_of_form? {k : Kind} {f : Option String} {form : Form}
    (h : form? k f = some form) : k = .string := by
  cases k with
  | string => rfl
  | _ => simp [form?] at h

/-- The texts that have the form of a node. -/
def HoldsFor (tr : Traits) (s : String) : Prop :=
  ∀ form, form? tr.kind tr.format = some form → form.holds s = true

/-- The coercions settle after the formats are registered. -/
theorem settles (source : Source) :
    (table source).Settles
      (fun tr => ((form? tr.kind tr.format).map Form.coercion).toList ++
        (Standard.coercionOf tr.kind).toList) HoldsFor where
  toCoercesBy := coercesBy source
  again := by
    intro tr x _
    cases hform : form? tr.kind tr.format with
    | none =>
        exact Standard.applyAll_coercionOf_again tr.kind x
    | some form =>
        have hkind := kind_of_form? hform
        simp only [hkind, Standard.coercionOf, Option.map_some, Option.toList_some,
          Option.toList_none, List.append_nil]
        exact Coercion.applyAll_singleton_again fun y hy => form_again hform hy
  composite := by
    intro tr x hk hx
    cases hform : form? tr.kind tr.format with
    | none =>
        simp only [Option.map_none, Option.toList_none, List.nil_append]
        exact Standard.applyAll_coercionOf_composite hk hx
    | some form =>
        rw [kind_of_form? hform] at hk
        contradiction
  assertions := by
    intro x v htype
    rw [assertions_table_eq_none_iff, Standard.assertions_table,
      Standard.boundChecks_eq_none_iff htype]
    refine and_congr_left fun _ => ?_
    constructor
    · intro h s hs form hform
      exact h form hform s hs
    · intro h form hform s hs
      exact h s hs form hform

end Format

end Conform
