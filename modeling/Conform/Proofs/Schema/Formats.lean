import Conform.Proofs.Format.Email
import Conform.Proofs.Format.Uuid
import Conform.Proofs.Schema.Scalar
import Conform.Proofs.Schema.Stability

/-!
# Validating texts of a format

What the builders of the formats make of texts.  A lenient schema brings a text into the form of its
format and checks the outcome; a strict one checks the text as it is.  The format of UUIDs thereby
computes a normal form: all spellings of one UUID end as its canonical text.  The schema for
identifiers makes one up where none is given, with each validation anew.
-/

namespace Conform

open Visit

namespace Schema

/-- The schema of a format of texts with no other setting than whether it is strict. -/
def ofFormat (source : Format.Source) (format : String) (strict : Bool) : Schema :=
  .ofNode { kind := .string, format := some format, strict } (Format.table source)

section

variable {source : Format.Source} {format : String} {strict : Bool} {coercion : Json → Option Json}
  {holds : String → Bool} {t u : String}

theorem plain_ofFormat : (ofFormat source format strict).Plain (Format.table source) := by
  simp [ofFormat, ofNode, plain_iff, closureFree_iff, built_iff, Options.isConditional,
    Kind.isComposite]

theorem edit_strict_ofFormat :
    (ofFormat source format strict).edit (.strict true) = .ok (ofFormat source format true) := by
  rw [edit]
  rfl

/-- The texts that hold for a node of a format are those of its form. -/
theorem holdsFor_iff {tr : Traits}
    (hform : Format.form? tr.kind tr.format = some ⟨coercion, holds⟩) :
    Format.HoldsFor tr u ↔ holds u = true := by
  rw [Format.HoldsFor]
  simp only [hform, Option.some.injEq, forall_eq']

/-- The coercion of a node of a format is that of its form. -/
theorem coerced_of_form {n : Node}
    (hform : Format.form? n.kind n.format = some ⟨coercion, holds⟩) (x : Json) :
    n.coerced
        (fun tr => ((Format.form? tr.kind tr.format).map Format.Form.coercion).toList ++
          (Standard.coercionOf tr.kind).toList) x =
      if n.strict then x else (coercion x).getD x := by
  have hstandard : Standard.coercionOf n.kind = none := by
    rw [Format.kind_of_form? hform]
    rfl
  simp [Node.coerced, hform, hstandard]

/-- The check of the node of a format finds nothing in a text exactly when the text has the form. -/
theorem valueViolation_ofFormat_eq_none_iff
    (hform : Format.form? .string (some format) = some ⟨coercion, holds⟩) {v : Visit}
    (hv : v.current = .str u) :
    (ofFormat source format strict).node.valueViolation (ofFormat source format strict).treatment
      (ofFormat source format strict).options v = none ↔ holds u = true := by
  have htype : (ofFormat source format strict).node.kind.accepts v.current = true := by
    rw [hv]
    rfl
  have hadmits : (ofFormat source format strict).node.Admits
      (ofFormat source format strict).options (.str u) := admits_of_unsettled rfl rfl rfl rfl
  rw [plain_ofFormat.valueViolation_eq_none_iff (Format.settles source) htype, hv]
  constructor
  · rintro ⟨-, hholds⟩
    exact (holdsFor_iff hform).mp (hholds u rfl)
  · intro hholds
    refine ⟨hadmits, fun text htext => ?_⟩
    rw [← Json.str.inj htext]
    exact (holdsFor_iff hform).mpr hholds

section

variable (hform : Format.form? .string (some format) = some ⟨coercion, holds⟩)
  (hu : (if strict then .str t else (coercion (.str t)).getD (.str t)) = .str u)
include hform hu

/-- What the form makes of a text is checked for having the form. -/
theorem validate_ofFormat :
    (ofFormat source format strict).validate (some (.str t)) =
      match (ofFormat source format strict).node.valueViolation
          (ofFormat source format strict).treatment (ofFormat source format strict).options
          ((Visit.start (some (.str t))).set (.str u)) with
      | some violation => ((Visit.start (some (.str t))).set (.str u)).push violation
      | none => (Visit.start (some (.str t))).set (.str u) := by
  have hkind : (ofFormat source format strict).kind = .string := rfl
  have hobject : (ofFormat source format strict).kind ≠ .object := by simp [hkind]
  have harray : (ofFormat source format strict).kind ≠ .array := by simp [hkind]
  have hnull : Json.str t ≠ .null := nofun
  rw [validate_coerced (Format.coercesBy source) plain_ofFormat.toClosureFree hobject
    (fun h => (harray h).elim) hnull ((coerced_of_form hform (.str t)).trans hu)]
  exact if_pos rfl

/-- A text conforms when what the form makes of it has the form. -/
theorem conforms_ofFormat_iff :
    ((ofFormat source format strict).validate (some (.str t))).conforms = true ↔
      holds u = true := by
  have hcurrent : ((Visit.start (some (.str t))).set (.str u)).current = .str u := rfl
  rw [validate_ofFormat hform hu,
    ← @valueViolation_ofFormat_eq_none_iff source format strict _ _ _ hform _ hcurrent]
  cases (ofFormat source format strict).node.valueViolation
      (ofFormat source format strict).treatment (ofFormat source format strict).options
      ((Visit.start (some (.str t))).set (.str u)) with
  | some violation => simp [conforms, push]
  | none => simp [conforms, Visit.set, start]

theorem value_ofFormat :
    ((ofFormat source format strict).validate (some (.str t))).value = some (.str u) := by
  rw [validate_ofFormat hform hu]
  split <;> rfl

end

section

variable (hform : Format.form? .string (some format) = some ⟨coercion, holds⟩)
include hform

theorem lenient_ofFormat (hu : (coercion (.str t)).getD (.str t) = .str u) :
    ((ofFormat source format false).validate (some (.str t))).value = some (.str u) ∧
      (((ofFormat source format false).validate (some (.str t))).conforms = true ↔
        holds u = true) := by
  have hcoerced : (if false = true then Json.str t else (coercion (.str t)).getD (.str t)) =
      .str u := by
    rw [if_neg Bool.false_ne_true, hu]
  exact ⟨value_ofFormat hform hcoerced, conforms_ofFormat_iff hform hcoerced⟩

/-- The strict schema of a format leaves a text as it is. -/
theorem strict_ofFormat :
    ((ofFormat source format true).validate (some (.str t))).value = some (.str t) ∧
      (((ofFormat source format true).validate (some (.str t))).conforms = true ↔
        holds t = true) := by
  have hcoerced : (if true = true then Json.str t else (coercion (.str t)).getD (.str t)) =
      .str t := if_pos rfl
  exact ⟨value_ofFormat hform hcoerced, conforms_ofFormat_iff hform hcoerced⟩

end

end

/-! ### Email addresses -/

/-- The coercion of addresses takes the blanks around a text off. -/
theorem getD_trimText (t : String) :
    (Format.trimText (.str t)).getD (.str t) = .str (Text.trimmed t) := by
  rw [Format.trimText]
  split
  · rename_i htrimmed
    rw [htrimmed]
    rfl
  · rfl

/-- The format of email addresses accepts exactly its grammar: the lenient schema asks whether the
text without the blanks around it is an address and ends with that text, the strict one asks it of
the text as it is and leaves it. -/
theorem validate_email (source : Format.Source) (depth : Nat) :
    ∃ c lenient rigid, Context.standard.useExtension (Format.formats source) = .ok c ∧
      (c.build "email" depth).2 = some (.ok lenient) ∧ lenient.edit (.strict true) = .ok rigid ∧
      ∀ t : String,
        ((lenient.validate (some (.str t))).conforms = true ↔
          Email.IsAddress (Text.trimmed t)) ∧
        (lenient.validate (some (.str t))).value = some (.str (Text.trimmed t)) ∧
        ((rigid.validate (some (.str t))).conforms = true ↔ Email.IsAddress t) ∧
        (rigid.validate (some (.str t))).value = some (.str t) := by
  have hform : Format.form? .string (some "email") =
      some ⟨Format.trimText, Email.isAddress⟩ := rfl
  refine ⟨_, ofFormat source "email" false, ofFormat source "email" true,
    Format.useExtension_formats source, rfl, edit_strict_ofFormat, fun t => ?_⟩
  obtain ⟨hvalue, hconforms⟩ := lenient_ofFormat hform (getD_trimText t)
  obtain ⟨hkept, hrigid⟩ := strict_ofFormat hform
  rw [Email.isAddress_iff] at hconforms hrigid
  exact ⟨hconforms, hvalue, hrigid, hkept⟩

/-! ### UUIDs -/

/-- A text that reads as a UUID becomes its canonical text, and any other text stays. -/
def normalized (t : String) : String :=
  ((Uuid.ofText? (Text.trimmed t)).map Uuid.text).getD t

theorem getD_normalizeUuid (t : String) :
    (Format.normalizeUuid (.str t)).getD (.str t) = .str (normalized t) := by
  rw [Format.normalizeUuid, normalized]
  cases Uuid.ofText? (Text.trimmed t) with
  | none => rfl
  | some u =>
      by_cases htext : u.text = t
      · simp [htext]
      · simp [htext]

/-- What the normalisation leaves reads as a UUID exactly when the text without the blanks around it
does. -/
theorem ofText?_normalized (t : String) :
    Uuid.ofText? (normalized t) = Uuid.ofText? (Text.trimmed t) := by
  rw [normalized]
  cases hread : Uuid.ofText? (Text.trimmed t) with
  | some u => exact Uuid.ofText?_text u
  | none =>
      rw [Option.map_none, Option.getD_none]
      cases hplain : Uuid.ofText? t with
      | none => rfl
      | some u =>
          rw [Text.trimmed_of_unpadded (Uuid.unpadded_of_ofText? hplain), hplain] at hread
          contradiction

theorem normalized_of_ofText? {t : String} {u : Uuid}
    (h : Uuid.ofText? (Text.trimmed t) = some u) : normalized t = u.text := by
  rw [normalized, h]
  rfl

/-- A canonical text stays as it is. -/
theorem normalized_text (u : Uuid) : normalized u.text = u.text := by
  have hread := Uuid.ofText?_text u
  apply normalized_of_ofText?
  rwa [Text.trimmed_of_unpadded (Uuid.unpadded_of_ofText? hread)]

section

variable (source : Format.Source) (t : String)

theorem form?_uuid : Format.form? .string (some "uuid") =
    some ⟨Format.normalizeUuid, fun s => (Uuid.ofText? s).isSome⟩ := rfl

theorem conforms_lenientUuid_iff :
    ((ofFormat source "uuid" false).validate (some (.str t))).conforms = true ↔
      (Uuid.ofText? (Text.trimmed t)).isSome := by
  rw [← ofText?_normalized t]
  exact (lenient_ofFormat form?_uuid (getD_normalizeUuid t)).2

theorem value_lenientUuid :
    ((ofFormat source "uuid" false).validate (some (.str t))).value = some (.str (normalized t)) :=
  (lenient_ofFormat form?_uuid (getD_normalizeUuid t)).1

theorem conforms_strictUuid_iff :
    ((ofFormat source "uuid" true).validate (some (.str t))).conforms = true ↔
      (Uuid.ofText? t).isSome :=
  (strict_ofFormat form?_uuid).2

theorem value_strictUuid :
    ((ofFormat source "uuid" true).validate (some (.str t))).value = some (.str t) :=
  (strict_ofFormat form?_uuid).1

/-- What the strict schema accepts has no blanks around it, so that the lenient one accepts it. -/
theorem conforms_lenientUuid_of_strict
    (h : ((ofFormat source "uuid" true).validate (some (.str t))).conforms = true) :
    ((ofFormat source "uuid" false).validate (some (.str t))).conforms = true := by
  obtain ⟨u, hu⟩ := Option.isSome_iff_exists.mp ((conforms_strictUuid_iff source t).mp h)
  rw [conforms_lenientUuid_iff, Text.trimmed_of_unpadded (Uuid.unpadded_of_ofText? hu), hu]
  rfl

/-- Accepted texts end alike exactly when they are read alike. -/
theorem value_lenientUuid_eq_iff {t t' : String}
    (h : ((ofFormat source "uuid" false).validate (some (.str t))).conforms = true)
    (h' : ((ofFormat source "uuid" false).validate (some (.str t'))).conforms = true) :
    ((ofFormat source "uuid" false).validate (some (.str t))).value =
        ((ofFormat source "uuid" false).validate (some (.str t'))).value ↔
      Uuid.ofText? (Text.trimmed t) = Uuid.ofText? (Text.trimmed t') := by
  obtain ⟨u, hu⟩ := Option.isSome_iff_exists.mp ((conforms_lenientUuid_iff source t).mp h)
  obtain ⟨u', hu'⟩ := Option.isSome_iff_exists.mp ((conforms_lenientUuid_iff source t').mp h')
  rw [value_lenientUuid, value_lenientUuid, hu, hu', normalized_of_ofText? hu,
    normalized_of_ofText? hu', Option.some_inj, Option.some_inj, Json.str.injEq, Uuid.text_inj]

end

/-- The format of UUIDs computes a normal form.  The lenient schema accepts a text that reads as a
UUID without the blanks around it and makes of it the canonical text of the UUID, which has 36
characters and reads back as the UUID; so two of these texts end alike exactly when they read as the
same UUID.  The strict schema leaves every text as it is and accepts those that read as a UUID as
they are, among them all canonical texts.  All of them are accepted by the lenient one as well. -/
theorem validate_uuid (source : Format.Source) (depth : Nat) :
    ∃ c lenient rigid, Context.standard.useExtension (Format.formats source) = .ok c ∧
      (c.build "uuid" depth).2 = some (.ok lenient) ∧ lenient.edit (.strict true) = .ok rigid ∧
      (∀ t : String,
        ((lenient.validate (some (.str t))).conforms = true ↔
          (Uuid.ofText? (Text.trimmed t)).isSome) ∧
        (∀ u, Uuid.ofText? (Text.trimmed t) = some u →
          (lenient.validate (some (.str t))).value = some (.str u.text)) ∧
        ((rigid.validate (some (.str t))).conforms = true ↔ (Uuid.ofText? t).isSome) ∧
        (rigid.validate (some (.str t))).value = some (.str t) ∧
        ((rigid.validate (some (.str t))).conforms = true →
          (lenient.validate (some (.str t))).conforms = true)) ∧
      (∀ u : Uuid, List.Forall₂ Uuid.Fits Uuid.shape u.text.toList ∧
        Uuid.ofText? u.text = some u ∧
        rigid.Yields (.str u.text) (.str u.text)) ∧
      ∀ t t' : String, (lenient.validate (some (.str t))).conforms = true →
        (lenient.validate (some (.str t'))).conforms = true →
        ((lenient.validate (some (.str t))).value = (lenient.validate (some (.str t'))).value ↔
          Uuid.ofText? (Text.trimmed t) = Uuid.ofText? (Text.trimmed t')) := by
  refine ⟨_, ofFormat source "uuid" false, ofFormat source "uuid" true,
    Format.useExtension_formats source, rfl, edit_strict_ofFormat, ?_, ?_, ?_⟩
  · intro t
    refine ⟨conforms_lenientUuid_iff source t, fun u hu => ?_, conforms_strictUuid_iff source t,
      value_strictUuid source t, conforms_lenientUuid_of_strict source t⟩
    rw [value_lenientUuid, normalized_of_ofText? hu]
  · intro u
    have hread := Uuid.ofText?_text u
    have hconforms := (conforms_strictUuid_iff source u.text).mpr
      (Option.isSome_iff_exists.mpr ⟨u, hread⟩)
    exact ⟨u.fits_text, hread, hconforms, value_strictUuid source u.text⟩
  · intro t t' h h'
    exact value_lenientUuid_eq_iff source h h'

/-! ### Fresh identifiers -/

/-- The schema for identifiers that are made up where none is given. -/
def identifier : Format.Fresh := fun source =>
  .ofNode
    { kind := .string
      format := some "uuid"
      extra := [("constrain", .obj [("primaryKey", .bool true)])]
      default := some (.computed fun v => .str (source.uuid v).text) }
    (Format.table source)

theorem plain_identifier (source : Format.Source) :
    (identifier source).Plain (Format.table source) := by
  simp [identifier, ofNode, plain_iff, closureFree_iff, built_iff, Options.isConditional,
    Kind.isComposite]

/-- Each validation that is given no identifier ends with one from its own source, and conforms. -/
theorem validate_identifier (source : Format.Source) :
    identifier.validate source none =
      (Visit.start none).set (.str (source.uuid (.start none)).text) := by
  obtain ⟨u, hu⟩ : ∃ u, source.uuid (.start none) = u := ⟨_, rfl⟩
  let w := (Visit.start none).set (.str u.text)
  have hreads : (Uuid.ofText? u.text).isSome = true := by
    rw [Uuid.ofText?_text]
    rfl
  have hplain := plain_identifier source
  have hkind : (identifier source).kind = .string := rfl
  have hobject : (identifier source).kind ≠ .object := by simp [hkind]
  have harray : (identifier source).kind ≠ .array := by simp [hkind]
  have hprepare : (identifier source).node.prepare (identifier source).treatment (.start none) =
      w := by
    rw [hplain.prepare_eq (Format.coercesBy source)]
    exact congrArg (fun u => (Visit.start none).set (.str u.text)) hu
  have hcoerced : (identifier source).node.coerced
      (fun tr => ((Format.form? tr.kind tr.format).map Format.Form.coercion).toList ++
        (Standard.coercionOf tr.kind).toList) (.str u.text) = .str u.text := by
    refine (coerced_of_form form?_uuid _).trans ?_
    rw [getD_normalizeUuid, normalized_text]
    exact ite_self _
  have hvalue : (identifier source).node.valueViolation (identifier source).treatment
      (identifier source).options (w.set (.str u.text)) = none := by
    refine (hplain.valueViolation_eq_none_iff (Format.settles source) rfl).mpr ⟨?_, ?_⟩
    · exact admits_of_unsettled rfl rfl rfl rfl
    · intro text htext
      obtain rfl : u.text = text := Json.str.inj htext
      refine (holdsFor_iff form?_uuid).mpr ?_
      exact hreads
  rw [hu, Format.Fresh.validate, validate, run_coerced (Format.coercesBy source)
    hplain.toClosureFree hobject (fun h => (harray h).elim) hprepare rfl nofun hcoerced, hvalue]
  exact if_pos rfl

/-- Sources with different identifiers give different ones. -/
theorem value_identifier_ne {source source' : Format.Source}
    (h : source.uuid (.start none) ≠ source'.uuid (.start none)) :
    (identifier.validate source none).value ≠ (identifier.validate source' none).value := by
  rw [validate_identifier, validate_identifier]
  simpa [Visit.set, Uuid.text_inj] using h

theorem build_identifier (source : Format.Source) (depth : Nat) :
    ∃ c, Context.standard.useExtension (Format.formats source) = .ok c ∧
      (c.build "uuid-Id" depth).2 = some (.ok (identifier source)) :=
  ⟨_, Format.useExtension_formats source, rfl⟩

end Schema

end Conform
