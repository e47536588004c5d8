import Conform.Proofs.Json.Same
import Conform.Proofs.Schema.Soundness

/-!
# Options and what becomes of them

A node with literal options compares the value that it has before its children are validated.  The
value in the end is what the children make of that one: an option again where no children are
declared, and possibly none of them where a child is coerced or gets a default.
-/

namespace Conform

open Visit

theorem Json.ne_null_of_typeName {x : Json} (h : x.typeName ≠ "null") : x ≠ .null := by
  rintro rfl
  exact h rfl

/-- Where the phases give a value, only the value differs from the visit that the node got. -/
theorem Node.ready_eq_set {n : Node} {t : Treatment} {v : Visit} {x : Json}
    (h : (n.prepare t v).value = some x) : n.ready t v = v.set (n.ready t v).current := by
  have hextends := extends_ready n t v
  have hissues := issues_ready n t v
  have hvalue := value_ready_of_defined h
  generalize hready : n.ready t v = w at hextends hissues hvalue ⊢
  obtain ⟨value, root, path, issues⟩ := w
  obtain rfl : root = v.root := hextends.root
  obtain rfl : path = v.path := hextends.path
  obtain rfl : issues = v.issues := hissues
  rw [Visit.set, ← hvalue]

/-- A value that passes the check against literal options is one of them. -/
theorem Node.exists_option_of_valueViolation {σ : Type} {n : Node} {t : Treatment}
    {vs : List Json} {v : Visit} (h : n.valueViolation t (.values vs : Options σ) v = none) :
    ∃ o ∈ vs, o.sameOption v.current = true := by
  simp only [valueViolation] at h
  split at h
  · rename_i hany
    exact List.any_eq_true.mp hany
  · contradiction

namespace Schema

variable {s : Schema} {v : Visit} {vs : List Json} {w : Json}

/-- A conforming value of a node with literal options that is not `null` is what the children make
of one of the options. -/
theorem exists_option_of_run (hoptions : s.options = .values vs) (h : (s.run v).issues = [])
    (hvalue : (s.run v).value = some w) (hnull : w ≠ .null) :
    ∃ o ∈ vs, ∃ x, o.sameOption x = true ∧ s.kind.accepts x = true ∧
      (runChildren s.kind s.children (v.set x)).value = some w := by
  have hunconditional : s.options.isConditional = false := by
    rw [hoptions]
    rfl
  have houtcome := cleanOutcome_run hunconditional h
  generalize s.run v = u at houtcome hvalue
  cases houtcome with
  | absent undefined _ =>
      rw [undefined] at hvalue
      contradiction
  | null isNull _ =>
      rw [isNull] at hvalue
      exact (hnull (Option.some.inj hvalue).symm).elim
  | entered defined type value _ _ =>
      -- The options are compared with the value that the children are about to get.
      rw [hoptions] at value
      obtain ⟨o, ho, hsame⟩ := Node.exists_option_of_valueViolation value
      refine ⟨o, ho, _, hsame, type, ?_⟩
      rw [← Node.ready_eq_set defined]
      exact hvalue

/-- A value that conforms to a schema with literal options, and is not `null`, is what the children
of the root make of a value of its kind that is among the options.  It is among them itself when
the root is no object with properties and no array with a schema for its elements. -/
theorem exists_option_of_conforms (hoptions : s.options = .values vs) (input : Option Json)
    (h : (s.validate input).conforms = true) (hvalue : (s.validate input).value = some w)
    (hnull : w ≠ .null) :
    (∃ o ∈ vs, ∃ x, o.sameOption x = true ∧ s.kind.accepts x = true ∧
      (runChildren s.kind s.children ((Visit.start input).set x)).value = some w) ∧
      ((s.kind = .object → s.properties = []) → (s.kind = .array → s.element? = none) →
        ∃ o ∈ vs, o.sameOption w = true) := by
  obtain ⟨o, ho, x, hsame, haccepts, hchildren⟩ :=
    exists_option_of_run hoptions (conforms_iff.mp h) hvalue hnull
  refine ⟨⟨o, ho, x, hsame, haccepts, hchildren⟩, ?_⟩
  intro hobject harray
  rw [runChildren_of_childless hobject harray] at hchildren
  obtain rfl : x = w := Option.some.inj hchildren
  exact ⟨o, ho, hsame⟩

/-- One to three stars. -/
def stars : List Json :=
  [.ofInt 1, .ofInt 2, .ofInt 3]

def rating : Schema :=
  .mk { kind := .integer } Standard.table .none (.values stars)

theorem exists_option_of_rating :
    ∃ w, (rating.validate (some (.str "2"))).value = some w ∧
      ∃ o ∈ stars, o.sameOption w = true := by
  have hconforms : (rating.validate (some (.str "2"))).conforms = true := by decide +kernel
  have hvalue := value_run_of_defined (s := rating) (v := .start (some (.str "2"))) rfl
  have hnull : (rating.validate (some (.str "2"))).current ≠ .null :=
    Json.ne_null_of_typeName (by decide +kernel)
  have hoptions : rating.options = .values stars := rfl
  exact ⟨_, hvalue, (exists_option_of_conforms hoptions _ hconforms hvalue hnull).2 nofun nofun⟩

/-- A tally that is given as a text, in the only form that is listed. -/
def tally : Schema :=
  .mk { kind := .object } Standard.table
    (.properties [("count", .ofNode { kind := .integer } Standard.table)])
    (.values [.obj [("count", .str "1")]])

/-- The option of a tally conforms, but its count becomes a number afterwards: the value in the end
is no option and does not conform again. -/
theorem validate_tally_unlisted :
    let option : Json := .obj [("count", .str "1")]
    let result := tally.validate (some option)
    (do
      let s ← (Context.standard.objectOf [("count", (Context.standard.ofKind .integer).2)]).2
      s.edit (.enumValues [option])) = .ok tally ∧
      result.conforms = true ∧ result.value = some result.current ∧ result.current ≠ .null ∧
      (¬∃ o ∈ [option], o.sameOption result.current = true) ∧
      (tally.validate result.value).conforms = false := by
  intro option result
  have hvalue : result.value = some result.current :=
    value_run_of_defined (s := tally) (v := .start (some option)) rfl
  have hnull : result.current ≠ .null := Json.ne_null_of_typeName (by decide +kernel)
  have hunlisted : ([option].any fun o => o.sameOption result.current) = false := by
    decide +kernel
  have hagain : (tally.validate (some result.current)).conforms = false := by decide +kernel
  refine ⟨rfl, by decide +kernel, hvalue, hnull, ?_, hvalue ▸ hagain⟩
  rintro ⟨o, ho, hsame⟩
  exact Bool.false_ne_true (hunlisted ▸ List.any_eq_true.mpr ⟨o, ho, hsame⟩)

/-! ### Options as inputs -/

/-- The schema of a kind with literal options and no other setting. -/
def listed (k : Kind) (vs : List Json) : Schema :=
  .mk { kind := k } Standard.table .none (.values vs)

/-- The schema is the one that the standard context makes of the kind and the options. -/
theorem edit_enumValues (k : Kind) (vs : List Json) :
    (Context.standard.ofKind k).2.edit (.enumValues vs) = .ok (listed k vs) := by
  rw [edit]
  rfl

theorem closureFree_listed (k : Kind) (vs : List Json) :
    (listed k vs).ClosureFree Standard.table := by
  simp [listed, closureFree_iff, built_iff, Options.isConditional]

theorem admits_listed_iff {k : Kind} {y : Json} :
    (listed k vs).node.Admits (listed k vs).options y ↔
      k.accepts y = true ∧ ∃ o ∈ vs, o.sameOption y = true := by
  constructor
  · intro h
    exact ⟨h.type, h.options vs rfl⟩
  · rintro ⟨htype, hlisted⟩
    refine ⟨htype, ⟨?_, ?_⟩, ?_, ?_⟩
    · intro m b _ hb
      contradiction
    · intro m b _ hb
      contradiction
    · intro p text hp
      contradiction
    · intro vs' hvs'
      obtain rfl := Options.values.inj hvs'
      exact hlisted

/-- An input conforms when what the coercion of the kind makes of it has the type of the kind and
is among the options. -/
theorem conforms_listed_iff {k : Kind} {x y : Json}
    (hy : Coercion.applyAll (Standard.coercionOf k).toList x = y) (hnull : x ≠ .null) :
    ((listed k vs).validate (some x)).conforms = true ↔
      k.accepts y = true ∧ ∃ o ∈ vs, o.sameOption y = true := by
  have hfree := closureFree_listed k vs
  have hdefined : ((listed k vs).node.prepare (listed k vs).treatment (.start (some x))).value =
      some x := by
    rw [hfree.prepare_eq Standard.coercesBy]
    rfl
  have hcurrent :
      ((listed k vs).node.ready (listed k vs).treatment (.start (some x))).current = y := by
    have hready : (listed k vs).node.ready (listed k vs).treatment (.start (some x)) = _ :=
      ready_eq Standard.coercesBy hfree.table hfree.coerce hdefined
    rw [hready, current_set]
    exact hy
  rw [conforms_iff, ← admits_listed_iff, ← hcurrent]
  constructor
  · intro h
    have houtcome := cleanOutcome_run hfree.unconditional h
    generalize (listed k vs).run (.start (some x)) = u at houtcome
    cases houtcome with
    | absent undefined _ =>
        rw [hdefined] at undefined
        contradiction
    | null isNull _ =>
        rw [hdefined] at isNull
        exact (hnull (Option.some.inj isNull)).elim
    | entered _ type value _ _ => exact (hfree.valueViolation_eq_none_iff type).mp value
  · intro hadmits
    have hvalue := (hfree.valueViolation_eq_none_iff hadmits.type).mpr hadmits
    have henter := Node.enter_of_present (o := (listed k vs).options) hdefined fun _ => rfl
    rw [Node.checkType, if_pos hadmits.type, Progress.andThen, Node.checkValue, hvalue] at henter
    have hrefused (w : Visit) : (listed k vs).refusedNames w = [] := by
      unfold refusedNames
      split
      · rfl
      · rfl
    rw [validate, run_of_going henter, runOptions_of_not_conditional hfree.unconditional,
      runChildren_of_childless (fun _ => rfl) (fun _ => rfl), hrefused, issues_refuse_eq_nil_iff]
    exact ⟨Node.issues_ready _ _ _, rfl⟩

/-- An option of the right type conforms to the schema that lists it, whatever the kind, except
that a date conforms when its canonical text is a date and an option again. -/
theorem conforms_of_listed {k : Kind} {option : Json} (hlisted : option ∈ vs)
    (htype : k.accepts option = true) :
    ∃ s, (Context.standard.ofKind k).2.edit (.enumValues vs) = .ok s ∧
      (k ≠ .date → (s.validate (some option)).conforms = true) ∧
      (k = .date → ((s.validate (some option)).conforms = true ↔
        let canonical := (Coercion.toDate option).getD option
        k.accepts canonical = true ∧ ∃ o ∈ vs, o.sameOption canonical = true)) := by
  have hnull : option ≠ .null := by
    rintro rfl
    rw [k.accepts_null] at htype
    contradiction
  refine ⟨listed k vs, edit_enumValues k vs, ?_, ?_⟩
  · intro hdate
    have hsettled : Coercion.applyAll (Standard.coercionOf k).toList option = option := by
      apply Coercion.applyAll_of_declines
      intro f hf
      exact Standard.coercionOf_accepted (by simpa using hf) hdate htype
    rw [conforms_listed_iff hsettled hnull]
    exact ⟨htype, option, hlisted, Json.sameOption_refl option⟩
  · rintro rfl
    exact conforms_listed_iff rfl hnull

/-- The hours at which a shop opens and closes on a day, as canonical texts. -/
def hours : List Json :=
  [.str "2024-05-01T08:00:00.000Z", .str "2024-05-01T18:00:00.000Z"]

theorem conforms_of_listed_hours :
    ∃ s, (Context.standard.ofKind .date).2.edit (.enumValues hours) = .ok s ∧
      (s.validate (some (.str "2024-05-01T18:00:00.000Z"))).conforms = true := by
  have hlisted : Json.str "2024-05-01T18:00:00.000Z" ∈ hours := by simp [hours]
  obtain ⟨s, hmade, -, hdate⟩ := conforms_of_listed (k := .date) hlisted (by decide +kernel)
  refine ⟨s, hmade, (hdate rfl).mpr ⟨by decide +kernel, _, hlisted, by decide +kernel⟩⟩

/-- The only option of a date is refused where it is no canonical text: it is compared after it
was brought into canonical form, with the options as they were given. -/
theorem validate_noon_refused :
    let noon : Json := .str "2024-05-01T12:00:00Z"
    ∃ s, (Context.standard.ofKind .date).2.edit (.enumValues [noon]) = .ok s ∧
      Kind.date.accepts noon = true ∧ (s.validate (some noon)).conforms = false ∧
      (s.validate (some noon)).issues.map Issue.kind = [.enumMembershipViolation] := by
  intro noon
  refine ⟨listed .date [noon], edit_enumValues _ _, ?_, ?_, ?_⟩
  · decide +kernel
  · decide +kernel
  · decide +kernel

end Schema

end Conform
