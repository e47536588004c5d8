import Conform.Context
import Conform.Proofs.Table.Registration

/-!
# The life of a context

A context takes registrations until a call looks at its capabilities, and none after that.  The
calls before that one alone say which table and which flags its schemas get, so that all schemas
of a context have the same.
-/

namespace Conform

/-- The schema of a bare node over a table, with the flags of some defaults. -/
def Defaults.bare (d : Defaults) (t : Table Schema) (kind : Kind) (format : Option String) :
    Schema :=
  .ofNode { kind, format, required := d.required, strict := d.strict, nullable := d.nullable } t

namespace Context

/-- A call on a context. -/
inductive Call where
  | useExtension (e : Extension Schema)
  | useDefaults (d : Defaults)
  | useConfig (config : Config)
  | state
  | defaults
  | capabilities
  | build (name : String) (depth : Nat)
  | ofKind (kind : Kind)
  | objectOf (ps : List (String × Schema))
  | objectOfElement (e : Schema)
  | arrayOf (e : Schema)

/-- What a call answers, if anything. -/
inductive Answer where
  | silence
  | done
  | refused (err : BuildError)
  | state (s : ContextState)
  | defaults (d : Defaults)
  | table (t : Table Schema)
  | schema (s : Schema)

namespace Answer

def ofExcept : Except BuildError Schema → Answer
  | .ok s => .schema s
  | .error err => .refused err

@[simp] theorem ofExcept_eq_schema_iff {r : Except BuildError Schema} {s : Schema} :
    ofExcept r = .schema s ↔ r = .ok s := by
  cases r <;> simp [ofExcept]

theorem ofExcept_ne_table (r : Except BuildError Schema) (t : Table Schema) :
    ofExcept r ≠ .table t := by
  cases r <;> simp [ofExcept]

/-- The answer of a call that may not end. -/
def ofOption : Option (Except BuildError Schema) → Answer
  | some r => ofExcept r
  | none => .silence

@[simp] theorem ofOption_eq_schema_iff {r : Option (Except BuildError Schema)} {s : Schema} :
    ofOption r = .schema s ↔ r = some (.ok s) := by
  cases r <;> simp [ofOption]

theorem ofOption_ne_table (r : Option (Except BuildError Schema)) (t : Table Schema) :
    ofOption r ≠ .table t := by
  cases r with
  | none => simp [ofOption]
  | some r => exact ofExcept_ne_table r t

end Answer

namespace Call

/-- Whether a call looks at the capabilities. -/
def freezes : Call → Bool
  | .capabilities | .build .. | .ofKind _ | .objectOf _ | .objectOfElement _ | .arrayOf _ => true
  | _ => false

/-- Whether a call registers something. -/
def registers : Call → Bool
  | .useExtension _ | .useDefaults _ | .useConfig _ => true
  | _ => false

/-- The extension that a call offers. -/
def extension? : Call → Option (Extension Schema)
  | .useExtension e => some e
  | _ => none

/-- The flags that a call sets. -/
def defaults? : Call → Option Defaults
  | .useDefaults d => some d
  | .useConfig config => some config.defaults
  | _ => none

/-- The schemas that calls answer over a table and with the flags of some defaults.  All of them
are made from a bare one. -/
inductive Makes (t : Table Schema) (d : Defaults) : Call → Schema → Prop where
  | ofKind (kind : Kind) : Makes t d (.ofKind kind) (d.bare t kind none)
  | build {name : String} {depth : Nat} {b : Builder Schema} {s : Schema}
      (found : t.builder name = .ok b)
      (made : b.configured depth (d.bare t b.kind b.format) = some s) :
      Makes t d (.build name depth) s
  | objectOf {ps : List (String × Schema)} {s : Schema}
      (made : (d.bare t .object none).setProperties ps = .ok s) : Makes t d (.objectOf ps) s
  | arrayOf (e : Schema) :
      Makes t d (.arrayOf e) ((d.bare t .array none).withChildren (.element e))

theorem Makes.freezes {t : Table Schema} {d : Defaults} {call : Call} {s : Schema}
    (h : call.Makes t d s) : call.freezes = true := by
  cases h <;> rfl

end Call

/-- The context after a registration, which stays as it was when the registration is refused. -/
def settle (c : Context) : Except BuildError Context → Context × Answer
  | .ok c' => (c', .done)
  | .error err => (c, .refused err)

/-- The context after a call, and the answer of the call. -/
def step (c : Context) : Call → Context × Answer
  | .useExtension e => c.settle (c.useExtension e)
  | .useDefaults d => c.settle (c.useDefaults d)
  | .useConfig config => c.settle (c.useConfig config)
  | .state => (c, .state c.state)
  | .defaults => (c, .defaults c.defaults)
  | .capabilities => (c.capabilities.1, .table c.capabilities.2)
  | .build name depth => ((c.build name depth).1, .ofOption (c.build name depth).2)
  | .ofKind kind => ((c.ofKind kind).1, .schema (c.ofKind kind).2)
  | .objectOf ps => ((c.objectOf ps).1, .ofExcept (c.objectOf ps).2)
  | .objectOfElement e => ((c.objectOfElement e).1, .ofExcept (c.objectOfElement e).2)
  | .arrayOf e => ((c.arrayOf e).1, .schema (c.arrayOf e).2)

/-- The context after a sequence of calls. -/
def after (c : Context) (calls : List Call) : Context :=
  calls.foldl (fun c call => (c.step call).1) c

/-- A builder that is not known freezes the context like any other. -/
example : (empty.after [.useDefaults { strict := true }, .build "none" 1]).state = .frozen := rfl

/-- The calls before the first look at the capabilities. -/
def opening (calls : List Call) : List Call :=
  calls.takeWhile fun call => !call.freezes

/-- The extensions of a context that began with some of them: those, and the ones accepted before
the first look at the capabilities. -/
def extensionsBy (es : List (Extension Schema)) (calls : List Call) : List (Extension Schema) :=
  ((opening calls).filterMap Call.extension?).foldl Extension.acceptNext es

/-- The flags that were set last before the first look at the capabilities. -/
def defaultsBy (calls : List Call) : Defaults :=
  ((opening calls).filterMap Call.defaults?).getLastD {}

/-! ### One call -/

variable {c : Context} {call : Call}

theorem state_eq_frozen_iff : c.state = .frozen ↔ c.frozen.isSome := by
  unfold state
  split
  · simp [*]
  · simp [*]

theorem frozen_eq_none_of_registering (h : c.state = .registering) : c.frozen = none := by
  rw [← Option.not_isSome_iff_eq_none, ← state_eq_frozen_iff, h]
  simp

/-- A call that looks at the capabilities does nothing else to the context. -/
theorem step_of_freezes (h : call.freezes = true) : (c.step call).1 = c.capabilities.1 := by
  cases call with
  | capabilities => rfl
  | ofKind kind => rfl
  | objectOf ps => rfl
  | objectOfElement e => rfl
  | arrayOf e => rfl
  | build name depth =>
      simp only [step, build]
      split <;> rfl
  | useExtension e => contradiction
  | useDefaults d => contradiction
  | useConfig config => contradiction
  | state => contradiction
  | defaults => contradiction

/-- A frozen context refuses to register. -/
theorem step_of_registers (hfrozen : c.frozen.isSome) (h : call.registers = true) :
    c.step call = (c, .refused .contextFrozen) := by
  have hstate : c.state = .frozen := state_eq_frozen_iff.mpr hfrozen
  cases call with
  | useExtension e => simp [step, useExtension, hstate, settle]
  | useDefaults d => simp [step, useDefaults, hstate, settle]
  | useConfig config => simp [step, useConfig, useDefaults, hstate, settle]
  | _ => contradiction

/-- No call changes a frozen context. -/
theorem step_of_frozen (hfrozen : c.frozen.isSome) (call : Call) : (c.step call).1 = c := by
  have hcapabilities : c.capabilities.1 = c := by
    obtain ⟨t, ht⟩ := Option.isSome_iff_exists.mp hfrozen
    simp [capabilities, ht]
  cases hfreezes : call.freezes with
  | true => rw [step_of_freezes hfreezes, hcapabilities]
  | false =>
      cases hregisters : call.registers with
      | true => rw [step_of_registers hfrozen hregisters]
      | false => cases call <;> first | rfl | contradiction

/-- A context that still registers offers an extension to its table. -/
theorem useExtension_of_open (hopen : c.frozen = none) (e : Extension Schema) :
    c.useExtension e = (c.pending.register e).map fun t => { c with pending := t } := by
  simp only [useExtension, state, hopen, Option.isSome_none, Bool.false_eq_true, ↓reduceIte]
  cases c.pending.register e <;> rfl

theorem step_useExtension (hopen : c.frozen = none) (e : Extension Schema) :
    (c.step (.useExtension e)).1 = { c with pending := c.pending.attempt e } := by
  rw [step, useExtension_of_open hopen, Table.attempt]
  cases c.pending.register e <;> rfl

theorem step_useDefaults (hopen : c.frozen = none) (d : Defaults) :
    (c.step (.useDefaults d)).1 = { c with defaults := d } := by
  simp [step, useDefaults, state, hopen, settle]

theorem step_useConfig (hopen : c.frozen = none) (config : Config) :
    (c.step (.useConfig config)).1 = { c with defaults := config.defaults } := by
  simp [step, useConfig, useDefaults, state, hopen, settle]

theorem settle_eq_done_iff {r : Except BuildError Context} :
    (c.settle r).2 = .done ↔ ∃ c', r = .ok c' := by
  cases r <;> simp [settle]

theorem settle_eq_refused_iff {r : Except BuildError Context} {err : BuildError} :
    (c.settle r).2 = .refused err ↔ r = .error err := by
  cases r <;> simp [settle]

/-- A registration that is refused leaves the context as it was. -/
theorem step_of_refused {err : BuildError} (hregisters : call.registers = true)
    (h : (c.step call).2 = .refused err) : (c.step call).1 = c := by
  have hsettle {r : Except BuildError Context} (hr : (c.settle r).2 = .refused err) :
      (c.settle r).1 = c := by
    rw [settle_eq_refused_iff.mp hr, settle]
  cases call with
  | useExtension e => exact hsettle h
  | useDefaults d => exact hsettle h
  | useConfig config => exact hsettle h
  | _ => contradiction

/-- A table is only shown by looking at the capabilities. -/
theorem eq_of_step_table {t : Table Schema} (h : (c.step call).2 = .table t) :
    call.freezes = true ∧ t = c.capabilities.2 := by
  have hsettle (r : Except BuildError Context) : (c.settle r).2 ≠ .table t := by
    cases r <;> simp [settle]
  cases call with
  | capabilities => exact ⟨rfl, (Answer.table.inj h).symm⟩
  | useExtension e => exact (hsettle _ h).elim
  | useDefaults d => exact (hsettle _ h).elim
  | useConfig config => exact (hsettle _ h).elim
  | build name depth => exact (Answer.ofOption_ne_table _ t h).elim
  | objectOf ps => exact (Answer.ofExcept_ne_table _ t h).elim
  | _ => contradiction

theorem defaults_capabilities (c : Context) : c.capabilities.1.defaults = c.defaults := by
  unfold capabilities
  split <;> rfl

theorem ofKind_eq_bare (c : Context) (kind : Kind) :
    (c.ofKind kind).2 = c.defaults.bare c.capabilities.2 kind none := by
  rw [← defaults_capabilities]
  rfl

theorem build_eq_ok_iff {name : String} {depth : Nat} {s : Schema} :
    (c.build name depth).2 = some (.ok s) ↔
      ∃ b, c.capabilities.2.builder name = .ok b ∧
        b.configured depth (c.defaults.bare c.capabilities.2 b.kind b.format) = some s := by
  rw [← defaults_capabilities]
  simp only [build]
  cases c.capabilities.2.builder name with
  | error err => simp
  | ok b => simp [Defaults.bare, seeded]

/-- The schemas that a call answers are made over the capabilities of the context. -/
theorem step_schema_iff {s : Schema} :
    (c.step call).2 = .schema s ↔ call.Makes c.capabilities.2 c.defaults s := by
  have hsettle (r : Except BuildError Context) : (c.settle r).2 ≠ .schema s := by
    cases r <;> simp [settle]
  constructor
  · intro h
    cases call with
    | ofKind kind =>
        obtain rfl := Answer.schema.inj h
        rw [ofKind_eq_bare]
        exact .ofKind kind
    | arrayOf e =>
        obtain rfl := Answer.schema.inj h
        change Call.Makes _ _ _ ((c.ofKind .array).2.withChildren (.element e))
        rw [ofKind_eq_bare]
        exact .arrayOf e
    | objectOf ps =>
        have hmade : (c.ofKind .object).2.setProperties ps = .ok s :=
          Answer.ofExcept_eq_schema_iff.mp h
        rw [ofKind_eq_bare] at hmade
        exact .objectOf hmade
    | build name depth =>
        obtain ⟨b, found, made⟩ := build_eq_ok_iff.mp (Answer.ofOption_eq_schema_iff.mp h)
        exact .build found made
    | useExtension e => exact (hsettle _ h).elim
    | useDefaults d => exact (hsettle _ h).elim
    | useConfig config => exact (hsettle _ h).elim
    | _ => contradiction
  · intro h
    cases h with
    | ofKind kind => exact congrArg Answer.schema (ofKind_eq_bare c kind)
    | arrayOf e =>
        change Answer.schema ((c.ofKind .array).2.withChildren (.element e)) = _
        rw [ofKind_eq_bare]
    | objectOf made =>
        refine Answer.ofExcept_eq_schema_iff.mpr ?_
        change (c.ofKind .object).2.setProperties _ = _
        rwa [ofKind_eq_bare]
    | build found made =>
        exact Answer.ofOption_eq_schema_iff.mpr (build_eq_ok_iff.mpr ⟨_, found, made⟩)

/-! ### Sequences of calls -/

variable {es : List (Extension Schema)} {calls : List Call}

/-- A context that a sequence of calls leads to: what it holds is what the calls before the first
look at the capabilities say. -/
structure Stands (es : List (Extension Schema)) (calls : List Call) (c : Context) : Prop where
  pending : c.pending = Table.fold (extensionsBy es calls)
  frozen : c.frozen = if calls.any Call.freezes then some c.pending else none
  defaults : c.defaults = defaultsBy calls

/-- What comes after the first look at the capabilities is no part of the opening. -/
theorem opening_append_of_frozen (h : calls.any Call.freezes = true) (more : List Call) :
    opening (calls ++ more) = opening calls := by
  induction calls with
  | nil => contradiction
  | cons call rest ih =>
      cases hcall : call.freezes with
      | true => simp [opening, hcall]
      | false =>
          have hrest : rest.any Call.freezes = true := by simpa [hcall] using h
          simpa [opening, hcall] using ih hrest

/-- Calls none of which looks at the capabilities are all part of the opening. -/
theorem opening_append_of_open (h : calls.any Call.freezes = false) (more : List Call) :
    opening (calls ++ more) = calls ++ opening more := by
  refine List.takeWhile_append_of_pos ?_
  intro call hcall
  simpa using List.any_eq_false.mp h call hcall

theorem opening_of_open (h : calls.any Call.freezes = false) : opening calls = calls := by
  simpa [opening] using opening_append_of_open h []

/-- The opening ends where a call looks at the capabilities. -/
theorem opening_append_of_freezes (hcall : call.freezes = true) (calls later : List Call) :
    opening (calls ++ call :: later) = opening calls := by
  cases hany : calls.any Call.freezes with
  | true => exact opening_append_of_frozen hany (call :: later)
  | false =>
      have hcons : opening (call :: later) = [] := by simp [opening, hcall]
      rw [opening_append_of_open hany, opening_of_open hany, hcons, List.append_nil]

theorem opening_concat (h : calls.any Call.freezes = false) (hcall : call.freezes = false) :
    opening (calls ++ [call]) = opening calls ++ [call] := by
  have hcons : opening [call] = [call] := by simp [opening, hcall]
  rw [opening_append_of_open h, opening_of_open h, hcons]

theorem extensionsBy_concat (h : calls.any Call.freezes = false) (hcall : call.freezes = false) :
    extensionsBy es (calls ++ [call]) =
      call.extension?.toList.foldl Extension.acceptNext (extensionsBy es calls) := by
  rw [extensionsBy, opening_concat h hcall, List.filterMap_append, List.foldl_append,
    ← extensionsBy]
  cases hextension : call.extension? <;> simp [hextension]

theorem defaultsBy_concat (h : calls.any Call.freezes = false) (hcall : call.freezes = false) :
    defaultsBy (calls ++ [call]) = call.defaults?.getD (defaultsBy calls) := by
  rw [defaultsBy, opening_concat h hcall, List.filterMap_append]
  cases hdefaults : call.defaults? <;> simp [hdefaults, defaultsBy]

namespace Stands

/-- Where the opening does not go on, neither the table nor the flags change. -/
theorem of_opening_eq {more : List Call} (h : Stands es calls c)
    (hopening : opening (calls ++ more) = opening calls)
    (hany : (calls ++ more).any Call.freezes = true) :
    Stands es (calls ++ more) { c with frozen := some c.pending } where
  pending := by rw [h.pending, extensionsBy, extensionsBy, hopening]
  frozen := by rw [if_pos hany]
  defaults := by rw [h.defaults, defaultsBy, defaultsBy, hopening]

/-- A call that does not look at the capabilities is part of the opening until one does. -/
theorem step_of_open (h : Stands es calls c) (hany : calls.any Call.freezes = false)
    (hcall : call.freezes = false) : Stands es (calls ++ [call]) (c.step call).1 := by
  have hfrozen : c.frozen = none := by rw [h.frozen, hany, if_neg Bool.false_ne_true]
  have hextensions : extensionsBy es (calls ++ [call]) =
      call.extension?.toList.foldl Extension.acceptNext (extensionsBy es calls) :=
    extensionsBy_concat hany hcall
  have hdefaults := defaultsBy_concat hany hcall
  have hopen : (calls ++ [call]).any Call.freezes = false := by simp [hany, hcall]
  have hnone {p : Table Schema} :
      c.frozen = if (calls ++ [call]).any Call.freezes then some p else none := by
    rw [hfrozen, hopen, if_neg Bool.false_ne_true]
  cases call with
  | useExtension e =>
      rw [step_useExtension hfrozen]
      refine ⟨?_, hnone, hdefaults ▸ h.defaults⟩
      change c.pending.attempt e = _
      rw [hextensions, h.pending, Table.attempt_fold]
      rfl
  | useDefaults d =>
      rw [step_useDefaults hfrozen]
      exact ⟨hextensions ▸ h.pending, hnone, hdefaults.symm⟩
  | useConfig config =>
      rw [step_useConfig hfrozen]
      exact ⟨hextensions ▸ h.pending, hnone, hdefaults.symm⟩
  | state => exact ⟨hextensions ▸ h.pending, hnone, hdefaults ▸ h.defaults⟩
  | defaults => exact ⟨hextensions ▸ h.pending, hnone, hdefaults ▸ h.defaults⟩
  | _ => contradiction

theorem step (h : Stands es calls c) (call : Call) :
    Stands es (calls ++ [call]) (c.step call).1 := by
  have hfrozen := h.frozen
  cases hany : calls.any Call.freezes with
  | true =>
      -- Nothing changes any more.
      rw [hany, if_pos rfl] at hfrozen
      rw [step_of_frozen (by simp [hfrozen])]
      have hsame : c = { c with frozen := some c.pending } := by rw [← hfrozen]
      rw [hsame]
      exact h.of_opening_eq (opening_append_of_frozen hany [call]) (by simp [hany])
  | false =>
      cases hcall : call.freezes with
      | true =>
          rw [hany, if_neg Bool.false_ne_true] at hfrozen
          have hcapabilities : c.capabilities.1 = { c with frozen := some c.pending } := by
            simp [capabilities, hfrozen]
          rw [step_of_freezes hcall, hcapabilities]
          exact h.of_opening_eq (opening_append_of_freezes hcall calls []) (by simp [hcall])
      | false => exact h.step_of_open hany hcall

theorem isSome_frozen (h : Stands es calls c) : c.frozen.isSome = calls.any Call.freezes := by
  rw [h.frozen]
  cases calls.any Call.freezes <;> rfl

/-- An extension is accepted when it fits after those accepted before. -/
theorem step_useExtension_done_iff (h : Stands es calls c) (hstate : c.state = .registering)
    {e : Extension Schema} :
    (c.step (.useExtension e)).2 = .done ↔ e.Fits (extensionsBy es calls) := by
  have hopen := frozen_eq_none_of_registering hstate
  rw [Context.step, settle_eq_done_iff, useExtension_of_open hopen, h.pending]
  constructor
  · rintro ⟨c', hc'⟩
    cases hregister : (Table.fold (extensionsBy es calls)).register e with
    | ok t => exact (Table.register_eq_ok_iff.mp hregister).1
    | error err => simp [hregister, Except.map] at hc'
  · intro hfits
    rw [Table.register_eq_ok_iff.mpr ⟨hfits, rfl⟩]
    exact ⟨_, rfl⟩

theorem step_useExtension_refused_iff (h : Stands es calls c) (hstate : c.state = .registering)
    {e : Extension Schema} {err : BuildError} :
    (c.step (.useExtension e)).2 = .refused err ↔ e.FirstOffence (extensionsBy es calls) err := by
  have hopen := frozen_eq_none_of_registering hstate
  rw [Context.step, settle_eq_refused_iff, useExtension_of_open hopen, h.pending,
    ← Table.register_eq_error_iff]
  cases (Table.fold (extensionsBy es calls)).register e <;> simp [Except.map]

/-- The capabilities are those of the extensions accepted before the first look at them. -/
theorem capabilities_eq (h : Stands es calls c) :
    c.capabilities.2 = Table.fold (extensionsBy es calls) := by
  rw [← h.pending, capabilities, h.frozen]
  cases calls.any Call.freezes <;> rfl

end Stands

theorem after_concat (c : Context) (calls : List Call) (call : Call) :
    c.after (calls ++ [call]) = ((c.after calls).step call).1 := by
  simp [after]

/-- Every sequence of calls leads to the context that its opening describes. -/
theorem stands_after (es : List (Extension Schema)) (calls : List Call) :
    Stands es calls ((ofExtensions es).after calls) := by
  induction calls using List.reverseRecOn with
  | nil => exact ⟨rfl, rfl, rfl⟩
  | append_singleton calls call ih =>
      rw [after_concat]
      exact ih.step call

/-- How a context answers a call.  It began with the extensions `es`, `before` are the calls so far
and `calls` are all there will be: whatever is registered before the first look at the capabilities
decides on the table and the flags of every schema, at any time. -/
structure Conducts (es : List (Extension Schema)) (before calls : List Call) (c : Context)
    (call : Call) : Prop where
  state : c.state = .frozen ↔ ∃ b ∈ before, b.freezes
  sealed : c.state = .frozen → call.registers → c.step call = (c, .refused .contextFrozen)
  unchanged : c.state = .frozen → (c.step call).1 = c
  oneTable : ∀ t, c.frozen = some t → t = c.pending
  accepted : c.state = .registering → ∀ e, call = .useExtension e →
    ((c.step call).2 = .done ↔ e.Fits (extensionsBy es before))
  offence : c.state = .registering → ∀ e err, call = .useExtension e →
    ((c.step call).2 = .refused err ↔ e.FirstOffence (extensionsBy es before) err)
  refused : call.registers → ∀ err, (c.step call).2 = .refused err → (c.step call).1 = c
  flags : c.defaults = defaultsBy before
  table : ∀ t, (c.step call).2 = .table t → t = Table.fold (extensionsBy es calls)
  schema : ∀ s, (c.step call).2 = .schema s ↔
    call.Makes (Table.fold (extensionsBy es calls)) (defaultsBy calls) s

/-- Once a call has looked at the capabilities, a context registers nothing any more, and all its
schemas, those before and after, have one table and the same flags: the table of the extensions that
were accepted before that call, and the flags that were set last. -/
theorem conducts_after (es : List (Extension Schema)) (before : List Call) (call : Call)
    (later : List Call) :
    Conducts es before (before ++ call :: later) ((ofExtensions es).after before) call := by
  have hstands := stands_after es before
  generalize (ofExtensions es).after before = c at hstands
  have hfrozen (h : c.state = .frozen) : c.frozen.isSome := state_eq_frozen_iff.mp h
  -- For the calls that do not look at the capabilities there is nothing to show.
  have hlater (h : call.freezes = true) : opening (before ++ call :: later) = opening before :=
    opening_append_of_freezes h before later
  refine {
    state := ?state, sealed := ?sealed, unchanged := ?unchanged, oneTable := ?oneTable
    accepted := ?accepted, offence := ?offence, refused := ?refused, flags := hstands.defaults
    table := ?table, schema := ?schema }
  case state => rw [state_eq_frozen_iff, hstands.isSome_frozen, List.any_eq_true]
  case sealed => exact fun h hregisters => step_of_registers (hfrozen h) hregisters
  case unchanged => exact fun h => step_of_frozen (hfrozen h) call
  case oneTable =>
    intro t ht
    rw [hstands.frozen] at ht
    split at ht
    · exact (Option.some.inj ht).symm
    · contradiction
  case accepted =>
    rintro h e rfl
    exact hstands.step_useExtension_done_iff h
  case offence =>
    rintro h e err rfl
    exact hstands.step_useExtension_refused_iff h
  case refused => exact fun hregisters err => step_of_refused hregisters
  case table =>
    intro t ht
    obtain ⟨hcall, rfl⟩ := eq_of_step_table ht
    rw [hstands.capabilities_eq, extensionsBy, extensionsBy, hlater hcall]
  case schema =>
    intro s
    rw [step_schema_iff, hstands.capabilities_eq, hstands.defaults]
    constructor
    · intro hmakes
      rwa [extensionsBy, defaultsBy, hlater hmakes.freezes]
    · intro hmakes
      rwa [extensionsBy, defaultsBy, hlater hmakes.freezes] at hmakes

end Context

end Conform
