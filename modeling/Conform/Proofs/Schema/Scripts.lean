import Conform.Context
import Conform.Proofs.Schema.Calls
import Conform.Proofs.Table.Registration

/-!
# Scripts

Extend hooks and the configuration steps of builders are scripts of building calls.  A script can
depend on all it sees of the schemas it works on, but it changes them by single calls only, so that
whatever single calls keep, scripts keep too.  Hooks may call hooks, even without end: what is said
of the schema in the end holds where there is one, and it is the same at every greater depth.
-/

namespace Conform

/-! ### The schemas that scripts mention -/

section Parts

variable {σ τ : Type}

/-- The schemas that a step mentions. -/
def Step.parts : Step σ → List σ
  | .edit e => e.parts
  | .extend _ _ => []

theorem Edit.parts_map (f : σ → τ) (e : Edit σ) : (e.map f).parts = e.parts.map f := by
  cases e with
  | properties ps => simp [Edit.map, Edit.parts]
  | _ => rfl

theorem Step.parts_map (f : σ → τ) (c : Step σ) : (c.map f).parts = c.parts.map f := by
  cases c with
  | edit e => exact e.parts_map f
  | extend name arg => rfl

/-- A script mentions a schema when it can come to speak of it, beside those it has had, whatever it
sees on the way. -/
inductive Script.Mentions (p : σ) : Script σ → Prop where
  | use {next : View → Script σ} : Mentions p (.use (.other p) next)
  | step {c : Step (Ref σ)} {next : View → Script σ} {failed : BuildError → Script σ}
      (mem : .other p ∈ c.parts) : Mentions p (.step c next failed)
  | afterUse {r : Ref σ} {next : View → Script σ} {x : View} (later : Mentions p (next x)) :
      Mentions p (.use r next)
  | afterStep {c : Step (Ref σ)} {next : View → Script σ} {failed : BuildError → Script σ}
      {x : View} (later : Mentions p (next x)) : Mentions p (.step c next failed)
  | afterFailure {c : Step (Ref σ)} {next : View → Script σ} {failed : BuildError → Script σ}
      {err : BuildError} (later : Mentions p (failed err)) : Mentions p (.step c next failed)

/-- Steps that are taken in order mention what one of them mentions. -/
theorem Script.exists_of_mentions_inOrder {p : σ} {cs : List (Step (Ref σ))}
    (h : (Script.inOrder cs).Mentions p) : ∃ c ∈ cs, .other p ∈ c.parts := by
  induction cs with
  | nil => contradiction
  | cons c rest ih =>
      cases h with
      | step mem => exact ⟨c, List.mem_cons_self, mem⟩
      | afterStep later =>
          obtain ⟨d, hd, mem⟩ := ih later
          exact ⟨d, List.mem_cons_of_mem c hd, mem⟩
      | afterFailure later => contradiction

end Parts

/-- A table brings a schema in when the script of one of its extend hooks or builders mentions
it. -/
inductive Table.Mentions (t : Table Schema) (p : Schema) : Prop where
  | hook {name : String} {hook : ExtendHook Schema} {x : View} {arg : Json}
      (found : t.extendHook name = .ok hook) (mentions : (hook.script x arg).Mentions p) :
      Mentions t p
  | builder {name : String} {b : Builder Schema} {configure : View → Script Schema} {x : View}
      (found : t.builder name = .ok b) (configures : b.configure = some configure)
      (mentions : (configure x).Mentions p) : Mentions t p

/-! ### What scripts answer -/

/-- A script keeps its answer where steps keep theirs. -/
theorem Script.run_of_forall {σ : Type} {view : σ → View}
    {take take' : σ → Step σ → Option (Except BuildError σ)}
    (htake : ∀ s c r, take s c = some r → take' s c = some r) {had : List σ} {s : σ}
    {script : Script σ} {r : Except BuildError σ} (h : script.run view take had s = some r) :
    script.run view take' had s = some r := by
  induction script generalizing had s with
  | done => exact h
  | fail err => exact h
  | use ref next ih => exact ih _ h
  | step c next failed ihnext ihfailed =>
      rw [run] at h ⊢
      split at h
      · rename_i u hu
        rw [htake s _ _ hu]
        exact ihnext (view u) h
      · rename_i err herr
        rw [htake s _ _ herr]
        exact ihfailed err h
      · contradiction

namespace Schema

variable {call call' : Schema → String → Json → Option (Except BuildError Schema)}
  {T : Table Schema → Prop} {I : Schema → Prop} {s s' : Schema} {depth depth' : Nat}

theorem perform_of_forall
    (hcall : ∀ s name arg r, call s name arg = some r → call' s name arg = some r)
    {script : Script Schema} {r : Except BuildError Schema}
    (h : perform call s script = some r) : perform call' s script = some r := by
  refine Script.run_of_forall ?_ h
  intro s c r hr
  cases c with
  | edit e => exact hr
  | extend name arg => exact hcall s name arg r hr

/-- The answer of an extend hook is the same at every greater depth. -/
theorem extend_of_le (hle : depth ≤ depth') {name : String} {arg : Json}
    {r : Except BuildError Schema} (h : s.extend depth name arg = some r) :
    s.extend depth' name arg = some r := by
  induction depth generalizing depth' s name arg r with
  | zero => contradiction
  | succ depth ih =>
      obtain ⟨larger, rfl⟩ : ∃ larger, depth' = larger + 1 := ⟨depth' - 1, by omega⟩
      rw [extend] at h ⊢
      split at h
      · exact perform_of_forall (fun s name arg r => ih (Nat.le_of_succ_le_succ hle)) h
      · exact h

/-- So is what a builder makes of a bare node. -/
theorem configured_of_le (hle : depth ≤ depth') {b : Builder Schema}
    (h : b.configured depth s = some s') : b.configured depth' s = some s' := by
  unfold Builder.configured at h ⊢
  split at h
  · exact h
  · obtain ⟨r, hr, h⟩ := Option.bind_eq_some_iff.mp h
    refine Option.bind_eq_some_iff.mpr ⟨r, ?_, h⟩
    exact perform_of_forall (fun s name arg r => extend_of_le hle) hr

/-! ### What scripts keep -/

/-- A property of schemas over some tables that single calls keep, and that all schemas have that
the tables bring in. -/
structure Kept (T : Table Schema → Prop) (I : Schema → Prop) : Prop where
  table : ∀ s, I s → T s.table
  call : ∀ {s s' : Schema} {e : Edit Schema}, I s → (∀ p ∈ e.parts, I p) → s.edit e = .ok s' → I s'
  mentioned : ∀ t, T t → ∀ p, t.Mentions p → I p

/-- A schema that a script speaks of has a property that all have which it has had or mentions. -/
theorem resolve_mem {had : List Schema} (hhad : ∀ p ∈ had, I p) (hs : I s) {r : Ref Schema}
    (hother : ∀ p, r = .other p → I p) : I (r.resolve had s) := by
  cases r with
  | other p => exact hother p rfl
  | had i =>
      rw [Ref.resolve, List.getD_eq_getElem?_getD]
      cases hi : had[i]? with
      | none => exact hs
      | some p => exact hhad p (List.mem_of_getElem? hi)

namespace Kept

/-- The schemas that a step of a script speaks of have a property that all have which the script has
had or mentions. -/
theorem parts_of_mentions {had : List Schema} {c : Step (Ref Schema)}
    (hhad : ∀ p ∈ had, I p) (hs : I s) (hc : ∀ p, .other p ∈ c.parts → I p) :
    ∀ p ∈ (c.map fun r => r.resolve had s).parts, I p := by
  intro p hp
  rw [Step.parts_map] at hp
  obtain ⟨r, hr, rfl⟩ := List.mem_map.mp hp
  refine resolve_mem hhad hs ?_
  rintro q rfl
  exact hc q hr

section

variable (hI : Kept T I) (hcall : ∀ s name arg s', I s → call s name arg = some (.ok s') → I s')
include hI hcall

/-- A step keeps what single calls keep, where the calls for hooks do. -/
theorem step {c : Step Schema} (hs : I s) (hparts : ∀ p ∈ c.parts, I p)
    (h : s.step call c = some (.ok s')) : I s' := by
  cases c with
  | edit e => exact hI.call hs hparts (Option.some.inj h)
  | extend name arg => exact hcall s name arg s' hs h

/-- So does a script, wherever it stands. -/
theorem run {had : List Schema} {script : Script Schema} (hhad : ∀ p ∈ had, I p) (hs : I s)
    (hmentions : ∀ p, script.Mentions p → I p)
    (h : script.run view (Schema.step call) had s = some (.ok s')) : I s' := by
  induction script generalizing had s with
  | done =>
      obtain ⟨⟩ := h
      exact hs
  | fail err => nomatch Option.some.inj h
  | use ref next ih =>
      refine ih _ hhad (resolve_mem hhad hs ?_) ?_ h
      · rintro p rfl
        exact hmentions p .use
      · exact fun p mentions => hmentions p (.afterUse mentions)
  | step c next failed ihnext ihfailed =>
      rw [Script.run] at h
      split at h
      · rename_i u hstep
        have hu : I u :=
          step hI hcall hs (parts_of_mentions hhad hs fun p hp => hmentions p (.step hp)) hstep
        refine ihnext u.view ?_ hu (fun p mentions => hmentions p (.afterStep mentions)) h
        intro p hp
        rcases List.mem_append.mp hp with hp | hp
        · exact hhad p hp
        · exact List.mem_singleton.mp hp ▸ hu
      · rename_i err _
        exact ihfailed err hhad hs (fun p mentions => hmentions p (.afterFailure mentions)) h
      · contradiction

theorem perform {script : Script Schema} (hs : I s) (hmentions : ∀ p, script.Mentions p → I p)
    (h : s.perform call script = some (.ok s')) : I s' :=
  hI.run hcall (List.forall_mem_singleton.mpr hs) hs hmentions h

end

/-- Extend hooks keep what single calls keep, however deep they call one another. -/
theorem extend (hI : Kept T I) {name : String} {arg : Json} (hs : I s)
    (h : s.extend depth name arg = some (.ok s')) : I s' := by
  induction depth generalizing s s' name arg with
  | zero => contradiction
  | succ depth ih =>
      rw [Schema.extend] at h
      split at h
      · rename_i hook found
        -- The calls for hooks inside the hook are those of the smaller depth.
        refine hI.perform (fun s name arg s' => ih) hs ?_ h
        intro p mentions
        exact hI.mentioned s.table (hI.table s hs) p (.hook found mentions)
      · nomatch Option.some.inj h

/-- The configuration steps of builders keep it too. -/
theorem configured (hI : Kept T I) {t : Table Schema} (ht : T t) {name : String}
    {b : Builder Schema} (found : t.builder name = .ok b) (hs : I s)
    (h : b.configured depth s = some s') : I s' := by
  unfold Builder.configured at h
  split at h
  · exact Option.some.inj h ▸ hs
  · rename_i configure configures
    obtain ⟨r, hr, h⟩ := Option.bind_eq_some_iff.mp h
    cases r with
    | error err => contradiction
    | ok u =>
        obtain rfl : u = s' := Option.some.inj h
        refine hI.perform (fun s name arg s' => hI.extend) hs ?_ hr
        exact fun p mentions => hI.mentioned t ht p (.builder found configures mentions)

theorem properties (hI : Kept T I) {ps : List (String × Schema)} (hs : I s)
    (hps : ∀ p ∈ ps, I p.2) (h : s.setProperties ps = .ok s') : I s' := by
  have hcall : s.edit (.properties ps) = .ok s' := h
  refine hI.call hs ?_ hcall
  intro p hp
  obtain ⟨q, hq, rfl⟩ := List.mem_map.mp hp
  exact hps q hq

theorem element (hI : Kept T I) {e : Schema} (kind : s.kind = .array) (hs : I s) (he : I e) :
    I (s.withChildren (.element e)) := by
  have hcall : s.edit (.element e) = .ok (s.withChildren (.element e)) := by
    rw [Schema.edit, setElement, kind]
  exact hI.call hs (by simpa [Edit.parts] using he) hcall

end Kept

end Schema

end Conform
