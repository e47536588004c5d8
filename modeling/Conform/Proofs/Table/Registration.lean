import Conform.Proofs.Fields
import Conform.Table.Basic
import Mathlib.Data.List.Induction
import Mathlib.Tactic.MkIffOfInductiveProp

/-!
# Registration

Extensions are registered one after the other, and each is accepted or refused as a whole.  The
table is then the fold of the accepted ones: what it answers can be read off their list.  What an
extension needs to be accepted, and its first offence if it is refused, are stated here about the
extensions before it, without a table.
-/

namespace Conform

/-! ### What an extension needs -/

namespace Extension

variable {σ : Type}

/-- A format is declared for a kind by the extension, anywhere in it, or by one before it. -/
def Declares (e : Extension σ) (before : List (Extension σ)) (kind : Kind) (format : String) :
    Prop :=
  (kind, format) ∈ e.formats ∨ ∃ a ∈ before, (kind, format) ∈ a.formats

/-- Some extension has a builder of this name. -/
def Taken (before : List (Extension σ)) (name : String) : Prop :=
  ∃ a ∈ before, name ∈ a.builders.map Prod.fst

/-- Builders of an extension that can be added: their names are new, and their formats are
declared. -/
@[mk_iff]
structure BuildersFit (e : Extension σ) (before : List (Extension σ))
    (bs : List (String × Builder σ)) : Prop where
  distinct : (bs.map Prod.fst).Nodup
  free : ∀ b ∈ bs, ¬Taken before b.1
  declared : ∀ b ∈ bs, ∀ f ∈ b.2.format, e.Declares before b.2.kind f

/-- Handlers of an extension that can be added: their formats are declared. -/
def HandlersFit (e : Extension σ) (before : List (Extension σ)) (hs : List HandlerEntry) : Prop :=
  ∀ h ∈ hs, ∀ f ∈ h.format, e.Declares before h.kind f

/-- An extension that can be added after others. -/
@[mk_iff]
structure Fits (e : Extension σ) (before : List (Extension σ)) : Prop where
  builders : e.BuildersFit before e.builders
  handlers : e.HandlersFit before e.handlers

/-- The first offence of an extension after others.  Builders come before handlers, both in their
order, and for one builder the conflict of its name before its format. -/
inductive FirstOffence (e : Extension σ) (before : List (Extension σ)) : BuildError → Prop where
  | conflict {earlier later : List (String × Builder σ)} {b : String × Builder σ}
      (builders : e.builders = earlier ++ b :: later) (fit : e.BuildersFit before earlier)
      (taken : Taken before b.1 ∨ b.1 ∈ earlier.map Prod.fst) :
      FirstOffence e before (.builderConflict b.1 e.name)
  | builderFormat {earlier later : List (String × Builder σ)} {b : String × Builder σ}
      {format : String} (builders : e.builders = earlier ++ b :: later)
      (fit : e.BuildersFit before earlier) (free : ¬Taken before b.1)
      (fresh : b.1 ∉ earlier.map Prod.fst) (named : b.2.format = some format)
      (undeclared : ¬e.Declares before b.2.kind format) :
      FirstOffence e before (.unknownFormat b.2.kind format)
  | handlerFormat {earlier later : List HandlerEntry} {h : HandlerEntry} {format : String}
      (builders : e.BuildersFit before e.builders) (handlers : e.handlers = earlier ++ h :: later)
      (fit : e.HandlersFit before earlier) (named : h.format = some format)
      (undeclared : ¬e.Declares before h.kind format) :
      FirstOffence e before (.unknownFormat h.kind format)

section

variable (e : Extension σ) (before : List (Extension σ))

instance (kind : Kind) (format : String) : Decidable (e.Declares before kind format) :=
  inferInstanceAs (Decidable (_ ∨ _))

instance (name : String) : Decidable (Taken before name) :=
  inferInstanceAs (Decidable (∃ a ∈ before, _))

instance (bs : List (String × Builder σ)) : Decidable (e.BuildersFit before bs) :=
  decidable_of_iff _ (buildersFit_iff e before bs).symm

instance (hs : List HandlerEntry) : Decidable (e.HandlersFit before hs) :=
  inferInstanceAs (Decidable (∀ h ∈ hs, _))

instance : Decidable (e.Fits before) :=
  decidable_of_iff _ (fits_iff e before).symm

end

theorem BuildersFit.tail {e : Extension σ} {before : List (Extension σ)} {b : String × Builder σ}
    {bs : List (String × Builder σ)} (h : e.BuildersFit before (b :: bs)) :
    e.BuildersFit before bs where
  distinct := (List.nodup_cons.mp h.distinct).2
  free := fun c hc => h.free c (List.mem_cons_of_mem b hc)
  declared := fun c hc => h.declared c (List.mem_cons_of_mem b hc)

/-- Builders that fit, and one more. -/
theorem BuildersFit.concat {e : Extension σ} {before : List (Extension σ)}
    {bs : List (String × Builder σ)} {b : String × Builder σ} (h : e.BuildersFit before bs)
    (free : ¬Taken before b.1) (fresh : b.1 ∉ bs.map Prod.fst)
    (declared : ∀ f ∈ b.2.format, e.Declares before b.2.kind f) :
    e.BuildersFit before (bs ++ [b]) where
  distinct := by
    rw [List.map_append, List.map_singleton, ← List.concat_eq_append]
    exact h.distinct.concat fresh
  free := List.forall_mem_append.mpr ⟨h.free, by simpa using free⟩
  declared := List.forall_mem_append.mpr ⟨h.declared, by simpa using declared⟩

/-- After builders that fit, the rest fits too, or there is a first offence. -/
theorem buildersFit_or_offence {e : Extension σ} {before : List (Extension σ)}
    {earlier later : List (String × Builder σ)} (h : e.builders = earlier ++ later)
    (fit : e.BuildersFit before earlier) :
    e.BuildersFit before e.builders ∨ ∃ err, e.FirstOffence before err := by
  -- The builders that fit grow from the left until one offends.
  induction later generalizing earlier with
  | nil => exact .inl (by simpa [h] using fit)
  | cons b later ih =>
      by_cases taken : Taken before b.1 ∨ b.1 ∈ earlier.map Prod.fst
      · exact .inr ⟨_, .conflict h fit taken⟩
      · obtain ⟨free, fresh⟩ := not_or.mp taken
        by_cases declared : ∀ f ∈ b.2.format, e.Declares before b.2.kind f
        · exact ih (by simpa using h) (fit.concat free fresh declared)
        · push Not at declared
          obtain ⟨format, named, undeclared⟩ := declared
          exact .inr ⟨_, .builderFormat h fit free fresh named undeclared⟩

/-- After handlers that fit, the extension fits, or there is a first offence. -/
theorem handlersFit_or_offence {e : Extension σ} {before : List (Extension σ)}
    {earlier later : List HandlerEntry} (builders : e.BuildersFit before e.builders)
    (h : e.handlers = earlier ++ later) (fit : e.HandlersFit before earlier) :
    e.Fits before ∨ ∃ err, e.FirstOffence before err := by
  induction later generalizing earlier with
  | nil => exact .inl ⟨builders, by simpa [h] using fit⟩
  | cons g later ih =>
      by_cases declared : ∀ f ∈ g.format, e.Declares before g.kind f
      · have fit' : e.HandlersFit before (earlier ++ [g]) :=
          List.forall_mem_append.mpr ⟨fit, by simpa using declared⟩
        exact ih (by simpa using h) fit'
      · push Not at declared
        obtain ⟨format, named, undeclared⟩ := declared
        exact .inr ⟨_, .handlerFormat builders h fit named undeclared⟩

/-- An extension fits or has a first offence. -/
theorem fits_or_offence (e : Extension σ) (before : List (Extension σ)) :
    e.Fits before ∨ ∃ err, e.FirstOffence before err := by
  have hstart : e.BuildersFit before [] := ⟨List.nodup_nil, nofun, nofun⟩
  rcases buildersFit_or_offence (List.nil_append e.builders).symm hstart with builders | hoffence
  · have hhandlers : e.HandlersFit before [] := nofun
    exact handlersFit_or_offence builders (List.nil_append e.handlers).symm hhandlers
  · exact .inr hoffence

/-- The extensions after a call: it is accepted when it fits, and else ignored. -/
def acceptNext (before : List (Extension σ)) (e : Extension σ) : List (Extension σ) :=
  if e.Fits before then before ++ [e] else before

/-- The accepted ones of a sequence of calls. -/
def accepted (calls : List (Extension σ)) : List (Extension σ) :=
  calls.foldl acceptNext []

end Extension

namespace Table

open Extension

variable {σ : Type}

/-- The table of extensions that are all accepted, in this order. -/
def fold (as : List (Extension σ)) : Table σ :=
  as.foldl merge {}

/-- The table after a call, which stays as it was when the call fails. -/
def attempt (t : Table σ) (e : Extension σ) : Table σ :=
  match t.register e with
  | .ok t' => t'
  | .error _ => t

/-- The table after a sequence of calls on an empty one. -/
def ofCalls (calls : List (Extension σ)) : Table σ :=
  calls.foldl attempt {}

/-! ### What a fold holds -/

theorem fold_append (as : List (Extension σ)) (e : Extension σ) :
    fold (as ++ [e]) = (fold as).merge e := by
  simp [fold]

theorem extensions_fold (as : List (Extension σ)) :
    (fold as).extensions = as.map Extension.name := by
  induction as using List.reverseRecOn with
  | nil => rfl
  | append_singleton as e ih => simp [fold_append, ih]

theorem formats_fold (as : List (Extension σ)) :
    (fold as).formats = as.flatMap Extension.formats := by
  induction as using List.reverseRecOn with
  | nil => rfl
  | append_singleton as e ih => simp [fold_append, merge, ih]

theorem handlers_fold (as : List (Extension σ)) :
    (fold as).handlers = as.flatMap Extension.handlers := by
  induction as using List.reverseRecOn with
  | nil => rfl
  | append_singleton as e ih => simp [fold_append, merge, ih]

/-- Under the name of a builder stands the one that was added last. -/
theorem get?_builders_fold (as : List (Extension σ)) (name : String) :
    Fields.get? (fold as).builders name =
      Fields.get? (as.flatMap Extension.builders).reverse name := by
  induction as using List.reverseRecOn with
  | nil => rfl
  | append_singleton as e ih =>
      simp [fold_append, merge, Fields.get?_foldl_insert, ih, Fields.get?_append]

/-- Under the name of an extend hook stands the one that was added last. -/
theorem get?_hooks_fold (as : List (Extension σ)) (name : String) :
    Fields.get? (fold as).hooks name =
      Fields.get? (as.flatMap Extension.hooks).reverse name := by
  induction as using List.reverseRecOn with
  | nil => rfl
  | append_singleton as e ih =>
      simp [fold_append, merge, Fields.get?_foldl_insert, ih, Fields.get?_append]

theorem hasFormat_fold {as : List (Extension σ)} {kind : Kind} {format : String} :
    (fold as).hasFormat kind format = true ↔ ∃ a ∈ as, (kind, format) ∈ a.formats := by
  simp [hasFormat, formats_fold]

theorem contains_builders_fold {as : List (Extension σ)} {name : String} :
    Fields.contains (fold as).builders name = true ↔ Taken as name := by
  rw [Fields.contains, get?_builders_fold, ← Fields.mem_names_iff, List.map_reverse,
    List.mem_reverse, List.map_flatMap, List.mem_flatMap]
  rfl

/-! ### The check of an extension -/

variable {e : Extension σ} {before : List (Extension σ)}

theorem declares_fold {kind : Kind} {format : String} :
    (fold before).declares e kind format = true ↔ e.Declares before kind format := by
  rw [declares, Bool.or_eq_true, hasFormat_fold, List.contains_iff_mem, or_comm]
  rfl

theorem checkFormat_eq_ok {kind : Kind} {format : Option String}
    (h : ∀ f ∈ format, e.Declares before kind f) :
    (fold before).checkFormat e kind format = .ok () := by
  cases format with
  | none => rfl
  | some f => rw [checkFormat, declares_fold.mpr (h f rfl), if_pos rfl]

theorem checkFormat_eq_error {kind : Kind} {format : String}
    (h : ¬e.Declares before kind format) :
    (fold before).checkFormat e kind (some format) = .error (.unknownFormat kind format) := by
  rw [checkFormat, if_neg (fun hdeclares => h (declares_fold.mp hdeclares))]

/-- Builders that fit are passed over, and their names are remembered. -/
theorem checkBuilders_append {earlier : List (String × Builder σ)} {seen : List String}
    (hfit : e.BuildersFit before earlier) (hseen : ∀ b ∈ earlier, b.1 ∉ seen)
    (rest : List (String × Builder σ)) :
    (fold before).checkBuilders e seen (earlier ++ rest) =
      (fold before).checkBuilders e ((earlier.map Prod.fst).reverse ++ seen) rest := by
  -- Every builder passed over adds its name to those seen, so that the others must avoid it too.
  induction earlier generalizing seen with
  | nil => rfl
  | cons b earlier ih =>
      have hfree : ¬(Fields.contains (fold before).builders b.1 || seen.contains b.1) = true := by
        rw [Bool.or_eq_true, contains_builders_fold, List.contains_iff_mem]
        exact not_or.mpr ⟨hfit.free b List.mem_cons_self, hseen b List.mem_cons_self⟩
      have hrest : ∀ c ∈ earlier, c.1 ∉ b.1 :: seen := by
        intro c hc hmem
        rcases List.mem_cons.mp hmem with heq | hmem
        · have hfresh := (List.nodup_cons.mp hfit.distinct).1
          exact hfresh (heq ▸ List.mem_map.mpr ⟨c, hc, rfl⟩)
        · exact hseen c (List.mem_cons_of_mem b hc) hmem
      rw [List.cons_append, checkBuilders, if_neg hfree,
        checkFormat_eq_ok (hfit.declared b List.mem_cons_self)]
      simpa using ih hfit.tail hrest

/-- The check of builders that fit, up to the first that may not. -/
theorem checkBuilders_of_fit {earlier : List (String × Builder σ)}
    (hfit : e.BuildersFit before earlier) (rest : List (String × Builder σ)) :
    (fold before).checkBuilders e [] (earlier ++ rest) =
      (fold before).checkBuilders e (earlier.map Prod.fst).reverse rest := by
  have hseen : ∀ b ∈ earlier, b.1 ∉ ([] : List String) := by simp
  simpa using checkBuilders_append hfit hseen rest

theorem checkHandlers_append {earlier : List HandlerEntry}
    (hfit : e.HandlersFit before earlier) (rest : List HandlerEntry) :
    (fold before).checkHandlers e (earlier ++ rest) = (fold before).checkHandlers e rest := by
  induction earlier with
  | nil => rfl
  | cons h earlier ih =>
      rw [List.cons_append, checkHandlers, checkFormat_eq_ok (hfit h List.mem_cons_self)]
      exact ih fun g hg => hfit g (List.mem_cons_of_mem h hg)

theorem check_of_buildersFit (hfit : e.BuildersFit before e.builders) :
    (fold before).check e = (fold before).checkHandlers e e.handlers := by
  have hbuilders : (fold before).checkBuilders e [] e.builders = .ok () := by
    simpa [checkBuilders] using checkBuilders_of_fit hfit []
  rw [check, hbuilders]

theorem check_of_fits (hfit : e.Fits before) : (fold before).check e = .ok () := by
  rw [check_of_buildersFit hfit.builders]
  simpa [checkHandlers] using checkHandlers_append hfit.handlers []

/-- The check stops at the first offence. -/
theorem check_of_firstOffence {err : BuildError} (h : e.FirstOffence before err) :
    (fold before).check e = .error err := by
  cases h with
  | @conflict earlier later b builders fit taken =>
      have htaken : (Fields.contains (fold before).builders b.1 ||
          (earlier.map Prod.fst).reverse.contains b.1) = true := by
        rwa [Bool.or_eq_true, contains_builders_fold, List.contains_iff_mem, List.mem_reverse]
      rw [check, builders, checkBuilders_of_fit fit, checkBuilders, if_pos htaken]
  | @builderFormat earlier later b format builders fit free fresh named undeclared =>
      have hfree : ¬(Fields.contains (fold before).builders b.1 ||
          (earlier.map Prod.fst).reverse.contains b.1) = true := by
        rw [Bool.or_eq_true, contains_builders_fold, List.contains_iff_mem, List.mem_reverse]
        exact not_or.mpr ⟨free, fresh⟩
      rw [check, builders, checkBuilders_of_fit fit, checkBuilders, if_neg hfree, named,
        checkFormat_eq_error undeclared]
  | @handlerFormat earlier later h format builders handlers fit named undeclared =>
      rw [check_of_buildersFit builders, handlers, checkHandlers_append fit, checkHandlers, named,
        checkFormat_eq_error undeclared]

theorem check_eq_ok_iff : (fold before).check e = .ok () ↔ e.Fits before := by
  refine ⟨?_, check_of_fits⟩
  intro h
  rcases e.fits_or_offence before with hfits | ⟨err, hoffence⟩
  · exact hfits
  · rw [check_of_firstOffence hoffence] at h
    contradiction

theorem check_eq_error_iff {err : BuildError} :
    (fold before).check e = .error err ↔ e.FirstOffence before err := by
  refine ⟨?_, check_of_firstOffence⟩
  intro h
  rcases e.fits_or_offence before with hfits | ⟨err', hoffence⟩
  · rw [check_of_fits hfits] at h
    contradiction
  · rw [check_of_firstOffence hoffence] at h
    exact Except.error.inj h ▸ hoffence

/-! ### Calls -/

theorem register_eq_ok_iff {t' : Table σ} :
    (fold before).register e = .ok t' ↔ e.Fits before ∧ t' = fold (before ++ [e]) := by
  rw [← check_eq_ok_iff, register, fold_append]
  cases (fold before).check e with
  | ok u => simp [eq_comm]
  | error err => simp

theorem register_eq_error_iff {err : BuildError} :
    (fold before).register e = .error err ↔ e.FirstOffence before err := by
  rw [← check_eq_error_iff, register]
  cases (fold before).check e with
  | ok u => simp
  | error err' => simp

/-- A call adds the extension to the fold when it is accepted. -/
theorem attempt_fold (before : List (Extension σ)) (e : Extension σ) :
    (fold before).attempt e = fold (acceptNext before e) := by
  unfold attempt acceptNext
  cases h : (fold before).register e with
  | ok t' =>
      obtain ⟨hfits, rfl⟩ := register_eq_ok_iff.mp h
      rw [if_pos hfits]
  | error err =>
      have hfits : ¬e.Fits before := by
        intro hfits
        rw [register_eq_ok_iff.mpr ⟨hfits, rfl⟩] at h
        contradiction
      rw [if_neg hfits]

/-- After a sequence of calls the table is the fold of the accepted extensions. -/
theorem ofCalls_eq_fold (calls : List (Extension σ)) : ofCalls calls = fold (accepted calls) := by
  induction calls using List.reverseRecOn with
  | nil => rfl
  | append_singleton calls e ih =>
      rw [accepted, List.foldl_append, ofCalls, List.foldl_append, ← ofCalls, ih]
      exact attempt_fold _ e

/-- No two builders of accepted extensions have the same name. -/
theorem nodup_builders_accepted (calls : List (Extension σ)) :
    (((accepted calls).flatMap Extension.builders).map Prod.fst).Nodup := by
  induction calls using List.reverseRecOn with
  | nil => exact List.nodup_nil
  | append_singleton calls e ih =>
      rw [accepted, List.foldl_append, ← accepted, List.foldl_cons, List.foldl_nil, acceptNext]
      split
      · rename_i hfits
        rw [List.flatMap_append, List.map_append, List.flatMap_singleton]
        refine ih.append hfits.builders.distinct ?_
        intro name htaken hname
        obtain ⟨b, hb, rfl⟩ := List.mem_map.mp hname
        refine hfits.builders.free b hb ?_
        rwa [List.map_flatMap, List.mem_flatMap] at htaken
      · exact ih

/-! ### Lookups -/

/-- The handlers of extensions for a phase of the nodes of a kind and a format, in order. -/
def handlersOf (as : List (Extension σ)) (kind : Kind) (format : Option String) (phase : Phase) :
    List Handler :=
  ((as.flatMap Extension.handlers).filter fun h =>
    h.kind == kind && h.format == format && h.handler.phase == phase).map HandlerEntry.handler

/-- A table that answers what these extensions say.  A builder is declared once, the last extend
hook of a name counts, and the handlers for a format run before those for the kind alone. -/
structure Holds (t : Table σ) (as : List (Extension σ)) : Prop where
  extensions : t.extensions = as.map Extension.name
  once : ((as.flatMap Extension.builders).map Prod.fst).Nodup
  builder : ∀ name b, t.builder name = .ok b ↔ ∃ a ∈ as, (name, b) ∈ a.builders
  noBuilder : ∀ name, t.builder name = .error (.unknownBuilder name) ↔ ¬Taken as name
  format : ∀ kind f, t.hasFormat kind f = true ↔ ∃ a ∈ as, (kind, f) ∈ a.formats
  hook : ∀ name, t.extendHook name =
    match Fields.get? (as.flatMap Extension.hooks).reverse name with
    | some hook => .ok hook
    | none => .error (.unknownExtend name)
  formatHandlers : ∀ kind f phase, t.handlersFor kind (some f) phase =
    handlersOf as kind (some f) phase ++ handlersOf as kind none phase
  kindHandlers : ∀ kind phase, t.handlersFor kind none phase = handlersOf as kind none phase

theorem filter_handlersAt (t : Table σ) (kind : Kind) (format : Option String) (phase : Phase) :
    ((t.handlersAt kind format).filter fun h => h.phase == phase) =
      (t.handlers.filter fun h =>
        h.kind == kind && h.format == format && h.handler.phase == phase).map
          HandlerEntry.handler := by
  rw [handlersAt, List.filter_map, List.filter_filter]
  congr 2
  funext h
  exact Bool.and_comm _ _

theorem filter_handlersAt_fold (as : List (Extension σ)) (kind : Kind) (format : Option String)
    (phase : Phase) :
    (((fold as).handlersAt kind format).filter fun h => h.phase == phase) =
      handlersOf as kind format phase := by
  rw [filter_handlersAt, handlers_fold]
  rfl

theorem holds_fold {as : List (Extension σ)}
    (hnd : ((as.flatMap Extension.builders).map Prod.fst).Nodup) : (fold as).Holds as where
  extensions := extensions_fold as
  once := hnd
  builder name b := by
    have hiff := Fields.get?_reverse_eq_some_iff hnd name b
    rw [← get?_builders_fold, List.mem_flatMap] at hiff
    rw [← hiff, Table.builder]
    cases Fields.get? (fold as).builders name with
    | none => simp
    | some b' => simp
  noBuilder name := by
    rw [← contains_builders_fold, Fields.contains, Table.builder]
    cases Fields.get? (fold as).builders name with
    | none => simp
    | some b => simp
  format _ _ := hasFormat_fold
  hook name := by
    rw [← get?_hooks_fold]
    rfl
  formatHandlers kind f phase := by
    rw [handlersFor, List.filter_append, filter_handlersAt_fold, filter_handlersAt_fold]
  kindHandlers kind phase := by
    rw [handlersFor, List.nil_append, filter_handlersAt_fold]

/-- After a sequence of calls on an empty table, the table answers what the accepted extensions
say.  The next call succeeds exactly when its extension fits after them, and else it reports the
first offence and leaves the table as it was. -/
theorem holds_accepted (calls : List (Extension σ)) :
    (ofCalls calls).Holds (accepted calls) ∧
      ∀ e, ((∃ t, (ofCalls calls).register e = .ok t) ↔ e.Fits (accepted calls)) ∧
        (∀ err, (ofCalls calls).register e = .error err ↔
          e.FirstOffence (accepted calls) err) ∧
        ofCalls (calls ++ [e]) =
          if e.Fits (accepted calls) then fold (accepted calls ++ [e]) else ofCalls calls := by
  have hnext (e : Extension σ) : ofCalls (calls ++ [e]) = (ofCalls calls).attempt e := by
    simp [ofCalls]
  rw [ofCalls_eq_fold] at hnext ⊢
  refine ⟨holds_fold (nodup_builders_accepted calls), fun e => ⟨?_, ?_, ?_⟩⟩
  · simp [register_eq_ok_iff]
  · exact fun err => register_eq_error_iff
  · rw [hnext, attempt_fold, acceptNext, apply_ite fold]

end Table

end Conform
