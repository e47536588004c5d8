import Conform.Proofs.Table.Isolation

/-!
# Extensions in either order

Two extensions that can be registered in either order, and that compete neither for a phase of the
same nodes nor for the name of an extend hook, make the same table in both orders: it gives the same
answers, and only the list of the extensions shows which one came first.
-/

namespace Conform

/-- Extensions that have no handlers for one phase of the same kind and format, and no extend hooks
of one name. -/
structure Extension.Independent {σ : Type} (e₁ e₂ : Extension σ) : Prop where
  handlers : ∀ h₁ ∈ e₁.handlers, ∀ h₂ ∈ e₂.handlers,
    ¬(h₁.kind = h₂.kind ∧ h₁.format = h₂.format ∧ h₁.handler.phase = h₂.handler.phase)
  hooks : ∀ k₁ ∈ e₁.hooks, ∀ k₂ ∈ e₂.hooks, k₁.1 ≠ k₂.1

/-- Tables that give the same answers, except about their extensions. -/
structure Table.Agrees {σ : Type} (t t' : Table σ) : Prop where
  builder : ∀ name, t.builder name = t'.builder name
  builderNames : t.builderNames = t'.builderNames
  formatsOf : ∀ kind, t.formatsOf kind = t'.formatsOf kind
  hasFormat : ∀ kind format, t.hasFormat kind format = t'.hasFormat kind format
  extendHook : ∀ name, t.extendHook name = t'.extendHook name
  handlersFor : ∀ kind format phase,
    t.handlersFor kind format phase = t'.handlersFor kind format phase

namespace Fields

variable {α : Type}

/-- Entries under different names can be put in in either order. -/
theorem get?_foldl_insert_comm {es es' : List (String × α)}
    (hne : ∀ e ∈ es, ∀ e' ∈ es', e.1 ≠ e'.1) (fs : Fields α) (name : String) :
    get? (es'.foldl (fun fs e => fs.insert e.1 e.2)
        (es.foldl (fun fs e => fs.insert e.1 e.2) fs)) name =
      get? (es.foldl (fun fs e => fs.insert e.1 e.2)
        (es'.foldl (fun fs e => fs.insert e.1 e.2) fs)) name := by
  simp only [get?_foldl_insert]
  by_cases hname : name ∈ es.map Prod.fst
  · have hother : get? es'.reverse name = none := by
      rw [get?_eq_none_iff, List.map_reverse, List.mem_reverse]
      intro hname'
      obtain ⟨e, he, rfl⟩ := List.mem_map.mp hname
      obtain ⟨e', he', heq⟩ := List.mem_map.mp hname'
      exact hne e he e' he' heq.symm
    simp [hother]
  · have hnone : get? es.reverse name = none := by
      rw [get?_eq_none_iff, List.map_reverse, List.mem_reverse]
      exact hname
    simp [hnone]

end Fields

namespace Table

variable {σ : Type} {t t' t₁ t₂ t₁₂ t₂₁ : Table σ} {e e₁ e₂ : Extension σ}

/-! ### Names in order -/

/-- The order in which names are given does not show when they are sorted. -/
theorem sortedNames_of_perm {names names' : List String} (h : names.Perm names') :
    sortedNames names = sortedNames names' := by
  have hle (a b : String) : (!(decide (b < a))) = true ↔ a ≤ b := by
    rw [Bool.not_eq_true', decide_eq_false_iff_not, String.not_lt]
  have hsorted (names : List String) :
      (names.mergeSort fun a b => !(decide (b < a))).Pairwise fun a b => a ≤ b := by
    have hpairwise : (names.mergeSort fun a b => !(decide (b < a))).Pairwise
        fun a b => (!(decide (b < a))) = true := by
      apply List.pairwise_mergeSort
      case trans =>
        intro a b c hab hbc
        rw [hle] at hab hbc ⊢
        exact String.le_trans hab hbc
      case total =>
        intro a b
        rw [Bool.or_eq_true, hle, hle]
        exact String.le_total a b
    exact hpairwise.imp fun hab => (hle _ _).mp hab
  have hperm : (names.mergeSort fun a b => !(decide (b < a))).Perm
      (names'.mergeSort fun a b => !(decide (b < a))) :=
    (List.mergeSort_perm names _).trans (h.trans (List.mergeSort_perm names' _).symm)
  have heq := hperm.eq_of_pairwise (fun _ _ _ _ => String.le_antisymm) (hsorted names)
    (hsorted names')
  unfold sortedNames
  rw [heq]

/-! ### What registration checks -/

theorem not_contains_of_checkBuilders {seen : List String} {bs : List (String × Builder σ)}
    (h : t.checkBuilders e seen bs = .ok ()) :
    ∀ b ∈ bs, ¬Fields.contains t.builders b.1 = true := by
  induction bs generalizing seen with
  | nil => simp
  | cons b rest ih =>
      obtain ⟨name, builder⟩ := b
      rw [checkBuilders] at h
      split at h
      · contradiction
      · rename_i hfree
        split at h
        · contradiction
        · have hrest := ih h
          intro c hc
          rcases List.mem_cons.mp hc with rfl | hc
          · intro hcontains
            apply hfree
            rw [Bool.or_eq_true]
            exact Or.inl hcontains
          · exact hrest c hc

/-- The names of the builders of an extension that is accepted are new. -/
theorem get?_builders_of_register (h : t.register e = .ok t') :
    ∀ b ∈ e.builders, Fields.get? t.builders b.1 = none := by
  have hcheck : t.check e = .ok () := by
    unfold register at h
    split at h
    · assumption
    · contradiction
  have hbuilders : t.checkBuilders e [] e.builders = .ok () := by
    unfold check at hcheck
    split at hcheck
    · contradiction
    · assumption
  intro b hb
  have hnot := not_contains_of_checkBuilders hbuilders b hb
  rwa [Fields.contains, Option.not_isSome_iff_eq_none] at hnot

/-- Extensions that are accepted one after the other have different builders. -/
theorem builders_ne_of_register (h₁ : t.register e₁ = .ok t₁) (h₁₂ : t₁.register e₂ = .ok t₁₂) :
    ∀ b₁ ∈ e₁.builders, ∀ b₂ ∈ e₂.builders, b₁.1 ≠ b₂.1 := by
  intro b₁ hb₁ b₂ hb₂ hname
  have hnone := get?_builders_of_register h₁₂ b₂ hb₂
  rw [eq_merge_of_register h₁] at hnone
  simp only [merge, Fields.get?_foldl_insert, Option.or_eq_none_iff, Fields.get?_eq_none_iff,
    List.map_reverse, List.mem_reverse] at hnone
  apply hnone.1
  exact List.mem_map.mpr ⟨b₁, hb₁, hname⟩

/-! ### Two extensions -/

/-- Where two extensions have no handlers for one phase of the same nodes, those of a phase are the
same in either order. -/
theorem filter_handlersAt_merge_comm (hind : e₁.Independent e₂) (kind : Kind)
    (format : Option String) (phase : Phase) :
    ((((t.merge e₁).merge e₂).handlersAt kind format).filter fun h => h.phase == phase) =
      (((t.merge e₂).merge e₁).handlersAt kind format).filter fun h => h.phase == phase := by
  rw [filter_handlersAt, filter_handlersAt]
  simp only [merge, List.filter_append, List.append_assoc]
  generalize hp : (fun h : HandlerEntry =>
    h.kind == kind && h.format == format && h.handler.phase == phase) = p
  have hiff (h : HandlerEntry) :
      p h = true ↔ h.kind = kind ∧ h.format = format ∧ h.handler.phase = phase := by
    simp [← hp, and_assoc]
  -- At most one of the two has handlers that pass.
  by_cases hnone : e₁.handlers.filter p = []
  · simp [hnone]
  · have hother : e₂.handlers.filter p = [] := by
      obtain ⟨h₁, hmem⟩ := List.exists_mem_of_ne_nil _ hnone
      obtain ⟨hmem₁, hpass₁⟩ := List.mem_filter.mp hmem
      obtain ⟨hkind₁, hformat₁, hphase₁⟩ := (hiff h₁).mp hpass₁
      rw [List.filter_eq_nil_iff]
      intro h₂ hmem₂ hpass₂
      obtain ⟨hkind₂, hformat₂, hphase₂⟩ := (hiff h₂).mp hpass₂
      apply hind.handlers h₁ hmem₁ h₂ hmem₂
      exact ⟨hkind₁.trans hkind₂.symm, hformat₁.trans hformat₂.symm, hphase₁.trans hphase₂.symm⟩
    simp [hother]

theorem handlersFor_merge_comm (hind : e₁.Independent e₂) (kind : Kind)
    (format : Option String) (phase : Phase) :
    ((t.merge e₁).merge e₂).handlersFor kind format phase =
      ((t.merge e₂).merge e₁).handlersFor kind format phase := by
  have hat (format : Option String) := filter_handlersAt_merge_comm (t := t) hind kind format phase
  cases format with
  | none => simpa only [handlersFor, List.nil_append] using hat none
  | some f => simp only [handlersFor, List.filter_append, hat]

/-- Tables with all that two extensions add give the same answers, whichever of the two was added
first. -/
theorem agrees_merge_comm (hbuilders : ∀ b₁ ∈ e₁.builders, ∀ b₂ ∈ e₂.builders, b₁.1 ≠ b₂.1)
    (hind : e₁.Independent e₂) :
    ((t.merge e₁).merge e₂).Agrees ((t.merge e₂).merge e₁) := by
  have hbuilder (name : String) : Fields.get? ((t.merge e₁).merge e₂).builders name =
      Fields.get? ((t.merge e₂).merge e₁).builders name :=
    Fields.get?_foldl_insert_comm hbuilders t.builders name
  have hhook (name : String) : Fields.get? ((t.merge e₁).merge e₂).hooks name =
      Fields.get? ((t.merge e₂).merge e₁).hooks name :=
    Fields.get?_foldl_insert_comm hind.hooks t.hooks name
  have hformats : ((t.merge e₁).merge e₂).formats.Perm ((t.merge e₂).merge e₁).formats := by
    simp only [merge, List.append_assoc]
    exact List.perm_append_comm.append_left t.formats
  constructor
  case builder =>
    intro name
    simp only [Table.builder, hbuilder]
  case builderNames =>
    apply sortedNames_of_perm
    apply Fields.keys_perm
    intro name
    rw [Fields.mem_keys_iff, Fields.mem_keys_iff, hbuilder]
  case formatsOf =>
    intro kind
    apply sortedNames_of_perm
    exact (hformats.filter _).map _
  case hasFormat =>
    intro kind format
    rw [Bool.eq_iff_iff]
    simp only [Table.hasFormat, List.contains_iff_mem]
    exact hformats.mem_iff
  case extendHook =>
    intro name
    simp only [Table.extendHook, hhook]
  case handlersFor => exact handlersFor_merge_comm hind

/-- Independent extensions may be registered in either order: the two tables give the same answers,
and their lists of extensions differ only in the order of the last two. -/
theorem agrees_of_register (h₁ : t.register e₁ = .ok t₁) (h₁₂ : t₁.register e₂ = .ok t₁₂)
    (h₂ : t.register e₂ = .ok t₂) (h₂₁ : t₂.register e₁ = .ok t₂₁)
    (hind : e₁.Independent e₂) :
    t₁₂.Agrees t₂₁ ∧ t₁₂.extensions = t.extensions ++ [e₁.name, e₂.name] ∧
      t₂₁.extensions = t.extensions ++ [e₂.name, e₁.name] := by
  have hbuilders := builders_ne_of_register h₁ h₁₂
  have hboth : t₁₂ = (t.merge e₁).merge e₂ := by
    rw [eq_merge_of_register h₁₂, eq_merge_of_register h₁]
  have hother : t₂₁ = (t.merge e₂).merge e₁ := by
    rw [eq_merge_of_register h₂₁, eq_merge_of_register h₂]
  rw [hboth, hother]
  refine ⟨agrees_merge_comm hbuilders hind, ?_, ?_⟩
  · simp
  · simp

/-- An extension for routes, which checks postal codes as well. -/
def routes : Extension Schema :=
  { name := "routes"
    formats := [(.string, "zip"), (.array, "route")]
    builders := [("route", { kind := .array, format := some "route" })]
    handlers :=
      [⟨.string, some "zip", .validate fun _ _ => some (.rule "no such place")⟩,
        ⟨.date, none, .parse fun _ _ => some .null⟩]
    hooks := [("stops", { script := fun _ _ => .done })] }

theorem independent_routes : Schema.postal.Independent routes := by
  constructor
  · simp [Schema.postal, routes, Handler.phase]
  · simp [Schema.postal]

theorem agrees_of_register_routes :
    ∃ t₁ t₁₂ t₂ t₂₁, Standard.table.register Schema.postal = .ok t₁ ∧
      t₁.register routes = .ok t₁₂ ∧ Standard.table.register routes = .ok t₂ ∧
      t₂.register Schema.postal = .ok t₂₁ ∧ Schema.postal.Independent routes ∧
      t₁₂.Agrees t₂₁ ∧ t₁₂.extensions = Standard.table.extensions ++ ["postal", "routes"] ∧
      t₂₁.extensions = Standard.table.extensions ++ ["routes", "postal"] := by
  have accepted {e : Extension Schema} {before : List (Extension Schema)}
      (h : e.Fits before) : (fold before).register e = .ok (fold (before ++ [e])) :=
    register_eq_ok_iff.mpr ⟨h, rfl⟩
  have h₁ : Standard.table.register Schema.postal = .ok (fold (Standard.extensions ++ [_])) :=
    accepted (by decide)
  have h₁₂ := accepted
    (by decide : routes.Fits (Standard.extensions ++ [Schema.postal]))
  have h₂ : Standard.table.register routes = .ok (fold (Standard.extensions ++ [_])) :=
    accepted (by decide)
  have h₂₁ := accepted
    (by decide : Schema.postal.Fits (Standard.extensions ++ [routes]))
  exact ⟨_, _, _, _, h₁, h₁₂, h₂, h₂₁, independent_routes,
    agrees_of_register h₁ h₁₂ h₂ h₂₁ independent_routes⟩

end Table

end Conform
