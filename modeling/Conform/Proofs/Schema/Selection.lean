import Conform.Proofs.Context.Obtained

/-!
# Selecting properties

Picking and dropping keep some properties of an object and change nothing else.  An object is
determined by the names that were kept of it, so that the laws of the two calls, and of one call
after the other, come down to comparing sets of names.
-/

namespace Conform

/-- In a list without repetitions, a part in the same order is determined by its members. -/
theorem eq_of_sublist_of_mem_iff {α : Type} {l l₁ l₂ : List α} (distinct : l.Nodup)
    (h₁ : l₁.Sublist l) (h₂ : l₂.Sublist l) (h : ∀ a, a ∈ l₁ ↔ a ∈ l₂) : l₁ = l₂ := by
  induction l generalizing l₁ l₂ with
  | nil => rw [List.sublist_nil.mp h₁, List.sublist_nil.mp h₂]
  | cons a rest ih =>
      obtain ⟨hfresh, distinct⟩ := List.nodup_cons.mp distinct
      rcases List.sublist_cons_iff.mp h₁ with hrest₁ | ⟨r₁, rfl, hrest₁⟩ <;>
        rcases List.sublist_cons_iff.mp h₂ with hrest₂ | ⟨r₂, rfl, hrest₂⟩
      · exact ih distinct hrest₁ hrest₂ h
      · exact (hfresh (hrest₁.subset ((h a).mpr List.mem_cons_self))).elim
      · exact (hfresh (hrest₂.subset ((h a).mp List.mem_cons_self))).elim
      · rw [ih distinct hrest₁ hrest₂ fun b => ?_]
        have hne₁ : b ∈ r₁ → b ≠ a := fun hmem heq => hfresh (heq ▸ hrest₁.subset hmem)
        have hne₂ : b ∈ r₂ → b ≠ a := fun hmem heq => hfresh (heq ▸ hrest₂.subset hmem)
        have hb := h b
        simp only [List.mem_cons] at hb
        exact ⟨fun hmem => (hb.mp (.inr hmem)).resolve_left (hne₁ hmem),
          fun hmem => (hb.mpr (.inr hmem)).resolve_left (hne₂ hmem)⟩

/-- The first of some names that is not among the declared ones. -/
def IsFirstOutside (declared names : List String) (name : String) : Prop :=
  ∃ before after, names = before ++ name :: after ∧ before ⊆ declared ∧ name ∉ declared

theorem exists_isFirstOutside_iff {declared names : List String} :
    (∃ name, IsFirstOutside declared names name) ↔ ¬names ⊆ declared := by
  constructor
  · rintro ⟨name, before, after, rfl, -, houtside⟩ hsubset
    exact houtside (hsubset (by simp))
  · intro houtside
    have hfound : (names.find? fun name => decide (name ∉ declared)).isSome := by
      rw [List.find?_isSome]
      simpa [List.subset_def] using houtside
    obtain ⟨name, hfirst⟩ := Option.isSome_iff_exists.mp hfound
    obtain ⟨hname, before, after, rfl, hbefore⟩ := List.find?_eq_some_iff_append.mp hfirst
    refine ⟨name, before, after, rfl, ?_, of_decide_eq_true hname⟩
    intro other hother
    simpa using hbefore other hother

/-- Only the declared names among which the names are looked up matter. -/
theorem IsFirstOutside.congr {declared declared' names : List String} {name : String}
    (h : IsFirstOutside declared names name) (hsame : ∀ n, n ∈ declared ↔ n ∈ declared') :
    IsFirstOutside declared' names name := by
  obtain ⟨before, after, hnames, hbefore, hname⟩ := h
  exact ⟨before, after, hnames, fun n hn => (hsame n).mp (hbefore hn),
    fun hmem => hname ((hsame name).mpr hmem)⟩

namespace Schema

variable {m p q : Schema} {S T : List String}

/-- The names of the declared properties, in order. -/
def names (m : Schema) : List String :=
  m.properties.map Prod.fst

/-- `p` is `m` without the properties whose names are not to be kept: the others are there as they
were, in their order, and nothing else is changed. -/
structure Retains (m : Schema) (keep : String → Prop) (p : Schema) : Prop where
  node : p.node = m.node
  table : p.table = m.table
  options : p.options = m.options
  children : p.children = .properties p.properties
  order : p.properties.Sublist m.properties
  mem : ∀ e, e ∈ p.properties ↔ e ∈ m.properties ∧ keep e.1

namespace Retains

variable {keep keep' : String → Prop}

theorem kind (h : m.Retains keep p) : p.kind = m.kind :=
  congrArg (·.kind) h.node

theorem mem_names_iff (h : m.Retains keep p) {name : String} :
    name ∈ p.names ↔ name ∈ m.names ∧ keep name := by
  simp only [names, List.mem_map, h.mem]
  constructor
  · rintro ⟨e, ⟨hmem, hkeep⟩, rfl⟩
    exact ⟨⟨e, hmem, rfl⟩, hkeep⟩
  · rintro ⟨⟨e, hmem, rfl⟩, hkeep⟩
    exact ⟨e, ⟨hmem, hkeep⟩, rfl⟩

theorem trans (h : m.Retains keep p) (h' : p.Retains keep' q) :
    m.Retains (fun name => keep name ∧ keep' name) q where
  node := h'.node.trans h.node
  table := h'.table.trans h.table
  options := h'.options.trans h.options
  children := h'.children
  order := h'.order.trans h.order
  mem e := by rw [h'.mem, h.mem, and_assoc]

/-- The names that are kept determine the schema. -/
theorem eq_of_iff (distinct : m.names.Nodup) (h : m.Retains keep p) (h' : m.Retains keep' q)
    (hsame : ∀ name ∈ m.names, keep name ↔ keep' name) : p = q := by
  have hproperties : p.properties = q.properties := by
    refine eq_of_sublist_of_mem_iff distinct.of_map h.order h'.order ?_
    intro e
    rw [h.mem, h'.mem]
    exact and_congr_right fun hmem => hsame e.1 (List.mem_map_of_mem hmem)
  have hchildren : p.children = q.children := by
    rw [h.children, h'.children, hproperties]
  have hnode := h.node.trans h'.node.symm
  have htable := h.table.trans h'.table.symm
  have hoptions := h.options.trans h'.options.symm
  obtain ⟨n, t, c, o⟩ := p
  obtain ⟨n', t', c', o'⟩ := q
  obtain rfl : n = n' := hnode
  obtain rfl : t = t' := htable
  obtain rfl : c = c' := hchildren
  obtain rfl : o = o' := hoptions
  rfl

end Retains

/-! ### One call -/

theorem isNone_property?_iff {name : String} :
    (m.property? name).isNone = true ↔ name ∉ m.names := by
  rw [Option.isNone_iff_eq_none]
  exact Fields.get?_eq_none_iff

/-- A selection of declared names makes a schema that keeps the properties it is to keep. -/
theorem exists_select (kind : m.kind = .object) (declared : S ⊆ m.names) (operation : String)
    (keep : Bool) :
    ∃ p, m.select operation S keep = .ok p ∧ m.Retains (fun name => name ∈ S ↔ keep = true) p := by
  have hfound : (S.find? fun name => (m.property? name).isNone) = none := by
    rw [List.find?_eq_none]
    intro name hname
    rw [isNone_property?_iff, not_not]
    exact declared hname
  refine ⟨m.withChildren
    (.properties (m.properties.filter fun e => S.contains e.1 == keep)), ?_, ?_⟩
  · rw [select, kind, hfound]
  · obtain ⟨n, t, c, o⟩ := m
    refine ⟨rfl, rfl, rfl, rfl, List.filter_sublist, ?_⟩
    intro e
    refine List.mem_filter.trans (and_congr_right fun _ => ?_)
    cases keep with
    | true => simp
    | false => simp

/-- A selection with an undeclared name is refused for the first of them. -/
theorem select_of_outside (kind : m.kind = .object) {name : String}
    (h : IsFirstOutside m.names S name) (operation : String) (keep : Bool) :
    m.select operation S keep = .error (.unknownProperty name) := by
  obtain ⟨before, after, rfl, hbefore, hname⟩ := h
  have hfound : ((before ++ name :: after).find? fun name => (m.property? name).isNone) =
      some name := by
    rw [List.find?_eq_some_iff_append]
    refine ⟨isNone_property?_iff.mpr hname, before, after, rfl, ?_⟩
    intro other hother
    rw [Bool.not_eq_true', ← Bool.not_eq_true, isNone_property?_iff, not_not]
    exact hbefore hother
  rw [select, kind, hfound]

theorem select_of_not_object (kind : m.kind ≠ .object) (operation : String) (keep : Bool) :
    m.select operation S keep = .error (.notComposite operation m.kind) := by
  unfold select
  split
  · contradiction
  · rfl

theorem edit_pick_eq (m : Schema) (S : List String) :
    m.edit (.pick S) = m.select "pick" S true := by
  rw [edit, pick]

theorem edit_drop_eq (m : Schema) (S : List String) :
    m.edit (.drop S) = m.select "omit" S false := by
  rw [edit, drop]

theorem exists_edit_pick (kind : m.kind = .object) (declared : S ⊆ m.names) :
    ∃ p, m.edit (.pick S) = .ok p ∧ m.Retains (· ∈ S) p := by
  simpa [edit_pick_eq] using exists_select kind declared "pick" true

theorem exists_edit_drop (kind : m.kind = .object) (declared : S ⊆ m.names) :
    ∃ p, m.edit (.drop S) = .ok p ∧ m.Retains (· ∉ S) p := by
  simpa [edit_drop_eq] using exists_select kind declared "omit" false

/-! ### One call after the other -/

theorem edits_pair {e e' : Edit Schema} (h : m.edit e = .ok p) : m.edits [e, e'] = p.edit e' := by
  rw [edits, List.foldlM_cons, h]
  change [e'].foldlM edit p = _
  rw [List.foldlM_cons]
  cases p.edit e' with
  | ok q => rfl
  | error err => rfl

/-- Picking is dropping the names that are not picked. -/
theorem edit_pick_eq_edit_drop (kind : m.kind = .object) (distinct : m.names.Nodup)
    (declared : S ⊆ m.names) :
    m.edit (.pick S) = m.edit (.drop (m.names.filter fun name => name ∉ S)) := by
  obtain ⟨p, hp, hpicked⟩ := exists_edit_pick kind declared
  obtain ⟨q, hq, hdropped⟩ := exists_edit_drop kind
    (S := m.names.filter fun name => name ∉ S) List.filter_sublist.subset
  rw [hp, hq, hpicked.eq_of_iff distinct hdropped ?_]
  intro name hname
  simp [hname]

/-- Of two picks the second one counts, as long as it picks from what the first one left. -/
theorem edits_pick_pick (kind : m.kind = .object) (distinct : m.names.Nodup)
    (declared : S ⊆ m.names) (hsub : T ⊆ S) :
    m.edits [.pick S, .pick T] = m.edit (.pick T) := by
  obtain ⟨p, hp, hfirst⟩ := exists_edit_pick kind declared
  have hleft : T ⊆ p.names := fun name hname =>
    hfirst.mem_names_iff.mpr ⟨declared (hsub hname), hsub hname⟩
  obtain ⟨q, hq, hsecond⟩ := exists_edit_pick (hfirst.kind.trans kind) hleft
  obtain ⟨q', hq', honly⟩ := exists_edit_pick kind fun name hname => declared (hsub hname)
  rw [edits_pair hp, hq, hq', (hfirst.trans hsecond).eq_of_iff distinct honly ?_]
  intro name _
  exact and_iff_right_of_imp fun hname => hsub hname

/-- A second pick is refused for the first name that the first one did not pick. -/
theorem edits_pick_pick_of_outside (kind : m.kind = .object) (declared : S ⊆ m.names)
    {name : String} (h : IsFirstOutside S T name) :
    m.edits [.pick S, .pick T] = .error (.unknownProperty name) := by
  obtain ⟨p, hp, hfirst⟩ := exists_edit_pick kind declared
  have hnames : ∀ n, n ∈ S ↔ n ∈ p.names := fun n =>
    ⟨fun hn => hfirst.mem_names_iff.mpr ⟨declared hn, hn⟩,
      fun hn => (hfirst.mem_names_iff.mp hn).2⟩
  rw [edits_pair hp, edit_pick_eq,
    select_of_outside (hfirst.kind.trans kind) (h.congr hnames)]

/-- Dropping one after the other is dropping together, where nothing is dropped twice. -/
theorem edits_drop_drop (kind : m.kind = .object) (distinct : m.names.Nodup)
    (hS : S ⊆ m.names) (hT : T ⊆ m.names) (disjoint : S.Disjoint T) :
    m.edits [.drop S, .drop T] = m.edit (.drop (S ++ T)) := by
  obtain ⟨p, hp, hfirst⟩ := exists_edit_drop kind hS
  have hleft : T ⊆ p.names := fun name hname =>
    hfirst.mem_names_iff.mpr ⟨hT hname, fun hmem => disjoint hmem hname⟩
  obtain ⟨q, hq, hsecond⟩ := exists_edit_drop (hfirst.kind.trans kind) hleft
  obtain ⟨q', hq', htogether⟩ := exists_edit_drop kind (List.append_subset.mpr ⟨hS, hT⟩)
  rw [edits_pair hp, hq, hq', (hfirst.trans hsecond).eq_of_iff distinct htogether ?_]
  intro name _
  rw [List.mem_append, not_or]

/-- The laws of picking and dropping.  For a well-formed object and any two lists of names, both
calls are refused exactly when a name is not declared, for the first such name, and otherwise keep
the named properties and the others, in their order and with nothing else changed.  Picking is
dropping all other names; a pick after a pick is the second one alone, or refused where it asks for
a name that the first one did not pick; and two drops of different names are one drop.  A schema
that is no object takes neither call, whatever the names. -/
theorem selection_laws (m : Schema) (S T : List String) :
    (m.WellFormed → m.kind = .object →
      (¬S ⊆ m.names ↔ ∃ name, IsFirstOutside m.names S name ∧
        m.edit (.pick S) = .error (.unknownProperty name) ∧
        m.edit (.drop S) = .error (.unknownProperty name)) ∧
      (S ⊆ m.names →
        (∃ p, m.edit (.pick S) = .ok p ∧ m.Retains (· ∈ S) p) ∧
        (∃ p, m.edit (.drop S) = .ok p ∧ m.Retains (· ∉ S) p) ∧
        m.edit (.pick S) = m.edit (.drop (m.names.filter fun name => name ∉ S)) ∧
        (T ⊆ S → m.edits [.pick S, .pick T] = m.edit (.pick T)) ∧
        (¬T ⊆ S → ∃ name, IsFirstOutside S T name ∧
          m.edits [.pick S, .pick T] = .error (.unknownProperty name)) ∧
        (T ⊆ m.names → S.Disjoint T →
          m.edits [.drop S, .drop T] = m.edit (.drop (S ++ T))))) ∧
    (m.kind ≠ .object →
      m.edit (.pick S) = .error (.notComposite "pick" m.kind) ∧
        m.edit (.drop S) = .error (.notComposite "omit" m.kind)) := by
  constructor
  · intro wellFormed kind
    have distinct : m.names.Nodup := wellFormed.children.nodup_properties
    constructor
    · rw [← exists_isFirstOutside_iff]
      refine exists_congr fun name => ⟨fun hname => ⟨hname, ?_, ?_⟩, fun h => h.1⟩
      · rw [edit_pick_eq, select_of_outside kind hname]
      · rw [edit_drop_eq, select_of_outside kind hname]
    · intro declared
      refine ⟨exists_edit_pick kind declared, exists_edit_drop kind declared,
        edit_pick_eq_edit_drop kind distinct declared, edits_pick_pick kind distinct declared,
        ?_, edits_drop_drop kind distinct declared⟩
      intro houtside
      obtain ⟨name, hname⟩ := exists_isFirstOutside_iff.mpr houtside
      exact ⟨name, hname, edits_pick_pick_of_outside kind declared hname⟩
  · intro kind
    rw [edit_pick_eq, edit_drop_eq]
    exact ⟨select_of_not_object kind "pick" true, select_of_not_object kind "omit" false⟩

/-- A member of a club, with an optional address for letters. -/
def member : Schema :=
  let leaf (n : Node) : Schema := .ofNode n Standard.table
  .mk { kind := .object, strict := true } Standard.table
    (.properties [("id", leaf { kind := .integer }), ("name", leaf { kind := .string }),
      ("email", leaf { kind := .string, required := false })]) .none

theorem selection_laws_member :
    let picked := ["email", "id", "email"]
    (∃ p, member.edit (.pick picked) = .ok p ∧ member.Retains (· ∈ picked) p) ∧
      member.edit (.pick picked) = member.edit (.drop ["name"]) ∧
      member.edits [.pick picked, .pick ["id"]] = member.edit (.pick ["id"]) ∧
      member.edits [.drop ["name"], .drop ["id"]] = member.edit (.drop ["name", "id"]) ∧
      (∃ name, IsFirstOutside picked ["id", "name"] name ∧
        member.edits [.pick picked, .pick ["id", "name"]] = .error (.unknownProperty name)) ∧
      (∃ name, IsFirstOutside member.names ["id", "phone"] name ∧
        member.edit (.pick ["id", "phone"]) = .error (.unknownProperty name)) ∧
      (Context.standard.ofKind .array).2.edit (.pick []) =
        .error (.notComposite "pick" .array) := by
  intro picked
  have wellFormed : member.WellFormed :=
    ⟨.of_object rfl (by decide), nofun, nofun⟩
  have laws := fun S T => (selection_laws member S T).1 wellFormed rfl
  have declared : picked ⊆ member.names := by decide
  obtain ⟨hpick, -, hdrop, hagain, -, -⟩ := (laws picked ["id"]).2 declared
  obtain ⟨-, -, -, -, houtside, -⟩ := (laws picked ["id", "name"]).2 declared
  obtain ⟨-, -, -, -, -, htogether⟩ := (laws ["name"] ["id"]).2 (by decide)
  obtain ⟨name, hname, hrefused, -⟩ := (laws ["id", "phone"] []).1.mp (by decide)
  refine ⟨hpick, hdrop, hagain (by decide), htogether (by decide) (by simp),
    houtside (by decide), ⟨name, hname, hrefused⟩, ?_⟩
  exact ((selection_laws (Context.standard.ofKind .array).2 [] []).2 nofun).1

end Schema

end Conform
