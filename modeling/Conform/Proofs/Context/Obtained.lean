import Conform.Proofs.Context.Lifecycle
import Conform.Proofs.Schema.Scripts
import Conform.Standard.Basic

/-!
# The schemas that contexts give out

Whoever uses contexts gets schemas as their answers and by building on those, and can mention only
such schemas in turn: in calls, in the builders of extensions and in their extend hooks.  What
single calls keep, all of these have.  In particular they are well formed at every node.  A builder
gives its format to a node unchecked; that it is declared was checked when the extension was
registered.
-/

namespace Conform

namespace Schema

/-! ### Well-formed schemas -/

/-- The children that nodes of a kind can have: an object has properties with distinct names, an
array one schema for its elements, and nodes of other kinds have none. -/
@[mk_iff]
inductive ChildrenFit : Kind → Children Schema → Prop where
  | none (kind : Kind) : ChildrenFit kind .none
  | properties {ps : List (String × Schema)} (distinct : (ps.map Prod.fst).Nodup) :
      ChildrenFit .object (.properties ps)
  | element (e : Schema) : ChildrenFit .array (.element e)

/-- A well-formed node: its children fit its kind, every conditional option has a predicate, and its
format is declared for its kind. -/
@[mk_iff]
structure WellFormed (s : Schema) : Prop where
  children : ChildrenFit s.kind s.children
  predicates : ∀ b ∈ s.options.branches, b.node.applies.isSome
  format : ∀ f ∈ s.node.format, s.table.hasFormat s.kind f = true

theorem ChildrenFit.of_object {kind : Kind} {ps : List (String × Schema)} (hkind : kind = .object)
    (distinct : (ps.map Prod.fst).Nodup) : ChildrenFit kind (.properties ps) := by
  rw [hkind]
  exact .properties distinct

theorem ChildrenFit.of_array {kind : Kind} (hkind : kind = .array) (e : Schema) :
    ChildrenFit kind (.element e) := by
  rw [hkind]
  exact .element e

theorem ChildrenFit.nodup_properties {s : Schema} (h : ChildrenFit s.kind s.children) :
    (s.properties.map Prod.fst).Nodup := by
  obtain ⟨n, t, c, o⟩ := s
  cases c with
  | none => exact List.nodup_nil
  | element e => exact List.nodup_nil
  | properties ps =>
      generalize (Schema.mk n t (.properties ps) o).kind = kind at h
      cases h with
      | properties distinct => exact distinct

/-- A bare node is well formed when its format is declared. -/
theorem wellFormed_ofNode {n : Node} {t : Table Schema}
    (h : ∀ f ∈ n.format, t.hasFormat n.kind f = true) : (ofNode n t).WellFormed :=
  ⟨.none n.kind, nofun, h⟩

/-- A call keeps a node well formed. -/
theorem Edited.wellFormed {s s' : Schema} {e : Edit Schema} (h : s.Edited e s')
    (hs : s.WellFormed) : s'.WellFormed := by
  have hnames := hs.children.nodup_properties
  obtain ⟨n, t, c, o⟩ := s
  cases h with
  | node f kind format =>
      refine ⟨?_, hs.predicates, ?_⟩
      · change ChildrenFit (f n).kind c
        rw [kind]
        exact hs.children
      · change ∀ name ∈ (f n).format, t.hasFormat (f n).kind name = true
        rw [kind, format]
        exact hs.format
  | @format name declared =>
      refine ⟨hs.children, hs.predicates, ?_⟩
      intro f hf
      obtain rfl : name = f := Option.some.inj hf
      exact declared
  | properties kind distinct mentioned =>
      exact ⟨.of_object kind distinct, hs.predicates, hs.format⟩
  | selected kind kept =>
      have hkept := hnames.sublist (kept.map Prod.fst)
      exact ⟨.of_object kind hkept, hs.predicates, hs.format⟩
  | element kind mentioned => exact ⟨.of_array kind _, hs.predicates, hs.format⟩
  | options mentioned predicates => exact ⟨hs.children, predicates, hs.format⟩

/-! ### What holds throughout a schema -/

/-- A property of all schemas that calls can reach from a schema: of the schema, its parts, and the
schemas that its table brings in. -/
inductive Throughout (P : Schema → Prop) : Schema → Prop where
  | intro {s : Schema} (here : P s) (parts : ∀ p ∈ s.parts, Throughout P p)
      (brought : ∀ p, s.table.Mentions p → Throughout P p) : Throughout P s

namespace Throughout

variable {P : Schema → Prop} {s : Schema}

theorem here (h : s.Throughout P) : P s := by
  cases h with
  | intro here _ _ => exact here

theorem part (h : s.Throughout P) {p : Schema} (hp : p ∈ s.parts) : p.Throughout P := by
  cases h with
  | intro _ parts _ => exact parts p hp

theorem brought (h : s.Throughout P) {p : Schema} (hp : s.table.Mentions p) :
    p.Throughout P := by
  cases h with
  | intro _ _ brought => exact brought p hp

theorem toForall (h : s.Throughout P) : s.Forall P := by
  induction h with
  | intro here _ _ ihparts _ => exact .intro here ihparts

end Throughout

/-- A property that bare nodes with declared formats have, and that single calls keep. -/
structure Invariant (P : Schema → Prop) : Prop where
  bare : ∀ n t, (∀ f ∈ n.format, t.hasFormat n.kind f = true) → P (ofNode n t)
  call : ∀ {s s' : Schema} {e : Edit Schema}, s.Edited e s' → s.edit e = .ok s' → P s →
    (∀ p ∈ e.parts, P p) → P s'

theorem invariant_wellFormed : Invariant WellFormed where
  bare _ _ hformat := wellFormed_ofNode hformat
  call hedited _ hs _ := hedited.wellFormed hs

theorem invariant_constructible : Invariant Constructible where
  bare n t _ := .bare n t
  call _ made hs he := .call hs he made

/-- An invariant holds throughout what calls make of schemas throughout which it holds. -/
theorem Invariant.kept {P : Schema → Prop} (hP : Invariant P) :
    Kept (fun t => ∀ p, t.Mentions p → p.Throughout P) (Throughout P) where
  table s hs p hp := hs.brought hp
  call := by
    intro s s' e hs he h
    rcases edited_or_part h with hedited | hpart
    · refine .intro (hP.call hedited h hs.here fun p hp => (he p hp).here) ?_ ?_
      · intro p hp
        rcases hedited.mem_parts hp with hp | hp
        · exact hs.part hp
        · exact he p hp
      · intro p hp
        exact hs.brought (hedited.table ▸ hp)
    · exact hs.part hpart
  mentioned t ht := ht

end Schema

/-! ### The extensions behind a table -/

/-- An extension mentions a schema when the script of one of its extend hooks or builders does. -/
inductive Extension.Mentions (a : Extension Schema) (p : Schema) : Prop where
  | hook {name : String} {hook : ExtendHook Schema} {x : View} {arg : Json}
      (given : (name, hook) ∈ a.hooks) (mentions : (hook.script x arg).Mentions p) :
      Mentions a p
  | builder {name : String} {b : Builder Schema} {configure : View → Script Schema} {x : View}
      (given : (name, b) ∈ a.builders) (configures : b.configure = some configure)
      (mentions : (configure x).Mentions p) : Mentions a p

/-- The formats of the builders of some extensions are declared by one of them. -/
def Extension.BuildersDeclared {σ : Type} (as : List (Extension σ)) : Prop :=
  ∀ a ∈ as, ∀ b ∈ a.builders, ∀ f ∈ b.2.format, ∃ d ∈ as, (b.2.kind, f) ∈ d.formats

namespace Extension

variable {σ : Type} {as : List (Extension σ)} {e : Extension σ}

theorem mem_foldl_acceptNext {calls : List (Extension σ)}
    (h : e ∈ calls.foldl acceptNext as) : e ∈ as ∨ e ∈ calls := by
  induction calls using List.reverseRecOn with
  | nil => exact .inl h
  | append_singleton calls a ih =>
      rw [List.foldl_append, List.foldl_cons, List.foldl_nil, acceptNext] at h
      have hearlier (h : e ∈ calls.foldl acceptNext as) : e ∈ as ∨ e ∈ calls ++ [a] :=
        (ih h).imp_right fun hmem => List.mem_append.mpr (.inl hmem)
      split at h
      · rcases List.mem_append.mp h with h | h
        · exact hearlier h
        · exact .inr (List.mem_append.mpr (.inr h))
      · exact hearlier h

/-- An extension is accepted only when the formats of its builders are declared. -/
theorem BuildersDeclared.next (h : BuildersDeclared as) (e : Extension σ) :
    BuildersDeclared (acceptNext as e) := by
  unfold Extension.acceptNext
  split
  · rename_i hfits
    intro a ha b hb f hf
    rcases List.mem_append.mp ha with ha | ha
    · obtain ⟨d, hd, hmem⟩ := h a ha b hb f hf
      exact ⟨d, List.mem_append.mpr (.inl hd), hmem⟩
    · obtain rfl := List.mem_singleton.mp ha
      rcases hfits.builders.declared b hb f hf with hown | ⟨d, hd, hmem⟩
      · exact ⟨a, List.mem_append.mpr (.inr ha), hown⟩
      · exact ⟨d, List.mem_append.mpr (.inl hd), hmem⟩
  · exact h

theorem BuildersDeclared.foldl (h : BuildersDeclared as)
    (calls : List (Extension σ)) : BuildersDeclared (calls.foldl acceptNext as) := by
  induction calls generalizing as with
  | nil => exact h
  | cons e rest ih => exact ih (h.next e)

end Extension

namespace Table

/-- A builder of a fold was declared by one of the extensions. -/
theorem exists_of_builder_fold {σ : Type} {as : List (Extension σ)} {name : String}
    {b : Builder σ} (h : (fold as).builder name = .ok b) : ∃ a ∈ as, (name, b) ∈ a.builders := by
  unfold Table.builder at h
  rw [get?_builders_fold] at h
  split at h
  · rename_i b' hget
    obtain rfl := Except.ok.inj h
    simpa using Fields.mem_of_get? hget
  · contradiction

theorem exists_of_extendHook_fold {σ : Type} {as : List (Extension σ)} {name : String}
    {hook : ExtendHook σ} (h : (fold as).extendHook name = .ok hook) :
    ∃ a ∈ as, (name, hook) ∈ a.hooks := by
  unfold Table.extendHook at h
  rw [get?_hooks_fold] at h
  split at h
  · rename_i hook' hget
    obtain rfl := Except.ok.inj h
    simpa using Fields.mem_of_get? hget
  · contradiction

/-- What a fold brings in, one of its extensions mentions. -/
theorem exists_of_mentions_fold {as : List (Extension Schema)} {p : Schema}
    (h : (fold as).Mentions p) : ∃ a ∈ as, a.Mentions p := by
  cases h with
  | hook found mentions =>
      obtain ⟨a, ha, given⟩ := exists_of_extendHook_fold found
      exact ⟨a, ha, .hook given mentions⟩
  | builder found configures mentions =>
      obtain ⟨a, ha, given⟩ := exists_of_builder_fold found
      exact ⟨a, ha, .builder given configures mentions⟩

theorem hasFormat_of_builder_fold {σ : Type} {as : List (Extension σ)}
    (has : Extension.BuildersDeclared as) {name : String} {b : Builder σ}
    (h : (fold as).builder name = .ok b) :
    ∀ f ∈ b.format, (fold as).hasFormat b.kind f = true := by
  intro f hf
  obtain ⟨a, ha, given⟩ := exists_of_builder_fold h
  exact hasFormat_fold.mpr (has a ha (name, b) given f hf)

end Table

/-! ### Schemas from contexts -/

/-- The schema of a builder is the same at every greater depth. -/
theorem Context.build_of_le {c : Context} {name : String} {depth depth' : Nat} {s : Schema}
    (hle : depth ≤ depth') (h : (c.build name depth).2 = some (.ok s)) :
    (c.build name depth').2 = some (.ok s) := by
  obtain ⟨b, found, made⟩ := build_eq_ok_iff.mp h
  exact build_eq_ok_iff.mpr ⟨b, found, Schema.configured_of_le hle made⟩

/-- A call on a context mentions the schemas among its arguments, and those that an extension among
them mentions. -/
inductive Context.Call.Mentions : Call → Schema → Prop where
  | extension {a : Extension Schema} {p : Schema} (mentions : a.Mentions p) :
      Mentions (.useExtension a) p
  | property {ps : List (String × Schema)} {p : String × Schema} (mem : p ∈ ps) :
      Mentions (.objectOf ps) p.2
  | objectElement (e : Schema) : Mentions (.objectOfElement e) e
  | element (e : Schema) : Mentions (.arrayOf e) e

namespace Schema

open Context

/-- The schemas that can be had: the answers of a context, whatever was called on it before, and
what building calls make of such schemas, where all schemas that are mentioned were had before. -/
inductive Obtained : Schema → Prop where
  | answered {c : Context} {calls : List Call} {call : Call} {s : Schema}
      (start : c = Context.empty ∨ c = Context.standard)
      (before : ∀ earlier ∈ calls, ∀ p, earlier.Mentions p → Obtained p)
      (mentioned : ∀ p, call.Mentions p → Obtained p)
      (answer : ((c.after calls).step call).2 = .schema s) : Obtained s
  | edited {s s' : Schema} {e : Edit Schema} (of : Obtained s)
      (mentioned : ∀ p ∈ e.parts, Obtained p) (made : s.edit e = .ok s') : Obtained s'
  | extended {s s' : Schema} {depth : Nat} {name : String} {arg : Json} (of : Obtained s)
      (made : s.extend depth name arg = some (.ok s')) : Obtained s'

variable {es : List (Extension Schema)} {calls : List Call} {call : Call} {s : Schema}
  {P : Schema → Prop}

/-- The schemas that the accepted extensions mention are mentioned in calls, where the first ones
mention none. -/
theorem exists_of_mentions_extensionsBy (hes : ∀ a ∈ es, ∀ p, ¬a.Mentions p) {p : Schema}
    (h : (Table.fold (extensionsBy es calls)).Mentions p) : ∃ c ∈ calls, c.Mentions p := by
  obtain ⟨a, ha, hmentions⟩ := Table.exists_of_mentions_fold h
  rcases Extension.mem_foldl_acceptNext ha with ha | ha
  · exact (hes a ha p hmentions).elim
  · obtain ⟨c, hc, hextension⟩ := List.mem_filterMap.mp ha
    refine ⟨c, (List.takeWhile_sublist _).subset hc, ?_⟩
    cases c with
    | useExtension a' =>
        obtain rfl := Option.some.inj hextension
        exact .extension hmentions
    | _ => contradiction

/-- An invariant holds throughout what a context answers, when it does throughout what the context
brings in and the call mentions. -/
theorem Invariant.throughout_of_makes (hP : Invariant P) {t : Table Schema} {d : Defaults}
    (htable : ∀ p, t.Mentions p → p.Throughout P)
    (hbuilders : ∀ name b, t.builder name = .ok b →
      ∀ f ∈ b.format, t.hasFormat b.kind f = true)
    (hcall : ∀ p, call.Mentions p → p.Throughout P) (h : call.Makes t d s) : s.Throughout P := by
  have hkept := hP.kept
  have hbare (kind : Kind) {format : Option String}
      (hformat : ∀ f ∈ format, t.hasFormat kind f = true) :
      (d.bare t kind format).Throughout P :=
    .intro (hP.bare _ _ hformat) nofun htable
  have hplain {kind : Kind} : ∀ f ∈ (none : Option String), t.hasFormat kind f = true := by simp
  cases h with
  | ofKind kind => exact hbare kind hplain
  | @build name _ b _ found made =>
      exact hkept.configured htable found (hbare b.kind (hbuilders name b found)) made
  | objectOf made =>
      exact hkept.properties (hbare .object hplain) (fun p hp => hcall p.2 (.property hp)) made
  | arrayOf e => exact hkept.element rfl (hbare .array hplain) (hcall e (.element e))

theorem buildersDeclared_standard : Extension.BuildersDeclared Standard.extensions := by
  intro a ha b hb f hf
  simp only [Standard.extensions, List.mem_cons, List.not_mem_nil, or_false] at ha
  rcases ha with rfl | rfl
  · obtain ⟨k, -, rfl⟩ := List.mem_map.mp hb
    contradiction
  · contradiction

/-- A hook that makes one call mentions what the call does. -/
theorem not_mentions_callHook {call : Json → Except BuildError (Edit (Ref Schema))}
    (hcall : ∀ arg e, call arg = .ok e → e.parts = []) {x : View} {arg : Json} (p : Schema) :
    ¬((Standard.callHook call).script x arg).Mentions p := by
  intro h
  simp only [Standard.callHook] at h
  split at h
  · rename_i e he
    obtain ⟨c, hc, mem⟩ := Script.exists_of_mentions_inOrder h
    obtain rfl := List.mem_singleton.mp hc
    rw [Step.parts, hcall arg e he] at mem
    contradiction
  · contradiction

theorem parts_of_numberArgument {name : String} {f : Double → Edit (Ref Schema)} {arg : Json}
    {e : Edit (Ref Schema)} (hf : ∀ x, (f x).parts = [])
    (h : (Standard.numberArgument name arg).map f = .ok e) : e.parts = [] := by
  cases hx : Standard.numberArgument name arg with
  | error err =>
      rw [hx] at h
      contradiction
  | ok x =>
      rw [hx] at h
      obtain rfl := Except.ok.inj h
      exact hf x

/-- The extensions of the standard context mention no schemas. -/
theorem not_mentions_standard {a : Extension Schema} (ha : a ∈ Standard.extensions) (p : Schema) :
    ¬a.Mentions p := by
  simp only [Standard.extensions, List.mem_cons, List.not_mem_nil, or_false] at ha
  rintro (⟨given, mentions⟩ | ⟨given, configures, mentions⟩)
  · rcases ha with rfl | rfl
    · contradiction
    · simp only [Standard.constraints, List.mem_cons, Prod.mk.injEq, List.not_mem_nil,
        or_false] at given
      rcases given with ⟨-, rfl⟩ | ⟨-, rfl⟩ | ⟨-, rfl⟩
      · exact not_mentions_callHook (fun _ _ => parts_of_numberArgument fun _ => rfl) p mentions
      · exact not_mentions_callHook (fun _ _ => parts_of_numberArgument fun _ => rfl) p mentions
      · refine not_mentions_callHook ?_ p mentions
        intro arg e he
        split at he
        · exact Except.ok.inj he ▸ rfl
        · contradiction
  · rcases ha with rfl | rfl
    · obtain ⟨k, -, hbuilder⟩ := List.mem_map.mp given
      obtain ⟨-, rfl⟩ := Prod.mk.inj hbuilder
      contradiction
    · contradiction

/-- An invariant holds throughout every schema that can be had. -/
theorem throughout_of_obtained (hP : Invariant P) (h : s.Obtained) : s.Throughout P := by
  -- The nodes alone would not do: a hook of the table may put a schema anywhere later on, so that
  -- the induction carries what the tables bring in as well.
  induction h with
  | @answered c calls call s start _ _ answer ihbefore ihmentioned =>
      obtain ⟨es, rfl, hmentions, hdeclared⟩ : ∃ es, c = Context.ofExtensions es ∧
          (∀ a ∈ es, ∀ p, ¬a.Mentions p) ∧ Extension.BuildersDeclared es := by
        rcases start with rfl | rfl
        · exact ⟨[], rfl, nofun, nofun⟩
        · exact ⟨Standard.extensions, rfl, fun a => not_mentions_standard,
            buildersDeclared_standard⟩
      -- The table holds what the calls before registered, whether they froze the context or not.
      rw [step_schema_iff, (stands_after es calls).capabilities_eq] at answer
      refine hP.throughout_of_makes ?_ ?_ ihmentioned answer
      · intro p hp
        obtain ⟨earlier, hearlier, hcall⟩ := exists_of_mentions_extensionsBy hmentions hp
        exact ihbefore earlier hearlier p hcall
      · intro name b
        exact Table.hasFormat_of_builder_fold (hdeclared.foldl _)
  | edited _ _ made ihof ihmentioned => exact hP.kept.call ihof ihmentioned made
  | extended _ made ihof => exact hP.kept.extend ihof made

/-- Every schema that can be had from contexts, by any calls and whatever extensions are
registered, is well formed at every node. -/
theorem wellFormed_of_obtained (h : s.Obtained) : s.Forall WellFormed :=
  (throughout_of_obtained invariant_wellFormed h).toForall

/-- Every schema that can be had is made of bare nodes by single calls: builders, extend hooks and
contexts make no others. -/
theorem constructible_of_obtained (h : s.Obtained) : s.Constructible :=
  (throughout_of_obtained invariant_constructible h).here

/-- An extension that is refused, as nobody declares its format. -/
def streets : Extension Schema :=
  { name := "streets"
    builders := [("street", { kind := .string, format := some "street" })] }

/-- An extension with a format, a builder for it and an extend hook. -/
def zips : Extension Schema :=
  { name := "zips"
    formats := [(.string, "zip")]
    builders :=
      [("zip",
          { kind := .string
            format := some "zip"
            configure := some fun _ => .inOrder [.edit (.required false)] })]
    hooks := [("sealed", { script := fun _ _ => .inOrder [.edit (.strict true)] })] }

/-- An address with an optional postal code, which refuses all other properties. -/
def address : Schema :=
  let table : Table Schema := Table.fold (Standard.extensions ++ [zips])
  .mk { kind := .object, strict := true } table
    (.properties [("zip", .ofNode { kind := .string, format := some "zip", required := false }
      table)])
    .none

theorem not_mentions_streets (p : Schema) : ¬streets.Mentions p := by
  rintro (⟨given, -⟩ | ⟨given, configures, -⟩)
  · contradiction
  · obtain ⟨-, rfl⟩ := Prod.mk.inj (List.mem_singleton.mp given)
    contradiction

theorem not_mentions_zips (p : Schema) : ¬zips.Mentions p := by
  rintro (⟨given, mentions⟩ | ⟨given, configures, mentions⟩)
  · obtain ⟨-, rfl⟩ := Prod.mk.inj (List.mem_singleton.mp given)
    obtain ⟨c, hc, mem⟩ := Script.exists_of_mentions_inOrder mentions
    obtain rfl := List.mem_singleton.mp hc
    contradiction
  · obtain ⟨-, rfl⟩ := Prod.mk.inj (List.mem_singleton.mp given)
    obtain rfl := Option.some.inj configures
    obtain ⟨c, hc, mem⟩ := Script.exists_of_mentions_inOrder mentions
    obtain rfl := List.mem_singleton.mp hc
    contradiction

/-- The address is obtained from the standard context: one extension is refused, the other one is
registered, a postal code is built and put into an object, and the object is sealed. -/
theorem obtained_address : address.Obtained := by
  let calls : List Call := [.useExtension streets, .useExtension zips]
  have hcalls : ∀ c ∈ calls, ∀ p, ¬c.Mentions p := by
    intro c hc p hp
    simp only [calls, List.mem_cons, List.not_mem_nil, or_false] at hc
    rcases hc with rfl | rfl
    · cases hp with
      | extension mentions => exact not_mentions_streets p mentions
    · cases hp with
      | extension mentions => exact not_mentions_zips p mentions
  let table : Table Schema := Table.fold (Standard.extensions ++ [zips])
  let zip : Schema :=
    .ofNode { kind := .string, format := some "zip", required := false } table
  have hzip : zip.Obtained := by
    have hanswer : ((Context.standard.after calls).step (.build "zip" 0)).2 = .schema zip := rfl
    refine .answered (.inr rfl) ?_ ?_ hanswer
    · exact fun c hc p hp => (hcalls c hc p hp).elim
    · intro p hp
      cases hp
  let object : Schema := .mk { kind := .object } table (.properties [("zip", zip)]) .none
  have hobject : object.Obtained := by
    have hanswer : ((Context.standard.after calls).step (.objectOf [("zip", zip)])).2 =
        .schema object := rfl
    refine .answered (.inr rfl) ?_ ?_ hanswer
    · exact fun c hc p hp => (hcalls c hc p hp).elim
    · rintro p (_ | mem | _)
      obtain rfl := List.mem_singleton.mp mem
      exact hzip
  have hsealed : object.extend 1 "sealed" .null = some (.ok address) := rfl
  exact .extended hobject hsealed

theorem wellFormed_address : address.Obtained ∧ address.Forall WellFormed :=
  ⟨obtained_address, wellFormed_of_obtained obtained_address⟩

end Schema

end Conform
