import Conform.Config.Basic
import Conform.Proofs.Fields
import Mathlib.Data.List.Forall2

/-!
# Which values are configurations

A record is an object with some of its names, or an array of at most as many values.  From this it
follows which values are configurations, and where each flag of one comes from.
-/

namespace Conform.Config

open Fields

variable {α : Type} {read : Json → Except ConfigError α} {names : List String}
  {es fields : Fields Json} {items : List Json} {fs : Fields α} {v : Json}

theorem map_eq_ok_iff {β : Type} {f : α → β} {o : Except ConfigError α} {b : β} :
    o.map f = .ok b ↔ ∃ a, o = .ok a ∧ f a = b := by
  cases o <;> simp [Except.map]

theorem exists_map_eq_ok_iff {β : Type} {f : α → β} {o : Except ConfigError α} :
    (∃ b, o.map f = .ok b) ↔ ∃ a, o = .ok a := by
  cases o <;> simp [Except.map]

/-! ### Entries -/

/-- An entry is read as one of the same name. -/
def Decodes (read : Json → Except ConfigError α) (e : String × Json) (f : String × α) : Prop :=
  f.1 = e.1 ∧ read e.2 = .ok f.2

theorem cons_eq_ok_iff {name : String} {o : Except ConfigError α}
    {later : Except ConfigError (Fields α)} :
    (do
      let a ← o
      let gs ← later
      return (name, a) :: gs) = Except.ok fs ↔
      ∃ a gs, o = .ok a ∧ later = .ok gs ∧ fs = (name, a) :: gs := by
  cases o with
  | error e => simp [bind, Except.bind]
  | ok a =>
      cases later with
      | error e => simp [bind, Except.bind]
      | ok gs => simp [bind, Except.bind, pure, Except.pure, eq_comm]

theorem forall₂_decodes_cons_iff {name : String} :
    List.Forall₂ (Decodes read) ((name, v) :: es) fs ↔
      ∃ a gs, read v = .ok a ∧ List.Forall₂ (Decodes read) es gs ∧ fs = (name, a) :: gs := by
  rw [List.forall₂_cons_left_iff]
  constructor
  · rintro ⟨⟨_, a⟩, gs, ⟨rfl, ha⟩, hgs, rfl⟩
    exact ⟨a, gs, ha, hgs, rfl⟩
  · rintro ⟨a, gs, ha, hgs, rfl⟩
    exact ⟨(name, a), gs, ⟨rfl, ha⟩, hgs, rfl⟩

/-- The entries of an object are read one by one if their names are known. -/
theorem entriesOfJson_eq_ok_iff : entriesOfJson names read fields = .ok fs ↔
    (∀ e ∈ fields, e.1 ∈ names) ∧ List.Forall₂ (Decodes read) fields fs := by
  induction fields generalizing fs with
  | nil => simp [entriesOfJson, eq_comm]
  | cons e fields ih =>
      obtain ⟨name, v⟩ := e
      rw [entriesOfJson, List.forall_mem_cons, forall₂_decodes_cons_iff]
      by_cases hname : name ∈ names
      · rw [if_pos (List.contains_iff_mem.mpr hname), cons_eq_ok_iff]
        constructor
        · rintro ⟨a, gs, ha, hgs, rfl⟩
          obtain ⟨hknown, hgs⟩ := ih.mp hgs
          exact ⟨⟨hname, hknown⟩, a, gs, ha, hgs, rfl⟩
        · rintro ⟨⟨-, hknown⟩, a, gs, ha, hgs, rfl⟩
          exact ⟨a, gs, ha, ih.mpr ⟨hknown, hgs⟩, rfl⟩
      · rw [if_neg (by simpa using hname)]
        constructor
        · intro h
          contradiction
        · rintro ⟨⟨h, -⟩, -⟩
          exact (hname h).elim

theorem itemsOfJson_eq_ok_iff :
    itemsOfJson read names items = .ok fs ↔ List.Forall₂ (Decodes read) (names.zip items) fs := by
  induction names generalizing items fs with
  | nil => cases items <;> simp [itemsOfJson, eq_comm]
  | cons name names ih =>
      cases items with
      | nil => simp [itemsOfJson, eq_comm]
      | cons v items => simp only [itemsOfJson, List.zip_cons_cons, cons_eq_ok_iff, ih,
          forall₂_decodes_cons_iff]

theorem exists_forall₂_decodes_iff :
    (∃ fs, List.Forall₂ (Decodes read) es fs) ↔ ∀ e ∈ es, ∃ a, read e.2 = .ok a := by
  induction es with
  | nil => simp
  | cons e es ih =>
      obtain ⟨name, v⟩ := e
      rw [List.forall_mem_cons, ← ih]
      simp only [forall₂_decodes_cons_iff]
      constructor
      · rintro ⟨_, a, gs, ha, hgs, rfl⟩
        exact ⟨⟨a, ha⟩, gs, hgs⟩
      · rintro ⟨⟨a, ha⟩, gs, hgs⟩
        exact ⟨_, a, gs, ha, hgs, rfl⟩

/-- What stands under a name was read from what stood under it. -/
theorem rel_get?_of_decodes (h : List.Forall₂ (Decodes read) es fs) (name : String) :
    Option.Rel (fun v a => read v = .ok a) (es.get? name) (fs.get? name) := by
  induction h with
  | nil => exact .none
  | @cons e f es fs hef _ ih =>
      obtain ⟨n, v⟩ := e
      obtain ⟨m, a⟩ := f
      obtain ⟨rfl, hread⟩ := hef
      rw [Fields.get?_cons, Fields.get?_cons]
      split
      · exact .some hread
      · exact ih

theorem names_of_decodes (h : List.Forall₂ (Decodes read) es fs) :
    fs.map Prod.fst = es.map Prod.fst := by
  induction h with
  | nil => rfl
  | cons hef _ ih => rw [List.map_cons, List.map_cons, ih, hef.1]

/-! ### Records -/

variable {expected : String}

theorem recordOfJson_arr_eq_ok_iff : recordOfJson expected names read (.arr items) = .ok fs ↔
    items.length ≤ names.length ∧ List.Forall₂ (Decodes read) (names.zip items) fs := by
  rw [← itemsOfJson_eq_ok_iff, recordOfJson]
  cases itemsOfJson read names items with
  | error e => simp [bind, Except.bind]
  | ok gs =>
      by_cases hlength : items.length ≤ names.length
      · simp [bind, Except.bind, pure, Except.pure, hlength]
      · simp [bind, Except.bind, hlength, throw, throwThe, MonadExceptOf.throw]

/-- An object is a record if its names are known and each value can be read. -/
theorem exists_recordOfJson_obj_iff :
    (∃ fs, recordOfJson expected names read (.obj fields) = .ok fs) ↔
      ∀ name v, fields.get? name = some v → name ∈ names ∧ ∃ a, read v = .ok a := by
  simp only [recordOfJson, entriesOfJson_eq_ok_iff, exists_and_left, exists_forall₂_decodes_iff]
  have hdistinct := nodup_distinct fields
  constructor
  · rintro ⟨hknown, hread⟩ name v hv
    have hmem : (name, v) ∈ fields.distinct := mem_of_get? ((get?_distinct fields name).trans hv)
    exact ⟨hknown _ hmem, hread _ hmem⟩
  · intro h
    have hget {e : String × Json} (he : e ∈ fields.distinct) : fields.get? e.1 = some e.2 := by
      rw [← get?_distinct]
      exact get?_of_mem hdistinct he
    exact ⟨fun e he => (h e.1 e.2 (hget he)).1, fun e he => (h e.1 e.2 (hget he)).2⟩

/-- An array is a record if it is not too long and each value can be read. -/
theorem exists_recordOfJson_arr_iff :
    (∃ fs, recordOfJson expected names read (.arr items) = .ok fs) ↔
      items.length ≤ names.length ∧ ∀ v ∈ items, ∃ a, read v = .ok a := by
  simp only [recordOfJson_arr_eq_ok_iff, exists_and_left, exists_forall₂_decodes_iff]
  refine and_congr_right fun hlength => ?_
  have hitems : (names.zip items).map Prod.snd = items := List.map_snd_zip hlength
  constructor
  · intro h v hv
    rw [← hitems] at hv
    obtain ⟨e, he, rfl⟩ := List.mem_map.mp hv
    exact h e he
  · intro h e he
    refine h e.2 ?_
    rw [← hitems]
    exact List.mem_map_of_mem he

/-- The value that a record has under a name: an object by its entry, an array by the place of the
name. -/
def entryIn (names : List String) (name : String) : Json → Option Json
  | .obj fields => Fields.get? fields name
  | .arr items => Fields.get? (names.zip items) name
  | _ => none

theorem rel_get?_of_recordOfJson (h : recordOfJson expected names read v = .ok fs)
    (name : String) :
    Option.Rel (fun v a => read v = .ok a) (entryIn names name v) (fs.get? name) := by
  cases v with
  | obj fields =>
      have hentries := rel_get?_of_decodes (entriesOfJson_eq_ok_iff.mp h).2 name
      rwa [Fields.get?_distinct] at hentries
  | arr items => exact rel_get?_of_decodes (recordOfJson_arr_eq_ok_iff.mp h).2 name
  | _ => contradiction

/-! ### Flags -/

theorem flagOfJson_eq_ok_iff {b : Bool} : flagOfJson v = .ok b ↔ v = .bool b := by
  cases v <;> simp [flagOfJson]

theorem exists_flagOfJson_iff : (∃ b, flagOfJson v = .ok b) ↔ ∃ b, v = .bool b := by
  simp only [flagOfJson_eq_ok_iff]

/-- A value that gives flags: an object with some of their names, or an array of at most three
values, all of them booleans. -/
inductive GivesFlags : Json → Prop where
  | object {fields : Fields Json}
    (flags : ∀ name v, fields.get? name = some v → name ∈ Defaults.names ∧ ∃ b, v = .bool b) :
    GivesFlags (.obj fields)
  | array {items : List Json} (length : items.length ≤ 3) (flags : ∀ v ∈ items, ∃ b, v = .bool b) :
    GivesFlags (.arr items)

theorem exists_defaultsOfJson_iff : (∃ d, defaultsOfJson v = .ok d) ↔ GivesFlags v := by
  simp only [defaultsOfJson, exists_map_eq_ok_iff]
  cases v with
  | obj fields =>
      rw [exists_recordOfJson_obj_iff]
      simp only [exists_flagOfJson_iff]
      exact ⟨.object, fun | .object flags => flags⟩
  | arr items =>
      rw [exists_recordOfJson_arr_iff]
      simp only [exists_flagOfJson_iff]
      exact ⟨fun h => .array h.1 h.2, fun | .array length flags => ⟨length, flags⟩⟩
  | _ => exact iff_of_false nofun nofun

/-- Flags that are taken from what is given by name, or else are the documented ones. -/
structure TakenFrom (given : String → Option Json) (d : Defaults) : Prop where
  required : given "required" = some (.bool d.required) ∨
    given "required" = none ∧ d.required = true
  strict : given "strict" = some (.bool d.strict) ∨ given "strict" = none ∧ d.strict = false
  nullable : given "nullable" = some (.bool d.nullable) ∨
    given "nullable" = none ∧ d.nullable = false

/-- A flag is the one given, or the one that stands in. -/
theorem flag_of_rel {given : Option Json} {found : Option Bool} (standIn : Bool)
    (h : Option.Rel (fun v b => flagOfJson v = .ok b) given found) :
    given = some (.bool (found.getD standIn)) ∨ given = none ∧ found.getD standIn = standIn := by
  cases h with
  | none => exact .inr ⟨rfl, rfl⟩
  | some hread => exact .inl (congrArg some (flagOfJson_eq_ok_iff.mp hread))

theorem takenFrom_of_defaultsOfJson {d : Defaults} (h : defaultsOfJson v = .ok d) :
    TakenFrom (fun name => entryIn Defaults.names name v) d := by
  obtain ⟨fs, hread, rfl⟩ := map_eq_ok_iff.mp h
  have hrel := rel_get?_of_recordOfJson hread
  exact ⟨flag_of_rel true (hrel "required"), flag_of_rel false (hrel "strict"),
    flag_of_rel false (hrel "nullable")⟩

/-! ### Configurations -/

/-- An object is a configuration if it has at most the flags, and these under the name for them. -/
theorem exists_ofJson_obj_iff : (∃ c, ofJson (.obj fields) = .ok c) ↔
    (∀ name, (fields.get? name).isSome → name = "defaults") ∧
      ∀ v, fields.get? "defaults" = some v → GivesFlags v := by
  simp only [ofJson, exists_map_eq_ok_iff, exists_recordOfJson_obj_iff, exists_defaultsOfJson_iff]
  constructor
  · intro h
    have hname {name : String} {v : Json} (hv : fields.get? name = some v) : name = "defaults" :=
      List.mem_singleton.mp (h name v hv).1
    refine ⟨fun name hsome => ?_, fun v hv => (h "defaults" v hv).2⟩
    obtain ⟨v, hv⟩ := Option.isSome_iff_exists.mp hsome
    exact hname hv
  · rintro ⟨honly, hflags⟩ name v hv
    obtain rfl := honly name (Option.isSome_iff_exists.mpr ⟨v, hv⟩)
    exact ⟨List.mem_singleton_self _, hflags v hv⟩

/-- The flags of a configuration are taken from the value under the name for them. -/
theorem takenFrom_of_ofJson {c : Config} (h : ofJson (.obj fields) = .ok c) :
    TakenFrom (fun name => (fields.get? "defaults").bind (entryIn Defaults.names name))
      c.defaults := by
  obtain ⟨fs, hread, rfl⟩ := map_eq_ok_iff.mp h
  have hrel := rel_get?_of_recordOfJson hread "defaults"
  rw [entryIn] at hrel
  rw [ofFields]
  generalize fields.get? "defaults" = given, fs.get? "defaults" = found at hrel ⊢
  cases hrel with
  | none => exact ⟨.inr ⟨rfl, rfl⟩, .inr ⟨rfl, rfl⟩, .inr ⟨rfl, rfl⟩⟩
  | some hflags => exact takenFrom_of_defaultsOfJson hflags

end Conform.Config
