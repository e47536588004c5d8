import Conform.Proofs.Config.Record
import Conform.Proofs.Config.Scanning
import Conform.Proofs.Json.Distinct
import Conform.Proofs.Json.Head
import Mathlib.Data.List.Perm.Subperm

/-!
# Two readers of configurations

A configuration is read from JSON text in one pass over its characters, and from a JSON value by
recursion.  On the compact text of a value both come to the same configuration or both refuse it.
-/

namespace Conform

namespace Config

open Scanner

variable {α β : Type} {s : Scanner α} {f : α → Scanner β} {g : α → Except ConfigError β}
  {a : α} {o : Except ConfigError α} {p : Except ConfigError β} {cs mid rest : List Char}

/-- A scanner does on a text what an outcome says: it reads a result, or refuses. -/
def Follows (s : Scanner α) (o : Except ConfigError α) (cs rest : List Char) : Prop :=
  match o with
  | .ok a => Reads s cs a rest
  | .error _ => Refuses s cs

theorem Follows.bind (h : Follows s o cs mid) (hf : ∀ a, o = .ok a → Follows (f a) (g a) mid rest) :
    Follows (s >>= f) (o >>= g) cs rest := by
  cases o with
  | error e => exact Refuses.bind h
  | ok a =>
      have hnext := hf a rfl
      change Follows (s >>= f) (g a) cs rest
      cases hg : g a with
      | error e =>
          rw [hg] at hnext
          exact Reads.bind_refuses h hnext
      | ok b =>
          rw [hg] at hnext
          exact Reads.bind h hnext

theorem Follows.after (h : Reads s cs a mid) (hf : Follows (f a) p mid rest) :
    Follows (s >>= f) p cs rest := by
  cases p with
  | error e => exact h.bind_refuses hf
  | ok b => exact h.bind hf

theorem Follows.map (h : Follows s o cs rest) (g : α → β) :
    Follows (do return g (← s)) (o.map g) cs rest := by
  cases o with
  | error e => exact Refuses.bind h
  | ok a => exact Reads.bind h reads_pure

theorem Follows.placed (h : Follows s o cs rest) : Follows (placed s) o cs rest := by
  cases o with
  | error e => exact Refuses.placed h
  | ok a => exact Reads.placed h

theorem Follows.closedBy {close : Scanner Unit} {closing : Except ConfigError Unit}
    (h : Follows s o cs mid) (hclose : Follows close closing mid rest) :
    Follows (closedBy s close) (o >>= fun a => closing.map fun _ => a) cs rest := by
  cases o with
  | error e => exact Refuses.closedBy h
  | ok a =>
      cases closing with
      | error e => exact Reads.closedBy_refuses h hclose
      | ok _ => exact Reads.closedBy h hclose

/-- A scanner and a reader of values agree about a value, whatever follows its text. -/
def Agrees (s : Scanner α) (read : Json → Except ConfigError α) (v : Json) : Prop :=
  ∀ rest, Follows s (read v) (v.write ++ rest) rest

/-- A value that is refused is refused as a text for its first character. -/
theorem agrees_of_refuses {read : Json → Except ConfigError α} {v : Json}
    (hread : ∃ e, read v = .error e)
    (h : ∀ c cs, v.beginsWith c = true → Refuses s (c :: cs)) : Agrees s read v := by
  intro rest
  obtain ⟨e, he⟩ := hread
  obtain ⟨c, cs, hwrite, hc⟩ := v.exists_beginsWith
  rw [he, hwrite]
  exact h c (cs ++ rest) hc

/-! ### Flags -/

theorem refuses_flag {c : Char} (hspace : Json.isSpace c = false) (ht : c ≠ 't') (hf : c ≠ 'f') :
    Refuses flag (c :: cs) := by
  refine (reads_peekToken hspace).bind_refuses ?_
  split
  · contradiction
  · rename_i h
    exact (ht (Option.some.inj h)).elim
  · rename_i h
    exact (hf (Option.some.inj h)).elim
  · exact (refuses_unexpected _).placed

theorem agrees_flag (v : Json) : Agrees flag flagOfJson v := by
  have hother (hread : ∃ e, flagOfJson v = .error e) (ht : v.beginsWith 't' = false)
      (hf : v.beginsWith 'f' = false) : Agrees flag flagOfJson v :=
    agrees_of_refuses hread fun c cs hc => refuses_flag (Json.apart_of_beginsWith hc).1
      (Json.ne_of_beginsWith hc ht) (Json.ne_of_beginsWith hc hf)
  cases v with
  | bool b =>
      intro rest
      cases b with
      | true =>
          exact (reads_peekToken rfl).bind ((reads_take 't').bind
            ((reads_word ['r', 'u', 'e']).bind reads_pure))
      | false =>
          exact (reads_peekToken rfl).bind ((reads_take 'f').bind
            ((reads_word ['a', 'l', 's', 'e']).bind reads_pure))
  | _ => exact hother ⟨_, rfl⟩ rfl rfl

/-! ### Items of arrays -/

variable {item : Scanner α} {read : Json → Except ConfigError α}

/-- The items of an array as they stand in its text: from the first one on, or after some. -/
def itemsText (first : Bool) (vs : List Json) : List Char :=
  if first then Json.writeItems vs else vs.flatMap fun v => ',' :: v.write

theorem itemsText_nil (first : Bool) : itemsText first [] = [] := by
  cases first <;> rfl

theorem itemsText_cons (first : Bool) (v : Json) (vs : List Json) :
    itemsText first (v :: vs) =
      (if first then [] else [',']) ++ (v.write ++ itemsText false vs) := by
  cases first with
  | false => rfl
  | true =>
      induction vs generalizing v with
      | nil => simp [itemsText, Json.writeItems]
      | cons w vs ih =>
          have hrest := ih w
          simp only [itemsText, ↓reduceIte, List.nil_append, Json.writeItems,
            Bool.false_eq_true] at hrest ⊢
          rw [hrest, List.flatMap_cons]
          rfl

theorem reads_nextItem_end (first : Bool) :
    Reads (nextItem first) (']' :: rest) false (']' :: rest) :=
  (reads_peekToken rfl).bind reads_pure

theorem reads_nextItem (first : Bool) (v : Json) :
    Reads (nextItem first) ((if first then [] else [',']) ++ (v.write ++ rest)) true
      (v.write ++ rest) := by
  obtain ⟨c, cs, hwrite, hc⟩ := v.exists_beginsWith
  obtain ⟨hspace, hbracket, hcomma⟩ := Json.apart_of_beginsWith hc
  rw [hwrite, List.cons_append]
  cases first with
  | true =>
      refine (reads_peekToken hspace).bind ?_
      split
      · contradiction
      · rename_i h
        exact (hbracket (Option.some.inj h)).elim
      · exact reads_pure
  | false =>
      refine (reads_peekToken rfl).bind ((reads_take ',').bind ((reads_peekToken hspace).bind ?_))
      split
      · rename_i h
        exact (hbracket (Option.some.inj h)).elim
      · exact reads_pure
      · contradiction

/-- Items are read for the names as long as there are both, and the others are left. -/
theorem follows_items {vs : List Json} (hitem : ∀ v ∈ vs, Agrees item read v)
    (names : List String) (first : Bool) (rest : List Char) :
    Follows (items item first names) (itemsOfJson read names vs)
      (itemsText first vs ++ ']' :: rest)
      (itemsText (first && names.isEmpty) (vs.drop names.length) ++ ']' :: rest) := by
  induction names generalizing vs first with
  | nil =>
      have hnone : itemsOfJson read [] vs = .ok [] := by cases vs <;> rfl
      rw [hnone, items, List.isEmpty_nil, Bool.and_true]
      exact reads_pure
  | cons name names ih =>
      rw [items]
      cases vs with
      | nil =>
          rw [List.drop_nil, itemsText_nil, itemsText_nil]
          exact (reads_nextItem_end first).bind reads_pure
      | cons v vs =>
          obtain ⟨hv, hvs⟩ := List.forall_mem_cons.mp hitem
          have hrest := ih hvs false
          rw [Bool.false_and] at hrest
          rw [itemsText_cons, List.append_assoc, List.append_assoc, List.isEmpty_cons,
            Bool.and_false]
          refine .after (reads_nextItem first v) ?_
          exact (hv _).bind fun a _ => hrest.bind fun fs _ => reads_pure

theorem refuses_closeArray {c : Char} (hspace : Json.isSpace c = false) (hc : c ≠ ']') :
    Refuses closeArray (c :: cs) := by
  refine (reads_peekToken hspace).bind_refuses ?_
  split
  · rename_i h
    exact (hc (Option.some.inj h)).elim
  · refine refuses_bind _ fun _ _ => refuses_bind _ fun _ _ => ?_
    split <;> exact refuses_failNext _
  · exact refuses_failNext _
  · exact refuses_failNext _

theorem follows_closeArray (first : Bool) (vs : List Json) (e : ConfigError) (rest : List Char) :
    Follows closeArray (if vs = [] then .ok () else .error e)
      (itemsText first vs ++ ']' :: rest) rest := by
  cases vs with
  | nil =>
      rw [if_pos rfl, itemsText_nil]
      exact (reads_peekToken rfl).bind (reads_take ']')
  | cons v vs =>
      obtain ⟨c, cs, hwrite, hc⟩ := v.exists_beginsWith
      obtain ⟨hspace, hbracket, -⟩ := Json.apart_of_beginsWith hc
      rw [if_neg (List.cons_ne_nil v vs), itemsText_cons, hwrite]
      cases first with
      | true => exact refuses_closeArray hspace hbracket
      | false => exact refuses_closeArray rfl (by decide)

/-! ### Entries of objects -/

/-- The entries of an object as they stand in its text: from the first one on, or after some. -/
def entriesText (first : Bool) (fields : Fields Json) : List Char :=
  if first then Json.writeFields fields
  else fields.flatMap fun f => ',' :: (Json.writeString f.1 ++ ':' :: f.2.write)

theorem entriesText_nil (first : Bool) : entriesText first [] = [] := by
  cases first <;> rfl

theorem entriesText_cons (first : Bool) (name : String) (v : Json) (fields : Fields Json) :
    entriesText first ((name, v) :: fields) = (if first then [] else [',']) ++
      (Json.writeString name ++ ':' :: (v.write ++ entriesText false fields)) := by
  cases first with
  | false => simp [entriesText]
  | true =>
      induction fields generalizing name v with
      | nil => simp [entriesText, Json.writeFields]
      | cons f fields ih =>
          obtain ⟨name', w⟩ := f
          have hrest := ih name' w
          simp only [entriesText, ↓reduceIte, List.nil_append, Json.writeFields,
            Bool.false_eq_true] at hrest ⊢
          rw [hrest, List.flatMap_cons]
          simp

theorem reads_nextKey_end (first : Bool) :
    Reads (nextKey first) ('\x7d' :: rest) false ('\x7d' :: rest) :=
  (reads_peekToken rfl).bind reads_pure

theorem reads_nextKey (first : Bool) (name : String) :
    Reads (nextKey first) ((if first then [] else [',']) ++ (Json.writeString name ++ rest)) true
      (Json.writeString name ++ rest) := by
  cases first with
  | true => exact (reads_peekToken rfl).bind reads_pure
  | false =>
      exact (reads_peekToken rfl).bind ((reads_take ',').bind
        ((reads_peekToken rfl).bind reads_pure))

theorem reads_colon : Reads colon (':' :: rest) () rest :=
  (reads_peekToken rfl).bind (reads_take ':')

/-- Names that were read are known and different, so that there is fuel left. -/
theorem exists_fuel {names : List String} {before : Fields α} {fuel : Nat}
    (hdistinct : (before.map Prod.fst).Nodup) (hknown : ∀ name ∈ before.map Prod.fst, name ∈ names)
    (hfuel : fuel + before.length = names.length + 1) : ∃ n, fuel = n + 1 := by
  have hbefore := (hdistinct.subperm hknown).length_le
  rw [List.length_map] at hbefore
  exact Nat.exists_eq_add_one.mpr (by omega)

/-- An entry that comes first in order is the latest but those before it. -/
theorem map_reverse_cons (name : String) (before : Fields α) (o : Except ConfigError α)
    (later : Except ConfigError (Fields α)) :
    Except.map (fun fs : Fields α => fs.reverse ++ before) (do
      let a ← o
      let fs ← later
      return (name, a) :: fs) =
    (do
      let a ← o
      later.map fun fs : Fields α => fs.reverse ++ (name, a) :: before) := by
  cases o with
  | error e => rfl
  | ok a =>
      cases later with
      | error e => rfl
      | ok fs => simp [bind, Except.bind, pure, Except.pure, Except.map]

/-- The entries of an object are read to its end, and come out latest first. -/
theorem follows_entries {names : List String} {fields : Fields Json} {before : Fields α}
    {fuel : Nat} (first : Bool) (hitem : ∀ f ∈ fields, Agrees item read f.2)
    (hdistinct : (before.map Prod.fst ++ fields.map Prod.fst).Nodup)
    (hknown : ∀ name ∈ before.map Prod.fst, name ∈ names)
    (hfuel : fuel + before.length = names.length + 1) :
    Follows (entries names item fuel first before)
      ((entriesOfJson names read fields).map fun fs => fs.reverse ++ before)
      (entriesText first fields ++ '\x7d' :: rest) ('\x7d' :: rest) := by
  obtain ⟨left, rfl⟩ := exists_fuel hdistinct.of_append_left hknown hfuel
  induction fields generalizing before left first with
  | nil =>
      rw [entriesText_nil, entries]
      exact (reads_nextKey_end first).bind reads_pure
  | cons f fields ih =>
      obtain ⟨name, v⟩ := f
      obtain ⟨hv, hfields⟩ := List.forall_mem_cons.mp hitem
      rw [entriesText_cons, List.append_assoc, List.append_assoc, List.cons_append,
        List.append_assoc, entries, entriesOfJson]
      refine .after (reads_nextKey first name) (.after (reads_string name) ?_)
      by_cases hname : name ∈ names
      · have hcontains : names.contains name = true := List.contains_iff_mem.mpr hname
        have hapart := (List.nodup_append.mp hdistinct).2.2
        have hfresh : before.contains name = false := by
          have hnone : before.get? name = none := Fields.get?_eq_none_iff.mpr fun hmem =>
            hapart name hmem name List.mem_cons_self rfl
          rw [Fields.contains, hnone, Option.isSome_none]
        simp only [hcontains, hfresh, Bool.not_true, Bool.false_eq_true, ↓reduceIte]
        refine .after reads_colon ?_
        rw [map_reverse_cons]
        refine (hv _).bind fun a _ => ?_
        have hmoved : (((name, a) :: before).map Prod.fst ++ fields.map Prod.fst).Nodup :=
          List.perm_middle.nodup_iff.mp hdistinct
        have hknown' : ∀ other ∈ ((name, a) :: before).map Prod.fst, other ∈ names :=
          List.forall_mem_cons.mpr ⟨hname, hknown⟩
        have hfuel' : left + ((name, a) :: before).length = names.length + 1 := by
          rw [List.length_cons]
          omega
        obtain ⟨left, rfl⟩ := exists_fuel hmoved.of_append_left hknown' hfuel'
        exact ih false hfields hmoved hknown' left hfuel'
      · have hmissing : names.contains name = false := by simpa using hname
        simp only [hmissing, Bool.not_false, Bool.false_eq_true, ↓reduceIte]
        exact (refuses_raise _).bind

/-! ### Records -/

variable {v : Json}

theorem agrees_array {vs : List Json} (hitem : ∀ v ∈ vs, Agrees item read v) (expected : String)
    (names : List String) :
    Agrees (record expected names item) (recordOfJson expected names read) (.arr vs) := by
  intro rest
  have hitems := follows_items hitem names true rest
  have hclose := follows_closeArray (true && names.isEmpty) (vs.drop names.length)
    ⟨.tooManyItems vs.length, none⟩ rest
  have houtcome : recordOfJson expected names read (.arr vs) =
      itemsOfJson read names vs >>= fun fs =>
        (if vs.drop names.length = [] then .ok ()
          else .error ⟨.tooManyItems vs.length, none⟩ : Except ConfigError Unit).map
            fun _ => fs := by
    simp only [recordOfJson, List.drop_eq_nil_iff]
    congr 1
    funext fs
    split <;> rfl
  rw [houtcome, Json.write, List.cons_append, List.append_assoc, List.singleton_append]
  refine .after (reads_peekToken rfl) ?_
  exact (Follows.after (reads_take '[') (hitems.closedBy hclose)).placed

theorem follows_object {fields : Fields Json} (hnames : (fields.map Prod.fst).Nodup)
    (hitem : ∀ f ∈ fields, Agrees item read f.2) (expected : String) (names : List String) :
    Follows (record expected names item)
      ((recordOfJson expected names read (.obj fields)).map List.reverse)
      ((Json.obj fields).write ++ rest) rest := by
  have hentries : Follows (entries names item (names.length + 1) true [])
      ((entriesOfJson names read fields).map List.reverse)
      (entriesText true fields ++ '\x7d' :: rest) ('\x7d' :: rest) := by
    have h := @follows_entries _ rest item read names fields [] (names.length + 1) true hitem hnames
      nofun rfl
    simpa only [List.append_nil] using h
  have hclose : Follows closeObject (.ok ()) ('\x7d' :: rest) rest :=
    (reads_peekToken rfl).bind (reads_take '\x7d')
  have houtcome : (recordOfJson expected names read (.obj fields)).map List.reverse =
      (entriesOfJson names read fields).map List.reverse >>= fun fs =>
        (Except.ok () : Except ConfigError Unit).map fun _ => fs := by
    rw [recordOfJson, Fields.distinct_of_nodup hnames]
    cases entriesOfJson names read fields <;> rfl
  rw [houtcome, Json.write, List.cons_append, List.append_assoc, List.singleton_append]
  refine .after (reads_peekToken rfl) ?_
  exact (Follows.after (reads_take '\x7b') (hentries.closedBy hclose)).placed

/-- Where a value is no object and no array, there is no record. -/
theorem agrees_other (expected : String) (names : List String)
    (hread : ∃ e, recordOfJson expected names read v = .error e)
    (hbracket : v.beginsWith '[' = false) (hbrace : v.beginsWith '\x7b' = false) :
    Agrees (record expected names item) (recordOfJson expected names read) v := by
  refine agrees_of_refuses hread fun c cs hc => ?_
  refine Reads.bind_refuses (reads_peekToken (Json.apart_of_beginsWith hc).1) ?_
  split
  · contradiction
  · rename_i h
    exact (Json.ne_of_beginsWith hc hbracket (Option.some.inj h)).elim
  · rename_i h
    exact (Json.ne_of_beginsWith hc hbrace (Option.some.inj h)).elim
  · exact (refuses_unexpected _).placed

/-- A function of fields that looks entries up by their names. -/
def ByName (of : Fields α → β) : Prop :=
  ∀ fs gs : Fields α, (∀ name, fs.get? name = gs.get? name) → of fs = of gs

/-- Records are read with the same entries, if not in the same order. -/
theorem exists_follows_record {of : Fields α → β} (hof : ByName of) (hv : v.Distinct)
    (hitem : ∀ w : Json, w.Distinct → Agrees item read w) (expected : String)
    (names : List String) (rest : List Char) :
    ∃ o, Follows (record expected names item) o (v.write ++ rest) rest ∧
      o.map of = (recordOfJson expected names read v).map of := by
  cases hv with
  | arr inside =>
      exact ⟨_, agrees_array (fun w hw => hitem w (inside w hw)) expected names rest, rfl⟩
  | @obj fields hnames inside =>
      refine ⟨_, follows_object hnames (fun f hf => hitem f.2 (inside f hf)) expected names, ?_⟩
      cases hread : recordOfJson expected names read (.obj fields) with
      | error e => rfl
      | ok fs =>
          rw [recordOfJson, Fields.distinct_of_nodup hnames] at hread
          have hfs : (fs.map Prod.fst).Nodup :=
            names_of_decodes (entriesOfJson_eq_ok_iff.mp hread).2 ▸ hnames
          exact congrArg Except.ok (hof _ _ (Fields.get?_of_perm (List.reverse_perm fs) hfs))
  | null => exact ⟨_, agrees_other expected names ⟨_, rfl⟩ rfl rfl rest, rfl⟩
  | bool b => exact ⟨_, agrees_other expected names ⟨_, rfl⟩ (by cases b <;> rfl)
      (by cases b <;> rfl) rest, rfl⟩
  | num n => exact ⟨_, agrees_other expected names ⟨_, rfl⟩ rfl rfl rest, rfl⟩
  | str t => exact ⟨_, agrees_other expected names ⟨_, rfl⟩ rfl rfl rest, rfl⟩

theorem byName_defaults : ByName Defaults.ofFields := by
  intro fs gs h
  simp only [Defaults.ofFields, h]

theorem byName_config : ByName ofFields := by
  intro fs gs h
  simp only [ofFields, h]

theorem agrees_defaults (hv : v.Distinct) :
    Agrees (do return Defaults.ofFields (← record Defaults.expected Defaults.names flag))
      defaultsOfJson v := by
  intro rest
  obtain ⟨o, hfollows, ho⟩ := exists_follows_record byName_defaults hv
    (fun w _ => agrees_flag w) Defaults.expected Defaults.names rest
  rw [defaultsOfJson, ← ho]
  exact hfollows.map Defaults.ofFields

/-- The whole text of a value is read as the value is. -/
theorem follows_config (hv : v.Distinct) : Follows config (ofJson v) v.write [] := by
  obtain ⟨o, hfollows, ho⟩ := exists_follows_record byName_config hv
    (fun w hw => agrees_defaults hw) expected names []
  rw [List.append_nil] at hfollows
  rw [ofJson, ← ho]
  cases o with
  | error e => exact Refuses.bind hfollows
  -- nothing is left behind the record
  | ok fs => exact Reads.bind hfollows (reads_peekToken_nil.bind reads_pure)

/-- The compact text of a value is read as the value is, or refused where the value is. -/
theorem ofText_text_eq_ok_iff (hv : v.Distinct) (c : Config) :
    ofText v.text = .ok c ↔ ofJson v = .ok c := by
  have hfollows := follows_config hv
  have hstart : v.text.toList = v.write := String.toList_ofList
  rw [ofText, hstart]
  cases hread : ofJson v with
  | error e =>
      rw [hread] at hfollows
      obtain ⟨e', c', hrun⟩ := hfollows { rest := v.write } rfl
      simp [hrun]
  | ok c' =>
      rw [hread] at hfollows
      obtain ⟨c'', hrun, -⟩ := hfollows { rest := v.write } rfl
      simp [hrun]

/-- The two readers agree: the compact text of a value is read as the same configuration as the
value, or neither is read.  An object is read exactly when it has no other key than `defaults` and
the value there, if there is one, gives flags: an object of booleans under the names of flags, or an
array of at most three booleans in the order of these.  Each flag given is taken from there, and
each other one keeps its default. -/
theorem readers_agree {v : Json} (hv : v.Distinct) :
    (∀ c, ofText v.text = .ok c ↔ ofJson v = .ok c) ∧
      ∀ fields, v = .obj fields →
        ((∃ c, ofJson v = .ok c) ↔
          (∀ name, (Fields.get? fields name).isSome → name = "defaults") ∧
            ∀ flags, Fields.get? fields "defaults" = some flags → GivesFlags flags) ∧
        ∀ c, ofJson v = .ok c → TakenFrom
          (fun name => (Fields.get? fields "defaults").bind (entryIn Defaults.names name))
          c.defaults := by
  refine ⟨ofText_text_eq_ok_iff hv, ?_⟩
  rintro fields rfl
  exact ⟨exists_ofJson_obj_iff, fun c => takenFrom_of_ofJson⟩

/-- Two of the flags in an object, in the other order. -/
theorem readers_agree_partial :
    let v : Json :=
      .obj [("defaults", .obj [("nullable", .bool true), ("required", .bool false)])]
    v.Distinct ∧ ofText v.text = .ok { defaults := { required := false, nullable := true } } := by
  intro v
  have hflags : ∀ f ∈ [("nullable", Json.bool true), ("required", Json.bool false)],
      f.2.Distinct := by
    simpa using ⟨Json.Distinct.bool true, Json.Distinct.bool false⟩
  have hv : v.Distinct :=
    .obj (List.nodup_singleton "defaults") (by simpa using .obj (by decide) hflags)
  exact ⟨hv, ((readers_agree hv).1 _).mpr rfl⟩

end Config

end Conform
