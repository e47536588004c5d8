import Conform.Fields
import Mathlib.Data.List.Induction
import Mathlib.Data.List.Nodup

/-!
# Looking fields up

How `get?` reads joined and filtered fields, and the view of an object in which every name occurs
once.  A list whose names are distinct is its own view, and putting entries in keeps them distinct.
-/

namespace Conform.Fields

variable {α : Type}

theorem get?_eq_none_iff {fs : Fields α} {name : String} :
    fs.get? name = none ↔ name ∉ fs.map Prod.fst := by
  induction fs with
  | nil => simp
  | cons f rest ih =>
      obtain ⟨n, a⟩ := f
      by_cases h : name = n
      · simp [get?_cons, h]
      · simp [get?_cons, h, ih]

theorem mem_of_get? {fs : Fields α} {name : String} {a : α} (h : fs.get? name = some a) :
    (name, a) ∈ fs := by
  induction fs with
  | nil => contradiction
  | cons f rest ih =>
      obtain ⟨n, b⟩ := f
      by_cases hn : name = n
      · obtain rfl : b = a := by simpa [get?_cons, hn] using h
        simp [hn]
      · exact List.mem_cons_of_mem _ (ih (by simpa [get?_cons, hn] using h))

theorem mem_names_iff {fs : Fields α} {name : String} :
    name ∈ fs.map Prod.fst ↔ (fs.get? name).isSome := by
  rw [Option.isSome_iff_ne_none, ne_eq, get?_eq_none_iff, not_not]

/-- In joined fields the first list is read first. -/
theorem get?_append (fs gs : Fields α) (name : String) :
    get? (fs ++ gs) name = (fs.get? name).or (gs.get? name) := by
  induction fs with
  | nil => simp
  | cons f rest ih =>
      obtain ⟨n, a⟩ := f
      by_cases h : name = n
      · simp [get?_cons, h]
      · simpa [get?_cons, h] using ih

/-- Of entries that are put in one after the other, the last one of a name counts. -/
theorem get?_foldl_insert (entries : List (String × α)) (fs : Fields α) (name : String) :
    get? (entries.foldl (fun fs e => fs.insert e.1 e.2) fs) name =
      (get? entries.reverse name).or (fs.get? name) := by
  induction entries generalizing fs with
  | nil => rfl
  | cons e rest ih =>
      obtain ⟨n, a⟩ := e
      rw [List.foldl_cons, ih, get?_insert, List.reverse_cons, get?_append, get?_cons, get?_nil]
      cases get? rest.reverse name with
      | some b => rfl
      | none =>
          by_cases h : name = n
          · simp [h]
          · simp [h]

/-- A selection by name keeps the entries of the selected names. -/
theorem get?_filter (p : String → Bool) (fs : Fields α) (name : String) :
    get? (fs.filter fun f => p f.1) name = if p name then fs.get? name else none := by
  induction fs with
  | nil => simp
  | cons f rest ih =>
      obtain ⟨n, a⟩ := f
      by_cases hp : p n
      · by_cases h : name = n
        · simp [get?_cons, h, hp]
        · simp [get?_cons, h, hp, ih]
      · by_cases h : name = n
        · subst h
          simp [hp, ih]
        · simp [get?_cons, h, hp, ih]

theorem get?_of_mem {fs : Fields α} (hnd : (fs.map Prod.fst).Nodup) {name : String} {a : α}
    (hmem : (name, a) ∈ fs) : fs.get? name = some a := by
  induction fs with
  | nil => simp at hmem
  | cons f rest ih =>
      obtain ⟨n, b⟩ := f
      simp only [List.map_cons, List.nodup_cons] at hnd
      rcases List.mem_cons.mp hmem with heq | hrest
      · obtain ⟨rfl, rfl⟩ := Prod.mk.inj heq
        simp [get?_cons]
      · have hne : name ≠ n := by
          rintro rfl
          exact hnd.1 (List.mem_map.mpr ⟨(name, a), hrest, rfl⟩)
        simpa [get?_cons, hne] using ih hnd.2 hrest

/-- Where the names are distinct, the order of the entries does not matter. -/
theorem get?_of_perm {fs gs : Fields α} (h : fs.Perm gs) (hnd : (gs.map Prod.fst).Nodup)
    (name : String) : fs.get? name = gs.get? name := by
  have hnd' : (fs.map Prod.fst).Nodup := (h.map Prod.fst).nodup_iff.mpr hnd
  ext a
  exact ⟨fun ha => get?_of_mem hnd (h.mem_iff.mp (mem_of_get? ha)),
    fun ha => get?_of_mem hnd' (h.mem_iff.mpr (mem_of_get? ha))⟩

theorem get?_reverse_eq_some_iff {fs : Fields α} (hnd : (fs.map Prod.fst).Nodup) (name : String)
    (a : α) : get? fs.reverse name = some a ↔ (name, a) ∈ fs := by
  rw [get?_of_perm (List.reverse_perm fs) hnd]
  exact ⟨mem_of_get?, get?_of_mem hnd⟩

/-! ### Every name once -/

theorem get?_distinctFrom (seen : List String) (fs : Fields α) (name : String) :
    get? (distinctFrom seen fs) name = if name ∈ seen then none else fs.get? name := by
  induction fs generalizing seen with
  | nil => simp [distinctFrom]
  | cons f rest ih =>
      obtain ⟨n, a⟩ := f
      by_cases hn : n ∈ seen
      · by_cases h : name = n
        · subst h
          simp [distinctFrom, hn, ih seen]
        · simp [distinctFrom, hn, ih seen, get?_cons, h]
      · by_cases h : name = n
        · simp [distinctFrom, hn, get?_cons, h]
        · simp [distinctFrom, hn, get?_cons, ih, h]

/-- Reading an object and reading its distinct entries is the same. -/
@[simp] theorem get?_distinct (fs : Fields α) (name : String) :
    fs.distinct.get? name = fs.get? name := by
  simp [distinct, get?_distinctFrom]

theorem nodup_distinctFrom (seen : List String) (fs : Fields α) :
    ((distinctFrom seen fs).map Prod.fst).Nodup := by
  induction fs generalizing seen with
  | nil => simp [distinctFrom]
  | cons f rest ih =>
      obtain ⟨n, a⟩ := f
      by_cases hn : n ∈ seen
      · simpa [distinctFrom, hn] using ih seen
      · simp only [distinctFrom, List.contains_eq_mem, hn, decide_false, Bool.false_eq_true,
          ↓reduceIte, List.map_cons, List.nodup_cons]
        refine ⟨?_, ih (n :: seen)⟩
        rw [← get?_eq_none_iff, get?_distinctFrom]
        simp

/-- The names of the distinct entries are distinct. -/
theorem nodup_distinct (fs : Fields α) : (fs.distinct.map Prod.fst).Nodup :=
  nodup_distinctFrom [] fs

theorem distinctFrom_of_nodup {seen : List String} {fs : Fields α}
    (hnd : (fs.map Prod.fst).Nodup) (hseen : ∀ name ∈ fs.map Prod.fst, name ∉ seen) :
    distinctFrom seen fs = fs := by
  induction fs generalizing seen with
  | nil => rfl
  | cons f rest ih =>
      obtain ⟨n, a⟩ := f
      simp only [List.map_cons, List.nodup_cons] at hnd
      have hn : n ∉ seen := hseen n (by simp)
      have hrest : distinctFrom (n :: seen) rest = rest := by
        apply ih hnd.2
        intro name hname hmem
        rcases List.mem_cons.mp hmem with rfl | hmem
        · exact hnd.1 hname
        · exact hseen name (List.mem_cons_of_mem n hname) hmem
      simp [distinctFrom, hn, hrest]

/-- An object whose names are distinct is its own list of distinct entries. -/
theorem distinct_of_nodup {fs : Fields α} (hnd : (fs.map Prod.fst).Nodup) :
    fs.distinct = fs :=
  distinctFrom_of_nodup hnd (by simp)

theorem mem_keys_iff {fs : Fields α} {name : String} :
    name ∈ fs.keys ↔ (fs.get? name).isSome := by
  rw [keys, mem_names_iff, get?_distinct]

/-- Fields with the same names have them in some order, each once. -/
theorem keys_perm {β : Type} {fs : Fields α} {gs : Fields β}
    (h : ∀ name, name ∈ fs.keys ↔ name ∈ gs.keys) : fs.keys.Perm gs.keys :=
  (List.perm_ext_iff_of_nodup (nodup_distinct fs) (nodup_distinct gs)).mpr h

/-! ### Taking entries out -/

/-- Takes the entry of a name out of an object, and moves the last entry into its place. -/
def swapRemove : Fields α → String → Fields α
  | [], _ => []
  | (n, a) :: rest, name =>
    if n = name then
      match rest.getLast? with
      | some last => last :: rest.dropLast
      | none => []
    else (n, a) :: swapRemove rest name

/-- The entries that are left are those of the other names, in some order. -/
theorem swapRemove_perm {fs : Fields α} (hnd : (fs.map Prod.fst).Nodup) (name : String) :
    (fs.swapRemove name).Perm (fs.filter fun f => f.1 != name) := by
  induction fs with
  | nil => exact .nil
  | cons f rest ih =>
      obtain ⟨n, a⟩ := f
      simp only [List.map_cons, List.nodup_cons] at hnd
      by_cases h : n = name
      · subst h
        have hrest : (rest.filter fun f => f.1 != n) = rest := by
          rw [List.filter_eq_self]
          intro f hf
          have hne : f.1 ≠ n := fun heq => hnd.1 (List.mem_map.mpr ⟨f, hf, heq⟩)
          simpa using hne
        rw [swapRemove, if_pos rfl, List.filter_cons_of_neg (by simp), hrest]
        cases hlast : rest.getLast? with
        | none => rw [List.getLast?_eq_none_iff.mp hlast]
        | some last =>
            conv_rhs => rw [← List.dropLast_append_getLast? last hlast]
            exact (List.perm_append_singleton last rest.dropLast).symm
      · rw [swapRemove, if_neg h, List.filter_cons_of_pos (by simpa using h)]
        exact (ih hnd.2).cons (n, a)

example : swapRemove [("a", 0), ("b", 1), ("c", 2), ("d", 3)] "b" =
    [("a", 0), ("d", 3), ("c", 2)] := by decide

theorem nodup_swapRemove {fs : Fields α} (hnd : (fs.map Prod.fst).Nodup) (name : String) :
    ((fs.swapRemove name).map Prod.fst).Nodup := by
  have hfilter : ((fs.filter fun f => f.1 != name).map Prod.fst).Nodup :=
    hnd.sublist (List.filter_sublist.map Prod.fst)
  exact ((swapRemove_perm hnd name).map Prod.fst).nodup_iff.mpr hfilter

/-- An entry that is taken out is gone, and every other name keeps its value. -/
theorem get?_swapRemove {fs : Fields α} (hnd : (fs.map Prod.fst).Nodup) (name other : String) :
    (fs.swapRemove name).get? other = if other = name then none else fs.get? other := by
  have hfilter : ((fs.filter fun f => f.1 != name).map Prod.fst).Nodup :=
    hnd.sublist (List.filter_sublist.map Prod.fst)
  rw [get?_of_perm (swapRemove_perm hnd name) hfilter, get?_filter (fun n => n != name)]
  by_cases h : other = name
  · simp [h]
  · simp [h]

theorem nodup_foldl_swapRemove {fs : Fields α} (hnd : (fs.map Prod.fst).Nodup)
    (names : List String) : ((names.foldl swapRemove fs).map Prod.fst).Nodup := by
  induction names generalizing fs with
  | nil => exact hnd
  | cons name rest ih => exact ih (nodup_swapRemove hnd name)

theorem get?_foldl_swapRemove {fs : Fields α} (hnd : (fs.map Prod.fst).Nodup)
    (names : List String) (other : String) :
    (names.foldl swapRemove fs).get? other = if other ∈ names then none else fs.get? other := by
  induction names generalizing fs with
  | nil => simp
  | cons name rest ih =>
      rw [List.foldl_cons, ih (nodup_swapRemove hnd name), get?_swapRemove hnd]
      simp only [List.mem_cons]
      by_cases h : other = name
      · simp [h]
      · simp [h]

/-! ### Putting fields in -/

section

variable {fs : Fields α} {name : String} {a : α} {e : String × α}

/-- A new name comes last. -/
theorem insert_of_absent (h : name ∉ fs.map Prod.fst) (a : α) :
    fs.insert name a = fs ++ [(name, a)] := by
  induction fs with
  | nil => rfl
  | cons f rest ih =>
      obtain ⟨n, b⟩ := f
      simp only [List.map_cons, List.mem_cons, not_or] at h
      have hne : (n == name) = false := by simpa using Ne.symm h.1
      rw [insert, hne, if_neg Bool.false_ne_true, ih h.2, List.cons_append]

theorem mem_insert (h : e ∈ fs.insert name a) : e = (name, a) ∨ e ∈ fs := by
  induction fs with
  | nil => exact .inl (List.mem_singleton.mp h)
  | cons f rest ih =>
      obtain ⟨n, b⟩ := f
      rw [insert] at h
      split at h
      · rcases List.mem_cons.mp h with h | h
        · exact .inl h
        · exact .inr (List.mem_cons_of_mem _ h)
      · rcases List.mem_cons.mp h with h | h
        · exact .inr (h ▸ List.mem_cons_self)
        · exact (ih h).imp_right (List.mem_cons_of_mem _)

/-- A name that comes again takes the place of the first one. -/
theorem nodup_insert (h : (fs.map Prod.fst).Nodup) (name : String) (a : α) :
    ((fs.insert name a).map Prod.fst).Nodup := by
  induction fs with
  | nil => simp [insert]
  | cons f rest ih =>
      obtain ⟨n, b⟩ := f
      obtain ⟨hnew, hrest⟩ := List.nodup_cons.mp h
      rw [insert]
      split
      · rename_i hn
        obtain rfl : n = name := eq_of_beq hn
        exact List.nodup_cons.mpr ⟨hnew, hrest⟩
      · rename_i hn
        refine List.nodup_cons.mpr ⟨?_, ih hrest⟩
        intro hmem
        obtain ⟨e, he, hname⟩ := List.mem_map.mp hmem
        rcases mem_insert he with rfl | he
        · exact hn (beq_iff_eq.mpr hname.symm)
        · exact hnew (List.mem_map.mpr ⟨e, he, hname⟩)

theorem mem_ofEntries {entries : List (String × α)} (h : e ∈ ofEntries entries) :
    e ∈ entries := by
  induction entries using List.reverseRecOn with
  | nil => contradiction
  | append_singleton entries f ih =>
      rw [ofEntries, List.foldl_append] at h
      rcases mem_insert h with rfl | h
      · exact List.mem_append_right entries (List.mem_singleton_self _)
      · exact List.mem_append_left _ (ih h)

theorem nodup_ofEntries (entries : List (String × α)) :
    ((ofEntries entries).map Prod.fst).Nodup := by
  induction entries using List.reverseRecOn with
  | nil => exact List.nodup_nil
  | append_singleton entries f ih =>
      rw [ofEntries, List.foldl_append]
      exact nodup_insert ih f.1 f.2

end

/-! ### Parts of different names -/

/-- Fields whose names are in a list. -/
def Among (fs : Fields α) (names : List String) : Prop :=
  ∀ f ∈ fs, f.1 ∈ names

namespace Among

variable {fs fs' gs gs' : Fields α} {names others : List String}

theorem append (hfs : fs.Among names) (hgs : gs.Among others) :
    (fs ++ gs).Among (names ++ others) := by
  intro f hf
  exact List.mem_append.mpr ((List.mem_append.mp hf).imp (hfs f) (hgs f))

theorem filter_append (hfs : fs.Among names) (hgs : gs.Among others)
    (hdisjoint : ∀ name ∈ names, name ∉ others) :
    (fs ++ gs).filter (fun f => f.1 ∈ names) = fs := by
  have hkept : ∀ f ∈ fs, decide (f.1 ∈ names) = true := fun f hf => decide_eq_true (hfs f hf)
  have hleft : ∀ g ∈ gs, ¬decide (g.1 ∈ names) = true := fun g hg hmem =>
    hdisjoint g.1 (of_decide_eq_true hmem) (hgs g hg)
  rw [List.filter_append, List.filter_eq_self.mpr hkept, List.filter_eq_nil_iff.mpr hleft,
    List.append_nil]

/-- Joined fields whose parts have different names are equal only if the parts are. -/
theorem append_inj (hfs : fs.Among names) (hfs' : fs'.Among names) (hgs : gs.Among others)
    (hgs' : gs'.Among others) (hdisjoint : ∀ name ∈ names, name ∉ others)
    (h : fs ++ gs = fs' ++ gs') : fs = fs' ∧ gs = gs' := by
  obtain rfl : fs = fs' := by
    rw [← hfs.filter_append hgs hdisjoint, h, hfs'.filter_append hgs' hdisjoint]
  exact ⟨rfl, List.append_cancel_left h⟩

end Among

end Conform.Fields
