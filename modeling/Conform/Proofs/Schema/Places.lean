import Conform.Proofs.Path
import Conform.Proofs.Schema.Calls
import Conform.Proofs.Schema.Objections
import Conform.Proofs.Schema.Rebuild
import Conform.Standard.Basic

/-!
# One failure in one place

The issues of a validation without conditional options are at places that have nothing to do with
each other.  A node that fails ends there, so that nothing is reported below it, and what is
reported below a node is sorted by its children: the declared properties have distinct names, the
refused ones are not declared, and no index comes twice.
-/

namespace Conform

open Visit

/-- Issues of which no two are at one place, and none is at a place inside that of another. -/
def Scattered (is : List Issue) : Prop :=
  is.Pairwise fun i j => i.path.Apart j.path

theorem scattered_nil : Scattered [] :=
  List.Pairwise.nil

theorem scattered_singleton (i : Issue) : Scattered [i] :=
  List.pairwise_singleton _ i

/-- The issues of different children of a place are scattered, if those of each child are. -/
theorem scattered_flatMap {α : Type} (place : Path) (key : α → Segment) {issues : α → List Issue}
    {children : List α} (hkeys : (children.map key).Nodup)
    (hbelow : ∀ a ∈ children, ∀ i ∈ issues a, place ++ [key a] <+: i.path)
    (heach : ∀ a ∈ children, Scattered (issues a)) : Scattered (children.flatMap issues) := by
  rw [List.Nodup, List.pairwise_map] at hkeys
  rw [Scattered, List.pairwise_flatMap]
  refine ⟨heach, hkeys.imp_of_mem ?_⟩
  intro a b ha hb hne i hi j hj
  exact Path.apart_of_ne hne (hbelow a ha i hi) (hbelow b hb j hj)

theorem scattered_map {α : Type} (place : Path) (key : α → Segment) {issue : α → Issue}
    {children : List α} (hkeys : (children.map key).Nodup)
    (hbelow : ∀ a ∈ children, place ++ [key a] <+: (issue a).path) :
    Scattered (children.map issue) := by
  rw [List.map_eq_flatMap]
  refine scattered_flatMap place key hkeys ?_ fun a _ => scattered_singleton (issue a)
  intro a ha i hi
  exact List.mem_singleton.mp hi ▸ hbelow a ha

namespace Schema

variable {s : Schema}

/-- A schema whose runs add scattered issues. -/
def Scatters (s : Schema) : Prop :=
  ∀ v : Visit, v.issues = [] → Scattered (s.run v).issues

/-- The issues of the children of a node are scattered. -/
theorem scattered_runChildren (hnames : (s.properties.map Prod.fst).Nodup)
    (ih : ∀ p ∈ s.parts, p.Scatters) {w : Visit} (hw : w.issues = []) :
    Scattered (runChildren s.kind s.children w).issues := by
  have h := s.outcome_runChildren w
  generalize runChildren s.kind s.children w = u at h ⊢
  cases h with
  | unchanged =>
      rw [hw]
      exact scattered_nil
  | object kind value declares =>
      simp only [rebuildObject, hw, List.nil_append, runProperties_eq_map, List.flatMap_map]
      refine scattered_flatMap w.path (fun p => .key p.1) ?_ ?_ ?_
      · have hkeys := hnames.map (f := Segment.key) (fun _ _ => Segment.key.inj)
        rwa [List.map_map] at hkeys
      · exact fun p _ i hi => (extends_run p.2 _).path_prefix_of_descend hi
      · exact fun p hp => ih p.2 (mem_parts_of_property hp) _ rfl
  | @array items e kind value element =>
      simp only [rebuildArray, elements, hw, List.nil_append, List.flatMap_map]
      refine scattered_flatMap w.path (fun p => .index p.2) ?_ ?_ ?_
      · have hindices : (items.zipIdx.map Prod.snd).Nodup := by
          rw [List.zipIdx_map_snd]
          exact List.nodup_range'
        have hkeys := hindices.map (f := Segment.index) (fun _ _ => Segment.index.inj)
        rwa [List.map_map] at hkeys
      · exact fun p _ i hi => (extends_run e _).path_prefix_of_descend hi
      · exact fun p _ => ih e (mem_parts_of_element element) _ rfl

/-- What the children of a node report lies below declared properties or below elements. -/
theorem below_of_mem_runChildren {w : Visit} (hw : w.issues = []) {i : Issue}
    (hi : i ∈ (runChildren s.kind s.children w).issues) :
    ∃ segment, w.path ++ [segment] <+: i.path ∧
      ∀ name, segment = .key name → (s.property? name).isSome := by
  rcases mem_issues_runChildren_iff.mp hi with hi | ⟨fields, name, p, -, -, hp, hi⟩ |
    ⟨items, e, x, index, -, -, -, -, hi⟩
  · simp [hw] at hi
  · refine ⟨.key name, (extends_run p _).path_prefix_of_descend hi, ?_⟩
    rintro _ ⟨⟩
    exact Fields.mem_names_iff.mp (List.mem_map.mpr ⟨(name, p), hp, rfl⟩)
  · exact ⟨.index index, (extends_run e _).path_prefix_of_descend hi, by simp⟩

/-- What a node refuses is apart from what its children report. -/
theorem scattered_refuse (hnames : (s.properties.map Prod.fst).Nodup)
    (ih : ∀ p ∈ s.parts, p.Scatters) {w : Visit} (hw : w.issues = []) :
    Scattered ((runChildren s.kind s.children w).refuse (s.refusedNames w)).issues := by
  have hpath : (runChildren s.kind s.children w).path = w.path :=
    (extends_runChildren (fun p _ => p.extends_run) w).path
  rw [refuse, Scattered, List.pairwise_append]
  refine ⟨scattered_runChildren hnames ih hw, ?_, ?_⟩
  · refine scattered_map w.path .key ?_ ?_
    · exact (nodup_refusedNames s w).map fun _ _ => Segment.key.inj
    · intro name _
      rw [unexpectedProperty, hpath]
      exact List.prefix_refl _
  · intro i hi j hj
    obtain ⟨name, hname, rfl⟩ := List.mem_map.mp hj
    obtain ⟨segment, hplace, hdeclared⟩ := below_of_mem_runChildren hw hi
    obtain ⟨-, -, -, -, -, -, hundeclared⟩ := mem_refusedNames_iff.mp hname
    have hne : segment ≠ .key name := by
      intro heq
      simpa [hundeclared] using hdeclared name heq
    refine Path.apart_of_ne hne hplace ?_
    rw [unexpectedProperty, hpath]
    exact List.prefix_refl _

/-- A node that fails reports one issue and ends, and else its children report theirs. -/
theorem scatters_of_unconditional (hnames : s.Forall fun s => (s.properties.map Prod.fst).Nodup)
    (hplain : s.Forall fun s => s.options.isConditional = false) : s.Scatters := by
  induction s using Schema.induction with
  | mk s ih =>
      intro v hv
      cases h : s.node.enter s.treatment s.options v with
      | ended u =>
          rw [run_of_ended h]
          rcases Node.objects_of_ended h with hissues | ⟨w, origin, violation, hobjects, rfl⟩
          · rw [hissues, hv]
            exact scattered_nil
          · simpa [push, hobjects.issues_eq, hv] using scattered_singleton _
      | going w =>
          rw [run_of_going h, runOptions_of_not_conditional hplain.here]
          exact scattered_refuse hnames.here
            (fun p hp => ih p hp (hnames.part hp) (hplain.part hp)) ((issues_of_going h).trans hv)

/-- Every place fails at most once, and what fails hides everything inside it: of the issues of a
schema that is built by calls and has no conditional options, no two are at the same place and
none is inside the place of another. -/
theorem issues_apart (hs : s.Constructible)
    (hplain : s.Forall fun s => s.options.isConditional = false) (input : Option Json) :
    (s.validate input).issues.Pairwise fun i j => i.path.Apart j.path :=
  scatters_of_unconditional hs.names_nodup hplain (.start input) rfl

/-- A bill with a total that is checked by the caller, and lines of a strict form. -/
def bill : Schema :=
  let leaf (n : Node) : Schema := .ofNode n Standard.table
  let positive (v : Visit) : Option Violation :=
    (some (.rule "must be positive")).filter fun _ => v.current.int64?.any fun i => i ≤ 0
  let line : Schema := .mk { kind := .object, strict := true } Standard.table
    (.properties [("sku", leaf { kind := .string }), ("count", leaf { kind := .integer })]) .none
  let lines : Schema := .mk { kind := .array } Standard.table (.element line) .none
  .mk { kind := .object, strict := true } Standard.table
    (.properties [("total", leaf { kind := .integer, checks := [.custom positive] }),
      ("lines", lines)]) .none

theorem constructible_bill : bill.Constructible := by
  refine .object rfl (by decide) ?_
  simp only [List.forall_mem_cons]
  refine ⟨.bare _ _, .array rfl (.object rfl (by decide) ?_), nofun⟩
  simp only [List.forall_mem_cons]
  exact ⟨.bare _ _, .bare _ _, nofun⟩

theorem issues_apart_bill :
    let input : Json := .obj [("total", .ofInt 0), ("note", .null),
      ("lines", .arr [.obj [("sku", .str "a")], .null])]
    bill.Constructible ∧ (bill.Forall fun s => s.options.isConditional = false) ∧
      (bill.validate (some input)).issues.length = 4 ∧
      (bill.validate (some input)).issues.Pairwise fun i j => i.path.Apart j.path := by
  intro input
  have hplain : bill.Forall fun s => s.options.isConditional = false := by
    simp [bill, ofNode, forall_mk, Options.isConditional]
  exact ⟨constructible_bill, hplain, by decide +kernel,
    issues_apart constructible_bill hplain (some input)⟩

end Schema

end Conform
