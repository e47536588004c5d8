import Conform.BuildError
import Conform.Schema.Handler

/-!
# Edits and scripts

The calls that build a schema, as data, over the type `σ` of the schemas they may mention, and the
scripts that make such calls one after the other.  The functions that extensions register to build
schemas are scripts.
-/

namespace Conform

/-- A call that builds on a schema. -/
inductive Edit (σ : Type) where
  | required (on : Bool)
  | nullable (on : Bool)
  | strict (on : Bool)
  | default (d : Default)
  | properties (ps : List (String × σ))
  | element (s : σ)
  | pick (names : List String)
  | drop (names : List String)
  | enumValues (vs : List Json)
  | enumModels (ss : List σ)
  | applies (f : Visit → Bool)
  | parse (f : Visit → Option Json)
  | coerce (f : Visit → Option Json)
  | validation (f : Visit → Option Violation)
  | format (name : String)
  | extra (name : String) (v : Json)
  | pattern (source : String)
  | toProperty (name : String)
  | toElement

namespace Edit

variable {σ τ : Type}

/-- The call with other schemas in place of those it mentions. -/
def map (f : σ → τ) : Edit σ → Edit τ
  | .required on => .required on
  | .nullable on => .nullable on
  | .strict on => .strict on
  | .default d => .default d
  | .properties ps => .properties (ps.map fun p => (p.1, f p.2))
  | .element s => .element (f s)
  | .pick names => .pick names
  | .drop names => .drop names
  | .enumValues vs => .enumValues vs
  | .enumModels ss => .enumModels (ss.map f)
  | .applies g => .applies g
  | .parse g => .parse g
  | .coerce g => .coerce g
  | .validation g => .validation g
  | .format name => .format name
  | .extra name v => .extra name v
  | .pattern source => .pattern source
  | .toProperty name => .toProperty name
  | .toElement => .toElement

/-- A bound as it is attached to a node; without a finite value it is `null`. -/
def boundValue (x : Option Double) : Json :=
  (x.map .ofDouble).getD .null

/-- A lower bound: of the value of a number, or the length of a string or array. -/
def min (x : Option Double) : Edit σ :=
  .extra "min" (boundValue x)

/-- An upper bound: of the value of a number, or the length of a string or array. -/
def max (x : Option Double) : Edit σ :=
  .extra "max" (boundValue x)

/-- Both bounds of a length. -/
def length (least most : Nat) : List (Edit σ) :=
  [min (some (Double.ofInt least)), max (some (Double.ofInt most))]

/-- Constraints for the layer that stores values. -/
def constrain (v : Json) : Edit σ :=
  .extra "constrain" v

/-- Hints for the layer that stores values. -/
def index (v : Json) : Edit σ :=
  .extra "index" v

/-- Access rules for the layer that serves values. -/
def authorization (v : Json) : Edit σ :=
  .extra "authorization" v

end Edit

/-- A step on the way to a schema: a building call, or a call for an extend hook. -/
inductive Step (σ : Type) where
  | edit (e : Edit σ)
  | extend (name : String) (arg : Json)

def Step.map {σ τ : Type} (f : σ → τ) : Step σ → Step τ
  | .edit e => .edit (e.map f)
  | .extend name arg => .extend name arg

/-- A schema that a script speaks of: one that it has had before, where the given one has the number
zero, or any other. -/
inductive Ref (σ : Type) where
  | had (i : Nat)
  | other (s : σ)

/-- The schema that is meant, where the script has had some schemas and stands at `s`.  A number too
large means the schema at hand. -/
def Ref.resolve {σ : Type} (had : List σ) (s : σ) : Ref σ → σ
  | .had i => had.getD i s
  | .other p => p

/-- What a function that builds on a given schema does.  Each step can depend on how the schema
looks by then, and on the error of a step that failed. -/
inductive Script (σ : Type) where
  /-- The schema is finished. -/
  | done
  /-- There is no schema but an error. -/
  | fail (err : BuildError)
  /-- Goes on with another schema. -/
  | use (r : Ref σ) (next : View → Script σ)
  /-- Takes a step, or leaves the schema as it is where that fails. -/
  | step (c : Step (Ref σ)) (next : View → Script σ) (failed : BuildError → Script σ)

namespace Script

variable {σ : Type}

/-- Takes all steps in order; the error of one that fails is passed on. -/
def inOrder : List (Step (Ref σ)) → Script σ
  | [] => .done
  | c :: rest => .step c (fun _ => inOrder rest) .fail

/-- Takes all steps in order; where one fails, the given schema stays as it was. -/
def allOrNone : List (Step (Ref σ)) → Script σ
  | [] => .done
  | c :: rest => .step c (fun _ => allOrNone rest) fun _ => .use (.had 0) fun _ => .done

/-- What a script makes in the end, where it has had some schemas and stands at `s`.  How schemas
look and what becomes of steps is given; there is no answer where a step has none. -/
def run (view : σ → View) (take : σ → Step σ → Option (Except BuildError σ)) (had : List σ)
    (s : σ) : Script σ → Option (Except BuildError σ)
  | .done => some (.ok s)
  | .fail err => some (.error err)
  | .use r next => run view take had (r.resolve had s) (next (view (r.resolve had s)))
  | .step c next failed =>
    match take s (c.map fun r => r.resolve had s) with
    | some (.ok s') => run view take (had ++ [s']) s' (next (view s'))
    | some (.error err) => run view take had s (failed err)
    | none => none

end Script

end Conform
