import AccessorSchema.Accessor.Basic
import AccessorSchema.Compilation.Inheritance
import AccessorSchema.Compilation.Merge
import AccessorSchema.Compilation.Schedule
import AccessorSchema.Compilation.Validate
import AccessorSchema.Plan.Classify

/-! # Compiling a schema

Fragments are merged and the merged types compiled one after the other, bases first: members become
plans, the base is looked up among the types compiled before, the plans are validated, and accessors
follow from them.  A run keeps what every step found, and breaks off at the first member after which no
methods can be named: `ofDecls?` is the whole run, `ofDecls` what it finds unless it breaks off. -/

namespace AccessorSchema

structure CompileOptions where
  invalid : InvalidPolicy
  /-- The path of the runtime in generated code. -/
  runtime : Path

/-- The runtime that generated code uses unless told otherwise. -/
def CompileOptions.defaultRuntime : Path := .mk true [.bare (.plain "data_core")]

/-- What the compilation of one type found. -/
structure Step where
  own : List FieldPlan
  base : BaseState
  /-- The type before validation. -/
  merged : DataType
  data : DataType
  violations : List Diagnostic

namespace Step

/-- Compiles a declaration whose members have the given plans. -/
def ofPlans (d : TypeDecl) (own : List FieldPlan) (cyclic : Bool) (known : List DataType) : Step :=
  let base := BaseState.ofDecl d cyclic known
  let merged := DataType.resolve d own base
  let (data, violations) := merged.validate
  ⟨own, base, merged, data, violations⟩

/-- Compiles a declaration, if methods can be named after all its members. -/
def compile? (resolver : Resolver) (d : TypeDecl) (cyclic : Bool) (known : List DataType) :
    Except IdentFault Step := do
  let own ← d.members.mapM (·.classify? resolver d.ident d.mode)
  return ofPlans d own cyclic known

/-- The step of `compile?` if there is one. -/
def compile (resolver : Resolver) (d : TypeDecl) (cyclic : Bool) (known : List DataType) : Step :=
  ofPlans d (d.members.map (·.classify resolver d.ident d.mode)) cyclic known

def diagnostics (s : Step) : List Diagnostic := s.base.report?.toList ++ s.violations

end Step

structure Run where
  conflicts : List Diagnostic
  schedule : Schedule
  steps : List Step

namespace Run

/-- Compiles the declarations with the given numbers, with `known` compiled before, until methods cannot
be named. -/
def compileAll? (resolver : Resolver) (ds : List TypeDecl) (cyclic : List Nat)
    (known : List DataType) : List Nat → Except IdentFault (List Step)
  | [] => return []
  | i :: rest =>
    match ds[i]? with
    | none => compileAll? resolver ds cyclic known rest
    | some d => do
      let s ← Step.compile? resolver d (cyclic.contains i) known
      let steps ← compileAll? resolver ds cyclic (known ++ [s.data]) rest
      return s :: steps

/-- The steps of `compileAll?` if it makes them all. -/
def compileAll (resolver : Resolver) (ds : List TypeDecl) (cyclic : List Nat)
    (known : List DataType) : List Nat → List Step
  | [] => []
  | i :: rest =>
    match ds[i]? with
    | none => compileAll resolver ds cyclic known rest
    | some d =>
      let s := Step.compile resolver d (cyclic.contains i) known
      s :: compileAll resolver ds cyclic (known ++ [s.data]) rest

def ofDecls? (resolver : Resolver) (ds : List TypeDecl) : Except IdentFault Run := do
  let (merged, conflicts) := TypeDecl.merge ds
  let schedule := Schedule.ofDecls merged
  let steps ← compileAll? resolver merged schedule.cyclic [] schedule.order
  return ⟨conflicts, schedule, steps⟩

/-- The run of `ofDecls?` if it does not break off. -/
def ofDecls (resolver : Resolver) (ds : List TypeDecl) : Run :=
  let (merged, conflicts) := TypeDecl.merge ds
  let schedule := Schedule.ofDecls merged
  ⟨conflicts, schedule, compileAll resolver merged schedule.cyclic [] schedule.order⟩

/-- The compiled types, bases before the types that extend them. -/
def types (r : Run) : List DataType := r.steps.map (·.data)

def generated (r : Run) (policy : InvalidPolicy) : List AccessorSet :=
  r.types.map (AccessorSet.ofType · policy)

def diagnostics (r : Run) : List Diagnostic := r.conflicts ++ r.steps.flatMap (·.diagnostics)

def type? (r : Run) (name : String) : Option DataType := r.types.find? (·.ident.text == name)

def generated? (r : Run) (policy : InvalidPolicy) (name : String) : Option AccessorSet :=
  (r.generated policy).find? (·.owner.text == name)

end Run

end AccessorSchema
