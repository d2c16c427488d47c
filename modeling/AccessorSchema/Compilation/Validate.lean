import AccessorSchema.Plan.Basic
import AccessorSchema.Diagnostic.Basic

/-! # The rules for data types

The plans a type declares itself are checked one by one, then their accessor names against all plans
before them.  What breaks a rule is reported; all rules but the one on write policies make the plan
invalid.  Inherited plans were checked with the type they come from and are left alone. -/

namespace AccessorSchema

namespace FieldPlan

variable (owner : Ident) (mode : Mode) (p : FieldPlan)

/-- How the member is called in diagnostics. -/
def symbol : String := owner.text ++ "." ++ p.backing.value.text

/-- Each reference that did not resolve. -/
def unresolvedReports : List Diagnostic :=
  let rule := if p.surface.isField then Rule.unresolvedField else .unresolvedProperty
  p.unresolved.map fun u =>
    ⟨rule, p.symbol owner, [p.backing.value.text, u.path.value.key.text], u.path.span⟩

/-- A write policy needs a mutable type. -/
def policyReports : List Diagnostic :=
  if !mode.isMutable && p.policy.isSome then
    [⟨.policyOnImmutable, p.symbol owner, [owner.text], p.backing.span⟩]
  else []

/-- Fields and declared setters of immutable types are private. -/
def privacyReports : List Diagnostic :=
  if mode.isMutable then []
  else
    match p.surface with
    | .field vis =>
      if vis.isPrivate then []
      else [⟨.publicField, p.symbol owner, [owner.text], p.backing.span⟩]
    | .property _ (some setter) =>
      if setter.value.isPrivate then []
      else [⟨.publicSetter, p.symbol owner, [owner.text], setter.span⟩]
    | .property _ none => []

/-- A mapping cannot be viewed. -/
def keyedReports : List Diagnostic :=
  if p.kind.isKeyed then
    [⟨.keyedMapping, p.symbol owner, [p.backing.value.text, owner.text], p.ty.span⟩]
  else []

/-- All reports about a plan by itself. -/
def reports : List Diagnostic :=
  p.unresolvedReports owner ++ p.policyReports owner mode ++ p.privacyReports owner mode ++
    p.keyedReports owner

/-- The plan breaks a rule that makes it invalid. -/
def isFaulty : Bool :=
  !(p.unresolvedReports owner).isEmpty || !(p.privacyReports owner mode).isEmpty ||
    !(p.keyedReports owner).isEmpty

/-- The plan after the checks on it alone. -/
def checked : FieldPlan :=
  if p.isInheritedBy owner then p else { p with valid := p.valid && !p.isFaulty owner mode }

end FieldPlan

namespace DataType

/-- Reports about the type's own plans by themselves. -/
def planReports (owner : Ident) (mode : Mode) (plans : List FieldPlan) : List Diagnostic :=
  (plans.filter (!·.isInheritedBy owner)).flatMap (·.reports owner mode)

/-- The type that first exposed a name; `seen` holds the names already passed. -/
def firstOrigin? (seen : List (String × Ident)) (exposed : String) : Option Ident :=
  seen.lookup exposed

/-- Checks accessor names from the front: an own plan whose name was exposed before is a
duplicate. -/
def checkNames (owner : Ident) (seen : List (String × Ident)) :
    List FieldPlan → List FieldPlan × List Diagnostic
  | [] => ([], [])
  | p :: rest =>
    match firstOrigin? seen p.name.exposed with
    | none =>
      let (plans, reports) := checkNames owner (seen ++ [(p.name.exposed, p.origin)]) rest
      (p :: plans, reports)
    | some first =>
      let (plans, reports) := checkNames owner seen rest
      if p.isInheritedBy owner then (p :: plans, reports)
      else
        ({ p with valid := false } :: plans,
          ⟨.duplicateAccessor, p.symbol owner, [owner.text, p.name.exposed, first.text],
            p.backing.span⟩ :: reports)

/-- The type after all checks, with the reports; a type that was checked before stays as it is. -/
def validate (d : DataType) : DataType × List Diagnostic :=
  if d.validated then (d, [])
  else
    let (plans, duplicates) := checkNames d.ident [] (d.plans.map (·.checked d.ident d.mode))
    ({ d with plans := plans, validated := true }, planReports d.ident d.mode d.plans ++ duplicates)

end DataType

end AccessorSchema
