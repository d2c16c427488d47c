import AccessorSchema.Compilation.Run

/-! # What a run reports about its progress

A run leaves a trail of events: once what was scheduled, then for each type what its members became,
what it inherits and what was valid.  Diagnostics may be part of the trail where they arise. -/

namespace AccessorSchema

inductive Event where
  | scheduled (types cyclic : Nat)
  | classified (plan : FieldPlan)
  /-- A type with the base it inherits from and the number of its plans. -/
  | resolved (type : Ident) (base : Option BaseRef) (plans : Nat)
  | validated (type : Ident) (valid total : Nat)
  | reported (d : Diagnostic)

namespace Event

/-- Fine grained, as opposed to the main stages. -/
def isDetail : Event → Bool
  | classified _ | reported _ => true
  | _ => false

def noun : Event → String
  | scheduled _ _ => "scheduled"
  | classified _ => "classified"
  | resolved _ _ _ => "resolved"
  | validated _ _ _ => "validated"
  | reported _ => "diagnostic"

end Event

namespace Step

def events (s : Step) : List Event :=
  s.own.map .classified ++ s.base.report?.toList.map .reported ++
    .resolved s.merged.ident s.merged.base s.merged.plans.length ::
    s.violations.map .reported ++
    [.validated s.data.ident s.data.validPlans.length s.data.plans.length]

end Step

namespace Run

/-- The trail of a run, diagnostics included. -/
def events (r : Run) : List Event :=
  r.conflicts.map .reported ++
    .scheduled r.steps.length r.schedule.cyclic.length :: r.steps.flatMap (·.events)

end Run

end AccessorSchema
