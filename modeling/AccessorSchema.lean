import AccessorSchema.Compilation.Event
import AccessorSchema.Example.Game
import AccessorSchema.Schema.Expansion
import AccessorSchema.Proofs.FailureIsolation
import AccessorSchema.Proofs.Locality
import AccessorSchema.Proofs.Capture
import AccessorSchema.Proofs.Descriptions
import AccessorSchema.Proofs.Lenses
import AccessorSchema.Proofs.Permission
import AccessorSchema.Proofs.ReadyQueue
import AccessorSchema.Proofs.Reemission
import AccessorSchema.Proofs.Relaxation
import AccessorSchema.Proofs.Resolution
import AccessorSchema.Proofs.Stubs
import AccessorSchema.Proofs.Views
import AccessorSchema.Proofs.Composition
import AccessorSchema.Proofs.References
import AccessorSchema.Proofs.Collections
import AccessorSchema.Proofs.FieldNames
import AccessorSchema.Proofs.Merging
import AccessorSchema.Proofs.Validation
import AccessorSchema.Proofs.Grouping
import AccessorSchema.Proofs.SharedNames
import AccessorSchema.Proofs.Derivation
import AccessorSchema.Proofs.Spellings
import AccessorSchema.Proofs.Registration
import AccessorSchema.Proofs.Routing
import AccessorSchema.Proofs.Templates
import AccessorSchema.Proofs.Iteration
import AccessorSchema.Proofs.MemberAttributes
import AccessorSchema.Proofs.StructOptions
import AccessorSchema.Proofs.Lifting
import AccessorSchema.Proofs.Naming
