import TypedBundle.Inspection
import TypedBundle.Main
import TypedBundle.Proofs.Accessor.Success
import TypedBundle.Proofs.Command.Sources
import TypedBundle.Proofs.Instance.Record
import TypedBundle.Proofs.Instance.Nullability
import TypedBundle.Proofs.Kotlin.Denotation
import TypedBundle.Proofs.Manifest.Outcomes
import TypedBundle.Proofs.Manifest.Independence
import TypedBundle.Proofs.Instance.Session
import TypedBundle.Proofs.Instance.Isolation
import TypedBundle.Proofs.Manifest.Diagnostics
import TypedBundle.Proofs.Manifest.Identifiers
import TypedBundle.Proofs.Type.Display
import TypedBundle.Proofs.Type.Growth
import TypedBundle.Proofs.Type.Subtyping
import TypedBundle.Proofs.Instance.Presence
import TypedBundle.Proofs.Kotlin.HelperCalls
import TypedBundle.Proofs.Kotlin.ImportTable
import TypedBundle.Proofs.Kotlin.Nesting
import TypedBundle.Proofs.Kotlin.StringLiterals
import TypedBundle.Proofs.Bundle.Comparison
import TypedBundle.Proofs.Diagnostics.Conservation
