import Bindery.Main
import Bindery.Project.Session
import Bindery.Proofs.Callback.Sharing
import Bindery.Proofs.CamelCase
import Bindery.Proofs.Json.Reordered
import Bindery.Proofs.Lowering.Closure
import Bindery.Proofs.Lowering.Qualifiers
import Bindery.Proofs.Native.Closed
import Bindery.Proofs.Native.Qualifiers
import Bindery.Proofs.Native.RoundTrip
import Bindery.Proofs.Native.Stripping
import Bindery.Proofs.Package.Accessors
import Bindery.Proofs.Package.CallbackPairs
import Bindery.Proofs.Package.Conservation
import Bindery.Proofs.Package.Constants
import Bindery.Proofs.Package.Expansions
import Bindery.Proofs.Package.Hygiene
import Bindery.Proofs.Package.Imports
import Bindery.Proofs.Package.Keys
import Bindery.Proofs.Package.Members
import Bindery.Proofs.Package.Ranges
import Bindery.Proofs.Package.References
import Bindery.Proofs.Package.Releases
import Bindery.Proofs.Package.SizeChecks
import Bindery.Proofs.Project.Generation
import Bindery.Proofs.ScopeHistory
import Bindery.Proofs.Workspace.Ownership
import Bindery.Proofs.Workspace.Walk
import Bindery.Proofs.Literals
import Bindery.Proofs.Native.Spellings
import Bindery.Proofs.Callback.Detection
