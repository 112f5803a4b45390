import Referent.Main
import Referent.Proofs.AccessorPairs
import Referent.Proofs.ArrayCovariance
import Referent.Proofs.Assignability
import Referent.Proofs.CommandLine.Listing
import Referent.Proofs.ErasedSignature
import Referent.Proofs.ErasedSubtyping
import Referent.Proofs.Imports
import Referent.Proofs.Layouts
import Referent.Proofs.LostTypes
import Referent.Proofs.Member.Signature
import Referent.Proofs.Resolution.DeferredReads
import Referent.Proofs.Resolution.DelegateGetters
import Referent.Proofs.Resolution.EarlyStop
import Referent.Proofs.Resolution.GetterReads
import Referent.Proofs.Resolution.NearestDelegate
import Referent.Proofs.Resolution.OverriddenSetters
import Referent.Proofs.Resolution.UnfoundDelegates
import Referent.Proofs.Subtyping
import Referent.Proofs.TypeExpr.Faults
import Referent.Proofs.TypeStore.Fields
import Referent.Proofs.TypeStore.Frame
import Referent.Proofs.TypeStore.Growth
import Referent.Proofs.TypeStore.Loading
import Referent.Proofs.TypeStore.Reload
import Referent.Proofs.TypeStore.Runs
import Referent.Proofs.TypeStore.VisibleMembers
import Referent.Proofs.Varargs
