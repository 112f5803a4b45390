import Referent.Reference
import Referent.Imports

/-!
# Closure delegation

A closure may be run with another object as its delegate, which then serves calls inside it ahead
of the script's own class.

* `Strategy` — whether the owner or the delegate is asked, and in which order.
* `Delegation` — the delegate of each closure, if it has one.
* `Delegation.explicit` — delegates recorded for single closures.
* `Delegation.script` — moreover those of the well-known blocks of build scripts.
-/

namespace Referent

/-- How a closure consults its owner and its delegate (`DelegationStrategy`). -/
inductive Strategy where
  | ownerFirst
  | delegateFirst
  | ownerOnly
  | delegateOnly
  deriving DecidableEq, Repr, Inhabited

namespace Strategy

/-- A call inside the closure may be claimed by its delegate (`consults_delegate`). -/
def consultsDelegate (s : Strategy) : Bool :=
  s != .ownerOnly

end Strategy

/-- The type of a closure's delegate, by a qualified or simple name, and how it is consulted
(`DelegateTarget`). -/
structure Delegate where
  type : String
  strategy : Strategy
  deriving DecidableEq, Repr, Inhabited

namespace Delegate

/-- A delegate that is asked before the owner (`DelegateTarget::new`). -/
def ofType (type : String) : Delegate :=
  ⟨type, .delegateFirst⟩

end Delegate

/-- The delegate of each closure that has one (`DelegationProvider`; none is `NoDelegate`). -/
abbrev Delegation : Type := Closure → Option Delegate

namespace Delegation

/-- No closure has a delegate (`NoDelegation`). -/
def none : Delegation :=
  fun _ => Option.none

/-- The last delegate recorded for a closure (`ExplicitDelegation`). -/
def explicit (delegates : List (ClosureId × Delegate)) : Delegation :=
  fun closure => delegates.reverse.lookup closure.id

/-! ## Build scripts -/

/-- The well-known blocks of Gradle build scripts and the types that their closures delegate to
(`KNOWN_BLOCKS`). -/
def scriptBlocks : List (String × String) :=
  [("dependencies", "org.gradle.api.artifacts.dsl.DependencyHandler"),
   ("repositories", "org.gradle.api.artifacts.dsl.RepositoryHandler"),
   ("buildscript", "org.gradle.api.initialization.dsl.ScriptHandler"),
   ("allprojects", "org.gradle.api.Project"),
   ("subprojects", "org.gradle.api.Project"),
   ("configurations", "org.gradle.api.artifacts.ConfigurationContainer"),
   ("artifacts", "org.gradle.api.artifacts.dsl.ArtifactHandler"),
   ("plugins", "org.gradle.plugin.use.PluginDependenciesSpec"),
   ("sourceSets", "org.gradle.api.tasks.SourceSetContainer"),
   ("tasks", "org.gradle.api.tasks.TaskContainer"),
   ("java", "org.gradle.api.plugins.JavaPluginExtension"),
   ("publishing", "org.gradle.api.publish.PublishingExtension"),
   ("pluginManagement", "org.gradle.plugin.management.PluginManagementSpec"),
   ("dependencyResolutionManagement",
     "org.gradle.api.initialization.resolve.DependencyResolutionManagement")]

/-- The type that the closure of a block delegates to (`block_delegate`). -/
def blockType? (block : String) : Option String :=
  scriptBlocks.lookup block

/-- The packages that every Gradle build script imports (`DEFAULT_IMPORTS`). -/
def scriptImports : List String :=
  ["org.gradle.api.*", "org.gradle.api.artifacts.*", "org.gradle.api.artifacts.dsl.*",
   "org.gradle.api.initialization.*", "org.gradle.api.plugins.*", "org.gradle.api.tasks.*",
   "java.lang.*", "java.util.*", "groovy.lang.*"]

/-- The delegate recorded for a closure, or else that of the block it belongs to
(`GradleDslDelegation`). -/
def script (overrides : Delegation) : Delegation :=
  fun closure =>
    (overrides closure).or ((closure.block.bind blockType?).map Delegate.ofType)

end Delegation

end Referent
