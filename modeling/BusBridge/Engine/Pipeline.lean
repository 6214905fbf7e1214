/-
This file holds the pipelines that make artifacts: one for the loader of all remote interfaces,
and one for the subscriptions of a bean.
-/

import BusBridge.Model.Build
import BusBridge.Scan.Scanner
import BusBridge.Scheduler.Run
import BusBridge.Synthesis.Loader
import BusBridge.Synthesis.Subscription

namespace BusBridge

namespace Configuration

/-- The configured qualifiers are qualifiers on every parameter. -/
def builder (configuration : Configuration) : ModelBuilder :=
  ⟨configuration.annotations.qualifiers⟩

def context (configuration : Configuration) : SynthesisContext :=
  .ofConfiguration configuration

def registry (configuration : Configuration) : DecoratorRegistry :=
  .standard configuration.context

def remoteRequest (configuration : Configuration) : ScanRequest :=
  ⟨configuration.annotations.remote, configuration.packages⟩

end Configuration

namespace Pipeline

/-- Priming loads every package before the first pipeline runs. -/
def prime (configuration : Configuration) (types : Universe) (scanner : Scanner) :
    Effect Scanner (Except Panic Unit) :=
  let (count, primed) := scanner.prime types configuration.packages
  ⟨.ok (), primed, [Scanner.primeRecord count]⟩

def loaderInterfaces (configuration : Configuration) (candidates : List TypeDeclaration) :
    List TypeModel :=
  configuration.builder.buildCandidates .rpcProxy candidates

/-- The loader covers every remote interface that has a model. -/
def loaderArtifact (configuration : Configuration) (className : ClassName)
    (candidates : List TypeDeclaration) : Except Failure Artifact :=
  (Synthesis.generateLoader className (loaderInterfaces configuration candidates)
    configuration.context).mapError (.synthesis .rpcProxy)

def loaderRecords (configuration : Configuration) (className : ClassName)
    (candidates : List TypeDeclaration) : List LogRecord :=
  let interfaces := loaderInterfaces configuration candidates
  configuration.builder.candidateRecords .rpcProxy candidates ++
    Origin.generator.record .info "Generating proxy loader" [
      ("class", className.qualified),
      ("candidates", toString candidates.length),
      ("proxies", toString interfaces.length)] ::
    Synthesis.loaderRecords className interfaces configuration.context

def ending : Except Failure Artifact → PipelineEnd
  | .ok artifact => .returned artifact
  | .error failure => .failed failure

def loader (configuration : Configuration) (types : Universe) (className : ClassName)
    (scanner : Scanner) : Effect Scanner PipelineEnd :=
  let request := configuration.remoteRequest
  let (candidates, scanned) := scanner.findTypes types request
  {
    result := ending (loaderArtifact configuration className candidates)
    world := scanned
    records := scanner.scanRecords types request ++
      loaderRecords configuration className candidates }

/-- The first type of its package with the bean's name declares the bean. -/
def findBean (types : Universe) (bean : String) : Except ModelFailure TypeDeclaration :=
  let declared := ((types.typesIn (ClassName.parse bean).package).toOption.getD []).find?
    fun declaration => declaration.name == bean
  match declared with
  | some declaration => .ok declaration
  | none => .error (.unknownType bean)

def beanModel (configuration : Configuration) (types : Universe) (bean : String) :
    Except Failure TypeModel :=
  ((findBean types bean).bind (configuration.builder.build .observerSubscription)).mapError .model

def observerArtifact (configuration : Configuration) (types : Universe) (bean : String)
    (className : ClassName) : Except Failure Artifact := do
  let model ← beanModel configuration types bean
  (Synthesis.generateObserver className model configuration.registry
    configuration.context).mapError (.synthesis .observerSubscription)

def observerRecords (configuration : Configuration) (types : Universe) (bean : String)
    (className : ClassName) : List LogRecord :=
  match beanModel configuration types bean with
  | .error _ => []
  | .ok model =>
      Origin.generator.record .info "Generating observer subscriptions"
          [("class", className.qualified), ("bean", bean)] ::
        Synthesis.observerRecords className model configuration.registry configuration.context

def observer (configuration : Configuration) (types : Universe) (bean : String)
    (className : ClassName) (scanner : Scanner) : Effect Scanner PipelineEnd where
  result := ending (observerArtifact configuration types bean className)
  world := scanner
  records := observerRecords configuration types bean className

/-- The pipeline of a target. -/
def ofTarget (configuration : Configuration) (types : Universe) (target : Target) :
    Scanner → Effect Scanner PipelineEnd :=
  match target.strategy with
  | .rpcProxy => loader configuration types target.className
  | .observerSubscription => observer configuration types target.typeName target.className

def work (configuration : Configuration) (types : Universe) (target : Target) : Work Scanner where
  setup := some (prime configuration types)
  pipeline := ofTarget configuration types target

end Pipeline

end BusBridge
