/-
This file holds the configuration of a generation. Every field has a default.
-/

namespace BusBridge

/-- The annotations that drive a scan and the code generated from it. -/
structure AnnotationNames where
  remote : String := "org.busgen.api.Remote"
  observes : String := "javax.enterprise.event.Observes"
  localOnly : String := "org.busgen.api.Local"
  qualifiers : List String := []
  deriving DecidableEq, Repr, Inhabited

/-- The names of the bus library that generated code calls. -/
structure BusApi where
  messageBus : String := "org.busgen.client.MessageBus"
  message : String := "org.busgen.client.Message"
  messageCallback : String := "org.busgen.client.MessageCallback"
  messageBuilder : String := "org.busgen.client.MessageBuilder"
  remoteCallback : String := "org.busgen.client.RemoteCallback"
  errorCallback : String := "org.busgen.client.ErrorCallback"
  rpcStub : String := "org.busgen.client.framework.RpcStub"
  proxyProvider : String := "org.busgen.client.framework.ProxyProvider"
  remoteProxyFactory : String := "org.busgen.client.framework.RemoteServiceProxyFactory"
  protocol : String := "org.busgen.client.cdi.CDIProtocol"
  subjectPrefix : String := "cdi.event:"
  deriving DecidableEq, Repr, Inhabited

structure Configuration where
  packages : List String := []
  annotations : AnnotationNames := {}
  bus : BusApi := {}
  loaderContract : String := "org.busgen.client.framework.RpcProxyLoader"
  cacheDirectory : String := ".busgen/cache"
  outputDirectory : String := "target/generated-sources/busgen"
  workerThreads : Nat := 4
  maxPendingJobs : Nat := 256
  reuseCachedArtifacts : Bool := false
  logLevel : String := "info"
  deriving DecidableEq, Repr, Inhabited

namespace BusApi

/-- Each class of the bus library with the field that names it. The subject prefix is no name. -/
def classes (bus : BusApi) : List (String × String) := [
  ("message_bus", bus.messageBus),
  ("message", bus.message),
  ("message_callback", bus.messageCallback),
  ("message_builder", bus.messageBuilder),
  ("remote_callback", bus.remoteCallback),
  ("error_callback", bus.errorCallback),
  ("rpc_stub", bus.rpcStub),
  ("proxy_provider", bus.proxyProvider),
  ("remote_proxy_factory", bus.remoteProxyFactory),
  ("protocol", bus.protocol)]

end BusApi

namespace Configuration

def withPackage (configuration : Configuration) (packagePrefix : String) : Configuration :=
  { configuration with packages := configuration.packages ++ [packagePrefix] }

def withWorkerThreads (configuration : Configuration) (threads : Nat) : Configuration :=
  { configuration with workerThreads := threads }

def withCacheDirectory (configuration : Configuration) (directory : String) : Configuration :=
  { configuration with cacheDirectory := directory }

def withOutputDirectory (configuration : Configuration) (directory : String) : Configuration :=
  { configuration with outputDirectory := directory }

end Configuration

end BusBridge
