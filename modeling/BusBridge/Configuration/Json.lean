/-
This file reads configurations from JSON values and writes them, and it loads them from files. The
extension of a file tells its format.
-/

import BusBridge.Configuration.Basic
import BusBridge.Failure
import BusBridge.Files.Operations
import BusBridge.Json.Reader
import BusBridge.Text.Quoted
import BusBridge.Toml.Reader

namespace BusBridge

namespace AnnotationNames

def toJson (names : AnnotationNames) : Json :=
  .object [
    ("remote", .text names.remote),
    ("observes", .text names.observes),
    ("local", .text names.localOnly),
    ("qualifiers", .ofTexts names.qualifiers)]

def ofJson? (dialect : Json.Dialect) (value : Json) : Option AnnotationNames := do
  let defaults : AnnotationNames := {}
  match ← value.recordIn? dialect ["remote", "observes", "local", "qualifiers"] with
  | [remote, observes, localOnly, qualifiers] =>
      return {
        remote := ← Json.withDefault Json.text? defaults.remote remote
        observes := ← Json.withDefault Json.text? defaults.observes observes
        localOnly := ← Json.withDefault Json.text? defaults.localOnly localOnly
        qualifiers :=
          ← Json.withDefault (Json.list? Json.text?) defaults.qualifiers qualifiers }
  | _ => none

end AnnotationNames

namespace BusApi

def toJson (bus : BusApi) : Json :=
  .object (bus.classes.map (fun (field, name) => (field, .text name)) ++
    [("subject_prefix", .text bus.subjectPrefix)])

def ofJson? (dialect : Json.Dialect) (value : Json) : Option BusApi := do
  let defaults : BusApi := {}
  match ← value.recordIn? dialect (defaults.classes.map Prod.fst ++ ["subject_prefix"]) with
  | [messageBus, message, messageCallback, messageBuilder, remoteCallback, errorCallback,
      rpcStub, proxyProvider, remoteProxyFactory, protocol, subjectPrefix] =>
      return {
        messageBus := ← Json.withDefault Json.text? defaults.messageBus messageBus
        message := ← Json.withDefault Json.text? defaults.message message
        messageCallback := ← Json.withDefault Json.text? defaults.messageCallback messageCallback
        messageBuilder := ← Json.withDefault Json.text? defaults.messageBuilder messageBuilder
        remoteCallback := ← Json.withDefault Json.text? defaults.remoteCallback remoteCallback
        errorCallback := ← Json.withDefault Json.text? defaults.errorCallback errorCallback
        rpcStub := ← Json.withDefault Json.text? defaults.rpcStub rpcStub
        proxyProvider := ← Json.withDefault Json.text? defaults.proxyProvider proxyProvider
        remoteProxyFactory :=
          ← Json.withDefault Json.text? defaults.remoteProxyFactory remoteProxyFactory
        protocol := ← Json.withDefault Json.text? defaults.protocol protocol
        subjectPrefix := ← Json.withDefault Json.text? defaults.subjectPrefix subjectPrefix }
  | _ => none

end BusApi

namespace Configuration

def toJson (configuration : Configuration) : Json :=
  .object [
    ("packages", .ofTexts configuration.packages),
    ("annotations", configuration.annotations.toJson),
    ("bus", configuration.bus.toJson),
    ("loader_contract", .text configuration.loaderContract),
    ("cache_dir", .text configuration.cacheDirectory),
    ("output_dir", .text configuration.outputDirectory),
    ("worker_threads", .natural configuration.workerThreads),
    ("max_pending_jobs", .natural configuration.maxPendingJobs),
    ("reuse_cached_artifacts", .boolean configuration.reuseCachedArtifacts),
    ("log_level", .text configuration.logLevel)]

def ofJson? (dialect : Json.Dialect) (value : Json) : Option Configuration := do
  let defaults : Configuration := {}
  match ← value.recordIn? dialect ["packages", "annotations", "bus", "loader_contract",
      "cache_dir", "output_dir", "worker_threads", "max_pending_jobs",
      "reuse_cached_artifacts", "log_level"] with
  | [packages, annotations, bus, loaderContract, cacheDirectory, outputDirectory,
      workerThreads, maxPendingJobs, reuseCachedArtifacts, logLevel] =>
      return {
        packages := ← Json.withDefault (Json.list? Json.text?) defaults.packages packages
        annotations :=
          ← Json.withDefault (AnnotationNames.ofJson? dialect) defaults.annotations annotations
        bus := ← Json.withDefault (BusApi.ofJson? dialect) defaults.bus bus
        loaderContract := ← Json.withDefault Json.text? defaults.loaderContract loaderContract
        cacheDirectory := ← Json.withDefault Json.text? defaults.cacheDirectory cacheDirectory
        outputDirectory := ← Json.withDefault Json.text? defaults.outputDirectory outputDirectory
        workerThreads := ← Json.withDefault Json.size? defaults.workerThreads workerThreads
        maxPendingJobs := ← Json.withDefault Json.size? defaults.maxPendingJobs maxPendingJobs
        reuseCachedArtifacts :=
          ← Json.withDefault Json.boolean? defaults.reuseCachedArtifacts reuseCachedArtifacts
        logLevel := ← Json.withDefault Json.text? defaults.logLevel logLevel }
  | _ => none

/-- Nothing at all is the default configuration, and anything else is a JSON record. -/
def ofJsonBytes? (content : ByteArray) : Option Configuration :=
  if content.isEmpty then some {} else (Json.parseBytes? content).bind (ofJson? .json)

def ofTomlText? (text : String) : Option Configuration :=
  (Toml.parse? text).bind (ofJson? .toml)

end Configuration

end BusBridge

namespace BusBridge.Configuration

def ofJsonBytes (content : ByteArray) : Except Failure Configuration :=
  match ofJsonBytes? content with
  | some configuration => .ok configuration
  | none => .error (.config "malformed JSON")

def ofTomlText (text : String) : Except Failure Configuration :=
  match ofTomlText? text with
  | some configuration => .ok configuration
  | none => .error (.config "malformed TOML")

/-- A file with the extension `json` holds JSON, and any other file holds TOML. -/
def load (files : Files) (path : String) : Except Failure Configuration :=
  match files.readText path with
  | .error cause =>
      .error (.config s!"failed to read {Text.quote path}: {cause.message}")
  | .ok text =>
      if Path.extension? path = some "json" then ofJsonBytes text.toUTF8 else ofTomlText text

end BusBridge.Configuration
