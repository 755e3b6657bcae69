import LifecycleOperator.Cluster.Object
import LifecycleOperator.Release.Manifest

/-!
# Deployment profiles

A profile says everything that is needed to build the resources of a service.
The profile of an installation follows from its specification and from a release
manifest: names, ports, workloads and ingresses are the same for every
installation, the sizes depend on the sizing class alone and the versions on the
manifest alone.
-/

namespace LifecycleOperator

/-- The sizing class of an installation. -/
inductive SizingClass
  | highAvailability
  | tiny
  | middle
  | standard
  deriving DecidableEq, Repr, Inhabited

namespace SizingClass

/-- The class that a word stands for, in any case; other words mean the standard one. -/
def ofText (text : String) : SizingClass :=
  let word := Text.lowerCase text
  if word = "ha" then .highAvailability
  else if word = "tiny" then .tiny
  else if word = "middle" then .middle
  else .standard

def text : SizingClass → String
  | .highAvailability => "ha"
  | .tiny => "tiny"
  | .middle => "middle"
  | .standard => "standard"

/-- The name of a class in profiles. -/
def name : SizingClass → String
  | .highAvailability => "Ha"
  | .tiny => "Tiny"
  | .middle => "Middle"
  | .standard => "Standard"

end SizingClass

/-- The kind of workload that runs a service. -/
inductive Workload
  | job
  | deployment
  | statefulSet
  deriving DecidableEq, Repr, Inhabited

namespace Workload

def name : Workload → String
  | .job => "Job"
  | .deployment => "Deployment"
  | .statefulSet => "StatefulSet"

def ofName? (name : String) : Option Workload :=
  [Workload.job, .deployment, .statefulSet].find? fun workload => workload.name == name

end Workload

/-- The ingress in front of a service. -/
structure IngressProfile where
  name : String
  host : String
  tlsSecret : String
  deriving DecidableEq, Repr, Inhabited

/-- What only some services have. -/
inductive Extension
  | themes (themesConfigMap localesConfigMap : String)
  | bootstrap (run : Bool)
  deriving DecidableEq, Repr, Inhabited

/-- Requests of a service for resources of the cluster. -/
structure Sizing where
  replicas : Int
  cpu : String
  memory : String
  heap : String
  deriving DecidableEq, Repr, Inhabited

/-- Everything needed to build the resources of a service. -/
structure ServiceProfile where
  name : String
  image : String
  version : String
  /-- The port, if the service listens. -/
  port : Option Int
  workload : Workload
  /-- The ingress, if the service is exposed. -/
  ingress : Option IngressProfile
  sizing : Sizing
  extension : Option Extension
  deriving DecidableEq, Repr, Inhabited

namespace ServiceProfile

/-- The reference to the image within a registry. -/
def imageReference (service : ServiceProfile) (registry : String) : String :=
  registry ++ "/" ++ service.image ++ ":" ++ service.version

/-- The port, zero when the service does not listen. -/
def portNumber (service : ServiceProfile) : Int :=
  service.port.getD 0

end ServiceProfile

/-- The profiles of the services of an installation. -/
structure DeploymentProfile where
  sizingClass : SizingClass
  services : List ServiceProfile
  deriving DecidableEq, Repr, Inhabited

namespace DeploymentProfile

def find? (profile : DeploymentProfile) (name : String) : Option ServiceProfile :=
  profile.services.find? fun service => service.name == name

/-- The profile without the services of some names. -/
def without (profile : DeploymentProfile) (names : List String) : DeploymentProfile :=
  { profile with
    services := profile.services.filter fun service => !names.contains service.name }

/-- Put a service in the place of the first one of its name, or at the end. -/
def replaceIn (service : ServiceProfile) : List ServiceProfile → List ServiceProfile
  | [] => [service]
  | former :: rest =>
      if former.name == service.name then service :: rest
      else former :: replaceIn service rest

/-- The profile with a service in the place of the first one of its name, or at the end. -/
def replace (profile : DeploymentProfile) (service : ServiceProfile) : DeploymentProfile :=
  { profile with services := replaceIn service profile.services }

end DeploymentProfile

def configuratorName : String := "lm-configurator"

/-- The order in which the services are rolled out. -/
def rolloutOrder : List String :=
  ["conductor", "apollo", "galileo", "talledega", "daytona", "relay", "watchtower",
    "doki", "nimrod", "ishtar", "brent"]

/-- What is fixed about a service. -/
structure ServiceBase where
  /-- The name of the service and of its image. -/
  name : String
  /-- The key of the service in release manifests. -/
  releaseKey : String
  /-- The port, if the service listens. -/
  port : Option Int
  workload : Workload
  /-- The ingress, if the service is exposed. -/
  ingress : Option IngressProfile
  deriving DecidableEq, Repr, Inhabited

namespace ServiceBase

/-- A service that is reached from inside of the cluster only. -/
def inner (name : String) (port : Int) (workload : Workload) : ServiceBase :=
  ⟨name, name, some port, workload, none⟩

/-- A service that is exposed through an ingress. -/
def exposed (name : String) (port : Int) (host : String) : ServiceBase :=
  ⟨name, name, some port, .deployment,
    some ⟨name ++ "-ingress", host, name ++ "-tls"⟩⟩

/-- The services of every installation. -/
def all : List ServiceBase :=
  [⟨configuratorName, "configurator", none, .job, none⟩,
    inner "conductor" 8761 .statefulSet,
    inner "apollo" 8282 .deployment,
    inner "galileo" 8283 .statefulSet,
    inner "talledega" 8287 .deployment,
    inner "daytona" 8281 .deployment,
    inner "relay" 8285 .deployment,
    inner "watchtower" 8284 .deployment,
    inner "doki" 8288 .deployment,
    exposed "nimrod" 8290 "ui.lm",
    exposed "ishtar" 8280 "app.lm",
    exposed "brent" 8291 "brent.lm"]

end ServiceBase

namespace Sizing

/-- The size of the services of small installations. -/
def tiny : List (String × Sizing) :=
  [("conductor", ⟨1, "100m", "156Mi", "128m"⟩),
    ("apollo", ⟨1, "100m", "156Mi", "128m"⟩),
    ("galileo", ⟨1, "300m", "300Mi", "256m"⟩),
    ("talledega", ⟨1, "300m", "300Mi", "256m"⟩),
    ("daytona", ⟨1, "500m", "156Mi", "128m"⟩),
    ("nimrod", ⟨1, "300m", "300Mi", "256m"⟩),
    ("ishtar", ⟨1, "200m", "156Mi", "128m"⟩),
    ("relay", ⟨1, "50m", "156Mi", "128m"⟩),
    ("watchtower", ⟨1, "500m", "412Mi", "384m"⟩),
    ("doki", ⟨1, "200m", "384Mi", "256m"⟩),
    ("brent", ⟨3, "200m", "256Mi", "256m"⟩)]

/-- The size of the services of installations in the middle. -/
def middle : List (String × Sizing) :=
  [("conductor", ⟨1, "100m", "128Mi", "128m"⟩),
    ("apollo", ⟨1, "100m", "512Mi", "512m"⟩),
    ("galileo", ⟨1, "500m", "512Mi", "512m"⟩),
    ("talledega", ⟨1, "500m", "512Mi", "512m"⟩),
    ("daytona", ⟨1, "500m", "512Mi", "512m"⟩),
    ("nimrod", ⟨1, "300m", "256Mi", "256m"⟩),
    ("ishtar", ⟨1, "300m", "256Mi", "256m"⟩),
    ("relay", ⟨1, "100m", "128Mi", "128m"⟩),
    ("watchtower", ⟨1, "500m", "512Mi", "512m"⟩),
    ("doki", ⟨1, "250m", "512Mi", "512m"⟩),
    ("brent", ⟨1, "500m", "512Mi", "512m"⟩)]

/-- The configurator is a short batch, of one size in every class. -/
def configurator : Sizing := ⟨1, "100m", "256Mi", "256m"⟩

/-- The size of a service where nothing else is said. -/
def standard : Sizing := ⟨1, "1", "1024Mi", "1G"⟩

/-- The size of a service that is run redundantly. -/
def redundant : Sizing := ⟨3, "1", "1024Mi", "1G"⟩

/-- The size of a service in a class. -/
def ofService (sizingClass : SizingClass) (service : String) : Sizing :=
  if service = configuratorName then configurator
  else
    match sizingClass with
    | .tiny => (tiny.lookup service).getD standard
    | .middle => (middle.lookup service).getD standard
    | .highAvailability => redundant
    | .standard => standard

end Sizing

namespace Specification

def extension (specification : Specification) (service : String) : Option Extension :=
  if service = configuratorName then some (.bootstrap specification.configurator.run)
  else if service = "nimrod" then
    some (.themes specification.nimrod.themesConfigMap
      specification.nimrod.localesConfigMap)
  else none

def serviceProfile
    (specification : Specification) (manifest : Manifest) (base : ServiceBase) :
    ServiceProfile where
  name := base.name
  image := base.name
  version := manifest.version base.releaseKey
  port := base.port
  workload := base.workload
  ingress := base.ingress
  sizing := Sizing.ofService (.ofText specification.deploymentType) base.name
  extension := specification.extension base.name

/-- The profile of an installation with this specification, for a release manifest. -/
def profile (specification : Specification) (manifest : Manifest) : DeploymentProfile where
  sizingClass := .ofText specification.deploymentType
  services := ServiceBase.all.map (specification.serviceProfile manifest)

end Specification

end LifecycleOperator
