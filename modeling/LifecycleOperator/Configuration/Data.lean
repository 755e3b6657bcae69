import LifecycleOperator.Configuration.Templates
import LifecycleOperator.Release.Profile
import LifecycleOperator.Template.Registry

/-!
# Contents of ConfigMaps

What the ConfigMaps of an installation hold: the settings of the configurator,
the files that it imports, and the environments of the services.
-/

namespace LifecycleOperator
namespace Configuration

/-- A topic of the message broker. -/
structure Topic where
  name : String
  replicationFactor : Int
  partitions : Int
  /-- Extra configuration, if not empty. -/
  config : String
  deriving DecidableEq, Repr, Inhabited

/-- A client of the security service. -/
structure Client where
  id : String
  secret : String
  /-- How the client may identify itself. -/
  grantTypes : String
  /-- The roles, if not empty. -/
  roles : String
  deriving DecidableEq, Repr, Inhabited

namespace Topic

/-- Only the latest message of every key is kept. -/
def compacted : String := "cleanup.policy=compact"

/-- Messages are kept for an hour. -/
def keptOneHour : String := "retention.ms=3600000"

def all : List Topic :=
  [⟨"alm__health", 1, 1, compacted⟩,
    ⟨"alm__metric", 1, 1, compacted⟩,
    ⟨"alm__metric-integrity", 1, 1, compacted⟩,
    ⟨"alm__policy", 1, 1, compacted⟩,
    ⟨"alm__policyAction", 1, 1, ""⟩,
    ⟨"alm__policyStatusHeal", 1, 1, ""⟩,
    ⟨"alm__policyStatusScale", 1, 1, ""⟩,
    ⟨"alm__clock", 1, 1, ""⟩,
    ⟨"alm__descriptorChange", 1, 1, compacted⟩,
    ⟨"alm__processStateChange", 1, 1, ""⟩,
    ⟨"alm__processTasksStateChange", 1, 1, ""⟩,
    ⟨"alm__stateChange", 1, 1, ""⟩,
    ⟨"alm__serviceStateTransition", 1, 1, ""⟩,
    ⟨"alm__taskUpdate", 1, 1, ""⟩,
    ⟨"alm__load", 1, 1, ""⟩,
    ⟨"alm__integrity", 1, 1, ""⟩,
    ⟨"alm__integrityMissing", 1, 1, ""⟩,
    ⟨"info", 1, 1, ""⟩,
    ⟨"alm__clockticks5", 1, 1, keptOneHour⟩,
    ⟨"alm__clockticks10", 1, 1, keptOneHour⟩,
    ⟨"alm__clockticks15", 1, 1, keptOneHour⟩,
    ⟨"alm__clockticks30", 1, 1, keptOneHour⟩,
    ⟨"alm__clockticks60", 1, 1, keptOneHour⟩,
    ⟨"alm__clockticksother", 1, 1, ""⟩,
    ⟨"alm__tick", 1, 1, keptOneHour⟩,
    ⟨"alm__clocktickTypes", 1, 1, compacted⟩,
    ⟨"alm__processRestart", 1, 1, ""⟩,
    ⟨"alm__stateChange__ldu", 1, 1, "retention.ms=31536000000"⟩,
    ⟨"lm_vim_infrastructure_task_events", 1, 1, ""⟩,
    ⟨"lm_vnfc_lifecycle_execution_events", 1, 1, ""⟩]

def toJson (topic : Topic) : Json :=
  Json.ofFields
    [("name", .string topic.name), ("replication_factor", Json.ofInt topic.replicationFactor),
      ("partitions", Json.ofInt topic.partitions), ("config", .string topic.config)]

end Topic

namespace Client

def all : List Client :=
  [⟨"LmClient", "pass123", "client_credentials", "SLMAdmin"⟩,
    ⟨"NimrodClient", "pass123", "password,refresh_token", ""⟩,
    ⟨"DokiClient", "pass123", "client_credentials", "BehaviourScenarioExecute"⟩]

def toJson (client : Client) : Json :=
  Json.ofFields
    [("client_id", .string client.id), ("client_secret", .string client.secret),
      ("grant_types", .string client.grantTypes), ("roles", .string client.roles)]

end Client

/-- The data of the template of the topics. -/
def topicsData (topics : List Topic) : Json :=
  Json.ofFields [("topics", .array (topics.map Topic.toJson))]

/-- The data of the template of the clients. -/
def clientsData (clients : List Client) : Json :=
  Json.ofFields [("clients", .array (clients.map Client.toJson))]

/-- The data of the template of the message broker. -/
def kafkaData : Json :=
  Json.ofFields
    [("kafka_source",
        .string "https://archive.apache.org/dist/kafka/2.0.0/kafka_2.11-2.0.0.tgz"),
      ("kafka_version", .string "kafka_2.11-2.0.0"),
      ("zookeeper_url", .string "foundation-zookeeper:2181")]

/-- The data of the template of the graph database. -/
def janusData : Json :=
  Json.ofFields
    [("cassandra_hostname", .string "foundation-cassandra"),
      ("es_hostname", .string "foundation-elasticsearch-client:9200")]

/-- The sizes of the backing stores of an installation. -/
def storageData : Json :=
  Json.ofFields
    [("replication_factor", Json.ofInt 1), ("cassandra_replication_factor", Json.ofInt 1),
      ("es_num_shards", Json.ofInt 1), ("es_num_replicas", Json.ofInt 0),
      ("num_standby_replicas", Json.ofInt 0),
      ("processing_guarantee", .string "at_least_once")]

/-- Settings of the security of every installation. -/
def securitySettings : List (String × String) :=
  [("securityKeyStorePassword", "keypass"),
    ("securityNimrodClientSecret", "pass123"),
    ("securityNimrodAccessTokenValidity", "1200"),
    ("securityNimrodRefreshTokenValidity", "30600"),
    ("securityDokiClientSecret", "pass123"),
    ("securityDokiAccessTokenValidity", "1200"),
    ("securityDokiRoles", "BehaviourScenarioExecute"),
    ("securityLdapEnabled", "true"),
    ("securityLdapConfigPassword", "config"),
    ("securityLdapManagerPassword", "lmadmin"),
    ("securityLdapDomain", "lm.com"),
    ("securityUiHost", "ui.lm"),
    ("securityApiHost", "app.lm"),
    ("securityBrentHost", "brent.lm"),
    ("cassandraUsername", ""),
    ("cassandraPassword", "")]

def render (name : String) (data : Json) : Except Fault String :=
  registry.render name data
where
  /-- The registry of the built-in templates. -/
  registry : Template.Registry := ⟨builtIn⟩

/-- The content of the ConfigMap that the configurator is set up with. -/
def configuratorData (secure : Bool) : Except Fault (OrderedMap String) := do
  let kafka ← render "kafka" kafkaData
  let topics ← render "topics" (topicsData Topic.all)
  let janus ← render "janus" janusData
  let clients ← render "client_credentials" (clientsData Client.all)
  return OrderedMap.ofPairs <|
    securitySettings ++
    [("kafka_config.yaml", kafka), ("topics.yaml", topics),
      ("janusgraph_config.yaml", janus), ("securityClientCredentials", clients),
      ("securityEnabled", if secure then "true" else "false")]

def importedServices : List String :=
  ["watchtower", "galileo", "talledega", "brent", "apollo", "nimrod", "ishtar"]

/-- The content of the ConfigMap that the configurator imports. -/
def configImportData : Except Fault (OrderedMap String) := do
  let files ← importedServices.mapM fun service =>
    (render service storageData).map fun text => (service ++ ".yaml", text)
  return OrderedMap.ofPairs files

/-- The profiles that a service of an installation runs with. -/
def activeProfiles (specification : Specification) (service : String) : String :=
  (if specification.secure then "security" else "nosecurity") ++
  (if service = "conductor" then ",vault" else "") ++
  (if specification.activeProfiles.isEmpty then ""
    else "," ++ specification.activeProfiles)

def serviceData (specification : Specification) (service : ServiceProfile) :
    OrderedMap String :=
  OrderedMap.ofPairs
    [("eureka_instance_ipAddress", service.image),
      ("spring_profiles_include", "prod,kubernetes"),
      ("spring_cloud_config_failFast", "true"),
      ("LOG_FOLDER", "/var/lm/logs"),
      ("spring_cloud_config_label", specification.configLabel),
      ("JVM_OPTIONS", "-Xmx" ++ service.sizing.heap),
      ("spring_profiles_active", activeProfiles specification service.name)]

end Configuration
end LifecycleOperator
