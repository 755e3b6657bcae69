import LifecycleOperator.Template.Render

/-!
# Built-in templates

The templates of the configuration files that the configurator imports.  Block
tags stand alone on their lines in the files, so that they leave no line behind;
the templates are given directly as their parts.
-/

namespace LifecycleOperator
namespace Configuration

open Template (Part)

def lines (content : List String) : Part :=
  .text (String.join (content.map fun line => line ++ "\n"))

/-- A line of a name and the value of a field. -/
def line (start field : String) : Template :=
  [.text start, .field field, .text "\n"]

/-- A line of a name and the quoted value of a field. -/
def quotedLine (start field : String) : Template :=
  [.text (start ++ "\""), .field field, .text "\"\n"]

def janus : Template :=
  [lines ["alm:", "  janus:", "    storage:"]] ++
  quotedLine "      hostname: " "cassandra_hostname" ++
  [lines ["    cluster:", "      max-partitions: 4", "    index:", "      search:"]] ++
  quotedLine "        hostname: " "es_hostname" ++
  [lines
    ["        elasticsearch.create.ext.index.number_of_shards: 1",
      "        elasticsearch.create.ext.index.number_of_replicas: 0"]]

def kafka : Template :=
  quotedLine "kafka_source: " "kafka_source" ++
  quotedLine "kafka_version: " "kafka_version" ++
  quotedLine "zookeeper_url: " "zookeeper_url"

def topicBlock : Template :=
  [.text "  ", .field "name", .text ":\n    replication_factor: ",
    .field "replication_factor", .text "\n    partitions: ", .field "partitions",
    .text "\n",
    .whenField "config" [.text "    config: \"", .field "config", .text "\"\n"]]

def topics : Template :=
  [.text "topics:\n", .eachField "topics" topicBlock]

def clientBlock : Template :=
  [.text "- clientId: ", .field "client_id", .text "\n  clientSecret: ",
    .field "client_secret", .text "\n  grantTypes: ", .field "grant_types", .text "\n",
    .whenField "roles" [.text "  roles: ", .field "roles", .text "\n"]]

def clientCredentials : Template :=
  [.eachField "clients" clientBlock]

def watchtower : Template :=
  [lines ["alm:", "  watchtower:", "    kafka:"]] ++
  line "      replicationFactor: " "replication_factor"

def galileo : Template :=
  [lines ["alm:", "  galileo:", "    ldu:", "      streams:"]] ++
  line "        processing.guarantee: " "processing_guarantee" ++
  line "        replication.factor: " "replication_factor" ++
  line "        num.standby.replicas: " "num_standby_replicas" ++
  [lines ["    janus:", "      cluster.max-partitions: 4"]] ++
  line "      storage.cql.replication-factor: " "replication_factor" ++
  [lines ["      index:", "        search:"]] ++
  line "          elasticsearch.create.ext.index.number_of_replicas: "
    "num_standby_replicas" ++
  line "          elasticsearch.create.ext.index.number_of_shards: " "es_num_shards"

/-- The settings of the graph database, as the services share them. -/
def graphSettings : Template :=
  [lines ["    janus:", "      cluster.max-partitions: 4"]] ++
  line "      storage.cql.replication-factor: " "cassandra_replication_factor" ++
  [lines ["      index:", "        search:"]] ++
  line "          elasticsearch.create.ext.index.number_of_replicas: "
    "es_num_replicas" ++
  line "          elasticsearch.create.ext.index.number_of_shards: " "es_num_shards"

/-- The settings of the key space of a service. -/
def keyspaceSettings (service : String) : Template :=
  [lines ["alm:", "  " ++ service ++ ":", "    cassandra:", "      keyspaceManager:"]] ++
  line "        replicationFactor: " "cassandra_replication_factor"

def talledega : Template :=
  [lines ["alm:", "  talledega:"]] ++ graphSettings

def brent : Template :=
  keyspaceSettings "brent" ++ graphSettings

def apollo : Template :=
  keyspaceSettings "apollo" ++ graphSettings

def nimrod : Template :=
  keyspaceSettings "nimrod"

/-- The roles of the users and their privileges. -/
def roleLines : List String :=
  [
    "  roles:",
    "    SLMAdmin:",
    "      ldapGroups:",
    "        - SLMAdmin",
    "      privileges:",
    "        NsinstsMgt: read,write,execute",
    "        VnfInstsMgt: read,write,execute",
    "        nsDesMgt: read,write,execute",
    "        VnfDesMgt: read,write,execute",
    "        DeployLocMgt: read,write,execute",
    "        VduMgt: read,write,execute",
    "        IntentReqslMgt: read,execute",
    "        IntentReqsOps: read,execute",
    "        SlmAdmin: read,write,execute",
    "        MaintModeOride: read,execute",
    "        VduDesMgt: read,write,execute",
    "        VduGrpMgt: read,write,execute",
    "        VduInstsMgt: read,write,execute",
    "        BehvrScenExec: read,write,execute",
    "        BehvrScenDes: read,write",
    "        RmDrvr: read,write",
    "        ResourcePkg: write",
    "    Portal:",
    "      ldapGroups:",
    "        - Portal",
    "      privileges:",
    "        NsinstsMgt: read,write,execute",
    "        VduDesMgt: read",
    "        VduGrpMgt: read",
    "        VduInstsMgt: read",
    "        VnfInstsMgt: read",
    "        nsDesMgt: read",
    "        DeployLocMgt: read",
    "        IntentReqslMgt: read,execute",
    "        BehvrScenExec: read,write,execute",
    "        BehvrScenDes: read,write",
    "        ResourcePkg: write",
    "    ReadOnly:",
    "      ldapGroups:",
    "        - ReadOnly",
    "      privileges:",
    "        NsinstsMgt: read",
    "        VduDesMgt: read",
    "        VduGrpMgt: read",
    "        VduInstsMgt: read",
    "        VnfInstsMgt: read",
    "        nsDesMgt: read",
    "        VnfDesMgt: read",
    "        DeployLocMgt: read",
    "        VduMgt: read",
    "        BehvrScenExec: read",
    "        BehvrScenDes: read",
    "    RootSecAdmin:",
    "      ldapGroups:",
    "        - RootSecAdmin",
    "      privileges:",
    "        SecAdmin: read,write,execute",
    "    BehaviourScenarioExecute:",
    "      privileges:",
    "        NsinstsMgt: read,write",
    "        IntentReqslMgt: execute",
    "        IntentReqsOps: execute"]

def ishtar : Template :=
  keyspaceSettings "ishtar" ++ [lines roleLines]

def builtIn : List (String × Template) :=
  [("janus", janus), ("kafka", kafka), ("topics", topics),
    ("client_credentials", clientCredentials), ("watchtower", watchtower),
    ("galileo", galileo), ("talledega", talledega), ("brent", brent),
    ("apollo", apollo), ("nimrod", nimrod), ("ishtar", ishtar)]

end Configuration
end LifecycleOperator
