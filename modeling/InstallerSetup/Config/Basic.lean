import InstallerSetup.Config.Record

/-!
# The installer configuration

The document that the installer reads: settings that all deployments share, a section for each
infrastructure, and optional sections. A section equal to its default is not written, and neither is
an empty text or list.
-/

namespace InstallerSetup

open InstallerSetup.Yaml (Tree Mismatch Found)

namespace Config

inductive Provider where
  | aws
  | onprem
  deriving DecidableEq, Repr

namespace Provider

def all : List Provider := [aws, onprem]

def name : Provider → String
  | aws => "aws"
  | onprem => "onprem"

def ofName? (name : String) : Option Provider := all.find? fun p => p.name == name

def ofName (name : String) : Except Mismatch Provider :=
  match ofName? name with
  | some p => .ok p
  | none => .error (.unknownVariant name (all.map Provider.name))

/-- Reads a provider from a text, or from a tag without a value. -/
def ofTree? : Tree → Except Mismatch (Option Provider)
  | .null => .ok none
  | .string name => (ofName name).map some
  | .tagged tag value => do
      let p ← ofName (Tree.bareTag tag)
      match value with
      | .null => return some p
      | other => throw (.wrongType (.ofTree other) "unit")
  | other => .error (.wrongType (.ofTree other) "a Value::Tagged enum")

end Provider

/-- A preset for the size of a deployment, by its number of edge nodes. -/
inductive Scale where
  | nodes10
  | nodes100
  | nodes500
  | nodes1000
  | nodes10000
  deriving DecidableEq, Repr

namespace Scale

/-- The presets, the smallest first. -/
def all : List Scale := [nodes10, nodes100, nodes500, nodes1000, nodes10000]

def nodes : Scale → Nat
  | nodes10 => 10
  | nodes100 => 100
  | nodes500 => 500
  | nodes1000 => 1000
  | nodes10000 => 10000

def label : Scale → String
  | nodes10 => "1~10 Edge Nodes"
  | nodes100 => "10~100 Edge Nodes"
  | nodes500 => "100~500 Edge Nodes"
  | nodes1000 => "500~1000 Edge Nodes"
  | nodes10000 => "1000~10000 Edge Nodes"

def ofNodes? (count : Nat) : Option Scale := all.find? fun s => s.nodes == count

def ofNodes (count : Nat) : Except Mismatch Scale :=
  match ofNodes? count with
  | some s => .ok s
  | none => .error (.noSuchScale count)

def ofTree? : Tree → Except Mismatch (Option Scale)
  | .null => .ok none
  | tree => do
      let count ← Attribute.word tree
      let s ← ofNodes count
      return some s

end Scale

structure Global where
  orchName : String
  parentDomain : String
  adminEmail : String
  scale : Option Scale
  extra : Extra
  deriving Inhabited

structure Aws where
  region : String
  customerTag : String
  cacheRegistry : String
  jumpHostWhitelist : List String
  vpcId : String
  reduceNsTtl : Bool
  eksDnsIp : String
  extra : Extra
  deriving Inhabited

structure Onprem where
  argoIp : String
  traefikIp : String
  nginxIp : String
  dockerUsername : String
  dockerToken : String
  extra : Extra
  deriving Inhabited

structure Proxy where
  httpProxy : String
  httpsProxy : String
  socksProxy : String
  noProxy : String
  extra : Extra
  deriving Inhabited

structure Cert where
  tlsCert : String
  tlsKey : String
  tlsCa : String
  extra : Extra
  deriving Inhabited

structure Sre where
  username : String
  password : String
  secretUrl : String
  caSecret : String
  extra : Extra
  deriving Inhabited

/-- The relay for notifications by email; the port is kept as it is typed. -/
structure Smtp where
  username : String
  password : String
  url : String
  port : String
  sender : String
  extra : Extra
  deriving Inhabited

structure Orch where
  enabled : List String
  defaultPassword : String
  extra : Extra
  deriving Inhabited

instance : Record Global where
  label := "GlobalConfig"
  fresh := ⟨"", "", "", none, .empty⟩
  attributes :=
    [.text "orchName" (·.orchName) fun s v => { s with orchName := v },
      .text "parentDomain" (·.parentDomain) fun s v => { s with parentDomain := v },
      .text "adminEmail" (·.adminEmail) fun s v => { s with adminEmail := v },
      { key := "scale"
        required := false
        write := fun s => s.scale.map fun scale => .int scale.nodes
        read := fun tree => do
          let scale ← Scale.ofTree? tree
          return fun s => { s with scale := scale } }]
  extra s := s.extra
  withExtra s extra := { s with extra := extra }

instance : Record Aws where
  label := "AwsConfig"
  fresh := ⟨"", "", "", [], "", false, "", .empty⟩
  attributes :=
    [.text "region" (·.region) fun s v => { s with region := v },
      .text "customerTag" (·.customerTag) fun s v => { s with customerTag := v },
      .text "cacheRegistry" (·.cacheRegistry) fun s v => { s with cacheRegistry := v },
      .texts "jumpHostWhitelist" (·.jumpHostWhitelist) fun s v => { s with jumpHostWhitelist := v },
      .text "vpcId" (·.vpcId) fun s v => { s with vpcId := v },
      .flag "reduceNSTTL" (·.reduceNsTtl) fun s v => { s with reduceNsTtl := v },
      .text "eksDnsIP" (·.eksDnsIp) fun s v => { s with eksDnsIp := v }]
  extra s := s.extra
  withExtra s extra := { s with extra := extra }

instance : Record Onprem where
  label := "OnpremConfig"
  fresh := ⟨"", "", "", "", "", .empty⟩
  attributes :=
    [.text "argoIP" (·.argoIp) fun s v => { s with argoIp := v },
      .text "traefikIP" (·.traefikIp) fun s v => { s with traefikIp := v },
      .text "nginxIP" (·.nginxIp) fun s v => { s with nginxIp := v },
      .text "dockerUsername" (·.dockerUsername) fun s v => { s with dockerUsername := v },
      .text "dockerToken" (·.dockerToken) fun s v => { s with dockerToken := v }]
  extra s := s.extra
  withExtra s extra := { s with extra := extra }

instance : Record Proxy where
  label := "ProxyConfig"
  fresh := ⟨"", "", "", "", .empty⟩
  attributes :=
    [.text "httpProxy" (·.httpProxy) fun s v => { s with httpProxy := v },
      .text "httpsProxy" (·.httpsProxy) fun s v => { s with httpsProxy := v },
      .text "socksProxy" (·.socksProxy) fun s v => { s with socksProxy := v },
      .text "noProxy" (·.noProxy) fun s v => { s with noProxy := v }]
  extra s := s.extra
  withExtra s extra := { s with extra := extra }

instance : Record Cert where
  label := "CertConfig"
  fresh := ⟨"", "", "", .empty⟩
  attributes :=
    [.text "tlsCert" (·.tlsCert) fun s v => { s with tlsCert := v },
      .text "tlsKey" (·.tlsKey) fun s v => { s with tlsKey := v },
      .text "tlsCA" (·.tlsCa) fun s v => { s with tlsCa := v }]
  extra s := s.extra
  withExtra s extra := { s with extra := extra }

instance : Record Sre where
  label := "SreConfig"
  fresh := ⟨"", "", "", "", .empty⟩
  attributes :=
    [.text "username" (·.username) fun s v => { s with username := v },
      .text "password" (·.password) fun s v => { s with password := v },
      .text "secretURL" (·.secretUrl) fun s v => { s with secretUrl := v },
      .text "caSecret" (·.caSecret) fun s v => { s with caSecret := v }]
  extra s := s.extra
  withExtra s extra := { s with extra := extra }

instance : Record Smtp where
  label := "SmtpConfig"
  fresh := ⟨"", "", "", "", "", .empty⟩
  attributes :=
    [.text "username" (·.username) fun s v => { s with username := v },
      .text "password" (·.password) fun s v => { s with password := v },
      .text "url" (·.url) fun s v => { s with url := v },
      .text "port" (·.port) fun s v => { s with port := v },
      .text "from" (·.sender) fun s v => { s with sender := v }]
  extra s := s.extra
  withExtra s extra := { s with extra := extra }

instance : Record Orch where
  label := "OrchSettings"
  fresh := ⟨[], "", .empty⟩
  attributes :=
    [.texts "enabled" (·.enabled) fun s v => { s with enabled := v },
      .text "defaultPassword" (·.defaultPassword) fun s v => { s with defaultPassword := v }]
  extra s := s.extra
  withExtra s extra := { s with extra := extra }

def currentVersion : Nat := 2

def oldestVersion : Nat := 1

/-- The password that accounts have until their first login. -/
def initialPassword : String := "ChangeMeOn1stLogin!"

end Config

structure Config where
  version : Nat
  provider : Option Config.Provider
  global : Config.Global
  aws : Config.Aws
  onprem : Config.Onprem
  proxy : Config.Proxy
  cert : Config.Cert
  sre : Config.Sre
  smtp : Config.Smtp
  orch : Config.Orch
  extra : Config.Extra
  deriving Inhabited

namespace Config

def initial : Config :=
  ⟨currentVersion, none, Record.fresh, Record.fresh, Record.fresh, Record.fresh, Record.fresh,
    Record.fresh, Record.fresh, Record.fresh, .empty⟩

instance : Record Config where
  label := "OrchConfig"
  fresh := initial
  attributes :=
    [{ key := "version"
       required := true
       write := fun c => some (.int c.version)
       read := fun tree => do
         let version ← Attribute.word tree
         return fun c => { c with version := version } },
      { key := "provider"
        required := false
        write := fun c => c.provider.map fun p => .string p.name
        read := fun tree => do
          let provider ← Provider.ofTree? tree
          return fun c => { c with provider := provider } },
      .record "global" (·.global) fun c v => { c with global := v },
      .record "aws" (·.aws) fun c v => { c with aws := v },
      .record "onprem" (·.onprem) fun c v => { c with onprem := v },
      .record "proxy" (·.proxy) fun c v => { c with proxy := v },
      .record "cert" (·.cert) fun c v => { c with cert := v },
      .record "sre" (·.sre) fun c v => { c with sre := v },
      .record "smtp" (·.smtp) fun c v => { c with smtp := v },
      .record "orch" (·.orch) fun c v => { c with orch := v }]
  extra c := c.extra
  withExtra c extra := { c with extra := extra }

def same (c d : Config) : Bool := Record.same c d

def isInitial (c : Config) : Bool := c.same initial

end Config

end InstallerSetup
