import InstallerSetup.Config.Basic
import InstallerSetup.Failure
import InstallerSetup.Rule

/-!
# Checking a configuration

`Config.check` applies the rules of the fields to a whole document and stops at the first one that
refuses. The section of a provider is looked at only if the provider is the chosen one.
-/

namespace InstallerSetup.Config

/-- A field under the name that messages use, and what its rule says about it. -/
structure Finding where
  field : String
  verdict : Except Refusal Unit

def firstRefusal : List Finding → Except Failure Unit
  | [] => .ok ()
  | finding :: rest =>
      match finding.verdict with
      | .ok () => firstRefusal rest
      | .error refusal => .error (.invalidField finding.field refusal.message)

def globalFindings (g : Global) : List Finding :=
  [⟨"orchestrator name", Rule.orchName g.orchName⟩,
    ⟨"parent domain", Rule.parentDomain g.parentDomain⟩,
    ⟨"admin email", Rule.adminEmail g.adminEmail⟩]

def awsFindings (aws : Aws) : List Finding :=
  [⟨"AWS region", Rule.awsRegion aws.region⟩,
    ⟨"AWS custom tag", Rule.any aws.customerTag⟩,
    ⟨"cache registry", Rule.any aws.cacheRegistry⟩,
    ⟨"AWS jump host whitelist", Rule.any (",".intercalate aws.jumpHostWhitelist)⟩,
    ⟨"AWS VPC ID", Rule.awsVpcId aws.vpcId⟩,
    ⟨"AWS EKS DNS IP", Rule.eksDnsIp aws.eksDnsIp⟩]

def onpremFindings (onprem : Onprem) : List Finding :=
  [⟨"Argo CD IP", Rule.ip onprem.argoIp⟩,
    ⟨"Traefik IP", Rule.ip onprem.traefikIp⟩,
    ⟨"NGINX IP", Rule.ip onprem.nginxIp⟩]

/-- The findings of the sections that every deployment has. -/
def commonFindings (c : Config) : List Finding :=
  [⟨"HTTP proxy", Rule.any c.proxy.httpProxy⟩,
    ⟨"HTTPS proxy", Rule.any c.proxy.httpsProxy⟩,
    ⟨"SOCKS proxy", Rule.any c.proxy.socksProxy⟩,
    ⟨"no proxy", Rule.any c.proxy.noProxy⟩,
    ⟨"TLS certificate", Rule.tlsCert c.cert.tlsCert⟩,
    ⟨"TLS key", Rule.tlsKey c.cert.tlsKey⟩,
    ⟨"TLS CA", Rule.tlsCa c.cert.tlsCa⟩,
    ⟨"SRE secret URL", Rule.any c.sre.secretUrl⟩,
    ⟨"SRE CA secret", Rule.any c.sre.caSecret⟩,
    ⟨"SMTP URL", Rule.any c.smtp.url⟩,
    ⟨"SMTP port", Rule.smtpPort c.smtp.port⟩,
    ⟨"SMTP from address", Rule.any c.smtp.sender⟩,
    ⟨"enabled apps", SetRule.any c.orch.enabled⟩]

def check (c : Config) : Except Failure Unit := do
  firstRefusal (globalFindings c.global)
  if c.global.scale.isNone then throw (.invalidField "scale" "scale must be set")
  match c.provider with
  | some .aws => firstRefusal (awsFindings c.aws)
  | some .onprem => firstRefusal (onpremFindings c.onprem)
  | none => throw (.invalidField "provider" "provider must be set")
  firstRefusal (commonFindings c)

end InstallerSetup.Config
