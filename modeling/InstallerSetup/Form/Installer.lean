import InstallerSetup.Form.Basic

/-!
# The installer form

The questions that make up a configuration. An optional section is a gate that asks whether to go
into it, and a body behind it. In expert mode the gates are left out and all bodies are shown.
-/

namespace InstallerSetup.Form

namespace Installer

def isAws (s : State) : Bool := s.config.provider == some .aws

def isOnprem (s : State) : Bool := s.config.provider == some .onprem

def asksGates (s : State) : Bool := !s.flags.expertMode

/-- Whether the body behind a gate is shown. -/
def opens (gate : Flags → Bool) (s : State) : Bool := s.flags.expertMode || gate s.flags

def scaleChoices (s : State) (_ : Catalog) : List Choice :=
  Config.Scale.all.map fun scale =>
    ⟨scale.label, s.config.global.scale == some scale, .scale (some scale)⟩

def providerLabel : Config.Provider → String
  | .aws => "AWS"
  | .onprem => "On-Premises"

def providerChoices (s : State) (_ : Catalog) : List Choice :=
  Config.Provider.all.map fun provider =>
    ⟨providerLabel provider, s.config.provider == some provider, .provider (some provider)⟩

def modeLabel : Mode → String
  | .simple => "Simple   - select from pre-defined packages (recommended)"
  | .advanced => "Advanced - enable/disable each individual app"
  | .skip => "Skip     - use existing config"

/-- The modes; a list can be kept only if there is one. -/
def offeredModes (s : State) : List Mode :=
  if s.config.orch.enabled.isEmpty then [.simple, .advanced] else [.simple, .advanced, .skip]

def modeChoices (s : State) (_ : Catalog) : List Choice :=
  (offeredModes s).map fun mode => ⟨modeLabel mode, s.scratch.mode == mode, .mode mode⟩

def itemLabel (name description : String) : String := name ++ " (" ++ description ++ ")"

def packageItems (_ : State) (catalog : Catalog) : List Item :=
  catalog.packagesByName.map fun (id, package) =>
    ⟨itemLabel package.name package.description, id, true⟩

def appItems (s : State) (catalog : Catalog) : List Item :=
  catalog.appsByName.map fun (id, app) =>
    ⟨itemLabel app.name app.description, id, s.config.orch.enabled.contains id⟩

def unsureHint : String := "Skip it if you are not sure"

/-- A group that asks whether to go into a section. -/
def gate (title question hint : String) (slot : FlagSlot) : Group :=
  .always title [Field.confirm question "Configure" "Skip" slot |>.describe hint]

def global : Group :=
  .always "Step 1: Global Settings"
    [Field.input "Orchestrator Name" TextPlace.orchName
        |>.describe "Name of this orchestrator deployment"
        |>.suggest "demo"
        |>.checkedBy Rule.orchName,
      Field.input "Parent Domain" TextPlace.parentDomain
        |>.describe "Parent domain name. The domain for this deployment will be orchName.parentDomain"
        |>.suggest "edgeorchestration.intel.com"
        |>.checkedBy Rule.parentDomain,
      Field.input "Admin Email" TextPlace.adminEmail
        |>.describe "Admin email address. This will be used to sign certificate and deliver alerts"
        |>.suggest "firstname.lastname@intel.com"
        |>.checkedBy Rule.adminEmail,
      Field.select "Scale" scaleChoices
        |>.describe "Select target scale"]

def provider : Group :=
  .always "Step 2: Infrastructure Type"
    [Field.select "Infrastructure Type" providerChoices
        |>.describe "Select the infrastructure type where the EMF will be deployed."]

def awsBasic : Group :=
  Group.always "Step 3a: AWS Basic Configuration"
    [Field.input "AWS Region" TextPlace.awsRegion
        |>.describe "This is the region where the EMF will be deployed."
        |>.suggest "us-east-1"
        |>.checkedBy Rule.awsRegion]
    |>.shownIf isAws

def awsExpertTitle : String := "Step 3b: (Optional) AWS Expert Configurations"

def awsGate : Group :=
  gate awsExpertTitle "Proceed with AWS Expert Configuration?" unsureHint
      FlagPlace.configureAwsExpert
    |>.shownIf fun s => isAws s && asksGates s

def awsExpert : Group :=
  Group.always awsExpertTitle
    [Field.input "Custom Tag" TextPlace.awsCustomerTag
        |>.describe "(Optional) Apply this tag to all AWS resources",
      Field.input "Container Registry Cache" TextPlace.awsCacheRegistry
        |>.describe "(Optional) Pull OCI artifact from this cache registry",
      Field.input "Jump Host Whitelist" TextPlace.jumpHosts
        |>.describe "(Optional) Traffic from these comma separated CIDRs will be allowed to access the jump host"
        |>.suggest "10.0.0.0/8",
      Field.input "VPC ID" TextPlace.awsVpcId
        |>.describe "(Optional) Enter VPC ID if you prefer to reuse existing VPC instead of letting us create one"
        |>.checkedBy Rule.awsVpcId,
      Field.confirm "Reduce NS TTL" "yes" "no" FlagPlace.awsReduceNsTtl
        |>.describe "(Optional) Reduce the TTL of the NS record to 60 seconds",
      Field.input "EKS DNS IP" TextPlace.awsEksDnsIp
        |>.describe "(Optional) Enter EKS DNS IP if you prefer to reuse a non-default DNS server"
        |>.checkedBy Rule.eksDnsIp]
    |>.shownIf fun s => isAws s && opens Flags.configureAwsExpert s

def onpremBasic : Group :=
  Group.always "Step 3a: On-Prem Configuration"
    [Field.input "Argo CD IP Address" TextPlace.argoIp
        |>.describe "This is the IP address of Argo CD."
        |>.suggest "192.168.1.1"
        |>.checkedBy Rule.ip,
      Field.input "Traefik IP Address" TextPlace.traefikIp
        |>.describe "This is the IP address of Traefik."
        |>.suggest "192.168.1.2"
        |>.checkedBy Rule.ip,
      Field.input "NGINX IP Address" TextPlace.nginxIp
        |>.describe "This is the IP address of NGINX."
        |>.suggest "192.168.1.3"
        |>.checkedBy Rule.ip]
    |>.shownIf isOnprem

def onpremExpertTitle : String := "Step 3b: (Optional) On-Prem Expert Configurations"

def onpremGate : Group :=
  gate onpremExpertTitle "Proceed with On-Prem Expert Configuration?" unsureHint
      FlagPlace.configureOnpremExpert
    |>.shownIf fun s => isOnprem s && asksGates s

def onpremExpert : Group :=
  Group.always onpremExpertTitle
    [Field.input "Docker Username" TextPlace.dockerUsername
        |>.describe "Docker username to be used for pulling OCI artifacts",
      Field.input "Docker Token" TextPlace.dockerToken
        |>.describe "Docker token to be used for pulling OCI artifacts"]
    |>.shownIf fun s => isOnprem s && opens Flags.configureOnpremExpert s

def proxyTitle : String := "Step 4: (Optional) Proxy"

def proxyGate : Group :=
  gate proxyTitle "Proceed with Proxy Configuration?"
      "This is only required when running in a network behind proxy." FlagPlace.configureProxy
    |>.shownIf asksGates

def proxy : Group :=
  Group.always proxyTitle
    [Field.input "HTTP Proxy" TextPlace.httpProxy
        |>.describe "(Optional) HTTP proxy to be used for all outbound traffic",
      Field.input "HTTPS Proxy" TextPlace.httpsProxy
        |>.describe "(Optional) HTTPS proxy to be used for all outbound traffic",
      Field.input "SOCKS Proxy" TextPlace.socksProxy
        |>.describe "(Optional) SOCKS proxy to be used for all outbound traffic",
      Field.input "No Proxy" TextPlace.noProxy
        |>.describe "(Optional) Comma separated list of domains that should not use the proxy"]
    |>.shownIf (opens Flags.configureProxy)

def certTitle : String := "Step 5: (Optional) TLS Certificate"

def certGate : Group :=
  gate certTitle "Proceed with TLS Certificate Configuration?"
      "You can provide TLS certificate, or we will generate one using LetsEncrypt"
      FlagPlace.configureCert
    |>.shownIf asksGates

def cert : Group :=
  Group.always certTitle
    [Field.text "TLS Certificate" TextPlace.tlsCert
        |>.describe "(Optional) TLS certificate to be used for the EMF"
        |>.checkedBy Rule.tlsCert,
      Field.text "TLS Key" TextPlace.tlsKey
        |>.describe "(Optional) TLS key to be used for the EMF"
        |>.checkedBy Rule.tlsKey,
      Field.text "TLS CA" TextPlace.tlsCa
        |>.describe "(Optional) TLS CA to be used for the EMF"
        |>.checkedBy Rule.tlsCa]
    |>.shownIf (opens Flags.configureCert)

def sreTitle : String := "Step 6: (Optional) Site Reliability Engineering (SRE)"

def sreGate : Group :=
  gate sreTitle "Proceed with SRE Configuration?" unsureHint FlagPlace.configureSre
    |>.shownIf asksGates

def sre : Group :=
  Group.always sreTitle
    [Field.input "SRE Username" TextPlace.sreUsername
        |>.describe "(Optional) SRE username to be used for the EMF",
      Field.password "SRE Password" TextPlace.srePassword
        |>.describe "(Optional) SRE password to be used for the EMF",
      Field.input "SRE Secret URL" TextPlace.sreSecretUrl
        |>.describe "(Optional) SRE secret URL to be used for the EMF",
      Field.input "SRE CA Secret" TextPlace.sreCaSecret
        |>.describe "(Optional) SRE CA secret to be used for the EMF"]
    |>.shownIf (opens Flags.configureSre)

def smtpTitle : String := "Step 7: (Optional) Email Notification"

def smtpGate : Group :=
  gate smtpTitle "Proceed with Email notification configuration?" unsureHint FlagPlace.configureSmtp
    |>.shownIf asksGates

def smtp : Group :=
  Group.always smtpTitle
    [Field.input "SMTP Username" TextPlace.smtpUsername
        |>.describe "(Optional) SMTP username to be used for the EMF",
      Field.password "SMTP Password" TextPlace.smtpPassword
        |>.describe "(Optional) SMTP password to be used for the EMF",
      Field.input "SMTP URL" TextPlace.smtpUrl
        |>.describe "(Optional) SMTP URL to be used for the EMF",
      Field.input "SMTP Port" TextPlace.smtpPort
        |>.describe "(Optional) SMTP port to be used for the EMF"
        |>.suggest "587"
        |>.checkedBy Rule.smtpPort,
      Field.input "SMTP From Address" TextPlace.smtpSender
        |>.describe "(Optional) SMTP from address to be used for the EMF"]
    |>.shownIf (opens Flags.configureSmtp)

def mode : Group :=
  .always "Step 8: Orchestrator Configuration"
    [Field.select "Orchestrator Configuration Mode" modeChoices
        |>.describe "Warning: Simple mode will reset all the advanced settings that was previously configured"]

def simple : Group :=
  Group.always "Step 8: Select Orchestrator Components (Simple Mode)"
    [Field.multiSelect "Select Orchestrator Packages" packageItems ListPlace.enabledSimple
        |>.describe "Select the orchestrator packages to be enabled in the EMF."
        |>.checkedAsSetBy SetRule.simpleMode]
    |>.shownIf fun s => s.scratch.mode == .simple

def advanced : Group :=
  Group.always "Step 8: Select Orchestrator Components (Advanced Mode)"
    [Field.multiSelect "Select Orchestrator Components" appItems ListPlace.enabledAdvanced
        |>.describe "Select the Orchestrator components to be enabled in the EMF."]
    |>.shownIf fun s => s.scratch.mode == .advanced

end Installer

open Installer in
def installer : Form :=
  [global, provider, awsBasic, awsGate, awsExpert, onpremBasic, onpremGate, onpremExpert,
    proxyGate, proxy, certGate, cert, sreGate, sre, smtpGate, smtp, mode, simple, advanced]

end InstallerSetup.Form
