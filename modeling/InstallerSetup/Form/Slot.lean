import InstallerSetup.Form.State

/-!
# Slots and settings

A field is bound to a slot of the state, and an option of a choice to a setting. A slot can be read
and written, and writing it changes nothing else; a setting is any change of the state. The places
that the installer form asks for are listed by name, and each of them is a slot.
-/

namespace InstallerSetup.Form

/-- A part of the state that can be read and written without the rest. -/
structure Slot (α : Type) where
  get : State → α
  set : State → α → State
  get_set : ∀ (s : State) (value : α), get (set s value) = value
  set_get : ∀ s : State, set s (get s) = s
  set_set : ∀ (s : State) (value other : α), set (set s value) other = set s other

abbrev TextSlot := Slot String

abbrev FlagSlot := Slot Bool

abbrev ListSlot := Slot (List String)

/-! ## The places of the installer form -/

inductive TextPlace where
  | orchName
  | parentDomain
  | adminEmail
  | awsRegion
  | awsCustomerTag
  | awsCacheRegistry
  | awsVpcId
  | awsEksDnsIp
  | argoIp
  | traefikIp
  | nginxIp
  | dockerUsername
  | dockerToken
  | httpProxy
  | httpsProxy
  | socksProxy
  | noProxy
  | tlsCert
  | tlsKey
  | tlsCa
  | sreUsername
  | srePassword
  | sreSecretUrl
  | sreCaSecret
  | smtpUsername
  | smtpPassword
  | smtpUrl
  | smtpPort
  | smtpSender
  | defaultPassword
  | jumpHosts
  deriving DecidableEq, Repr

inductive FlagPlace where
  | debug
  | expertMode
  | configureAwsExpert
  | configureOnpremExpert
  | configureProxy
  | configureCert
  | configureSre
  | configureSmtp
  | awsReduceNsTtl
  deriving DecidableEq, Repr

inductive ListPlace where
  | awsJumpHosts
  | enabled
  | enabledSimple
  | enabledAdvanced
  deriving DecidableEq, Repr

namespace TextPlace

def get (s : State) : TextPlace → String
  | orchName => s.config.global.orchName
  | parentDomain => s.config.global.parentDomain
  | adminEmail => s.config.global.adminEmail
  | awsRegion => s.config.aws.region
  | awsCustomerTag => s.config.aws.customerTag
  | awsCacheRegistry => s.config.aws.cacheRegistry
  | awsVpcId => s.config.aws.vpcId
  | awsEksDnsIp => s.config.aws.eksDnsIp
  | argoIp => s.config.onprem.argoIp
  | traefikIp => s.config.onprem.traefikIp
  | nginxIp => s.config.onprem.nginxIp
  | dockerUsername => s.config.onprem.dockerUsername
  | dockerToken => s.config.onprem.dockerToken
  | httpProxy => s.config.proxy.httpProxy
  | httpsProxy => s.config.proxy.httpsProxy
  | socksProxy => s.config.proxy.socksProxy
  | noProxy => s.config.proxy.noProxy
  | tlsCert => s.config.cert.tlsCert
  | tlsKey => s.config.cert.tlsKey
  | tlsCa => s.config.cert.tlsCa
  | sreUsername => s.config.sre.username
  | srePassword => s.config.sre.password
  | sreSecretUrl => s.config.sre.secretUrl
  | sreCaSecret => s.config.sre.caSecret
  | smtpUsername => s.config.smtp.username
  | smtpPassword => s.config.smtp.password
  | smtpUrl => s.config.smtp.url
  | smtpPort => s.config.smtp.port
  | smtpSender => s.config.smtp.sender
  | defaultPassword => s.config.orch.defaultPassword
  | jumpHosts => s.scratch.jumpHostWhitelist

def set (s : State) (v : String) : TextPlace → State
  | orchName => s.mapGlobal fun r => { r with orchName := v }
  | parentDomain => s.mapGlobal fun r => { r with parentDomain := v }
  | adminEmail => s.mapGlobal fun r => { r with adminEmail := v }
  | awsRegion => s.mapAws fun r => { r with region := v }
  | awsCustomerTag => s.mapAws fun r => { r with customerTag := v }
  | awsCacheRegistry => s.mapAws fun r => { r with cacheRegistry := v }
  | awsVpcId => s.mapAws fun r => { r with vpcId := v }
  | awsEksDnsIp => s.mapAws fun r => { r with eksDnsIp := v }
  | argoIp => s.mapOnprem fun r => { r with argoIp := v }
  | traefikIp => s.mapOnprem fun r => { r with traefikIp := v }
  | nginxIp => s.mapOnprem fun r => { r with nginxIp := v }
  | dockerUsername => s.mapOnprem fun r => { r with dockerUsername := v }
  | dockerToken => s.mapOnprem fun r => { r with dockerToken := v }
  | httpProxy => s.mapProxy fun r => { r with httpProxy := v }
  | httpsProxy => s.mapProxy fun r => { r with httpsProxy := v }
  | socksProxy => s.mapProxy fun r => { r with socksProxy := v }
  | noProxy => s.mapProxy fun r => { r with noProxy := v }
  | tlsCert => s.mapCert fun r => { r with tlsCert := v }
  | tlsKey => s.mapCert fun r => { r with tlsKey := v }
  | tlsCa => s.mapCert fun r => { r with tlsCa := v }
  | sreUsername => s.mapSre fun r => { r with username := v }
  | srePassword => s.mapSre fun r => { r with password := v }
  | sreSecretUrl => s.mapSre fun r => { r with secretUrl := v }
  | sreCaSecret => s.mapSre fun r => { r with caSecret := v }
  | smtpUsername => s.mapSmtp fun r => { r with username := v }
  | smtpPassword => s.mapSmtp fun r => { r with password := v }
  | smtpUrl => s.mapSmtp fun r => { r with url := v }
  | smtpPort => s.mapSmtp fun r => { r with port := v }
  | smtpSender => s.mapSmtp fun r => { r with sender := v }
  | defaultPassword => s.mapOrch fun r => { r with defaultPassword := v }
  | jumpHosts => s.mapScratch fun r => { r with jumpHostWhitelist := v }

def slot (place : TextPlace) : TextSlot where
  get s := place.get s
  set s v := place.set s v
  get_set s v := by cases place <;> rfl
  set_get s := by cases place <;> rfl
  set_set s v w := by cases place <;> rfl

instance : Coe TextPlace TextSlot := ⟨slot⟩

/-- The path of a slot, from the section of the state down to the key. -/
def path : TextPlace → String
  | orchName => "global.orchName"
  | parentDomain => "global.parentDomain"
  | adminEmail => "global.adminEmail"
  | awsRegion => "aws.region"
  | awsCustomerTag => "aws.customerTag"
  | awsCacheRegistry => "aws.cacheRegistry"
  | awsVpcId => "aws.vpcId"
  | awsEksDnsIp => "aws.eksDnsIP"
  | argoIp => "onprem.argoIP"
  | traefikIp => "onprem.traefikIP"
  | nginxIp => "onprem.nginxIP"
  | dockerUsername => "onprem.dockerUsername"
  | dockerToken => "onprem.dockerToken"
  | httpProxy => "proxy.httpProxy"
  | httpsProxy => "proxy.httpsProxy"
  | socksProxy => "proxy.socksProxy"
  | noProxy => "proxy.noProxy"
  | tlsCert => "cert.tlsCert"
  | tlsKey => "cert.tlsKey"
  | tlsCa => "cert.tlsCA"
  | sreUsername => "sre.username"
  | srePassword => "sre.password"
  | sreSecretUrl => "sre.secretURL"
  | sreCaSecret => "sre.caSecret"
  | smtpUsername => "smtp.username"
  | smtpPassword => "smtp.password"
  | smtpUrl => "smtp.url"
  | smtpPort => "smtp.port"
  | smtpSender => "smtp.from"
  | defaultPassword => "orch.defaultPassword"
  | jumpHosts => "scratch.jumpHostWhitelist"

def all : List TextPlace :=
  [orchName, parentDomain, adminEmail, awsRegion, awsCustomerTag, awsCacheRegistry, awsVpcId,
    awsEksDnsIp, argoIp, traefikIp, nginxIp, dockerUsername, dockerToken, httpProxy, httpsProxy,
    socksProxy, noProxy, tlsCert, tlsKey, tlsCa, sreUsername, srePassword, sreSecretUrl,
    sreCaSecret, smtpUsername, smtpPassword, smtpUrl, smtpPort, smtpSender, defaultPassword,
    jumpHosts]

end TextPlace

def TextSlot.ofPath? (path : String) : Option TextSlot :=
  (TextPlace.all.find? fun place => place.path == path).map TextPlace.slot

namespace FlagPlace

def get (s : State) : FlagPlace → Bool
  | debug => s.flags.debug
  | expertMode => s.flags.expertMode
  | configureAwsExpert => s.flags.configureAwsExpert
  | configureOnpremExpert => s.flags.configureOnpremExpert
  | configureProxy => s.flags.configureProxy
  | configureCert => s.flags.configureCert
  | configureSre => s.flags.configureSre
  | configureSmtp => s.flags.configureSmtp
  | awsReduceNsTtl => s.config.aws.reduceNsTtl

def set (s : State) (v : Bool) : FlagPlace → State
  | debug => s.mapFlags fun f => { f with debug := v }
  | expertMode => s.mapFlags fun f => { f with expertMode := v }
  | configureAwsExpert => s.mapFlags fun f => { f with configureAwsExpert := v }
  | configureOnpremExpert => s.mapFlags fun f => { f with configureOnpremExpert := v }
  | configureProxy => s.mapFlags fun f => { f with configureProxy := v }
  | configureCert => s.mapFlags fun f => { f with configureCert := v }
  | configureSre => s.mapFlags fun f => { f with configureSre := v }
  | configureSmtp => s.mapFlags fun f => { f with configureSmtp := v }
  | awsReduceNsTtl => s.mapAws fun r => { r with reduceNsTtl := v }

def slot (place : FlagPlace) : FlagSlot where
  get s := place.get s
  set s v := place.set s v
  get_set s v := by cases place <;> rfl
  set_get s := by cases place <;> rfl
  set_set s v w := by cases place <;> rfl

instance : Coe FlagPlace FlagSlot := ⟨slot⟩

def path : FlagPlace → String
  | debug => "flags.debug"
  | expertMode => "flags.expertMode"
  | configureAwsExpert => "flags.configureAwsExpert"
  | configureOnpremExpert => "flags.configureOnpremExpert"
  | configureProxy => "flags.configureProxy"
  | configureCert => "flags.configureCert"
  | configureSre => "flags.configureSre"
  | configureSmtp => "flags.configureSmtp"
  | awsReduceNsTtl => "aws.reduceNSTTL"

def all : List FlagPlace :=
  [debug, expertMode, configureAwsExpert, configureOnpremExpert, configureProxy, configureCert,
    configureSre, configureSmtp, awsReduceNsTtl]

end FlagPlace

def FlagSlot.ofPath? (path : String) : Option FlagSlot :=
  (FlagPlace.all.find? fun place => place.path == path).map FlagPlace.slot

namespace ListPlace

def get (s : State) : ListPlace → List String
  | awsJumpHosts => s.config.aws.jumpHostWhitelist
  | enabled => s.config.orch.enabled
  | enabledSimple => s.scratch.enabledSimple
  | enabledAdvanced => s.scratch.enabledAdvanced

def set (s : State) (v : List String) : ListPlace → State
  | awsJumpHosts => s.mapAws fun r => { r with jumpHostWhitelist := v }
  | enabled => s.mapOrch fun r => { r with enabled := v }
  | enabledSimple => s.mapScratch fun r => { r with enabledSimple := v }
  | enabledAdvanced => s.mapScratch fun r => { r with enabledAdvanced := v }

def slot (place : ListPlace) : ListSlot where
  get s := place.get s
  set s v := place.set s v
  get_set s v := by cases place <;> rfl
  set_get s := by cases place <;> rfl
  set_set s v w := by cases place <;> rfl

instance : Coe ListPlace ListSlot := ⟨slot⟩

def path : ListPlace → String
  | awsJumpHosts => "aws.jumpHostWhitelist"
  | enabled => "orch.enabled"
  | enabledSimple => "scratch.enabledSimple"
  | enabledAdvanced => "scratch.enabledAdvanced"

def all : List ListPlace := [awsJumpHosts, enabled, enabledSimple, enabledAdvanced]

end ListPlace

def ListSlot.ofPath? (path : String) : Option ListSlot :=
  (ListPlace.all.find? fun place => place.path == path).map ListPlace.slot

/-! ## Settings -/

/-- A change of the state, as an option makes it when it is taken. -/
structure Setting where
  store : State → State

namespace Setting

def provider (value : Option Config.Provider) : Setting :=
  ⟨fun s => { s with config := { s.config with provider := value } }⟩

def scale (value : Option Config.Scale) : Setting :=
  ⟨fun s => s.mapGlobal fun r => { r with scale := value }⟩

def mode (value : Mode) : Setting :=
  ⟨fun s => s.mapScratch fun r => { r with mode := value }⟩

end Setting

end InstallerSetup.Form
