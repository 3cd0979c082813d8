import InstallerSetup.Proofs.Config.Check
import InstallerSetup.Proofs.Form.Accepted
import InstallerSetup.Proofs.Run.Ending
import InstallerSetup.Proofs.Run.Written

/-!
# When a written document passes its check

The form applies the same rules as the check, but only to the fields that it asks for. What decides
about a written document are therefore the values that it took over from the document it began with,
and only those of fields that a run may leave out (`OptionalField`).
-/

namespace InstallerSetup

namespace Form

/-- A field with a rule that a run may leave out. -/
structure OptionalField where
  title : String
  rule : Rule
  value : Config → String

def awsOptional : List OptionalField :=
  [⟨"VPC ID", Rule.awsVpcId, fun c => c.aws.vpcId⟩,
    ⟨"EKS DNS IP", Rule.eksDnsIp, fun c => c.aws.eksDnsIp⟩]

def commonOptional : List OptionalField :=
  [⟨"TLS Certificate", Rule.tlsCert, fun c => c.cert.tlsCert⟩,
    ⟨"TLS Key", Rule.tlsKey, fun c => c.cert.tlsKey⟩,
    ⟨"TLS CA", Rule.tlsCa, fun c => c.cert.tlsCa⟩,
    ⟨"SMTP Port", Rule.smtpPort, fun c => c.smtp.port⟩]

def optionalFields : Option Config.Provider → List OptionalField
  | some .aws => awsOptional ++ commonOptional
  | _ => commonOptional

/-- A value that was not asked for is one that the rule of its field accepts. -/
def OptionalField.Stands (field : OptionalField) (report : Report) (config : Config) : Prop :=
  field.title ∉ report.asked → field.rule (field.value config) = .ok ()

theorem mem_optionalFields_of_common {field : OptionalField} (member : field ∈ commonOptional)
    (p : Option Config.Provider) : field ∈ optionalFields p := by
  unfold optionalFields
  split
  · exact List.mem_append_right _ member
  · exact member

/-- A document that passes its check has a value that its rule accepts in every optional field. -/
theorem accepted_of_check {c : Config} (valid : c.check = .ok ()) :
    ∀ field ∈ optionalFields c.provider, field.rule (field.value c) = .ok () := by
  obtain ⟨_, _, ⟨p, chosen, own⟩, common⟩ := Config.check_eq_ok_iff.1 valid
  have shared : ∀ field ∈ commonOptional, field.rule (field.value c) = .ok () := by
    simp only [Config.commonFindings, List.forall_mem_cons] at common
    simp only [commonOptional, List.forall_mem_cons]
    obtain ⟨_, _, _, _, cert, key, ca, _, _, _, port, _⟩ := common
    exact ⟨cert, key, ca, port, List.forall_mem_nil _⟩
  rw [chosen]
  cases p with
  | onprem => exact shared
  | aws =>
      rw [optionalFields, List.forall_mem_append]
      refine ⟨?_, shared⟩
      simp only [Config.infrastructureFindings, Config.awsFindings, List.forall_mem_cons] at own
      simp only [awsOptional, List.forall_mem_cons]
      obtain ⟨_, _, _, _, vpc, dns, _⟩ := own
      exact ⟨vpc, dns, List.forall_mem_nil _⟩

/-- The completion of a form changes nothing that the check looks at. -/
theorem State.check_complete (s : State) (catalog : Catalog) :
    (s.complete catalog).config.check = s.config.check := rfl

namespace Installer

variable {catalog : Catalog} {s t : State} {answers rest : List Answer}
  {trace : List (Settlement Edit)}

/-! ## Fields that are always asked for -/

theorem global_accepted
    (reached : Reaches catalog (.start installer s answers) trace ⟨[], [], t, rest⟩) :
    ∀ finding ∈ Config.globalFindings t.config.global, finding.verdict = .ok () := by
  have obeys (slot : TextPlace)
      (listed : Place.text slot ∈ [Place.text .orchName, .text .parentDomain, .text .adminEmail,
        .scale]) : rule slot (slot.get t) = .ok () :=
    obeys_of_edited reached (edited_of_always reached List.mem_cons_self (fun _ => rfl) listed)
  simp only [Config.globalFindings, List.forall_mem_cons]
  exact ⟨obeys .orchName (by decide), obeys .parentDomain (by decide),
    obeys .adminEmail (by decide), List.forall_mem_nil _⟩

theorem onprem_accepted
    (reached : Reaches catalog (.start installer s answers) trace ⟨[], [], t, rest⟩)
    (chosen : t.config.provider = some .onprem) :
    ∀ finding ∈ Config.onpremFindings t.config.onprem, finding.verdict = .ok () := by
  have member : (onpremBasic, [Place.text .argoIp, .text .traefikIp, .text .nginxIp]) ∈ back := by
    simp [back, table]
  have visible (u : State) (same : u.config.provider = t.config.provider)
      (_ : u.flags.expertMode = s.flags.expertMode) : onpremBasic.isVisible u = true := by
    simp [onpremBasic, Group.shownIf, isOnprem, same, chosen]
  have obeys (slot : TextPlace)
      (listed : Place.text slot ∈ [Place.text .argoIp, .text .traefikIp, .text .nginxIp]) :
      rule slot (slot.get t) = .ok () :=
    obeys_of_edited reached (edited_of_shown reached member visible listed)
  simp only [Config.onpremFindings, List.forall_mem_cons]
  exact ⟨obeys .argoIp (by decide), obeys .traefikIp (by decide), obeys .nginxIp (by decide),
    List.forall_mem_nil _⟩

theorem region_accepted
    (reached : Reaches catalog (.start installer s answers) trace ⟨[], [], t, rest⟩)
    (chosen : t.config.provider = some .aws) : Rule.awsRegion t.config.aws.region = .ok () := by
  have member : (awsBasic, [Place.text .awsRegion]) ∈ back := by simp [back, table]
  have visible (u : State) (same : u.config.provider = t.config.provider)
      (_ : u.flags.expertMode = s.flags.expertMode) : awsBasic.isVisible u = true := by
    simp [awsBasic, Group.shownIf, isAws, same, chosen]
  have edited := edited_of_shown reached member visible List.mem_cons_self
  exact obeys_of_edited reached edited

/-! ## Fields that may be left out -/

theorem aws_accepted_iff
    (reached : Reaches catalog (.start installer s answers) trace ⟨[], [], t, rest⟩)
    (chosen : t.config.provider = some .aws) :
    (∀ finding ∈ Config.awsFindings t.config.aws, finding.verdict = .ok ()) ↔
      ∀ field ∈ awsOptional, field.Stands (run catalog installer s answers) s.config := by
  have region := region_accepted reached chosen
  have vpc : Rule.awsVpcId t.config.aws.vpcId = .ok () ↔ _ :=
    obeys_iff reached "VPC ID" .awsVpcId (by decide +kernel)
  have dns : Rule.eksDnsIp t.config.aws.eksDnsIp = .ok () ↔ _ :=
    obeys_iff reached "EKS DNS IP" .awsEksDnsIp (by decide +kernel)
  simp only [Config.awsFindings, awsOptional, List.forall_mem_cons, region, vpc, dns]
  simp [Rule.any, OptionalField.Stands, rule, TextPlace.get]

theorem common_accepted_iff
    (reached : Reaches catalog (.start installer s answers) trace ⟨[], [], t, rest⟩) :
    (∀ finding ∈ Config.commonFindings t.config, finding.verdict = .ok ()) ↔
      ∀ field ∈ commonOptional, field.Stands (run catalog installer s answers) s.config := by
  have cert : Rule.tlsCert t.config.cert.tlsCert = .ok () ↔ _ :=
    obeys_iff reached "TLS Certificate" .tlsCert (by decide +kernel)
  have key : Rule.tlsKey t.config.cert.tlsKey = .ok () ↔ _ :=
    obeys_iff reached "TLS Key" .tlsKey (by decide +kernel)
  have ca : Rule.tlsCa t.config.cert.tlsCa = .ok () ↔ _ :=
    obeys_iff reached "TLS CA" .tlsCa (by decide +kernel)
  have port : Rule.smtpPort t.config.smtp.port = .ok () ↔ _ :=
    obeys_iff reached "SMTP Port" .smtpPort (by decide +kernel)
  simp only [Config.commonFindings, commonOptional, List.forall_mem_cons, cert, key, ca, port]
  simp [Rule.any, SetRule.any, OptionalField.Stands, rule, TextPlace.get]

/-- At the end of the form the document passes its check if the values taken over stand. -/
theorem check_iff
    (reached : Reaches catalog (.start installer s answers) trace ⟨[], [], t, rest⟩) :
    t.config.check = .ok () ↔
      ∀ field ∈ optionalFields t.config.provider,
        field.Stands (run catalog installer s answers) s.config := by
  obtain ⟨p, chosen⟩ := Option.isSome_iff_exists.1 (provider_of_final reached)
  have sections : t.config.check = .ok () ↔
      (∀ finding ∈ t.config.infrastructureFindings p, finding.verdict = .ok ()) ∧
        ∀ finding ∈ Config.commonFindings t.config, finding.verdict = .ok () := by
    rw [Config.check_eq_ok_iff]
    constructor
    · rintro ⟨_, _, ⟨q, same, own⟩, common⟩
      obtain rfl := Option.some.inj (chosen.symm.trans same)
      exact ⟨own, common⟩
    · rintro ⟨own, common⟩
      exact ⟨global_accepted reached, scale_of_final reached, ⟨p, chosen, own⟩, common⟩
  rw [sections, common_accepted_iff reached, chosen]
  cases p with
  | aws =>
      rw [optionalFields, List.forall_mem_append]
      exact and_congr_left' (aws_accepted_iff reached chosen)
  | onprem => exact and_iff_right (onprem_accepted reached chosen)

/-- The values of an initial document stand. -/
theorem stands_initial (report : Report) (p : Option Config.Provider) :
    ∀ field ∈ optionalFields p, field.Stands report .initial := by
  have accepted : ∀ field ∈ awsOptional ++ commonOptional,
      field.rule (field.value .initial) = .ok () := by
    simp only [awsOptional, commonOptional, List.cons_append, List.nil_append, List.forall_mem_cons]
    exact ⟨rfl, rfl, rfl, rfl, rfl, rfl, List.forall_mem_nil _⟩
  intro field member _
  refine accepted field ?_
  unfold optionalFields at member
  split at member
  · exact member
  · exact List.mem_append_right _ member

/-- A field has been asked for if the choice of the infrastructure and the expert mode show it. -/
theorem asked_of_shown
    (reached : Reaches catalog (.start installer s answers) trace ⟨[], [], t, rest⟩)
    {entry : Group × List Place} (member : entry ∈ back)
    (visible : ∀ u : State, u.config.provider = t.config.provider →
      u.flags.expertMode = s.flags.expertMode → entry.1.isVisible u = true)
    (title : String) (place : Place) (label : (title, place) ∈ labels)
    (listed : place ∈ entry.2) : title ∈ (run catalog installer s answers).asked :=
  (mem_asked_iff_of_label reached label).2 (edited_of_shown reached member visible listed)

theorem opens_of_expert (gate : Flags → Bool) {u : State} (expert : u.flags.expertMode = true) :
    opens gate u = true := by
  rw [opens, expert, Bool.true_or]

theorem common_asked_of_expert
    (reached : Reaches catalog (.start installer s answers) trace ⟨[], [], t, rest⟩)
    (expert : s.flags.expertMode = true) :
    ∀ field ∈ commonOptional, field.title ∈ (run catalog installer s answers).asked := by
  have inCert : (cert, [Place.text .tlsCert, .text .tlsKey, .text .tlsCa]) ∈ back := by
    simp [back, table]
  have inSmtp : (smtp, [Place.text .smtpUsername, .text .smtpPassword, .text .smtpUrl,
      .text .smtpPort, .text .smtpSender]) ∈ back := by
    simp [back, table]
  have certAsked := asked_of_shown reached inCert fun u _ kept =>
    opens_of_expert _ (kept.trans expert)
  have smtpAsked := asked_of_shown reached inSmtp fun u _ kept =>
    opens_of_expert _ (kept.trans expert)
  simp only [commonOptional, List.forall_mem_cons]
  exact ⟨certAsked _ (.text .tlsCert) (by decide +kernel) (by decide),
    certAsked _ (.text .tlsKey) (by decide +kernel) (by decide),
    certAsked _ (.text .tlsCa) (by decide +kernel) (by decide),
    smtpAsked _ (.text .smtpPort) (by decide +kernel) (by decide), List.forall_mem_nil _⟩

theorem aws_asked_of_expert
    (reached : Reaches catalog (.start installer s answers) trace ⟨[], [], t, rest⟩)
    (chosen : t.config.provider = some .aws) (expert : s.flags.expertMode = true) :
    ∀ field ∈ awsOptional, field.title ∈ (run catalog installer s answers).asked := by
  have inAws : (awsExpert, [Place.text .awsCustomerTag, .text .awsCacheRegistry, .text .jumpHosts,
      .text .awsVpcId, .flag .awsReduceNsTtl, .text .awsEksDnsIp]) ∈ back := by
    simp [back, table]
  have awsAsked := asked_of_shown reached inAws fun u same kept => by
    simp [awsExpert, Group.shownIf, isAws, same, chosen, opens_of_expert _ (kept.trans expert)]
  simp only [awsOptional, List.forall_mem_cons]
  exact ⟨awsAsked _ (.text .awsVpcId) (by decide +kernel) (by decide),
    awsAsked _ (.text .awsEksDnsIp) (by decide +kernel) (by decide), List.forall_mem_nil _⟩

/-- In expert mode all fields are asked for that the infrastructure has a use for. -/
theorem asked_of_expert
    (reached : Reaches catalog (.start installer s answers) trace ⟨[], [], t, rest⟩)
    (expert : s.flags.expertMode = true) :
    ∀ field ∈ optionalFields t.config.provider,
      field.title ∈ (run catalog installer s answers).asked := by
  intro field member
  unfold optionalFields at member
  split at member
  · next chosen =>
      rcases List.mem_append.1 member with own | shared
      · exact aws_asked_of_expert reached chosen expert field own
      · exact common_asked_of_expert reached expert field shared
  · exact common_asked_of_expert reached expert field member

end Installer

end Form

namespace Run

variable {σ : Type} [Storage σ] {o : Options} {store : σ} {sink : Sink}

namespace Success

variable {answers : List Form.Answer} {c loaded : Config} {catalog : Catalog}
  {report : Form.Report} {trace : List (Form.Settlement Form.Edit)}

theorem check_iff (success : Success o store sink answers c loaded catalog report trace) :
    c.check = .ok () ↔ ∀ field ∈ Form.optionalFields c.provider, field.Stands report loaded := by
  have ends := Form.Installer.check_iff success.reached
  rw [← success.course] at ends
  rw [success.document, Form.State.check_complete, Form.State.provider_complete]
  exact ends

/--
A document that passed its check before can only fail it by a value of the section for AWS that was
not looked at before and was not asked for.
-/
theorem check_iff_of_checked
    (success : Success o store sink answers c loaded catalog report trace)
    (valid : loaded.check = .ok ()) :
    c.check = .ok () ↔
      (loaded.provider = some .onprem → c.provider = some .aws →
        ∀ field ∈ Form.awsOptional, field.Stands report loaded) := by
  have accepted := Form.accepted_of_check valid
  have shared : ∀ field ∈ Form.commonOptional, field.Stands report loaded :=
    fun field member _ => accepted field (Form.mem_optionalFields_of_common member _)
  rw [success.check_iff]
  constructor
  · intro stands _ chosen field member
    refine stands field ?_
    rw [chosen]
    exact List.mem_append_left _ member
  · intro switched field member
    unfold Form.optionalFields at member
    split at member
    · next chosen =>
        rcases List.mem_append.1 member with own | common
        · obtain ⟨_, _, ⟨p, before, _⟩, _⟩ := Config.check_eq_ok_iff.1 valid
          cases p with
          | onprem => exact switched before chosen field own
          | aws =>
              refine fun _ => accepted field ?_
              rw [before]
              exact List.mem_append_left _ own
        · exact shared field common
    · exact shared field member

end Success

/--
A written document passes its check exactly if the values that it has taken over stand: those of the
optional fields that the run did not ask for. They do so in a first run and in expert mode.
-/
theorem check_written_iff {answers : List Form.Answer} {c : Config}
    (done : (run o store sink answers).result = .ok c) :
    ∃ loaded catalog report, Loaded o store loaded catalog ∧
      (run o store sink answers).report = some report ∧
      Storage.replace store o.configPath (Text.encode c.render) =
        .ok (run o store sink answers).store ∧
      (c.check = .ok () ↔ ∀ field ∈ Form.optionalFields c.provider,
        field.title ∉ report.asked → field.rule (field.value loaded) = .ok ()) ∧
      (loaded = .initial → c.check = .ok ()) ∧ (o.expert = true → c.check = .ok ()) := by
  obtain ⟨loaded, catalog, report, trace, success⟩ := success_of_result_ok done
  refine ⟨loaded, catalog, report, success.phases, success.report_eq, success.written,
    success.check_iff, ?_, ?_⟩
  · rintro rfl
    exact success.check_iff.2 (Form.Installer.stands_initial report c.provider)
  · intro expert
    refine success.check_iff.2 fun field member unasked => absurd ?_ unasked
    rw [success.document] at member
    rw [success.course]
    exact Form.Installer.asked_of_expert success.reached expert field member

/-! ### A document with a rest that its check does not look at -/

/-- A document for machines on premises, with a broken value in its section for AWS. -/
def lingeringText : String :=
  "version: 2\nprovider: onprem\nglobal:\n orchName: d\n parentDomain: d\n adminEmail: d@d.dd\n" ++
    " scale: 10\naws:\n vpcId: v\nonprem:\n argoIP: 1.1.1.1\n traefikIP: 1.1.1.1\n" ++
    " nginxIP: 1.1.1.1\n"

def lingering : Config :=
  { Config.initial with
    provider := some .onprem
    global := ⟨"d", "d", "d@d.dd", some .nodes10, .empty⟩
    aws := { Config.initial.aws with vpcId := "v" }
    onprem := ⟨"1.1.1.1", "1.1.1.1", "1.1.1.1", "", "", .empty⟩ }

def lingeringOptions : Options := ⟨"c.yaml", "p.yaml", false, false⟩

def lingeringStore : Storage.Memory :=
  (Storage.Memory.empty.withFile "p.yaml" (Text.encode "\x7b\x7d")).withFile "c.yaml"
    (Text.encode lingeringText)

theorem lingering_loaded : Loaded lingeringOptions lingeringStore lingering .empty where
  config := Except.eq_ok_of_toOption (by decide +kernel)
  catalog := Except.eq_ok_of_toOption (by decide +kernel)

theorem lingering_check : lingering.check = .ok () := Except.eq_ok_of_toOption (by decide +kernel)

/-- The document is loaded once for all, so a run with it comes to what its form comes to. -/
theorem run_lingering {answers : List Form.Answer} {document : Config}
    (held : (course lingeringOptions lingering .empty answers).result = .ok ())
    (same : ((course lingeringOptions lingering .empty answers).state.complete .empty).config =
      document) :
    (run lingeringOptions lingeringStore .reliable answers).result = .ok document :=
  result_of_course lingering_loaded rfl (by decide +kernel) held same

def keepingAnswers : List Form.Answer := List.replicate 13 .accept ++ [.choose 1, .accept]

def keptDocument : Config := { lingering with orch := ⟨[], Config.initialPassword, .empty⟩ }

theorem check_written_keeping :
    (run lingeringOptions lingeringStore .reliable keepingAnswers).result = .ok keptDocument ∧
      keptDocument.check = .ok () := by
  have done : (run lingeringOptions lingeringStore .reliable keepingAnswers).result =
      .ok keptDocument :=
    run_lingering (Except.eq_ok_of_toOption (by decide +kernel)) (by decide +kernel)
  obtain ⟨loaded, _, report, phases, _, _, check, _⟩ := check_written_iff done
  obtain ⟨rfl, _⟩ := lingering_loaded.unique phases
  refine ⟨done, check.2 ?_⟩
  have empty : ∀ field ∈ Form.commonOptional, field.rule (field.value lingering) = .ok () := by
    simp only [Form.commonOptional, List.forall_mem_cons]
    exact ⟨rfl, rfl, rfl, rfl, List.forall_mem_nil _⟩
  exact fun field member _ => empty field member

/--
A run keeps a document valid, unless it switches to AWS and takes over a value of the section for
AWS without asking for it: that value counts from now on, whether its rule accepts it or not.
-/
theorem check_written_of_checked {answers : List Form.Answer} {c loaded : Config}
    {catalog : Catalog} (phases : Loaded o store loaded catalog) (valid : loaded.check = .ok ())
    (done : (run o store sink answers).result = .ok c) :
    ∃ report, (run o store sink answers).report = some report ∧
      Storage.replace store o.configPath (Text.encode c.render) =
        .ok (run o store sink answers).store ∧
      (c.check = .ok () ↔
        (loaded.provider = some .onprem → c.provider = some .aws →
          ∀ field ∈ Form.awsOptional,
            field.title ∉ report.asked → field.rule (field.value loaded) = .ok ())) := by
  obtain ⟨loaded', catalog', report, trace, success⟩ := success_of_result_ok done
  obtain ⟨rfl, _⟩ := phases.unique success.phases
  exact ⟨report, success.report_eq, success.written, success.check_iff_of_checked valid⟩

def switchingAnswers : List Form.Answer :=
  List.replicate 4 .accept ++ [.choose 0, .text "us-west-2"] ++ List.replicate 5 .accept ++
    [.choose 1, .accept]

def switchedDocument : Config :=
  { keptDocument with
    provider := some .aws
    aws := { lingering.aws with region := "us-west-2" } }

/-- A document that passes its check is made into one that does not. -/
theorem check_lost_by_switching :
    Loaded lingeringOptions lingeringStore lingering .empty ∧ lingering.check = .ok () ∧
      (run lingeringOptions lingeringStore .reliable switchingAnswers).result =
        .ok switchedDocument ∧
      switchedDocument.check = .error (.invalidField "AWS VPC ID" Refusal.noVpcId.message) :=
  ⟨lingering_loaded, lingering_check,
    run_lingering (Except.eq_ok_of_toOption (by decide +kernel)) (by decide +kernel), rfl⟩

def replacingAnswers : List Form.Answer :=
  List.replicate 4 .accept ++ [.choose 0, .text "us-west-2", .confirm true] ++
    List.replicate 4 .accept ++ [.text "vpc-12345678"] ++ List.replicate 6 .accept ++
    [.choose 1, .accept]

def replacedDocument : Config :=
  { switchedDocument with aws := { switchedDocument.aws with vpcId := "vpc-12345678" } }

theorem check_kept_by_replacing :
    Loaded lingeringOptions lingeringStore lingering .empty ∧ lingering.check = .ok () ∧
      (run lingeringOptions lingeringStore .reliable replacingAnswers).result =
        .ok replacedDocument ∧
      replacedDocument.check = .ok () := by
  have held : (course lingeringOptions lingering .empty replacingAnswers).result = .ok () :=
    Except.eq_ok_of_toOption (by decide +kernel)
  have done : (run lingeringOptions lingeringStore .reliable replacingAnswers).result =
      .ok replacedDocument := run_lingering held (by decide +kernel)
  obtain ⟨report, reported, _, check⟩ :=
    check_written_of_checked lingering_loaded lingering_check done
  have same := reported.symm.trans (report_of_complete lingering_loaded held .reliable)
  obtain rfl := Option.some.inj same
  have asked : ∀ title ∈ Form.awsOptional.map Form.OptionalField.title,
      title ∈ (course lingeringOptions lingering .empty replacingAnswers).asked := by
    decide +kernel
  refine ⟨lingering_loaded, lingering_check, done, check.2 ?_⟩
  refine fun _ _ field member unasked => absurd ?_ unasked
  exact asked field.title (List.mem_map.2 ⟨field, member, rfl⟩)

end Run

end InstallerSetup
