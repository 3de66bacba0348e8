import LambdaStack.Proofs.Document.Evaluation
import LambdaStack.Proofs.Notice.Environment
import LambdaStack.Proofs.Stack.Spelling

/-!
# Agreement of documents and routing

A function runs with the variables of its document. Routing reads off them just what the document
decides with its condition: whether there is a dispatch topic, and with that which role the function
has. The chosen role may publish to the topic on which routing settles.
-/

namespace LambdaStack

namespace FunctionSpec

/-- No variable switches test mode on. -/
theorem testModeVariable_not_mem {spec : FunctionSpec} {settings : Settings} {reading : Reading}
    (reads : spec.Reads settings reading) :
    "STACKFN_ENV" ∉ Entries.keys (spec.variableEntries reading) := by
  intro mem
  exact absurd (isAlphanumeric_of_mem_variableEntries reads mem) (by decide)

theorem text?_of_mem_boundVariables {spec : FunctionSpec} {reading : Reading}
    (values : String → String) {member : String × Json}
    (mem : member ∈ spec.boundVariables reading) :
    member.2.text? values = some ((member.2.text? values).getD "") := by
  obtain ⟨key, value⟩ := member
  have reference : ∃ name, value = Expression.reference name := by
    by_cases stack_mem : (key, value) ∈ Completion.stackVariables
    · obtain ⟨name, -, value_eq⟩ := stackVariable_cases stack_mem
      exact ⟨name, value_eq⟩
    · exact ⟨_, variable_eq_reference (OrderedMap.mem_of_mem_ofList mem) stack_mem⟩
  obtain ⟨name, rfl⟩ := reference
  rw [Json.text?_reference, Option.getD_some]

/-- The texts of the variables under an assignment of texts to references. -/
def boundTexts (spec : FunctionSpec) (reading : Reading) (values : String → String) :
    List (String × String) :=
  (spec.boundVariables reading).map fun member => (member.1, (member.2.text? values).getD "")

theorem keys_boundTexts (spec : FunctionSpec) (reading : Reading) (values : String → String) :
    Entries.keys (spec.boundTexts reading values) =
      (OrderedMap.ofList (spec.variableEntries reading)).keys := by
  simp [boundTexts, Entries.keys, boundVariables, OrderedMap.keys]

theorem nodup_keys_boundTexts (spec : FunctionSpec) (reading : Reading)
    (values : String → String) : (Entries.keys (spec.boundTexts reading values)).Nodup := by
  rw [keys_boundTexts]
  exact (OrderedMap.ofList (spec.variableEntries reading)).nodup

theorem lookup_boundTexts {spec : FunctionSpec} {reading : Reading} (values : String → String)
    {name : String} (mem : (name, Expression.reference name) ∈ spec.boundVariables reading) :
    (spec.boundTexts reading values).lookup name = some (values name) := by
  apply Entries.lookup_of_mem (nodup_keys_boundTexts spec reading values)
  exact List.mem_map.mpr ⟨_, mem, rfl⟩

/-- What routing reads off the variables of a document. -/
theorem ofVariables_boundTexts {spec : FunctionSpec} {settings : Settings} {reading : Reading}
    (reads : spec.Reads settings reading) (values : String → String) :
    RoutingEnvironment.ofVariables (spec.boundTexts reading values) = {
      dispatchTopic := (some (values Names.dispatchTopic)).filter (· ≠ "")
      alarmTopic := (some (values Names.alarmTopic)).filter (· ≠ "")
      testMode := false
    } := by
  have nodup := nodup_keys_boundTexts spec reading values
  have dispatch_eq := RoutingEnvironment.dispatchTopic_ofVariables nodup
  have alarm_eq := RoutingEnvironment.alarmTopic_ofVariables nodup
  have testMode_eq : (RoutingEnvironment.ofVariables (spec.boundTexts reading values)).testMode =
      false := by
    apply RoutingEnvironment.testMode_ofVariables
    rw [keys_boundTexts, OrderedMap.mem_keys_ofList]
    exact testModeVariable_not_mem reads
  have dispatch_found : (spec.boundTexts reading values).lookup "DispatchSnsArn" =
      some (values Names.dispatchTopic) :=
    lookup_boundTexts values (parameter_mem_boundVariables (dispatchTopic_mem_keys spec reading))
  have alarm_found : (spec.boundTexts reading values).lookup "ServiceAlarmSNSTopic" =
      some (values Names.alarmTopic) :=
    lookup_boundTexts values (alarmTopic_mem_boundVariables spec reading)
  rw [dispatch_found] at dispatch_eq
  rw [alarm_found] at alarm_eq
  rw [← dispatch_eq, ← alarm_eq, ← testMode_eq]

/-- Every event rule of a document invokes with the role that the condition chooses. -/
theorem roleArn_of_rule {spec : FunctionSpec} {settings : Settings} {reading : Reading}
    {key : String} {value : Json} (resource : HasResource spec settings reading key value)
    (is_rule : value.member? "Type" = some "AWS::Events::Rule") :
    value.at? ["Properties", "RoleArn"] = some Role.arn := by
  cases resource with
  | rule => rfl
  | alarm | alarmTopic => simp [Alarms.alarm, Alarms.topic, Json.member?] at is_rule
  | function => simp [functionResource, Function.resource, Json.member?] at is_rule
  | defaultRole | dispatchRole =>
      simp [defaultRole, dispatchRole, Role.members, Json.member?] at is_rule
  | destination => simp [TopicDestination.topic, Json.member?] at is_rule
  | topicPermission | rulePermission | webhookPermission =>
      simp [invocationPermission, Json.member?] at is_rule
  | user | triggerTopic | accessKey =>
      simp [TopicTrigger.user, TopicTrigger.topic, TopicTrigger.accessKey, Json.member?] at is_rule
  | httpResource | method | gateway | apiKey | deployment | webhookAlarm =>
      simp [WebhookTrigger.resource, WebhookTrigger.method, WebhookTrigger.gateway,
        WebhookTrigger.apiKey, WebhookTrigger.deployment, WebhookTrigger.alarm,
        Json.member?] at is_rule

theorem basicPolicy_members (triggers : List Trigger) (extra policies : List Json)
    (back : List (String × Json)) :
    (Json.object (Role.members triggers extra policies ++ back)).statements? "basic" =
      some (Role.basicStatements ++ extra) := by
  simp [Json.statements?, Role.members, Json.at?, Json.member?, Json.items?, Role.policy,
    List.lookup_cons]

theorem allows_allow (action : String) (resource : Json) :
    (Role.allow action resource).Allows action resource where
  effect := rfl
  actions := ⟨_, rfl, List.mem_cons_self⟩
  resource := rfl

theorem holds?_layout (spec : FunctionSpec) (settings : Settings) (reading : Reading)
    (values : String → String) :
    (spec.layout settings reading).holds? values Names.hasDispatch =
      some ("" != values Names.dispatchTopic) := by
  have found : (spec.layout settings reading).conditions.find? Names.hasDispatch =
      some Dispatch.condition := rfl
  rw [Template.holds?, found, Option.bind_some, Dispatch.condition]
  exact Json.holds?_notEquals_reference values "" Names.dispatchTopic

theorem selectedRole?_layout (spec : FunctionSpec) (settings : Settings) (reading : Reading)
    (values : String → String) {resource : Json} {property : String}
    (role_at : resource.at? ["Properties", property] = some Role.arn) :
    (spec.layout settings reading).selectedRole? values resource property =
      some (if values Names.dispatchTopic = "" then Names.defaultRole
        else Names.dispatchRole) := by
  have selected : (spec.layout settings reading).select? values Role.arn =
      some (if "" != values Names.dispatchTopic then
          Expression.attributeOf Names.dispatchRole "Arn"
        else Expression.attributeOf Names.defaultRole "Arn") := by
    simp only [Role.arn, Expression.choice, Template.select?, holds?_layout, Option.map_some]
  simp only [Template.selectedRole?, role_at, selected, Option.bind_eq_bind, Option.bind_some]
  by_cases unset : values Names.dispatchTopic = ""
  · rw [if_pos unset, if_neg (by simp [unset])]
    rfl
  · rw [if_neg unset, if_pos (by simpa using Ne.symm unset)]
    rfl

end FunctionSpec

/-- Routing in an environment agrees with the roles that a template gives to a function and to event
rules, when references have given texts. -/
structure Template.RoutesByRole (template : Template) (values : String → String) (function : Json)
    (environment : RoutingEnvironment) (dispatches : Bool) : Prop where
  /-- Messages are published. -/
  testMode : environment.testMode = false
  /-- There is a dispatch topic just when the condition holds. -/
  dispatchTopic : environment.dispatchTopic =
    if dispatches then some (values "DispatchSnsArn") else none
  /-- The topic of alarms is known when it has a name. -/
  alarmTopic : values "ServiceAlarmSNSTopic" ≠ "" →
    environment.alarmTopic = some (values "ServiceAlarmSNSTopic")
  /-- The condition chooses the role of the function. -/
  role : template.selectedRole? values function "Role" =
    some (if dispatches then "LambdaCfnDispatchRole" else "LambdaCfnRole")
  /-- Event rules have the role of the function. -/
  rules : ∀ key rule, template.resources.find? key = some rule →
    rule.member? "Type" = some "AWS::Events::Rule" →
    template.selectedRole? values rule "RoleArn" = template.selectedRole? values function "Role"
  /-- Messages are dispatched just when the function has the dispatch role. -/
  dispatch : ∀ message : Message,
    (∃ body, message.route environment = .ok (.dispatch (values "DispatchSnsArn") body)) ↔
      template.selectedRole? values function "Role" = some "LambdaCfnDispatchRole"
  /-- Otherwise a message that names no topic is sent to the topic of alarms. -/
  alert : ∀ message : Message,
    template.selectedRole? values function "Role" ≠ some "LambdaCfnDispatchRole" →
    message.topic.getD "" = "" → values "ServiceAlarmSNSTopic" ≠ "" →
    message.route environment =
      .ok (.alert (values "ServiceAlarmSNSTopic") message.subject message.alertBody)
  /-- The dispatch role may publish to the dispatch topic. -/
  dispatchAllowed : template.BasicPolicyAllows "LambdaCfnDispatchRole" "sns:Publish"
    (.object [("Ref", "DispatchSnsArn")])
  /-- Both roles may publish to the topic of alarms. -/
  alarmAllowed : ∀ role ∈ ["LambdaCfnRole", "LambdaCfnDispatchRole"],
    template.BasicPolicyAllows role "sns:Publish" (.object [("Ref", "ServiceAlarmSNSTopic")])

namespace FunctionSpec

theorem basicPolicyAllows_alarmTopic {template : Template} {role : String}
    {triggers : List Trigger} {extra policies : List Json} {back : List (String × Json)}
    (found : template.resources.find? role =
      some (.object (Role.members triggers extra policies ++ back))) :
    template.BasicPolicyAllows role "sns:Publish" (Expression.reference Names.alarmTopic) :=
  ⟨_, _, found, basicPolicy_members triggers extra policies back,
    Role.allow "sns:Publish" (Expression.reference Names.alarmTopic),
    by simp [Role.basicStatements], allows_allow _ _⟩

/-- Event rules have the role of the function. -/
theorem selectedRole?_of_rule {spec : FunctionSpec} {settings : Settings} {reading : Reading}
    (values : String → String) {key : String} {rule : Json}
    (resource : HasResource spec settings reading key rule)
    (is_rule : rule.member? "Type" = some "AWS::Events::Rule") :
    (spec.layout settings reading).selectedRole? values rule "RoleArn" =
      (spec.layout settings reading).selectedRole? values (spec.functionResource reading)
        "Role" := by
  rw [selectedRole?_layout spec settings reading values (roleArn_of_rule resource is_rule)]
  exact (selectedRole?_layout spec settings reading values rfl).symm

theorem dispatchRole_allows_dispatchTopic {spec : FunctionSpec} {settings : Settings}
    {reading : Reading} (unambiguous : spec.Unambiguous settings reading) :
    (spec.layout settings reading).BasicPolicyAllows Names.dispatchRole "sns:Publish"
      (Expression.reference Names.dispatchTopic) :=
  ⟨_, _, (find?_resources unambiguous).mpr .dispatchRole, basicPolicy_members _ _ _ _,
    Dispatch.publishStatement, by simp, allows_allow _ _⟩

theorem roles_allow_alarmTopic {spec : FunctionSpec} {settings : Settings} {reading : Reading}
    (unambiguous : spec.Unambiguous settings reading) :
    ∀ role ∈ [Names.defaultRole, Names.dispatchRole],
      (spec.layout settings reading).BasicPolicyAllows role "sns:Publish"
        (Expression.reference Names.alarmTopic) := by
  have default_found : (spec.layout settings reading).resources.find? Names.defaultRole =
      some (.object (Role.members reading.triggers [] (spec.rolePolicies reading) ++ [])) := by
    rw [List.append_nil]
    exact (find?_resources unambiguous).mpr .defaultRole
  have dispatch_found : (spec.layout settings reading).resources.find? Names.dispatchRole =
      some (spec.dispatchRole reading) :=
    (find?_resources unambiguous).mpr .dispatchRole
  simp only [List.mem_cons, List.not_mem_nil, or_false]
  rintro role (rfl | rfl)
  · exact basicPolicyAllows_alarmTopic default_found
  · exact basicPolicyAllows_alarmTopic dispatch_found

theorem layout_routesByRole {spec : FunctionSpec} {settings : Settings} {reading : Reading}
    (reads : spec.Reads settings reading) (unambiguous : spec.Unambiguous settings reading)
    (values : String → String) :
    (spec.layout settings reading).RoutesByRole values (spec.functionResource reading)
      (RoutingEnvironment.ofVariables (spec.boundTexts reading values))
      ("" != values Names.dispatchTopic) := by
  have role_eq := selectedRole?_layout spec settings reading values
    (show (spec.functionResource reading).at? ["Properties", "Role"] = some Role.arn from rfl)
  have rules (key : String) (rule : Json)
      (found : (spec.layout settings reading).resources.find? key = some rule) :=
    selectedRole?_of_rule values ((find?_resources unambiguous).mp found)
  have environment_eq := ofVariables_boundTexts reads values
  generalize RoutingEnvironment.ofVariables (spec.boundTexts reading values) = environment at *
  have published : environment.testMode = false := by rw [environment_eq]
  have alarmTopic_eq (named : values Names.alarmTopic ≠ "") :
      environment.alarmTopic = some (values Names.alarmTopic) := by
    rw [environment_eq]
    simp [Option.filter, named]
  by_cases unset : values Names.dispatchTopic = ""
  · have undispatched : environment.dispatchTopic = none := by
      rw [environment_eq]
      simp [Option.filter, unset]
    rw [if_pos unset] at role_eq
    rw [unset]
    exact {
      testMode := published
      dispatchTopic := undispatched
      alarmTopic := alarmTopic_eq
      role := role_eq
      rules := rules
      dispatch := fun message => by
        rw [role_eq]
        refine ⟨fun ⟨body, route_ok⟩ => ?_, fun chosen => absurd chosen (by decide)⟩
        rw [Message.dispatchTopic_of_route route_ok] at undispatched
        cases undispatched
      alert := fun message _ unnamed named =>
        Message.route_of_alarmTopic published undispatched unnamed (alarmTopic_eq named)
      dispatchAllowed := dispatchRole_allows_dispatchTopic unambiguous
      alarmAllowed := roles_allow_alarmTopic unambiguous
    }
  · have dispatched : environment.dispatchTopic = some (values Names.dispatchTopic) := by
      rw [environment_eq]
      simp [Option.filter, unset]
    have set : ("" != values Names.dispatchTopic) = true := by simpa using Ne.symm unset
    rw [if_neg unset] at role_eq
    rw [set]
    exact {
      testMode := published
      dispatchTopic := dispatched
      alarmTopic := alarmTopic_eq
      role := role_eq
      rules := rules
      dispatch := fun message =>
        ⟨fun _ => role_eq, fun _ => ⟨_, message.route_of_dispatchTopic published dispatched⟩⟩
      alert := fun message unchosen => absurd role_eq unchosen
      dispatchAllowed := dispatchRole_allows_dispatchTopic unambiguous
      alarmAllowed := roles_allow_alarmTopic unambiguous
    }

/-- Whatever texts references have, the variables of a document let routing agree with its roles:
messages go to the dispatch topic just when the function and its rules have the role that may
publish to it, and otherwise, unless they name a topic, to the topic of alarms. -/
theorem routing_agrees_with_roles {spec : FunctionSpec} {settings : Settings}
    {template : Template} (embed_ok : spec.embed settings = .ok template)
    (values : String → String) :
    ∃ function bindings dispatches,
      template.resources.find? spec.name = some function ∧
      (function.at? ["Properties", "Environment", "Variables"]).bind (Json.texts? values) =
        some bindings ∧
      template.holds? values "HasDispatchSnsArn" = some dispatches ∧
      template.RoutesByRole values function (RoutingEnvironment.ofVariables bindings)
        dispatches := by
  obtain ⟨reading, reads, unambiguous, rfl⟩ := layout_of_embed embed_ok
  have texts_eq : (Json.ofMap (.ofList (spec.variableEntries reading))).texts? values =
      some (spec.boundTexts reading values) :=
    Json.texts?_eq_some fun member mem => text?_of_mem_boundVariables values mem
  exact ⟨spec.functionResource reading, spec.boundTexts reading values,
    "" != values Names.dispatchTopic,
    (find?_resources unambiguous).mpr .function, texts_eq,
    holds?_layout spec settings reading values,
    layout_routesByRole reads unambiguous values⟩

theorem sample_routesByRole : ∃ template function bindings,
    sample.embed {} = .ok template ∧ template.resources.find? "report" = some function ∧
      template.RoutesByRole id function (RoutingEnvironment.ofVariables bindings) true := by
  obtain ⟨function, bindings, dispatches, found, -, holds, routes⟩ :=
    routing_agrees_with_roles embed_sample id
  have dispatches_eq : some dispatches = some true :=
    holds.symm.trans (holds?_layout sample {} sampleReading id)
  cases dispatches_eq
  exact ⟨_, function, bindings, embed_sample, found, routes⟩

end FunctionSpec
end LambdaStack
