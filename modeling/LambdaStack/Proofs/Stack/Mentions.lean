import LambdaStack.Proofs.FunctionSpec.RawJson
import LambdaStack.Proofs.Stack.Variables

/-!
# What resources mention

One equation for each builder of resources and outputs. Only the resources that carry raw JSON
mention more than what their builders write.
-/

namespace LambdaStack

/-- Mention of a parameter or a resource of a name. -/
abbrev Mention.ofName (name : String) : Mention := .reference (.string name)

/-- Mention of an attribute of a resource. -/
abbrev Mention.ofAttribute (resource name : String) : Mention :=
  .attribute (.array [.string resource, .string name])

namespace Alarms

theorem mentions_alarm (spec : FunctionSpec) (settings : Settings) (kind : Kind) :
    (alarm spec settings kind).mentions = [.ofName Names.alarmTopic, .ofName spec.name] := by
  simp [alarm, Json.mentions_object, Json.ownMentions]

theorem mentions_topic :
    topic.mentions = [.ofName "AWS::StackName", .ofName Names.alarmEmail] := by
  simp [topic, Expression.stackName, Json.mentions_object, Json.ownMentions]

end Alarms

namespace Role

theorem mentions_arn : arn.mentions = [
    .choice (.array [
      Names.hasDispatch,
      Expression.attributeOf Names.dispatchRole "Arn",
      Expression.attributeOf Names.defaultRole "Arn"
    ]),
    .ofAttribute Names.dispatchRole "Arn",
    .ofAttribute Names.defaultRole "Arn"
  ] := by
  simp [arn]

theorem mentions_allow (action : String) (resource : Json) :
    (allow action resource).mentions = resource.mentions := by
  simp [allow, Json.mentions_object, Json.ownMentions]

theorem mentions_policy (name : String) (statements : List Json) :
    (policy name statements).mentions = statements.flatMap Json.mentions := by
  simp [policy, Json.mentions_object, Json.ownMentions]

theorem mentions_trusted (triggers : List Trigger) :
    (trusted triggers).flatMap Json.mentions = [] := by
  simp only [trusted]
  split <;> simp [trust, Json.mentions_object, Json.ownMentions]

theorem mentions_basicStatements :
    basicStatements.flatMap Json.mentions =
      [.ofName "AWS::AccountId", .ofName Names.alarmTopic] := by
  simp [basicStatements, mentions_allow, Expression.join, Expression.accountId]

theorem mentions_members (triggers : List Trigger) (extra policies : List Json)
    (back : List (String × Json)) :
    (Json.object (members triggers extra policies ++ back)).mentions =
      [.ofName "AWS::AccountId", .ofName Names.alarmTopic] ++ extra.flatMap Json.mentions ++
        policies.flatMap Json.mentions ++ back.flatMap fun member => member.2.mentions := by
  have trusted_eq := mentions_trusted triggers
  have basic_eq := mentions_basicStatements
  have type_mem : "Type" ∈ Entries.keys (members triggers extra policies ++ back) := by
    simp [members]
  rw [Json.mentions_plainObject type_mem (by decide)]
  simp [members, Json.mentions_object, Json.ownMentions, mentions_policy, trusted_eq, basic_eq]

end Role

namespace Function

theorem mentions_resource (spec : FunctionSpec) (runtime : Runtime) (handler : String)
    (bound : OrderedMap Json) :
    (resource spec runtime handler bound).mentions =
      [.ofName Names.codeBucket, .ofName Names.codePrefix, .ofName Names.gitSha] ++
        Role.arn.mentions ++ [.ofName "AWS::StackName"] ++ (Json.ofMap bound).mentions := by
  simp [resource, Expression.join, Expression.stackName, Json.mentions_object, Json.ownMentions]

end Function

theorem mentions_invocationPermission (function service : String) (source : Json) :
    (invocationPermission function service source).mentions =
      .ofAttribute function "Arn" :: source.mentions := by
  simp [invocationPermission, Json.mentions_object, Json.ownMentions]

namespace TopicTrigger

theorem mentions_user (function : String) :
    (user function).mentions = [
      .ofName (topicName function),
      .ofName "AWS::Region",
      .ofName "AWS::AccountId"
    ] := by
  simp [user, Expression.join, Expression.region, Expression.accountId, Json.mentions_object,
    Json.ownMentions]

theorem mentions_topic (function : String) :
    (topic function).mentions = [
      .ofName "AWS::StackName",
      .ofName "AWS::StackName",
      .ofAttribute function "Arn"
    ] := by
  simp [topic, Expression.stackName, Json.mentions_object, Json.ownMentions]

theorem mentions_accessKey (function : String) :
    (accessKey function).mentions = [.ofName (userName function)] := by
  simp [accessKey, Json.mentions_object, Json.ownMentions]

theorem mentions_output (value : Json) : (output value).mentions = value.mentions := by
  simp [output, Json.mentions_object, Json.ownMentions]

end TopicTrigger

namespace RuleTrigger

theorem mentions_rule (function : String) (source : RuleSource) :
    (rule function source).mentions =
      Role.arn.mentions ++
        .ofAttribute function "Arn" :: (Trigger.rule source).rawJson.flatMap Json.mentions := by
  cases source <;>
    simp [rule, sourceProperty, Trigger.rawJson, Json.mentions_object, Json.ownMentions]

end RuleTrigger

namespace TopicDestination

theorem mentions_topic (destination : TopicDestination) :
    destination.topic.mentions =
      [.ofName "AWS::StackName", .ofName destination.emailName] := by
  simp [topic, Expression.stackName, Json.mentions_object, Json.ownMentions]

theorem mentions_policy (function : String) (destination : TopicDestination) :
    (policy function destination).mentions = [.ofName function] := by
  simp [policy, Role.mentions_policy, Json.mentions_object, Json.ownMentions]

end TopicDestination

namespace WebhookTrigger

theorem mentions_resource (function : String) :
    (resource function).mentions =
      [.ofAttribute (gatewayName function) "RootResourceId", .ofName (gatewayName function)] := by
  simp [resource, Json.mentions_object, Json.ownMentions]

theorem mentions_gateway : gateway.mentions = [.ofName "AWS::StackName"] := by
  simp [gateway, Expression.stackName, Json.mentions_object, Json.ownMentions]

theorem mentions_requests (function : String) :
    (requests function).mentions = [
      .ofName "AWS::Region",
      .ofName "AWS::AccountId",
      .ofName (gatewayName function)
    ] := by
  simp [requests, Expression.join, Expression.region, Expression.accountId]

theorem mentions_apiKey (function deployment : String) :
    (apiKey function deployment).mentions =
      [.ofName "AWS::StackName", .ofName (gatewayName function)] := by
  simp [apiKey, Expression.stackName, Json.mentions_object, Json.ownMentions]

theorem mentions_deployment (function : String) :
    (deployment function).mentions = [.ofName (gatewayName function)] := by
  simp [deployment, Json.mentions_object, Json.ownMentions]

theorem mentions_alarm (settings : Settings) (kind : AlarmKind) :
    (alarm settings kind).mentions = [.ofName Names.alarmTopic, .ofName "AWS::StackName"] := by
  simp [alarm, Expression.stackName, Json.mentions_object, Json.ownMentions]

theorem mentions_endpoint (function : String) :
    (endpoint function).mentions = [.ofName (gatewayName function), .ofName "AWS::Region"] := by
  simp [endpoint, Expression.join, Expression.region, Json.mentions_object, Json.ownMentions]

/-- The address of the function, with which an integration is completed. -/
def defaultUri (function : String) : Json :=
  Expression.join [
    "arn:aws:apigateway:",
    Expression.region,
    ":lambda:path/2015-03-31/functions/",
    Expression.attributeOf function "Arn",
    "/invocations"
  ]

theorem mentions_defaultUri (function : String) :
    (defaultUri function).mentions = [.ofName "AWS::Region", .ofAttribute function "Arn"] := by
  simp [defaultUri, Expression.join, Expression.region]

theorem mentions_of_mem_integrationDefaults {function : String} {field : String × Json}
    (mem : field ∈ integrationDefaults function) :
    field.2.mentions = [] ∨ field = ("Uri", defaultUri function) := by
  simp only [integrationDefaults, List.mem_cons, List.not_mem_nil, or_false] at mem
  rcases mem with rfl | rfl | rfl | rfl
  · exact .inl (Json.mentions_string _)
  · exact .inl (Json.mentions_string _)
  · exact .inr rfl
  · exact .inl (by simp [Json.mentions_object, Json.ownMentions])

/-- The caller has set a field. -/
def isSet (integration : OrderedMap Json) (key : String) : Bool :=
  (integration.find? key).any Json.isTruthy

theorem mem_completeField {integration : OrderedMap Json} {field entry : String × Json}
    (mem : entry ∈ (completeField integration field).entries) :
    entry ∈ integration.entries ∨ (entry = field ∧ isSet integration field.1 = false) := by
  unfold completeField at mem
  split at mem
  · exact .inl mem
  next unset =>
    rcases Entries.mem_insert mem with entry_eq | earlier
    · exact .inr ⟨entry_eq, by simpa [isSet] using unset⟩
    · exact .inl earlier

theorem find?_completeField_of_isSet {integration : OrderedMap Json} {key : String}
    (set : isSet integration key) (field : String × Json) :
    (completeField integration field).find? key = integration.find? key := by
  unfold completeField
  split
  · rfl
  next unset =>
    have differs : key ≠ field.1 := by
      rintro rfl
      exact unset set
    rw [OrderedMap.find?_insert, if_neg differs]

theorem isSet_completeField {integration : OrderedMap Json} {key : String}
    (set : isSet integration key) (field : String × Json) :
    isSet (completeField integration field) key := by
  rwa [isSet, find?_completeField_of_isSet set field]

/-- Completing an integration keeps the fields that are set. -/
theorem find?_foldl_completeField_of_isSet {integration : OrderedMap Json} {key : String}
    (set : isSet integration key) (fields : List (String × Json)) :
    (fields.foldl completeField integration).find? key = integration.find? key := by
  induction fields generalizing integration with
  | nil => rfl
  | cons field rest ih =>
      rw [List.foldl_cons, ih (isSet_completeField set field),
        find?_completeField_of_isSet set field]

/-- A field of a completed integration is one of the caller's, or one that the caller leaves
unset. -/
theorem mem_foldl_completeField {fields : List (String × Json)} {integration : OrderedMap Json}
    {entry : String × Json} (mem : entry ∈ (fields.foldl completeField integration).entries) :
    entry ∈ integration.entries ∨ (entry ∈ fields ∧ isSet integration entry.1 = false) := by
  induction fields generalizing integration with
  | nil => exact .inl mem
  | cons field rest ih =>
      rcases ih mem with completed | ⟨later, unset⟩
      · rcases mem_completeField completed with given | ⟨rfl, unset⟩
        · exact .inl given
        · exact .inr ⟨List.mem_cons_self, unset⟩
      · refine .inr ⟨List.mem_cons_of_mem _ later, ?_⟩
        by_contra set
        rw [Bool.not_eq_false] at set
        rw [isSet_completeField set field] at unset
        cases unset

theorem find?_foldl_completeField {fields : List (String × Json)} {key : String}
    (absent : key ∉ Entries.keys fields) (integration : OrderedMap Json) :
    (fields.foldl completeField integration).find? key = integration.find? key := by
  induction fields generalizing integration with
  | nil => rfl
  | cons field rest ih =>
      simp only [Entries.keys_cons, List.mem_cons, not_or] at absent
      rw [List.foldl_cons, ih absent.2]
      unfold completeField
      split
      · rfl
      · rw [OrderedMap.find?_insert, if_neg absent.1]

theorem mem_keys_completeField (integration : OrderedMap Json) (field : String × Json)
    {key : String} (bound : key ∈ integration.keys ∨ key = field.1) :
    key ∈ (completeField integration field).keys := by
  unfold completeField
  split
  next set =>
    rcases bound with given | rfl
    · exact given
    · obtain ⟨value, found, -⟩ := (Option.any_eq_true _ _).mp set
      exact Entries.mem_keys_of_mem (OrderedMap.find?_eq_some_iff.mp found)
  next => exact OrderedMap.mem_keys_insert.mpr bound

theorem mem_keys_foldl_completeField {fields : List (String × Json)} {key : String}
    {integration : OrderedMap Json} (bound : key ∈ integration.keys ∨ key ∈ Entries.keys fields) :
    key ∈ (fields.foldl completeField integration).keys := by
  induction fields generalizing integration with
  | nil => simpa using bound
  | cons field rest ih =>
      refine ih ?_
      rw [Entries.keys_cons, List.mem_cons] at bound
      rcases bound with given | now | later
      · exact .inl (mem_keys_completeField integration field (.inl given))
      · exact .inl (mem_keys_completeField integration field (.inr now))
      · exact .inr later

/-- An integration whose address the caller leaves unset has the address of the function. -/
theorem uri_mem_integration {function : String} {options : WebhookOptions}
    (unset : isSet options.integration "Uri" = false) :
    ("Uri", defaultUri function) ∈ (integration function options).entries := by
  have split_eq : ∃ front back, integrationDefaults function =
      front ++ ("Uri", defaultUri function) :: back ∧
        "Uri" ∉ Entries.keys front ∧ "Uri" ∉ Entries.keys back :=
    ⟨(integrationDefaults function).take 2, (integrationDefaults function).drop 3, rfl,
      by simp [integrationDefaults], by simp [integrationDefaults]⟩
  obtain ⟨front, back, defaults_eq, front_absent, back_absent⟩ := split_eq
  have still_unset : isSet (front.foldl completeField options.integration) "Uri" = false := by
    rwa [isSet, find?_foldl_completeField front_absent]
  rw [← OrderedMap.find?_eq_some_iff, integration, defaults_eq, List.foldl_append,
    List.foldl_cons, find?_foldl_completeField back_absent, completeField]
  unfold isSet at still_unset
  rw [still_unset, if_neg Bool.false_ne_true, OrderedMap.find?_insert, if_pos rfl]

theorem mentions_integration (function : String) (options : WebhookOptions) :
    (Json.ofMap (integration function options)).mentions =
      (integration function options).entries.flatMap fun entry => entry.2.mentions := by
  have type_mem : "Type" ∈ (integration function options).keys :=
    mem_keys_foldl_completeField (.inr (by simp [integrationDefaults]))
  exact Json.mentions_plainObject type_mem (by decide)

/-- What an integration mentions is mentioned by the caller, or in the address of the function when
the caller leaves the address unset. -/
theorem mem_mentions_integration {function : String} {options : WebhookOptions} {mention : Mention}
    (mem : mention ∈ (Json.ofMap (integration function options)).mentions) :
    mention ∈ (options.integration.entries.map Prod.snd).flatMap Json.mentions ∨
      (isSet options.integration "Uri" = false ∧ mention ∈ (defaultUri function).mentions) := by
  rw [mentions_integration] at mem
  obtain ⟨entry, entry_mem, mem⟩ := List.mem_flatMap.mp mem
  rcases mem_foldl_completeField entry_mem with given | ⟨completed, unset⟩
  · exact .inl (List.mem_flatMap.mpr ⟨entry.2, List.mem_map_of_mem given, mem⟩)
  · rcases mentions_of_mem_integrationDefaults completed with none_mentioned | rfl
    · rw [none_mentioned] at mem
      cases mem
    · exact .inr ⟨unset, mem⟩

theorem mentions_method (function : String) (options : WebhookOptions) :
    (method function options).mentions =
      [.ofName (gatewayName function), .ofName (resourceName function)] ++
        options.methodResponses.flatMap Json.mentions ++
          (Json.ofMap (integration function options)).mentions := by
  cases asked : options.apiKey <;>
    simp [method, asked, Json.mentions_object, Json.ownMentions]

/-- What a method mentions is one of its surroundings, mentioned by the caller, or in the address of
the function when the caller leaves the address unset. -/
theorem mem_mentions_method {function : String} {options : WebhookOptions} {mention : Mention}
    (mem : mention ∈ (method function options).mentions) :
    mention = .ofName (gatewayName function) ∨ mention = .ofName (resourceName function) ∨
      mention ∈ (Trigger.webhook options).rawJson.flatMap Json.mentions ∨
      (isSet options.integration "Uri" = false ∧ mention ∈ (defaultUri function).mentions) := by
  simp only [mentions_method, List.mem_append, List.mem_cons, List.not_mem_nil, or_false] at mem
  simp only [Trigger.rawJson, List.flatMap_append, List.mem_append]
  rcases mem with ((gateway | resource) | responses) | integration_mem
  · exact .inl gateway
  · exact .inr (.inl resource)
  · exact .inr (.inr (.inl (.inl responses)))
  · rcases mem_mentions_integration integration_mem with given | uri
    · exact .inr (.inr (.inl (.inr given)))
    · exact .inr (.inr (.inr uri))

end WebhookTrigger

namespace FunctionSpec

theorem mentions_boundVariables (spec : FunctionSpec) (reading : Reading) :
    (Json.ofMap (.ofList (spec.variableEntries reading))).mentions =
      (spec.boundVariables reading).flatMap fun member => member.2.mentions :=
  Json.mentions_plainObject
    (Entries.mem_keys_of_mem (alarmTopic_mem_boundVariables spec reading)) (by decide)

theorem mentions_functionResource (spec : FunctionSpec) (reading : Reading) :
    (spec.functionResource reading).mentions =
      [.ofName Names.codeBucket, .ofName Names.codePrefix, .ofName Names.gitSha] ++
        Role.arn.mentions ++ [.ofName "AWS::StackName"] ++
          (spec.boundVariables reading).flatMap fun member => member.2.mentions := by
  rw [functionResource, Function.mentions_resource, mentions_boundVariables]

theorem mentions_statementPolicies (spec : FunctionSpec) :
    spec.statementPolicies.flatMap Json.mentions =
      (spec.statements.getD []).flatMap fun statement => (Json.ofMap statement).mentions := by
  unfold statementPolicies
  cases spec.statements with
  | none => rfl
  | some statements => simp [Role.mentions_policy, List.flatMap_map]

theorem mentions_rolePolicies (spec : FunctionSpec) (reading : Reading) :
    (spec.rolePolicies reading).flatMap Json.mentions =
      ((spec.statements.getD []).flatMap fun statement => (Json.ofMap statement).mentions) ++
        reading.topics.map fun _ => .ofName spec.name := by
  rw [rolePolicies, List.flatMap_append, mentions_statementPolicies]
  simp [List.flatMap_map, TopicDestination.mentions_policy, ← List.map_eq_flatMap]

theorem mentions_defaultRole (spec : FunctionSpec) (reading : Reading) :
    (spec.defaultRole reading).mentions =
      [.ofName "AWS::AccountId", .ofName Names.alarmTopic] ++
        (spec.rolePolicies reading).flatMap Json.mentions := by
  have members_eq := Role.mentions_members reading.triggers [] (spec.rolePolicies reading) []
  simpa [defaultRole] using members_eq

theorem mentions_dispatchRole (spec : FunctionSpec) (reading : Reading) :
    (spec.dispatchRole reading).mentions =
      [.ofName "AWS::AccountId", .ofName Names.alarmTopic, .ofName Names.dispatchTopic] ++
        (spec.rolePolicies reading).flatMap Json.mentions := by
  rw [dispatchRole, Role.mentions_members]
  simp [Dispatch.publishStatement, Role.mentions_allow]

end FunctionSpec
end LambdaStack
