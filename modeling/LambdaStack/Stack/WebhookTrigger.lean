import LambdaStack.FunctionSpec.Trigger
import LambdaStack.Stack.Invocation
import LambdaStack.Stack.Names
import LambdaStack.Stack.Settings
import LambdaStack.Document.Fragment

/-!
# Webhook triggers

An HTTP interface with one resource and one method, its deployment and key, and three alarms. The
name of the deployment carries the suffix of the settings, so that each suffix deploys anew.
-/

namespace LambdaStack
namespace WebhookTrigger

/-- Name of the stage that is deployed. -/
def stageName : String := "prod"

/-- End of the identifier of a deployment. -/
def deploymentName (suffix : Option DeploymentSuffix) : String :=
  "ApiDeployment" ++ (suffix.map DeploymentSuffix.text).getD ""

/-- Start of the identifiers of a webhook. -/
def webhookName (function : String) : String := function ++ "Webhook"

/-- Identifier of the HTTP resource. -/
def resourceName (function : String) : String := webhookName function ++ "Resource"

/-- Identifier of the method. -/
def methodName (function : String) : String := webhookName function ++ "Method"

/-- Identifier of the permission to invoke. -/
def permissionName (function : String) : String := webhookName function ++ "Permission"

/-- Identifier of the HTTP interface. -/
def gatewayName (function : String) : String := webhookName function ++ "ApiGateway"

/-- Identifier of the key. -/
def apiKeyName (function : String) : String := webhookName function ++ "ApiKey"

/-- Identifier of the output of the address. -/
def endpointName (function : String) : String := webhookName function ++ "APIEndpoint"

/-- Identifier of the deployment. -/
def deploymentKey (function : String) (suffix : Option DeploymentSuffix) : String :=
  webhookName function ++ deploymentName suffix

/-- The HTTP resource, under the name of the function in small letters. -/
def resource (function : String) : Json :=
  .object [
    ("Type", "AWS::ApiGateway::Resource"),
    ("Properties", .object [
      ("ParentId", Expression.attributeOf (gatewayName function) "RootResourceId"),
      ("RestApiId", Expression.reference (gatewayName function)),
      ("PathPart", Text.toLower function)
    ])
  ]

/-- Fields of an integration that are set when the caller leaves them unset, in order. -/
def integrationDefaults (function : String) : List (String × Json) :=
  [
    ("Type", "AWS"),
    ("IntegrationHttpMethod", "POST"),
    ("Uri", Expression.join [
      "arn:aws:apigateway:",
      Expression.region,
      ":lambda:path/2015-03-31/functions/",
      Expression.attributeOf function "Arn",
      "/invocations"
    ]),
    ("IntegrationResponses", .array [
      .object [("StatusCode", "200")],
      .object [("StatusCode", "500"), ("SelectionPattern", "^(?i)(error|exception).*")]
    ])
  ]

/-- Set a field unless the caller has set it. -/
def completeField (integration : OrderedMap Json) (field : String × Json) : OrderedMap Json :=
  if (integration.find? field.1).any Json.isTruthy then integration
  else integration.insert field.1 field.2

/-- The integration of the method: the fields of the caller, completed by the defaults. -/
def integration (function : String) (options : WebhookOptions) : OrderedMap Json :=
  (integrationDefaults function).foldl completeField options.integration

/-- The method, which passes requests on to the function. -/
def method (function : String) (options : WebhookOptions) : Json :=
  .object [
    ("Type", "AWS::ApiGateway::Method"),
    ("Properties", .object <|
      [
        ("RestApiId", Expression.reference (gatewayName function)),
        ("ResourceId", Expression.reference (resourceName function)),
        ("AuthorizationType", "None"),
        ("HttpMethod", options.method.text),
        ("MethodResponses", .array options.methodResponses),
        ("Integration", .ofMap (integration function options))
      ] ++ if options.apiKey then [("ApiKeyRequired", Json.string "true")] else [])
  ]

/-- Requests of the gateway, as the source of invocations. -/
def requests (function : String) : Json :=
  Expression.join [
    "arn:aws:execute-api:",
    Expression.region,
    ":",
    Expression.accountId,
    ":",
    Expression.reference (gatewayName function),
    "/*"
  ]

/-- The HTTP interface. -/
def gateway : Json :=
  .object [
    ("Type", "AWS::ApiGateway::RestApi"),
    ("Properties", .object [
      ("Name", Expression.stackName),
      ("FailOnWarnings", "true")
    ])
  ]

/-- The key, which waits for the deployment. -/
def apiKey (function deployment : String) : Json :=
  .object [
    ("Type", "AWS::ApiGateway::ApiKey"),
    ("DependsOn", deployment),
    ("Properties", .object [
      ("Name", Expression.stackName),
      ("Enabled", "true"),
      ("StageKeys", .array [
        .object [
          ("RestApiId", Expression.reference (gatewayName function)),
          ("StageName", stageName)
        ]
      ])
    ])
  ]

/-- The deployment, which waits for the method. -/
def deployment (function : String) : Json :=
  .object [
    ("Type", "AWS::ApiGateway::Deployment"),
    ("DependsOn", methodName function),
    ("Properties", .object [
      ("RestApiId", Expression.reference (gatewayName function)),
      ("StageName", stageName)
    ])
  ]

/-- What distinguishes the alarms of a gateway. -/
structure AlarmKind where
  /-- End of the identifier. -/
  name : String
  /-- Metric that is watched. -/
  metric : String
  /-- Value above which the alarm is raised. -/
  threshold : String

/-- Identifier of an alarm. -/
def alarmName (function : String) (kind : AlarmKind) : String := webhookName function ++ kind.name

/-- The alarms of a gateway. -/
def alarmKinds : List AlarmKind :=
  [
    ⟨"ApiLatencyAlarm", "Latency", "4"⟩,
    ⟨"Api4xxAlarm", "4xxError", "100"⟩,
    ⟨"ApiCountAlarm", "Count", "10000"⟩
  ]

/-- The resource of an alarm. -/
def alarm (settings : Settings) (kind : AlarmKind) : Json :=
  .object [
    ("Type", "AWS::CloudWatch::Alarm"),
    ("Properties", .object [
      ("EvaluationPeriods", "5"),
      ("Statistic", "Sum"),
      ("Threshold", kind.threshold),
      ("AlarmDescription", settings.runbookUrl ++ kind.name),
      ("Period", "60"),
      ("AlarmActions", .array [Expression.reference Names.alarmTopic]),
      ("Namespace", "AWS/ApiGateway"),
      ("Dimensions", .array [
        .object [
          ("Name", "APIName"),
          ("Value", Expression.stackName)
        ]
      ]),
      ("ComparisonOperator", "GreaterThanThreshold"),
      ("MetricName", kind.metric)
    ])
  ]

/-- The output of the address of the webhook. -/
def endpoint (function : String) : Json :=
  .object [
    ("Value", Expression.join [
      "https://",
      Expression.reference (gatewayName function),
      ".execute-api.",
      Expression.region,
      ".amazonaws.com/" ++ stageName ++ "/",
      Text.toLower function
    ])
  ]

/-- Resources of a webhook. -/
def resources (function : String) (options : WebhookOptions) (settings : Settings) :
    List (String × Json) :=
  let deploymentKey := deploymentKey function settings.deploymentSuffix
  [
    (resourceName function, resource function),
    (methodName function, method function options),
    (permissionName function, invocationPermission function "apigateway.amazonaws.com"
      (requests function)),
    (gatewayName function, gateway),
    (apiKeyName function, apiKey function deploymentKey),
    (deploymentKey, deployment function)
  ] ++ alarmKinds.map fun kind => (alarmName function kind, alarm settings kind)

/-- Outputs of a webhook. -/
def outputs (function : String) (options : WebhookOptions) : List (String × Json) :=
  (endpointName function, endpoint function) ::
    if options.apiKey then
      [(apiKeyName function, .object [("Value", Expression.reference (apiKeyName function))])]
    else []

/-- The fragment of a webhook. -/
def fragment (spec : FunctionSpec) (options : WebhookOptions) (settings : Settings) :
    Fragment where
  resources := .ofList (resources spec.name options settings)
  outputs := .ofList (outputs spec.name options)

end WebhookTrigger
end LambdaStack
