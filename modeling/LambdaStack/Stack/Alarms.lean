import LambdaStack.Decimal.Notation
import LambdaStack.Document.Expression
import LambdaStack.Document.Fragment
import LambdaStack.FunctionSpec.Basic
import LambdaStack.Stack.Names
import LambdaStack.Stack.Parameters
import LambdaStack.Stack.Settings

/-!
# Alarms

The two alarms of a function, on errors and on missing invocations, and the topic that receives
them.
-/

namespace LambdaStack
namespace Alarms

/-- The threshold of errors: never negative, and zero when not given. -/
def threshold : Option Binary64 → Binary64
  | some value => if 0 < value then value else 0
  | none => 0

/-- The number of periods: five unless a positive one is given. -/
def evaluationPeriods : Option Binary64 → Binary64
  | some value => if 0 < value then value else 5
  | none => 5

/-- The length of a period: sixty seconds unless a positive one is given. -/
def period : Option Binary64 → Binary64
  | some value => if 0 < value then value else 60
  | none => 60

/-- What distinguishes the alarms of a function. -/
structure Kind where
  /-- Name of the alarm, with which its identifier ends. -/
  name : String
  /-- Metric that is watched. -/
  metric : String
  /-- Comparison of the metric with the threshold. -/
  comparison : String

/-- Alarm on errors. -/
def errors : Kind := ⟨"Errors", "Errors", "GreaterThanThreshold"⟩

/-- Alarm on missing invocations. -/
def noInvocations : Kind := ⟨"NoInvocations", "Invocations", "LessThanThreshold"⟩

/-- Identifier of an alarm. -/
def alarmName (function : String) (kind : Kind) : String :=
  function ++ "Alarm" ++ kind.name

/-- The resource of an alarm. -/
def alarm (spec : FunctionSpec) (settings : Settings) (kind : Kind) : Json :=
  .object [
    ("Type", "AWS::CloudWatch::Alarm"),
    ("Properties", .object [
      ("EvaluationPeriods", (evaluationPeriods spec.evaluationPeriods).plainText),
      ("Statistic", "Sum"),
      ("Threshold", (threshold spec.threshold).plainText),
      ("AlarmDescription", settings.runbookUrl ++ kind.name),
      ("Period", (period spec.period).plainText),
      ("AlarmActions", .array [Expression.reference Names.alarmTopic]),
      ("Namespace", "AWS/Lambda"),
      ("Dimensions", .array [
        .object [
          ("Name", "FunctionName"),
          ("Value", Expression.reference spec.name)
        ]
      ]),
      ("ComparisonOperator", kind.comparison),
      ("MetricName", kind.metric)
    ])
  ]

/-- The topic of alarms, to which an address is subscribed. -/
def topic : Json :=
  .object [
    ("Type", "AWS::SNS::Topic"),
    ("Properties", .object [
      ("TopicName", Expression.joinWith "-" [Expression.stackName, "ServiceAlarm"]),
      ("Subscription", .array [
        .object [
          ("Endpoint", Expression.reference Names.alarmEmail),
          ("Protocol", "email")
        ]
      ])
    ])
  ]

/-- The parameter of the address that is subscribed to the topic. -/
def emailParameter : Json :=
  Parameters.textParameter "Service alarm notifications will send to this email address"

/-- The alarms and their topic. -/
def resources (spec : FunctionSpec) (settings : Settings) : List (String × Json) :=
  [
    (alarmName spec.name errors, alarm spec settings errors),
    (alarmName spec.name noInvocations, alarm spec settings noInvocations),
    (Names.alarmTopic, topic)
  ]

/-- The fragment of the alarms and their topic. -/
def fragment (spec : FunctionSpec) (settings : Settings) : Fragment where
  parameters := .ofList [(Names.alarmEmail, emailParameter)]
  resources := .ofList (resources spec settings)
  environment := .ofList [(Names.alarmTopic, Expression.reference Names.alarmTopic)]

end Alarms
end LambdaStack
