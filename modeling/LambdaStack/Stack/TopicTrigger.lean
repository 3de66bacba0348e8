import LambdaStack.Document.Fragment
import LambdaStack.FunctionSpec.Basic
import LambdaStack.Stack.Invocation

/-!
# Topic triggers

The trigger of a function that declares no other: a topic to which the function is subscribed, and a
user with an access key who may publish to it from outside.
-/

namespace LambdaStack
namespace TopicTrigger

/-- Identifier of the permission to invoke. -/
def permissionName (function : String) : String := function ++ "SNSPermission"

/-- Identifier of the topic. -/
def topicName (function : String) : String := function ++ "SNSTopic"

/-- Identifier of the user. -/
def userName (function : String) : String := function ++ "SNSUser"

/-- Identifier of the access key. -/
def accessKeyName (function : String) : String := function ++ "SNSUserAccessKey"

/-- Identifier of the output of the secret key. -/
def secretKeyName (function : String) : String := function ++ "SNSUserSecretAccessKey"

/-- The user, who may publish to the topic and list all topics of the account. -/
def user (function : String) : Json :=
  .object [
    ("Type", "AWS::IAM::User"),
    ("Properties", .object [
      ("Policies", .array [
        .object [
          ("PolicyName", function ++ "SNSTopicPolicy"),
          ("PolicyDocument", .object [
            ("Version", "2012-10-17"),
            ("Statement", .array [
              .object [
                ("Resource", Expression.reference (topicName function)),
                ("Action", .array ["sns:ListTopics", "sns:Publish"]),
                ("Effect", "Allow")
              ],
              .object [
                ("Resource", Expression.join [
                  "arn:aws:sns:",
                  Expression.region,
                  ":",
                  Expression.accountId,
                  ":*"
                ]),
                ("Action", .array ["sns:ListTopics"]),
                ("Effect", "Allow")
              ]
            ])
          ])
        ]
      ])
    ])
  ]

/-- The topic, to which the function is subscribed. -/
def topic (function : String) : Json :=
  let displayName := Expression.joinWith "-" [Expression.stackName, function]
  .object [
    ("Type", "AWS::SNS::Topic"),
    ("Properties", .object [
      ("DisplayName", displayName),
      ("TopicName", displayName),
      ("Subscription", .array [
        .object [
          ("Endpoint", Expression.attributeOf function "Arn"),
          ("Protocol", "lambda")
        ]
      ])
    ])
  ]

/-- The access key of the user. -/
def accessKey (function : String) : Json :=
  .object [
    ("Type", "AWS::IAM::AccessKey"),
    ("Properties", .object [("UserName", Expression.reference (userName function))])
  ]

/-- An output of a value. -/
def output (value : Json) : Json :=
  .object [("Value", value)]

/-- Resources of a topic trigger. -/
def resources (function : String) : List (String × Json) :=
  [
    (permissionName function, invocationPermission function "sns.amazonaws.com"
      (Expression.reference (topicName function))),
    (userName function, user function),
    (topicName function, topic function),
    (accessKeyName function, accessKey function)
  ]

/-- Outputs of a topic trigger. -/
def outputs (function : String) : List (String × Json) :=
  [
    (topicName function, output (Expression.reference (topicName function))),
    (accessKeyName function, output (Expression.reference (accessKeyName function))),
    (secretKeyName function,
      output (Expression.attributeOf (accessKeyName function) "SecretAccessKey"))
  ]

/-- The fragment of the topic, its user and their outputs. -/
def fragment (spec : FunctionSpec) : Fragment where
  resources := .ofList (resources spec.name)
  outputs := .ofList (outputs spec.name)

end TopicTrigger
end LambdaStack
