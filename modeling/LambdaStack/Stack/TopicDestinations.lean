import LambdaStack.Document.Expression
import LambdaStack.Document.Fragment
import LambdaStack.FunctionSpec.Destination
import LambdaStack.Stack.Role

/-!
# Topic destinations

A topic for each destination, the parameter of the address that is subscribed to it, the variable
that tells the function about it, and a policy.
-/

namespace LambdaStack
namespace TopicDestination

/-- Parameter of the subscribed address. -/
def emailName (destination : TopicDestination) : String := destination.name ++ "Email"

/-- Identifier of the topic, and the variable that holds it. -/
def topicName (destination : TopicDestination) : String := destination.name ++ "Topic"

/-- The parameter of the subscribed address. -/
def email (destination : TopicDestination) : Json :=
  .object <| ("Type", "String") ::
    destination.description.toList.map fun text => ("Description", Json.string text)

/-- The policy of a destination. -/
def policy (function : String) (destination : TopicDestination) : Json :=
  Role.policy (destination.name ++ "TopicPermissions") [
    .object [
      ("Effect", "Allow"),
      ("Action", "sns:Publish"),
      ("Resource", Expression.reference function)
    ]
  ]

/-- The topic of a destination. -/
def topic (destination : TopicDestination) : Json :=
  .object [
    ("Type", "AWS::SNS::Topic"),
    ("Properties", .object [
      ("TopicName", Expression.joinWith "-" [Expression.stackName, destination.name]),
      ("Subscription", .array [
        .object [
          ("Endpoint", Expression.reference destination.emailName),
          ("Protocol", "email")
        ]
      ])
    ])
  ]

/-- The fragment of several destinations, of which a later one replaces one of the same name. -/
def fragment (spec : FunctionSpec) (destinations : List TopicDestination) : Fragment where
  parameters := .ofList (destinations.map fun destination =>
    (destination.emailName, destination.email))
  resources := .ofList (destinations.map fun destination =>
    (destination.topicName, destination.topic))
  environment := .ofList (destinations.map fun destination =>
    (destination.topicName, Expression.reference destination.topicName))
  policies := destinations.map (policy spec.name)

end TopicDestination
end LambdaStack
