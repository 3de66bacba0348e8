import LambdaStack.Document.Expression

/-!
# Invocation permissions

The permission that a service needs to invoke a function on behalf of one of its resources.
-/

namespace LambdaStack

/-- Permission of a service to invoke a function for a source. -/
def invocationPermission (function service : String) (source : Json) : Json :=
  .object [
    ("Type", "AWS::Lambda::Permission"),
    ("Properties", .object [
      ("FunctionName", Expression.attributeOf function "Arn"),
      ("Action", "lambda:InvokeFunction"),
      ("Principal", service),
      ("SourceArn", source)
    ])
  ]

end LambdaStack
