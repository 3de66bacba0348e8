/-!
# Shared names

Identifiers that every function of a stack agrees on. All others begin with the name of a function
or of a destination.
-/

namespace LambdaStack
namespace Names

/-- The execution role of a function. -/
def defaultRole : String := "LambdaCfnRole"

/-- The execution role while a dispatch topic is set. -/
def dispatchRole : String := "LambdaCfnDispatchRole"

/-- The condition that a dispatch topic is set. -/
def hasDispatch : String := "HasDispatchSnsArn"

/-- The parameter that holds the dispatch topic. -/
def dispatchTopic : String := "DispatchSnsArn"

/-- The topic of alarms. -/
def alarmTopic : String := "ServiceAlarmSNSTopic"

/-- The parameter that holds the address subscribed to alarms. -/
def alarmEmail : String := "ServiceAlarmEmail"

/-- The parameter that holds the bucket of the code. -/
def codeBucket : String := "CodeS3Bucket"

/-- The parameter that holds the place of the code in its bucket. -/
def codePrefix : String := "CodeS3Prefix"

/-- The parameter that holds the revision of the code. -/
def gitSha : String := "GitSha"

end Names
end LambdaStack
