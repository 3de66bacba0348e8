/-!
# Failures

Everything that can be wrong with a function spec, its file or the publishing of a notice. A failure
carries what it is about; its wording, its code and its advice are fixed here.
-/

namespace LambdaStack

/-- A reason for which no result is given. -/
inductive Failure where
  /-- A file cannot be read. -/
  | unreadableFile (path reason : String)
  /-- A file does not hold JSON text. -/
  | unparsableFile (path reason : String)
  /-- A required field is missing. -/
  | missingField (field reason : String)
  /-- The name of a parameter is not alphanumeric. -/
  | invalidParameterName (name : String)
  /-- A parameter lacks a property. -/
  | incompleteParameter (name property : String)
  /-- A policy statement lacks a part. -/
  | invalidStatement (reason : String)
  /-- The runtime is not one of those supported. -/
  | unsupportedRuntime (runtime : String)
  /-- The HTTP method is not one of those supported. -/
  | unsupportedMethod (method : String)
  /-- The method responses of a webhook are no list. -/
  | methodResponsesNotList
  /-- A field has a value that it cannot have. -/
  | invalidOption (field reason : String)
  /-- A key occurs twice in one part of a document. -/
  | duplicateKey (part key : String)
  /-- No trigger is of this kind. -/
  | unknownTrigger (kind : String)
  /-- No destination is of this kind. -/
  | unknownDestination (kind : String)
  /-- A document has more parameters than are admitted. -/
  | tooManyParameters (count limit : Nat)
  /-- A document cannot be written. -/
  | unwritable (reason : String)
  /-- A notice could not be published. -/
  | publishFailed (topic reason : String)
  deriving DecidableEq

namespace Failure

/-- Wording of a failure. -/
def message : Failure → String
  | unreadableFile path reason => "Failed to read file '" ++ path ++ "': " ++ reason
  | unparsableFile path reason => "Failed to parse function spec '" ++ path ++ "': " ++ reason
  | missingField _ reason => reason
  | invalidParameterName name => "Parameter names must be alphanumeric: " ++ name
  | incompleteParameter name property =>
    "Parameter must contain " ++ property ++ " property: " ++ name
  | invalidStatement reason => reason
  | unsupportedRuntime runtime => "Invalid AWS Lambda node.js runtime " ++ runtime
  | unsupportedMethod method => "Invalid client HTTP method specified: " ++ method
  | methodResponsesNotList => "Webhook method responses is not an array"
  | invalidOption field reason => "Invalid value for '" ++ field ++ "': " ++ reason
  | duplicateKey part key => part ++ " name used more than once: " ++ key
  | unknownTrigger kind => "Unknown event source specified: " ++ kind
  | unknownDestination kind => "Unknown destination specified: " ++ kind
  | tooManyParameters count limit =>
    "More than " ++ toString limit ++ " parameters specified (" ++ toString count ++ " found)"
  | unwritable reason => "Failed to serialize template: " ++ reason
  | publishFailed topic reason => "Failed to publish to '" ++ topic ++ "': " ++ reason

/-- Stable code of a kind of failure. -/
def code : Failure → String
  | unreadableFile _ _ => "stackfn::io::read_error"
  | unparsableFile _ _ => "stackfn::io::spec_parse"
  | missingField _ _ => "stackfn::spec::missing_field"
  | invalidParameterName _ => "stackfn::parameters::invalid_name"
  | incompleteParameter _ _ => "stackfn::parameters::missing_property"
  | invalidStatement _ => "stackfn::roles::invalid_statement"
  | unsupportedRuntime _ => "stackfn::lambda::invalid_runtime"
  | unsupportedMethod _ => "stackfn::webhook::invalid_method"
  | methodResponsesNotList => "stackfn::webhook::method_responses"
  | invalidOption _ _ => "stackfn::spec::invalid_option"
  | duplicateKey _ _ => "stackfn::merge::duplicate_key"
  | unknownTrigger _ => "stackfn::sources::unknown_event_source"
  | unknownDestination _ => "stackfn::sources::unknown_destination"
  | tooManyParameters _ _ => "stackfn::limits::too_many_parameters"
  | unwritable _ => "stackfn::output::serialize_failed"
  | publishFailed _ _ => "stackfn::notify::publish_failed"

/-- Advice on a kind of failure, where there is any. -/
def help : Failure → Option String
  | unparsableFile _ _ => some "Function specs are JSON objects with at least a \"name\" field"
  | invalidParameterName _ => some "Parameter names may only contain A-Z, a-z and 0-9"
  | invalidStatement _ =>
    some "Each statement needs Effect, Resource or NotResource, and Action or NotAction"
  | unsupportedRuntime _ => some "Supported runtimes: nodejs8.10, nodejs10.x"
  | unsupportedMethod _ => some "Use one of GET, HEAD, PUT, PATCH, OPTIONS, POST, DELETE"
  | duplicateKey _ _ => some "Logical identifiers must be unique across every merged fragment"
  | unknownTrigger _ => some "Supported event sources: sns, cloudwatchEvent, schedule, webhook"
  | unknownDestination _ => some "Supported destinations: sns"
  | tooManyParameters _ _ => some "CloudFormation templates accept at most 60 parameters"
  | _ => none

end Failure
end LambdaStack
