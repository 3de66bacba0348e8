import LambdaStack.Console.Running
import LambdaStack.Files.FileTree
import LambdaStack.FunctionSpec.Encoding
import LambdaStack.Main
import LambdaStack.Notice.Publishing
import LambdaStack.Proofs.Document.Insertion
import LambdaStack.Proofs.Notice.Agreement
import LambdaStack.Proofs.Stack.Defaults
import LambdaStack.Proofs.Stack.Denotations
import LambdaStack.Proofs.Stack.Dependencies
import LambdaStack.Proofs.Stack.Environment
import LambdaStack.Proofs.Stack.Order
import LambdaStack.Proofs.Stack.Precedence
import LambdaStack.Proofs.Stack.Roles
import LambdaStack.Text.Blank
import LambdaStack.Proofs.Stack.PolicyNames
import LambdaStack.Proofs.Document.Provenance
import LambdaStack.Proofs.Stack.Separation
import LambdaStack.Proofs.Stack.Provenance
import LambdaStack.Proofs.Stack.Deployment
import LambdaStack.Proofs.Stack.Dispatch
import LambdaStack.Proofs.Binary64.Rounding
import LambdaStack.Proofs.FunctionSpec.Codec
import LambdaStack.Proofs.FunctionSpec.Grammar
import LambdaStack.Proofs.Json.RoundTrip
import LambdaStack.Proofs.Files.FileTree
import LambdaStack.Proofs.Files.Path
import LambdaStack.Proofs.Files.Scaffold
import LambdaStack.Proofs.Notice.Dispatching
import LambdaStack.Proofs.Notice.Sending
import LambdaStack.Proofs.Stack.Declarations
import LambdaStack.Proofs.Stack.Integration
import LambdaStack.Proofs.Stack.Limits
import LambdaStack.Proofs.Console.Building
import LambdaStack.Proofs.Files.Directories
import LambdaStack.Proofs.Files.Places
import LambdaStack.Proofs.Files.Preservation
import LambdaStack.Proofs.FunctionSpec.Numbers
import LambdaStack.Proofs.Text.CommaLists
import LambdaStack.Proofs.Text.Segments
