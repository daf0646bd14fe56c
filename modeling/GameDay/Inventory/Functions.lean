import GameDay.Cloud.Listing

namespace GameDay.Inventory

open Cloud (Function Findings)

def failureVariable : String := "FAILURE_INJECTION_PARAM"

def failureParameterKey : String := "aws.lambda.failure-injection-param"

def functionTarget (f : Function) : Target :=
  let name := f.name.getD ""
  let arn := f.arn.getD name
  let base : Target := { id := arn, label := name, kind := .lambda }
  let described := base.add "aws.arn" arn
    |>.add "aws.lambda.function-name" name
    |>.addOption "aws.lambda.runtime" f.runtime
    |>.addOption "aws.lambda.memory-size" (f.memorySize.map toString)
    |>.addOption "aws.lambda.timeout" (f.timeout.map toString)
    |>.add "aws.lambda.code-size" (toString f.codeSize)
    |>.addOption "aws.lambda.description" f.description
    |>.addOption "aws.lambda.last-modified" f.lastModified
    |>.addOption "aws.lambda.package-type" f.packageType
  f.architectures.foldl (·.add "aws.lambda.architecture" ·) described
    |>.addOption "aws.lambda.role" f.role
    |>.addOption "aws.lambda.version" f.version
    |>.addOption failureParameterKey (f.environment.get? failureVariable)

def functions (limit : Nat) (a : Access) : Findings Target :=
  Cloud.pages (fun token => .send a (.listFunctions token)) .unlessStuck
    (fun f => return [a.stamp (functionTarget f)]) limit none

end GameDay.Inventory
