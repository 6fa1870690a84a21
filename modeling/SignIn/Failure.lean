import SignIn.Config.Basic

/-!
# Failures

Why an operation of the service did not succeed. Each failure has a code for programs and a
message for people. `Failure.concernsLogin` tells failures of a login attempt from those of the
service.
-/

namespace SignIn

/-- Why an operation failed. -/
inductive Failure where
  | invalidUser
  | invalidPassword
  | unknown (detail : String)
  /-- Credentials that are not new belong to no user. -/
  | credentialsWithoutUser (credentialsId : String)
  | credentialsAlreadyLinked (credentialsId : String)
  | providerNotFound (key : ProviderKey)
  | userNotFound (userId : String)
  | invalidConfig (fault : ConfigFault)
  | storage (detail : String)
  | flow (detail : String)

namespace Failure

/-- The code of a failure. -/
def code : Failure → String
  | .invalidUser => "invalid_user"
  | .invalidPassword => "invalid_password"
  | .unknown _ => "unknown_error"
  | .credentialsWithoutUser _ => "credentials_without_user"
  | .credentialsAlreadyLinked _ => "credentials_already_linked"
  | .providerNotFound _ => "provider_not_found"
  | .userNotFound _ => "user_not_found"
  | .invalidConfig _ => "invalid_config"
  | .storage _ => "storage_error"
  | .flow _ => "flow_error"

/-- The message of a failure. -/
def message : Failure → String
  | .invalidUser => "Invalid user"
  | .invalidPassword => "Invalid password"
  | .unknown detail => "Unknown authentication error: " ++ detail
  | .credentialsWithoutUser id => "Credentials with id " ++ id ++ " are not linked to any user"
  | .credentialsAlreadyLinked id => "Credentials " ++ id ++ " are already linked to another user"
  | .providerNotFound key => "Auth provider not found: " ++ key.display
  | .userNotFound id => "User not found: " ++ id
  | .invalidConfig fault => "Invalid configuration: " ++ fault.message
  | .storage detail => "Storage error: " ++ detail
  | .flow detail => "Login flow error: " ++ detail

/-- Whether the failure is that of a login attempt. -/
def concernsLogin : Failure → Bool
  | .invalidUser | .invalidPassword | .unknown _ => true
  | _ => false

end Failure

end SignIn
