/-!
# Application errors

`AppError` of `util/errors.ts`: a stable code, the text shown
to the caller and the HTTP status.  The static factories keep code and status
paired, so each is a definition here.
-/

namespace ProxVM

inductive AppErrorCode
  | notImplemented
  | setupRequired
  | notFound
  | unauthorized
  | forbidden
  | validationError
  | conflict
  | configurationError
  | externalServiceError
  | proxmoxError
  | guacamoleError
  | sshError
  | provisioningError
  | rateLimited
  | accountLocked
  | internalError
  deriving DecidableEq, Repr

/-- `AppError`, without the log-only cause. -/
structure AppError where
  code : AppErrorCode
  message : String
  statusCode : Nat := 500
  deriving DecidableEq, Repr

namespace AppError

def notFound (message : String := "Resource not found") : AppError :=
  { code := .notFound, message, statusCode := 404 }

def forbidden (message : String := "You do not have permission to perform this action") :
    AppError :=
  { code := .forbidden, message, statusCode := 403 }

def unauthorized (message : String := "Authentication required") : AppError :=
  { code := .unauthorized, message, statusCode := 401 }

def validation (message : String) : AppError :=
  { code := .validationError, message, statusCode := 400 }

def conflict (message : String) : AppError :=
  { code := .conflict, message, statusCode := 409 }

def external (service message : String) : AppError :=
  { code := .externalServiceError, message := service ++ ": " ++ message, statusCode := 502 }

def database (message : String) : AppError :=
  { code := .internalError, message }

end AppError

end ProxVM
