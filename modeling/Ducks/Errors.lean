import Mathlib.Data.List.Basic

namespace Ducks.Errors

-- Go errors as the code meets them: API status errors from the server
-- (k8s.io/apimachinery/pkg/api/errors), errors wrapped with %w, and plain
-- errors made by errors.New.

-- metav1.StatusReason: the reasons the code tells apart, and any other by its
-- string (never one of theirs)
inductive StatusReason
  | unknown
  | notFound
  | alreadyExists
  | invalid
  | conflict
  | forbidden
  | other (reason : String)
deriving DecidableEq, Repr

-- The StatusReason strings, as %s prints them
def StatusReason.string : StatusReason → String
  | .unknown => ""
  | .notFound => "NotFound"
  | .alreadyExists => "AlreadyExists"
  | .invalid => "Invalid"
  | .conflict => "Conflict"
  | .forbidden => "Forbidden"
  | .other reason => reason

-- knownReasons of apierrors: the reasons metav1 defines, StatusReasonUnknown not among them
def StatusReason.known : StatusReason → Bool
  | .unknown => false
  | .other reason => reason ∈ ["Unauthorized", "Gone", "ServerTimeout", "StoreReadError", "Timeout",
      "TooManyRequests", "BadRequest", "MethodNotAllowed", "NotAcceptable", "RequestEntityTooLarge",
      "UnsupportedMediaType", "InternalError", "Expired", "ServiceUnavailable"]
  | _ => true

-- metav1.StatusDetails, the part of it the code reads
structure StatusDetails where
  name : String
  kind : String
deriving DecidableEq, Repr

-- metav1.Status as carried by *StatusError; Details is a pointer and may be nil
structure Status where
  reason : StatusReason
  -- the HTTP status code
  code : Nat
  message : String
  details : Option StatusDetails
deriving DecidableEq, Repr

inductive Error
  -- *apierrs.StatusError, an APIStatus
  | status (s : Status)
  -- fmt.Errorf("...: %w", cause)
  | wrap (message : String) (cause : Error)
  -- errors.New, or an error from a library that carries no status
  | new (message : String)
deriving DecidableEq, Repr

-- ReasonForError: the reason of the first APIStatus on the wrap chain
-- (errors.As), StatusReasonUnknown when there is none
def reasonForError : Error → StatusReason
  | .status s => s.reason
  | .wrap _ cause => reasonForError cause
  | .new _ => .unknown

-- The code reasonAndCodeForError reads beside the reason, 0 when there is no APIStatus
def codeForError : Error → Nat
  | .status s => s.code
  | .wrap _ cause => codeForError cause
  | .new _ => 0

-- IsNotFound: the reason NotFound, or a 404 whose reason is not a known one
def isNotFound (err : Error) : Bool :=
  reasonForError err == .notFound || (!(reasonForError err).known && codeForError err == 404)

-- IsAlreadyExists compares the reason alone
def isAlreadyExists (err : Error) : Bool := reasonForError err == .alreadyExists

-- IsInvalid: the reason Invalid, or a 422 whose reason is not a known one
def isInvalid (err : Error) : Bool :=
  reasonForError err == .invalid || (!(reasonForError err).known && codeForError err == 422)

end Ducks.Errors
