/-
Module: ArcRelay.Server.Status
Purpose: The status every reply of the control connection carries.
Trusted boundary: the random error identifier is an argument
-/
import Mathlib

namespace ArcRelay

inductive ErrorCode where
  | unspecified | ok | invalidArgument | unauthenticated | permissionDenied | notFound
  | conflict | failedPrecondition | busy | resourceExhausted | deadlineExceeded | unavailable
  | unsupported | cancelled | internal
deriving Repr, DecidableEq

inductive RecoveryAction where
  | none | retry | retryWithBackoff | refresh | changeRequest
deriving Repr, DecidableEq

structure Status where
  code : ErrorCode
  message : String
  retryable : Bool
  retryAfterMs : UInt32
  recoveryAction : RecoveryAction
  errorId : String
deriving Repr, DecidableEq

def maxStatusMessageBytes : Nat := 8 * 1024

/-- `str::is_char_boundary`. -/
def isCharBoundary : List Char → Nat → Bool
  | _, 0 => true
  | [], _ + 1 => false
  | c :: chars, index + 1 =>
      if index + 1 < c.utf8Size then false else isCharBoundary chars (index + 1 - c.utf8Size)

/-- The loop of `truncate_utf8`: step back to a character boundary. -/
def boundaryBelow (chars : List Char) : Nat → Nat
  | 0 => 0
  | index + 1 => if isCharBoundary chars (index + 1) then index + 1 else boundaryBelow chars index

/-- The characters of the first `size` bytes. -/
def takeBytes : List Char → Nat → List Char
  | [], _ => []
  | c :: chars, size =>
      if c.utf8Size ≤ size then c :: takeBytes chars (size - c.utf8Size) else []

/-- `String::truncate`; `none` is its panic where the cut is inside a character. -/
def stringTruncate (value : String) (size : Nat) : Option String :=
  if value.utf8ByteSize < size then some value
  else if isCharBoundary value.toList size then
    some (String.ofList (takeBytes value.toList size))
  else none

/-- `truncate_utf8`.  The cut is at a boundary, so `stringTruncate` would not panic. -/
def truncateUtf8 (value : String) (maximum : Nat) : String :=
  if value.utf8ByteSize ≤ maximum then value
  else String.ofList (takeBytes value.toList (boundaryBelow value.toList maximum))

def okStatus : Status where
  code := .ok
  message := ""
  retryable := false
  retryAfterMs := 0
  recoveryAction := .none
  errorId := ""

/-- `status`.  Only an internal error gets an identifier, and loses its text. -/
def status (code : ErrorCode) (message errorId : String) : Status :=
  let recoveryAction : RecoveryAction :=
    match code with
    | .busy | .resourceExhausted | .deadlineExceeded | .unavailable => .retryWithBackoff
    | .conflict => .refresh
    | .invalidArgument | .failedPrecondition => .changeRequest
    | _ => .none
  { code := code
    message := if code = .internal then "operation failed internally"
      else truncateUtf8 message maxStatusMessageBytes
    retryable := recoveryAction = .retry || recoveryAction = .retryWithBackoff
    retryAfterMs := 0
    recoveryAction := recoveryAction
    errorId := if code = .internal then errorId else "" }

inductive HostCapabilityErrorCode where
  | invalidArgument | notFound | conflict | failedPrecondition | unavailable | unsupported
  | internal
deriving Repr, DecidableEq

def HostCapabilityErrorCode.protocolCode : HostCapabilityErrorCode → ErrorCode
  | .invalidArgument => .invalidArgument
  | .notFound => .notFound
  | .conflict => .conflict
  | .failedPrecondition => .failedPrecondition
  | .unavailable => .unavailable
  | .unsupported => .unsupported
  | .internal => .internal

structure HostCapabilityError where
  code : HostCapabilityErrorCode
  message : String
deriving Repr, DecidableEq

end ArcRelay
