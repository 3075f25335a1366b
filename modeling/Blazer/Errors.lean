import Mathlib.Data.Int.Defs
import Mathlib.Tactic.DeriveFintype

/-!
# Errors and their classification

The package reports a failed API call as a `b2err`: the message, the API method it was made
for, the HTTP status, the service's message code, and the seconds of `Retry-After`. Four
functions read such an error and advise the caller: `Action` picks one of four recoveries,
`MaxRetries` and `MaxReuploads` give budgets, `Backoff` a wait.

Any other Go `error` is opaque to them. `makeNetRequest` looks further into one: it compares it
with the context sentinels by `==`, and it searches its `Unwrap` chain for an
`x509.UnknownAuthorityError` with `errors.As`. `GoError` keeps exactly that much of an error:
its dynamic type, and the error it wraps.

Go's `int` and `int64` are `Int` here; `wrap64` is the two's-complement reduction that Go's
64-bit arithmetic applies to every result.
-/

namespace Blazer

/-! ## Machine integers -/

/-- Reduce an integer to the signed 64-bit range, as Go's `int64` arithmetic does. -/
def wrap64 (x : Int) : Int := (x + 2 ^ 63) % 2 ^ 64 - 2 ^ 63

/-- An integer in the signed 64-bit range: the values of a Go `int` or `int64`. -/
def InInt64 (x : Int) : Prop := -2 ^ 63 ≤ x ∧ x < 2 ^ 63

instance (x : Int) : Decidable (InInt64 x) := inferInstanceAs (Decidable (_ ∧ _))

theorem wrap64_of_inInt64 {x : Int} (h : InInt64 x) : wrap64 x = x := by
  unfold wrap64 InInt64 at *
  rw [Int.emod_eq_of_lt (by omega) (by omega)]
  omega

theorem inInt64_wrap64 (x : Int) : InInt64 (wrap64 x) := by
  unfold wrap64 InInt64
  have h₁ := Int.emod_nonneg (x + 2 ^ 63) (by decide : (2 : Int) ^ 64 ≠ 0)
  have h₂ := Int.emod_lt_of_pos (x + 2 ^ 63) (by decide : (0 : Int) < 2 ^ 64)
  omega

/-! ## Errors -/

/-- The package's structured error (`b2err`). -/
structure B2Err where
  msg : String
  method : String
  retry : Int
  code : Int
  msgCode : String
  deriving DecidableEq, Repr

/-- `b2err.Error`. An error with no method is one the package made up itself. -/
def B2Err.error (e : B2Err) : String :=
  if e.method = "" then "b2 error: " ++ e.msg
  else e.method ++ ": " ++ toString e.code ++ ": " ++ e.msg

/-- A Go `error`, by what the package can observe of it: its dynamic type, and through
`Unwrap` the error it wraps. -/
inductive GoError
  /-- A `b2err`. -/
  | b2 (e : B2Err)
  /-- The sentinel `context.Canceled`. -/
  | canceled
  /-- The sentinel `context.DeadlineExceeded`. -/
  | deadlineExceeded
  /-- A value of type `x509.UnknownAuthorityError`. -/
  | unknownAuthority
  /-- An error of any other type whose `Unwrap` returns `inner`, with its `Error` text. -/
  | wrap (msg : String) (inner : GoError)
  /-- An error of any other type that wraps nothing, with its `Error` text. -/
  | other (msg : String)
  deriving DecidableEq, Repr

namespace GoError

/-- `err.Error()`. -/
def error : GoError → String
  | b2 e => e.error
  | canceled => "context canceled"
  | deadlineExceeded => "context deadline exceeded"
  | unknownAuthority => "x509: certificate signed by unknown authority"
  | wrap msg _ => msg
  | other msg => msg

/-- The `Unwrap` chain of an error, starting with the error itself. -/
def chain : GoError → List GoError
  | wrap msg inner => wrap msg inner :: inner.chain
  | e => [e]

/-- `errors.As(err, &x509.UnknownAuthorityError{})`: some error of the chain has that type. -/
def asUnknownAuthority (err : GoError) : Bool := err.chain.contains unknownAuthority

@[simp] theorem chain_wrap (msg : String) (inner : GoError) :
    (wrap msg inner).chain = wrap msg inner :: inner.chain := rfl

end GoError

/-! ## The classifier -/

/-- A recommended recovery (`ErrAction`). -/
inductive ErrAction
  | reAuthenticate
  | attemptNewUpload
  | retry
  | punt
  deriving DecidableEq, Repr, Fintype

/-- The methods whose failures may be cured by a new upload URL. -/
def isUploadMethod (method : String) : Prop :=
  method = "b2_upload_file" ∨ method = "b2_upload_part"

instance (method : String) : Decidable (isUploadMethod method) :=
  inferInstanceAs (Decidable (_ ∨ _))

/-- `Action`. -/
def action : GoError → ErrAction
  | .b2 e =>
    if e.retry > 0 then .retry
    else if e.code ≥ 500 ∧ e.code < 600 ∧ isUploadMethod e.method then .attemptNewUpload
    else if e.code = 401 then
      if e.method = "b2_authorize_account" then .punt
      else if isUploadMethod e.method then .attemptNewUpload
      else .reAuthenticate
    else if e.code = 400 then
      if e.method = "b2_upload_file" ∧
          "more than one upload using auth token".isPrefixOf e.msg then .attemptNewUpload
      else .punt
    else if e.code = 408 then .attemptNewUpload
    else if e.code = 429 ∨ e.code = 500 ∨ e.code = 503 then .retry
    else .punt
  | _ => .punt

/-- `MaxReuploads`. -/
def maxReuploads : GoError → Nat
  | .b2 e => if isUploadMethod e.method then 5 else 0
  | _ => 5

/-- `MaxRetries`. -/
def maxRetries : GoError → Nat
  | .b2 e =>
    if isUploadMethod e.method then 20
    else if e.method = "b2_download_file_by_id" ∨ e.method = "b2_download_file_by_name" then 20
    else 5
  | _ => 0

/-- One second, in the nanoseconds of a `time.Duration`. -/
def second : Int := 1000000000

/-- `Backoff`: `time.Duration(e.retry) * time.Second`, in nanoseconds. -/
def backoff : GoError → Int
  | .b2 e => wrap64 (e.retry * second)
  | _ => 0

end Blazer
