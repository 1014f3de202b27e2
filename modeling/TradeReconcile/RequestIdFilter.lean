import TradeReconcile.Controllers

/-!
# The filter of the writing endpoints

`RequestIdFilter::doFilter` stands before every POST endpoint: a request without an
acceptable `X-Request-Id` is answered at once, any other one is handed on with the id among
its attributes, where the handlers find it.
-/

namespace TradeReconcile.RequestIdFilter

open Controllers

/-- `drogon::HttpMethod`. -/
inductive HttpMethod where
  | get
  | post
  | head
  | put
  | delete
  | options
  | patch
  | invalid
deriving DecidableEq, Repr

/-- What the filter reads and writes of a request. A missing header reads as an empty text. -/
structure Request where
  method : HttpMethod
  xRequestId : String
  attributes : Option String := none
deriving DecidableEq, Repr

/-- A hexadecimal digit of either case. -/
def isHex (c : Char) : Bool :=
  ('0' ≤ c && c ≤ '9') || ('a' ≤ c && c ≤ 'f') || ('A' ≤ c && c ≤ 'F')

/-- Between 16 and 64 bytes, hexadecimal digits and hyphens only. -/
def isValidRequestId (rid : String) : Bool :=
  if rid.utf8ByteSize < 16 || rid.utf8ByteSize > 64 then false
  else rid.toList.all fun c => isHex c || c == '-'

/-- The request for the rest of the chain, or the answer in its place. -/
def doFilter (request : Request) : Except HttpResponse Request :=
  if request.method = .get ∨ request.method = .head ∨ request.method = .options then .ok request
  else
    let rid := request.xRequestId
    if isValidRequestId rid then .ok { request with attributes := some rid }
    else .error (badRequest .kMissingRequestId (ErrCode.toMessage .kMissingRequestId) rid)

/-- A writing request is handed on with the id it came with exactly when that id is valid. -/
theorem doFilter_writes {request passed : Request} (writes : request.method = .post) :
    doFilter request = .ok passed ↔
      isValidRequestId request.xRequestId = true ∧
        passed = { request with attributes := some request.xRequestId } := by
  have filtered : ¬(request.method = .get ∨ request.method = .head ∨ request.method = .options) := by
    rw [writes]
    decide
  rw [doFilter, if_neg filtered]
  constructor
  · intro handed
    by_cases valid : isValidRequestId request.xRequestId = true
    · rw [if_pos valid] at handed
      exact ⟨valid, (Except.ok.inj handed).symm⟩
    · rw [if_neg valid] at handed
      cases handed
  · rintro ⟨valid, rfl⟩
    exact if_pos valid

example : isValidRequestId "0123456789abcdef" = true ∧ isValidRequestId "123456789012345" = false ∧
    isValidRequestId "0123456789abcdeg" = false := by decide

end TradeReconcile.RequestIdFilter
