import Blazer.Errors

/-!
# Issuing one call

`makeRequest` builds an `http.Request` for an API method, stamps it with the method's name in
`X-Blazer-Method`, hands it to the session's `RoundTripper`, and turns what comes back into a
result or an error. `DownloadFileByName` does the same by hand for downloads. Both send the
transport's error through `makeNetRequest` and a non-200 reply through `mkErr`.

**Where the method goes.** `mkErr` reads the method back from the request's header, so every
error built from a reply names the method of its call (`mkErr_method`). `makeNetRequest` reads
the header too, but only to log it: the `b2err` it makes of a transport failure has no method
(`makeNetRequest_error`), and is classified as a method-less error.

Headers are kept as Go keeps them: keys in canonical form, each with a list of values. The
package's collaborators that the source does not show (`escape`, `unescape`, JSON and URL
parsing, the default transport) are arguments.
-/

namespace Blazer

/-! ## Headers -/

/-- `validHeaderFieldByte`: the token characters of RFC 7230. -/
def validHeaderFieldByte (c : Char) : Bool :=
  c.isAlphanum || [33, 35, 36, 37, 38, 39, 42, 43, 45, 46, 94, 95, 96, 124, 126].contains c.toNat

/-- Upper case at the start and after each `-`, lower case elsewhere. -/
def canonicalWords : Bool → List Char → List Char
  | _, [] => []
  | upper, c :: cs =>
    let c := if upper then c.toUpper else c.toLower
    c :: canonicalWords (c == '-') cs

/-- `textproto.CanonicalMIMEHeaderKey`: keys with a byte outside the token set are kept as
they are. -/
def canonicalMIMEHeaderKey (s : String) : String :=
  if s.toList.all validHeaderFieldByte then String.mk (canonicalWords true s.toList) else s

/-- An `http.Header`: canonical keys, each with its values. -/
abbrev Header := List (String × List String)

namespace Header

/-- `Header.Get`: the first value of the key, or `""`. -/
def get (h : Header) (k : String) : String :=
  ((h.lookup (canonicalMIMEHeaderKey k)).bind List.head?).getD ""

/-- `Header.Set`: the key's values become `[v]`. -/
def set (h : Header) (k v : String) : Header :=
  (canonicalMIMEHeaderKey k, [v]) :: h.filter (·.1 != canonicalMIMEHeaderKey k)

/-- `Header.Add`: `v` is appended to the key's values. -/
def add (h : Header) (k v : String) : Header :=
  (canonicalMIMEHeaderKey k, (h.lookup (canonicalMIMEHeaderKey k)).getD [] ++ [v]) ::
    h.filter (·.1 != canonicalMIMEHeaderKey k)

theorem lookup_cons_of_ne {h : Header} {k k' : String} (vs : List String) (hk : k ≠ k') :
    ((k', vs) :: h).lookup k = h.lookup k := by
  simp [List.lookup_cons, beq_false_of_ne hk]

theorem lookup_filter_ne {h : Header} {k k' : String} (hk : k ≠ k') :
    (h.filter (·.1 != k')).lookup k = h.lookup k := by
  induction h with
  | nil => rfl
  | cons e h ih =>
    obtain ⟨a, vs⟩ := e
    by_cases ha : a = k'
    · subst ha
      simp [lookup_cons_of_ne _ hk, ih]
    · rw [List.filter_cons_of_pos (by simpa using ha)]
      simp only [List.lookup_cons, ih]

@[simp] theorem get_set_self (h : Header) (k v : String) : (h.set k v).get k = v := by
  simp [get, set]

theorem get_set_of_ne (h : Header) {k k' : String} (v : String)
    (hk : canonicalMIMEHeaderKey k ≠ canonicalMIMEHeaderKey k') : (h.set k' v).get k = h.get k := by
  simp only [get, set, lookup_cons_of_ne _ hk, lookup_filter_ne hk]

theorem get_add_of_ne (h : Header) {k k' : String} (v : String)
    (hk : canonicalMIMEHeaderKey k ≠ canonicalMIMEHeaderKey k') : (h.add k' v).get k = h.get k := by
  simp only [get, add, lookup_cons_of_ne _ hk, lookup_filter_ne hk]

end Header

/-! ## Requests and replies -/

/-- The body handed to `http.NewRequest`. -/
inductive Body
  /-- A nil reader. -/
  | none
  /-- `http.NoBody`. -/
  | noBody
  /-- A reader that yields these bytes. -/
  | reader (data : List UInt8)
  deriving DecidableEq, Repr

/-- An `http.Request`, as far as the package sets it. -/
structure Request where
  verb : String
  uri : String
  header : Header
  contentLength : Int
  body : Body
  deriving DecidableEq, Repr

/-- An `http.Response`. Its `Request` is the request the transport was given, as
`http.Transport` sets it, so it is not repeated here. `readErr` is the error, if any, that
reading the whole body ends with. -/
structure Response where
  statusCode : Int
  status : String
  header : Header
  body : List UInt8
  readErr : Option GoError
  deriving DecidableEq, Repr

/-- A `RoundTripper`: a response, or an error. -/
abbrev RoundTripper := Request → Except GoError Response

/-- `b2types.ErrorMessage`. -/
structure ErrorMessage where
  status : Int := 0
  code : String := ""
  msg : String := ""
  deriving DecidableEq, Repr

/-- The sign `strconv.ParseInt` takes off the front of `s`, and the bytes after it. -/
def splitSign (s : String) : Bool × List Char :=
  match s.toList with
  | '+' :: ds => (false, ds)
  | '-' :: ds => (true, ds)
  | ds => (false, ds)

/-- `strconv.ParseInt(s, 10, 64)`, `none` for each input it rejects (a syntax or a range
error). -/
def parseInt (s : String) : Option Int :=
  let (neg, ds) := splitSign s
  let v : Int := ds.foldl (fun acc d => 10 * acc + (d.toNat - 48 : Nat)) 0
  let x := if neg then -v else v
  if ds ≠ [] ∧ ds.all Char.isDigit ∧ InInt64 x then some x else none

section Collaborators

-- `json.Unmarshal(data, msg)` into a zero `ErrorMessage`: what it filled in, and its error.
variable (unmarshal : List UInt8 → ErrorMessage × Option GoError)

/-- `mkErr`, for the reply `resp` to the request `req`. -/
def mkErr (req : Request) (resp : Response) : GoError :=
  let msgBody := match resp.readErr with
    | some err => "couldn't read message body: " ++ err.error
    | none => ""
  let (msg, jsonErr) := unmarshal resp.body
  let msgBody := match jsonErr with
    | some err => if msgBody ≠ "" then "couldn't read message body: " ++ err.error else msgBody
    | none => msgBody
  let msgBody := if msgBody = "" then msg.msg else msgBody
  let retry := resp.header.get "Retry-After"
  let retryAfter := if retry ≠ "" then (parseInt retry).getD 0 else 0
  .b2 { msg := msgBody
        retry := retryAfter
        code := resp.statusCode
        msgCode := msg.code
        method := req.header.get "X-Blazer-Method" }

theorem mkErr_method (req : Request) (resp : Response) :
    ∃ e, mkErr unmarshal req resp = .b2 e ∧ e.method = req.header.get "X-Blazer-Method" ∧
      e.code = resp.statusCode := ⟨_, rfl, rfl, rfl⟩

end Collaborators

/-- The `b2err` that `makeNetRequest` makes of a transport failure. -/
def netErr (err : GoError) : B2Err :=
  { msg := err.error, method := "", retry := 1, code := 0, msgCode := "" }

/-- `makeNetRequest`: run the transport and sort its error. The context sentinels are
compared by `==`; a certificate signed by an unknown authority is found by a type switch and
by `errors.As`. -/
def makeNetRequest (rt : RoundTripper) (req : Request) : Except GoError Response :=
  match rt req with
  | .ok resp => .ok resp
  | .error err =>
    if err = .canceled ∨ err = .deadlineExceeded then .error err
    else if err = .unknownAuthority then .error err
    else if err.asUnknownAuthority then .error err
    else .error (.b2 (netErr err))

/-- What `makeNetRequest` returns for a transport error. -/
def netResult (err : GoError) : GoError :=
  if err = .canceled ∨ err = .deadlineExceeded then err
  else if err = .unknownAuthority then err
  else if err.asUnknownAuthority then err
  else .b2 (netErr err)

theorem makeNetRequest_error {rt : RoundTripper} {req : Request} {err : GoError}
    (h : rt req = .error err) : makeNetRequest rt req = .error (netResult err) := by
  simp only [makeNetRequest, h, netResult]
  split_ifs <;> rfl

theorem makeNetRequest_ok {rt : RoundTripper} {req : Request} {resp : Response}
    (h : rt req = .ok resp) : makeNetRequest rt req = .ok resp := by
  simp [makeNetRequest, h]

/-! ## The executor -/

/-- `APIBase`. -/
def apiBase : String := "https://api.backblazeb2.com"

/-- `DefaultUserAgent`. -/
def defaultUserAgent : String := "blazer/0.7.2"

/-- `b2Options`: per-session settings. A `none` transport is the default one. -/
structure B2Options where
  transport : Option RoundTripper := none
  failSomeUploads : Bool := false
  expireTokens : Bool := false
  capExceeded : Bool := false
  apiBase : String := ""
  userAgent : String := ""

namespace B2Options

/-- `getUserAgent`. -/
def getUserAgent (o : B2Options) : String :=
  if o.userAgent ≠ "" then o.userAgent ++ " " ++ defaultUserAgent else defaultUserAgent

/-- `getAPIBase`. -/
def getAPIBase (o : B2Options) : String := if o.apiBase ≠ "" then o.apiBase else Blazer.apiBase

/-- `getTransport`, given `http.DefaultTransport`. -/
def getTransport (o : B2Options) (defaultTransport : RoundTripper) : RoundTripper :=
  o.transport.getD defaultTransport

/-- `addHeaders`: the test-mode switches, then the user agent. -/
def addHeaders (o : B2Options) (h : Header) : Header :=
  let h := if o.failSomeUploads then h.add "X-Bz-Test-Mode" "fail_some_uploads" else h
  let h := if o.expireTokens then
    h.add "X-Bz-Test-Mode" "expire_some_account_authorization_tokens" else h
  let h := if o.capExceeded then h.add "X-Bz-Test-Mode" "force_cap_exceeded" else h
  h.set "User-Agent" o.getUserAgent

theorem get_addHeaders (o : B2Options) (h : Header) {k : String}
    (hm : canonicalMIMEHeaderKey k ≠ canonicalMIMEHeaderKey "X-Bz-Test-Mode")
    (hu : canonicalMIMEHeaderKey k ≠ canonicalMIMEHeaderKey "User-Agent") :
    (o.addHeaders h).get k = h.get k := by
  simp only [addHeaders, Header.get_set_of_ne _ _ hu]
  split_ifs <;> simp only [Header.get_add_of_ne _ _ hm]

theorem get_addHeaders_userAgent (o : B2Options) (h : Header) :
    (o.addHeaders h).get "User-Agent" = o.getUserAgent := by
  simp only [addHeaders, Header.get_set_self]

end B2Options

/-- `requestBody`, whose nil pointer is `none`. -/
structure RequestBody where
  size : Int
  body : List UInt8
  deriving DecidableEq, Repr

/-- `requestBody.getSize`. -/
def getSize : Option RequestBody → Int
  | none => 0
  | some rb => rb.size

/-- `requestBody.getBody`: an empty body is sent as `http.NoBody`, so that the request keeps
its zero `Content-Length`. -/
def getBody : Option RequestBody → Body
  | none => .none
  | some rb => if rb.size = 0 then .noBody else .reader rb.body

/-- The header keys whose values `makeRequest` escapes. -/
def escapesValue (k : String) : Bool :=
  "X-Bz-Info".isPrefixOf k || "X-Bz-File-Name".isPrefixOf k

section Executor

variable (unmarshal : List UInt8 → ErrorMessage × Option GoError) (escape : String → String)
  (newRequestErr : String → String → Option GoError) (defaultTransport : RoundTripper)

/-- The header `makeRequest` sends: the caller's headers, the request id, the method, then the
session's own. -/
def requestHeader (o : B2Options) (id : Int) (method : String)
    (headers : List (String × String)) : Header :=
  let h := headers.foldl
    (fun h kv => Header.set h kv.1 (if escapesValue kv.1 then escape kv.2 else kv.2)) []
  o.addHeaders
    (Header.set (Header.set h "X-Blazer-Request-ID" (toString id)) "X-Blazer-Method" method)

theorem requestHeader_method (o : B2Options) (id : Int) (method : String)
    (headers : List (String × String)) :
    (requestHeader escape o id method headers).get "X-Blazer-Method" = method := by
  rw [requestHeader, B2Options.get_addHeaders _ _ (by decide) (by decide), Header.get_set_self]

/-- The body `makeRequest` sends: the marshalled request struct if there is one, else the
caller's stream. -/
def prepareBody (b2req : Option (Except GoError (List UInt8))) (body : Option RequestBody) :
    Except GoError (Option RequestBody) :=
  match b2req with
  | none => pure body
  | some enc => enc.map fun enc => some { body := enc, size := enc.length }

/-- The `http.Request` that `makeRequest` hands to the transport. -/
def buildRequest (o : B2Options) (id : Int) (method verb uri : String)
    (headers : List (String × String)) (body : Option RequestBody) : Request :=
  { verb, uri, header := requestHeader escape o id method headers,
    contentLength := getSize body, body := getBody body }

/-- `makeRequest`. `b2req` is the result of `json.Marshal` on the request struct, if there is
one; `decode` reads the reply into the response struct, if one is expected. The caller's
headers are set in the order of the list, one of the orders a Go map may be iterated in. -/
def makeRequest {α : Type} (o : B2Options) (id : Int) (method verb uri : String)
    (b2req : Option (Except GoError (List UInt8))) (decode : Option (List UInt8 → Except GoError α))
    (headers : List (String × String)) (body : Option RequestBody) : Except GoError (Option α) := do
  let body ← prepareBody b2req body
  if let some err := newRequestErr verb uri then throw err
  let req := buildRequest escape o id method verb uri headers body
  let resp ← makeNetRequest (o.getTransport defaultTransport) req
  if resp.statusCode ≠ 200 then throw (mkErr unmarshal req resp)
  match decode with
  | some d => some <$> d resp.body
  | none => pure none

section Outcomes

variable {α : Type} {o : B2Options} {id : Int} {method verb uri : String}
  {b2req : Option (Except GoError (List UInt8))} {decode : Option (List UInt8 → Except GoError α)}
  {headers : List (String × String)} {body body' : Option RequestBody}

theorem makeRequest_of_transport_error {err : GoError} (hb : prepareBody b2req body = .ok body')
    (hn : newRequestErr verb uri = none)
    (ht : o.getTransport defaultTransport (buildRequest escape o id method verb uri headers body') =
      .error err) :
    makeRequest unmarshal escape newRequestErr defaultTransport o id method verb uri b2req decode
      headers body = .error (netResult err) := by
  simp [makeRequest, hb, hn, makeNetRequest_error ht, bind, Except.bind, pure, Except.pure]

theorem makeRequest_of_status {resp : Response} (hb : prepareBody b2req body = .ok body')
    (hn : newRequestErr verb uri = none)
    (ht : o.getTransport defaultTransport (buildRequest escape o id method verb uri headers body') =
      .ok resp) (hs : resp.statusCode ≠ 200) :
    makeRequest unmarshal escape newRequestErr defaultTransport o id method verb uri b2req decode
      headers body =
      .error (mkErr unmarshal (buildRequest escape o id method verb uri headers body') resp) := by
  simp [makeRequest, hb, hn, makeNetRequest_ok ht, hs, bind, Except.bind, pure, Except.pure, throw,
    throwThe, MonadExceptOf.throw]

end Outcomes

end Executor

end Blazer
