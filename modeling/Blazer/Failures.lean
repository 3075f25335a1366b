import Blazer.Download

/-!
# What a failed call reports

A call made through `makeRequest` or `DownloadFileByName` fails in one of two ways once its
request is on its way: the transport returns an error, or the service answers with a status
other than success.

**Theorem (`failure_reports`).** For every method `m`, a reply other than success becomes a
`b2err` that names `m` and carries the reply's status, so the classifier applies `m`'s budgets
to it. A transport error that is not a context sentinel and has no unknown certificate
authority in its chain becomes a `b2err` with no method and `retry = 1`, whatever `m` is: it is
retried after one second, five times at most, and never re-uploaded.

**The context sentinels are compared by `==`** (`wrapped_cancel_retried`): a cancellation that
the transport wrapped is not recognized, and is advised like a network failure.
-/

namespace Blazer

/-- A transport error that `makeNetRequest` turns into a `b2err`: neither context sentinel, and
no unknown certificate authority anywhere in its chain. -/
def PlainTransportError (err : GoError) : Prop :=
  err ≠ .canceled ∧ err ≠ .deadlineExceeded ∧ err.asUnknownAuthority = false

instance (err : GoError) : Decidable (PlainTransportError err) :=
  inferInstanceAs (Decidable (_ ∧ _))

theorem netResult_of_plain {err : GoError} (h : PlainTransportError err) :
    netResult err = .b2 (netErr err) := by
  obtain ⟨hc, hd, ha⟩ := h
  have hu : err ≠ .unknownAuthority := by
    rintro rfl; simp [GoError.asUnknownAuthority, GoError.chain] at ha
  simp [netResult, hc, hd, hu, ha]

theorem classify_netErr (err : GoError) :
    action (.b2 (netErr err)) = .retry ∧ backoff (.b2 (netErr err)) = second ∧
      maxRetries (.b2 (netErr err)) = 5 ∧ maxReuploads (.b2 (netErr err)) = 0 := by
  refine ⟨rfl, ?_, rfl, rfl⟩
  simp [backoff, netErr, wrap64_of_inInt64, InInt64, second]

/-- A transport that wraps the context's cancellation, as `fmt.Errorf("...: %w", ctx.Err())`
does, has the call advised for a retry. -/
theorem wrapped_cancel_retried (req : Request) :
    let err := GoError.wrap "round trip: context canceled" .canceled
    GoError.canceled ∈ err.chain ∧
      makeNetRequest (fun _ => .error err) req = .error (.b2 (netErr err)) ∧
      action (.b2 (netErr err)) = .retry ∧ maxRetries (.b2 (netErr err)) = 5 ∧
      backoff (.b2 (netErr err)) = second := by
  refine ⟨by simp [GoError.chain], ?_, (classify_netErr _).1, (classify_netErr _).2.2.1,
    (classify_netErr _).2.1⟩
  rw [makeNetRequest_error rfl, netResult_of_plain (by decide)]

/-! ## Failed calls, method by method -/

section Reports

variable (unmarshal : List UInt8 → ErrorMessage × Option GoError) (escape : String → String)
  (unescape : String → Except GoError String)
  (newRequestErr : String → String → Option GoError) (defaultTransport : RoundTripper)
  (quote : String → String)

theorem makeRequest_failure {α : Type} {o : B2Options} {id : Int} {method verb uri : String}
    {b2req : Option (Except GoError (List UInt8))} {decode : Option (List UInt8 → Except GoError α)}
    {headers : List (String × String)} {body body' : Option RequestBody}
    (hb : prepareBody b2req body = .ok body') (hn : newRequestErr verb uri = none) :
    let req := buildRequest escape o id method verb uri headers body'
    let result := makeRequest unmarshal escape newRequestErr defaultTransport o id method verb uri
      b2req decode headers body
    (∀ resp, o.getTransport defaultTransport req = .ok resp → resp.statusCode ≠ 200 →
      ∃ e, result = .error (.b2 e) ∧ e.method = method ∧ e.code = resp.statusCode) ∧
    (∀ err, o.getTransport defaultTransport req = .error err → PlainTransportError err →
      result = .error (.b2 (netErr err))) := by
  refine ⟨fun resp ht hs => ?_, fun err ht hp => ?_⟩
  · obtain ⟨e, he, hm, hc⟩ := mkErr_method unmarshal
      (buildRequest escape o id method verb uri headers body') resp
    refine ⟨e, by rw [makeRequest_of_status unmarshal escape newRequestErr defaultTransport hb hn
      ht hs, he], ?_, hc⟩
    rw [hm, buildRequest, requestHeader_method]
  · rw [makeRequest_of_transport_error unmarshal escape newRequestErr defaultTransport hb hn ht,
      netResult_of_plain hp]

theorem downloadFileByName_failure {b : Bucket} {id : Int} {name : String} {offset size : Int}
    {header : Bool}
    (hn : newRequestErr (b.downloadRequest escape id name offset size header).verb
      (b.downloadRequest escape id name offset size header).uri = none) :
    let req := b.downloadRequest escape id name offset size header
    let result := b.downloadFileByName unmarshal escape unescape newRequestErr defaultTransport
      quote id name offset size header
    (∀ resp, b.b2.opts.getTransport defaultTransport req = .ok resp →
      resp.statusCode ≠ 200 ∧ resp.statusCode ≠ 206 →
      ∃ e, result = .error (.b2 e) ∧ e.method = "b2_download_file_by_name" ∧
        e.code = resp.statusCode) ∧
    (∀ err, b.b2.opts.getTransport defaultTransport req = .error err → PlainTransportError err →
      result = .error (.b2 (netErr err))) := by
  refine ⟨fun resp ht hs => ?_, fun err ht hp => ?_⟩
  · obtain ⟨e, he, hm, hc⟩ := mkErr_method unmarshal
      (b.downloadRequest escape id name offset size header) resp
    refine ⟨e, by rw [Bucket.downloadFileByName_of_status unmarshal escape unescape newRequestErr
      defaultTransport quote hn ht hs, he], ?_, hc⟩
    rw [hm, Bucket.downloadRequest_method]
  · rw [Bucket.downloadFileByName_of_transport_error unmarshal escape unescape newRequestErr
      defaultTransport quote hn ht, netResult_of_plain hp]

/-- For every method `m`: a failed call through `makeRequest`, or a failed download, reports
`m` when the service answered, and no method when the transport failed; the transport failure
is advised alike for every method. -/
theorem failure_reports {α : Type} (o : B2Options) (id : Int) (method verb uri : String)
    (b2req : Option (Except GoError (List UInt8))) (decode : Option (List UInt8 → Except GoError α))
    (headers : List (String × String)) (body body' : Option RequestBody) (b : Bucket)
    (id' : Int) (name : String) (offset size : Int) (header : Bool)
    (hb : prepareBody b2req body = .ok body') (hn : newRequestErr verb uri = none)
    (hd : newRequestErr (b.downloadRequest escape id' name offset size header).verb
      (b.downloadRequest escape id' name offset size header).uri = none) :
    let req := buildRequest escape o id method verb uri headers body'
    let result := makeRequest unmarshal escape newRequestErr defaultTransport o id method verb uri
      b2req decode headers body
    let dreq := b.downloadRequest escape id' name offset size header
    let dresult := b.downloadFileByName unmarshal escape unescape newRequestErr defaultTransport
      quote id' name offset size header
    ((∀ resp, o.getTransport defaultTransport req = .ok resp → resp.statusCode ≠ 200 →
      ∃ e, result = .error (.b2 e) ∧ e.method = method ∧ e.code = resp.statusCode) ∧
    (∀ err, o.getTransport defaultTransport req = .error err → PlainTransportError err →
      result = .error (.b2 (netErr err)))) ∧
    ((∀ resp, b.b2.opts.getTransport defaultTransport dreq = .ok resp →
      resp.statusCode ≠ 200 ∧ resp.statusCode ≠ 206 →
      ∃ e, dresult = .error (.b2 e) ∧ e.method = "b2_download_file_by_name" ∧
        e.code = resp.statusCode) ∧
    (∀ err, b.b2.opts.getTransport defaultTransport dreq = .error err → PlainTransportError err →
      dresult = .error (.b2 (netErr err)))) ∧
    (∀ err, (netErr err).method = "" ∧ action (.b2 (netErr err)) = .retry ∧
      backoff (.b2 (netErr err)) = second ∧ maxRetries (.b2 (netErr err)) = 5 ∧
      maxReuploads (.b2 (netErr err)) = 0) :=
  ⟨makeRequest_failure unmarshal escape newRequestErr defaultTransport hb hn,
    downloadFileByName_failure unmarshal escape unescape newRequestErr defaultTransport quote hd,
    fun err => ⟨rfl, classify_netErr err⟩⟩

end Reports

/-! ## Failures on fixed inputs -/

/-- A transport that answers every request with this reply. -/
def answering (resp : Response) : B2Options := { transport := some fun _ => .ok resp }

/-- A transport that fails every request with this error. -/
def failing (err : GoError) : B2Options := { transport := some fun _ => .error err }

/-- A 503 from the service. -/
def unavailable : Response :=
  { statusCode := 503, status := "503 Service Unavailable", header := [], body := [],
    readErr := none }

/-- A connection reset while the request was being sent. -/
def connReset : GoError := .other "write tcp: connection reset by peer"

/-- A bucket handle of a session with the given options. -/
def bucketOf (o : B2Options) : Bucket := photos { staleSession with opts := o }

theorem failure_reports_at_503_and_reset :
    (∃ e, makeRequest (fun _ => ({}, none)) id (fun _ _ => none) (fun _ => .error connReset)
      (answering unavailable) 1 "b2_list_buckets" "POST" "https://api000/b2api/v3/b2_list_buckets"
      none (none : Option (List UInt8 → Except GoError Unit)) [] none = .error (.b2 e) ∧
      e.method = "b2_list_buckets" ∧ e.code = 503) ∧
    (bucketOf (failing connReset)).downloadFileByName (fun _ => ({}, none)) id .ok
      (fun _ _ => none) (fun _ => .error connReset) id 2 "a.txt" 0 0 false =
      .error (.b2 (netErr connReset)) :=
  have h := failure_reports (fun _ => ({}, none)) id .ok (fun _ _ => none)
    (fun _ => .error connReset) id (answering unavailable) 1 "b2_list_buckets" "POST"
    "https://api000/b2api/v3/b2_list_buckets" none (none : Option (List UInt8 → Except GoError Unit))
    [] none none (bucketOf (failing connReset)) 2 "a.txt" 0 0 false rfl rfl rfl
  ⟨h.1.1 unavailable rfl (by decide), h.2.1.2 connReset rfl (by decide)⟩

/-- A connection reset during `b2_upload_part` is reported with no method: five retries and no
re-upload, where the budgets of `b2_upload_part` are twenty and five. -/
theorem upload_part_reset_budgets :
    let result := makeRequest (fun _ => ({}, none)) id (fun _ _ => none)
      (fun _ => .error connReset) (failing connReset) 1 "b2_upload_part" "POST"
      "https://pod-000-1000-00.backblaze.com/b2api/v3/b2_upload_part/f/0"
      none (none : Option (List UInt8 → Except GoError Unit))
      [("X-Bz-Part-Number", "1"), ("Content-Length", "5")] (some { size := 5, body := [1, 2, 3, 4, 5] })
    result = .error (.b2 (netErr connReset)) ∧ (netErr connReset).method ≠ "b2_upload_part" ∧
      maxRetries (.b2 (netErr connReset)) = 5 ∧ maxReuploads (.b2 (netErr connReset)) = 0 := by
  exact ⟨rfl, by decide, rfl, rfl⟩


end Blazer
