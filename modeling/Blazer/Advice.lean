import Blazer.Failures

/-!
# The advice on a service reply

`mkErr` turns a reply other than 200 into a `b2err` that carries the reply's status, the method
the request was stamped with, and the seconds of its `Retry-After` header. `Action`,
`MaxRetries`, `MaxReuploads` and `Backoff` read that error.

* **`Retry-After` comes first** (`mkErr_retry_after`): a positive value makes `Action` advise a
  retry whatever the status and the method, so a 5xx reply to an upload that carries one is
  retried, and only the others ask for a new upload URL (`upload_5xx_action`).
* **The wait is `int64` nanoseconds** (`wrap64_seconds_eq_iff`): `r` seconds come out exactly
  when `r ≤ 9223372036`; above that the product wraps.
* **The four functions agree** (`classifier_agrees`): a retry always has a budget, and a
  re-authentication is never advised for `b2_authorize_account`. A new upload URL is advised for
  the uploads, which have five re-uploads, and for a 408 of any method, with none.
-/

namespace Blazer

/-! ## `Retry-After` -/

/-- The seconds `mkErr` reads from the reply's `Retry-After` header: 0 when there is none, or
when it does not parse. -/
def retryAfter (resp : Response) : Int :=
  let retry := resp.header.get "Retry-After"
  if retry ≠ "" then (parseInt retry).getD 0 else 0

theorem parseInt_empty : parseInt "" = none := rfl

theorem retryAfter_of_parseInt {resp : Response} {r : Int}
    (h : parseInt (resp.header.get "Retry-After") = some r) : retryAfter resp = r := by
  simp only [retryAfter]
  split_ifs with he
  · rw [h, Option.getD_some]
  · rw [not_not.1 he, parseInt_empty] at h
    cases h

section Reply

variable (unmarshal : List UInt8 → ErrorMessage × Option GoError)

theorem mkErr_fields (req : Request) (resp : Response) :
    ∃ e, mkErr unmarshal req resp = .b2 e ∧ e.method = req.header.get "X-Blazer-Method" ∧
      e.code = resp.statusCode ∧ e.retry = retryAfter resp :=
  ⟨_, rfl, rfl, rfl, rfl⟩

/-- A positive `Retry-After` makes the advice a retry after that many seconds, counted in
`int64` nanoseconds. -/
theorem mkErr_retry_after (req : Request) (resp : Response) (hr : 0 < retryAfter resp) :
    action (mkErr unmarshal req resp) = .retry ∧
      backoff (mkErr unmarshal req resp) = wrap64 (retryAfter resp * second) := by
  obtain ⟨e, he, -, -, hre⟩ := mkErr_fields unmarshal req resp
  rw [he, ← hre]
  exact ⟨if_pos (hre ▸ hr), rfl⟩

/-- `r` seconds fit in a `time.Duration` exactly up to `9223372036`. -/
theorem wrap64_seconds_eq_iff {r : Int} (h₀ : 0 < r) :
    wrap64 (r * second) = r * second ↔ r ≤ 9223372036 := by
  unfold second
  constructor
  · intro hw
    have := inInt64_wrap64 (r * 1000000000)
    rw [hw] at this
    unfold InInt64 at this
    omega
  · intro hr
    exact wrap64_of_inInt64 ⟨by omega, by omega⟩

/-- The wait `Backoff` advises after a positive `Retry-After` of `r` seconds is `r` seconds
exactly when `r ≤ 9223372036`. -/
theorem mkErr_backoff_eq_iff (req : Request) (resp : Response) (hr : 0 < retryAfter resp) :
    backoff (mkErr unmarshal req resp) = retryAfter resp * second ↔
      retryAfter resp ≤ 9223372036 := by
  rw [(mkErr_retry_after unmarshal req resp hr).2, wrap64_seconds_eq_iff hr]

end Reply

/-- A 503 asking for a wait of 9223372037 seconds, a little over the 292 years a
`time.Duration` holds. -/
def overdue : Response :=
  { statusCode := 503, status := "503 Service Unavailable",
    header := [("Retry-After", ["9223372037"])], body := [], readErr := none }

/-- The wait advised after `overdue` is not its `Retry-After`. -/
theorem overdue_backoff_inexact :
    0 < retryAfter overdue ∧
      (backoff (mkErr (fun _ => ({}, none)) ⟨"POST", "u", [], 0, .none⟩ overdue) =
        retryAfter overdue * second ↔ retryAfter overdue ≤ 9223372036) := by
  have hr : 0 < retryAfter overdue := by
    rw [retryAfter_of_parseInt (by decide : parseInt (overdue.header.get "Retry-After") =
      some 9223372037)]
    decide
  exact ⟨hr, mkErr_backoff_eq_iff _ _ _ hr⟩

/-- The header of `overdue` parses, and `mkErr` advises a retry after a negative wait. -/
theorem retry_after_backoff_wraps (unmarshal : List UInt8 → ErrorMessage × Option GoError)
    (req : Request) :
    parseInt (overdue.header.get "Retry-After") = some 9223372037 ∧
      action (mkErr unmarshal req overdue) = .retry ∧
      backoff (mkErr unmarshal req overdue) = -9223372036709551616 := by
  have hp : parseInt (overdue.header.get "Retry-After") = some 9223372037 := by decide
  obtain ⟨ha, hb⟩ := mkErr_retry_after unmarshal req overdue
    (by rw [retryAfter_of_parseInt hp]; decide)
  rw [hb, retryAfter_of_parseInt hp]
  exact ⟨hp, ha, by decide⟩

/-! ## Failed uploads -/

theorem action_upload_5xx {e : B2Err} (hm : isUploadMethod e.method)
    (hs : 500 ≤ e.code ∧ e.code < 600) :
    action (.b2 e) = if 0 < e.retry then .retry else .attemptNewUpload := by
  by_cases hr : 0 < e.retry
  · simp [action, hr]
  · simp only [action, if_neg hr, gt_iff_lt,
      if_pos (show e.code ≥ 500 ∧ e.code < 600 ∧ isUploadMethod e.method from ⟨hs.1, hs.2, hm⟩)]

section Executor

variable (unmarshal : List UInt8 → ErrorMessage × Option GoError) (escape : String → String)
  (newRequestErr : String → String → Option GoError) (defaultTransport : RoundTripper)

/-- Every 5xx reply to `b2_upload_file` or `b2_upload_part` through `makeRequest` is advised a
new upload URL, unless its `Retry-After` parses to a positive number of seconds, which is
advised a retry. -/
theorem upload_5xx_action {α : Type} (o : B2Options) (id : Int) (method verb uri : String)
    (b2req : Option (Except GoError (List UInt8))) (decode : Option (List UInt8 → Except GoError α))
    (headers : List (String × String)) (body body' : Option RequestBody) (resp : Response)
    (hb : prepareBody b2req body = .ok body') (hn : newRequestErr verb uri = none)
    (ht : o.getTransport defaultTransport (buildRequest escape o id method verb uri headers body') =
      .ok resp)
    (hm : isUploadMethod method) (hs : 500 ≤ resp.statusCode ∧ resp.statusCode < 600) :
    ∃ e, makeRequest unmarshal escape newRequestErr defaultTransport o id method verb uri b2req
        decode headers body = .error e ∧
      action e = if 0 < retryAfter resp then .retry else .attemptNewUpload := by
  obtain ⟨e, he, hme, hc, hr⟩ :=
    mkErr_fields unmarshal (buildRequest escape o id method verb uri headers body') resp
  refine ⟨_, makeRequest_of_status unmarshal escape newRequestErr defaultTransport hb hn ht
    (by omega), ?_⟩
  rw [buildRequest, requestHeader_method] at hme
  rw [he, action_upload_5xx (hme ▸ hm) (hc ▸ hs), hr]

end Executor

/-- The URL a part is uploaded to. -/
def partURL : String := "https://pod-000-1000-00.backblaze.com/b2api/v3/b2_upload_part/f/0"

/-- A part of five bytes. -/
def fivePart : Option RequestBody := some { size := 5, body := [1, 2, 3, 4, 5] }

theorem upload_5xx_action_at_503 :
    isUploadMethod "b2_upload_part" ∧ retryAfter unavailable = 0 ∧
      ∃ e, makeRequest (fun _ => ({}, none)) id (fun _ _ => none) (fun _ => .error connReset)
          (answering unavailable) 1 "b2_upload_part" "POST" partURL none
          (none : Option (List UInt8 → Except GoError Unit)) [] fivePart = .error e ∧
        action e = .attemptNewUpload := by
  obtain ⟨e, he, ha⟩ := upload_5xx_action (fun _ => ({}, none)) id (fun _ _ => none)
    (fun _ => .error connReset) (answering unavailable) 1 "b2_upload_part" "POST" partURL none
    (none : Option (List UInt8 → Except GoError Unit)) [] fivePart fivePart unavailable rfl rfl
    rfl (by decide) (by decide)
  have h0 : retryAfter unavailable = 0 := by decide
  exact ⟨by decide, h0, e, he, by rw [ha, h0]; rfl⟩

/-- A 503 to an upload that asks to come back in five seconds. -/
def busyUpload : Response :=
  { unavailable with header := [("Retry-After", ["5"])] }

/-- A 503 with `Retry-After: 5` to `b2_upload_part` is advised a retry, on the same upload URL. -/
theorem upload_503_retry_after_retried :
    ∃ e, makeRequest (fun _ => ({}, none)) id (fun _ _ => none) (fun _ => .error connReset)
        (answering busyUpload) 1 "b2_upload_part" "POST" partURL none
        (none : Option (List UInt8 → Except GoError Unit)) [] fivePart = .error e ∧
      action e = .retry ∧ backoff e = 5 * second := by
  have hr : retryAfter busyUpload = 5 := by decide
  obtain ⟨ha, hb⟩ := mkErr_retry_after (fun _ => ({}, none))
    (buildRequest id (answering busyUpload) 1 "b2_upload_part" "POST" partURL [] fivePart)
    busyUpload (by rw [hr]; decide)
  refine ⟨_, makeRequest_of_status (fun _ => ({}, none)) id (fun _ _ => none)
    (fun _ => .error connReset) rfl rfl rfl (by decide), ha, ?_⟩
  rw [hb, hr]
  decide

/-! ## Agreement of the four functions -/

theorem maxRetries_b2_pos (e : B2Err) : 0 < maxRetries (.b2 e) := by
  simp only [maxRetries]
  split_ifs <;> decide

/-- A new upload URL is advised for an upload, or for a 408 with no positive `retry`. -/
theorem action_attemptNewUpload {e : B2Err} (h : action (.b2 e) = .attemptNewUpload) :
    isUploadMethod e.method ∨ e.code = 408 ∧ e.retry ≤ 0 := by
  refine or_iff_not_imp_left.2 fun hm => ?_
  have hr : ¬ e.retry > 0 := fun hr => by rw [action, if_pos hr] at h; cases h
  have h5xx : ¬ (e.code ≥ 500 ∧ e.code < 600 ∧ isUploadMethod e.method) := by simp [hm]
  by_cases h401 : e.code = 401
  · -- a 401 of a method that is not an upload is punted or re-authenticated
    rw [action, if_neg hr, if_neg h5xx, if_pos h401] at h
    split_ifs at h
  by_cases h400 : e.code = 400
  · -- a 400 asks for a new URL only for `b2_upload_file`
    rw [action, if_neg hr, if_neg h5xx, if_neg h401, if_pos h400] at h
    split_ifs at h with h'
    exact absurd (.inl h'.1) hm
  by_cases h408 : e.code = 408
  · exact ⟨h408, by omega⟩
  rw [action, if_neg hr, if_neg h5xx, if_neg h401, if_neg h400, if_neg h408] at h
  split_ifs at h

theorem action_reAuthenticate {e : B2Err} (h : action (.b2 e) = .reAuthenticate) :
    e.method ≠ "b2_authorize_account" := by
  intro hm
  have hr : ¬ e.retry > 0 := fun hr => by rw [action, if_pos hr] at h; cases h
  have hu : ¬ isUploadMethod e.method := by rw [isUploadMethod, hm]; decide
  rw [action, if_neg hr, if_neg (by simp [hu])] at h
  by_cases h401 : e.code = 401
  · rw [if_pos h401, if_pos hm] at h
    cases h
  rw [if_neg h401] at h
  split_ifs at h

theorem action_408 {e : B2Err} (hm : ¬ isUploadMethod e.method) (hc : e.code = 408)
    (hr : e.retry ≤ 0) : action (.b2 e) = .attemptNewUpload := by
  simp [action, hm, hc, show ¬ 0 < e.retry by omega]

/-- For every error: a retry has a budget of retries; a new upload URL is advised for an
upload, with five re-uploads, or for a 408 of any other method with no positive `retry`, with
none, and every such 408 gets that advice; re-authentication is never advised for
`b2_authorize_account`. -/
theorem classifier_agrees (err : GoError) :
    (action err = .retry → 0 < maxRetries err) ∧
    (action err = .attemptNewUpload → ∃ e, err = .b2 e ∧
      (isUploadMethod e.method ∧ maxReuploads err = 5 ∨
        ¬ isUploadMethod e.method ∧ e.code = 408 ∧ e.retry ≤ 0 ∧ maxReuploads err = 0)) ∧
    (∀ e, err = .b2 e → ¬ isUploadMethod e.method → e.code = 408 → e.retry ≤ 0 →
      action err = .attemptNewUpload ∧ maxReuploads err = 0) ∧
    (action err = .reAuthenticate → ∃ e, err = .b2 e ∧ e.method ≠ "b2_authorize_account") := by
  cases err with
  | b2 e =>
    refine ⟨fun _ => maxRetries_b2_pos e, fun h => ⟨e, rfl, ?_⟩,
      fun e' he hm hc hr => ?_, fun h => ⟨e, rfl, action_reAuthenticate h⟩⟩
    · by_cases hm : isUploadMethod e.method
      · exact .inl ⟨hm, if_pos hm⟩
      · obtain ⟨hc, hr⟩ := (action_attemptNewUpload h).resolve_left hm
        exact .inr ⟨hm, hc, hr, if_neg hm⟩
    · cases he
      exact ⟨action_408 hm hc hr, if_neg hm⟩
  | _ => simp [action]

/-- A request timeout of `b2_list_buckets`. -/
def listTimeout : B2Err :=
  { msg := "request timed out", method := "b2_list_buckets", retry := 0, code := 408,
    msgCode := "request_timeout" }

/-- A 408 of `b2_list_buckets` is advised a new upload URL, for a call that has none, and no
re-upload is allowed. -/
theorem list_timeout_new_upload :
    action (.b2 listTimeout) = .attemptNewUpload ∧ maxReuploads (.b2 listTimeout) = 0 ∧
      ¬ isUploadMethod listTimeout.method := by
  decide

end Blazer
