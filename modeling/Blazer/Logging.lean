import Blazer.Download

/-!
# Logging requests and replies

With verbose logging on (`blog.V(2)`), `logResponse` writes one line per reply: the method and
request id the request was stamped with, the status, the headers, and the reply after
`authRegexp.ReplaceAll(reply, "\"authorizationToken\": \"[redacted]\"")`. `makeRequest` hands
it the bytes its decoder read, and `mkErr` the whole body: whatever bytes the server sent.

**The pattern.** `authRegexp` is `"authorizationToken": ".[^"]*"`: the member name, a colon and
exactly one space, then `.` (one character, not a newline), `[^"]*` (everything up to the next
`"`) and that `"`. Go matches it on the reply's bytes. The literal parts are ASCII, and no byte
of a multi-byte character is `"` or a newline, so the match is the same read byte by byte.
`authMatch` is the pattern at the head of a reply; `replaceAuth` scans the reply from the left
as `ReplaceAll` does, replacing each match and going on after it.

* **The log line shows the reply as redacted** (`logResponse_eq_iff`): two replies give the
  same line exactly when `replaceAuth` maps them to the same bytes.
* **The documented layout is redacted** (`logResponse_hides_token`): a token member written
  with that spacing, after members where no match can start (`noMatchStart`), is logged the same
  whatever the token.
* **Anything else is logged as it is** (`replaceAuth_of_no_match`): a member written
  `"authorizationToken":"…"` without the space, and the `applicationKey` of `b2_create_key`,
  reach the log verbatim (`credentials_logged`).

**Requests are logged without their token** (`logRequest_hides_authorization`): `logRequest`
drops the `Authorization` header from its line, so two calls that differ only in the token
they send (whatever `makeRequest` or `DownloadFileByName` builds around it) are logged alike.

Go ranges over the header map in no fixed order; the model takes the header's list order, and
every result holds for any header.
-/

namespace Blazer

/-! ## `authRegexp` -/

/-- The bytes of a Go string, `[]byte(s)`. -/
def bytesOf (s : String) : List UInt8 := s.toUTF8.data.toList

/-- The literal `authRegexp` starts with: `"authorizationToken": "`. -/
def authPrefix : List UInt8 := bytesOf "\"authorizationToken\": \""

/-- What each match is replaced with. -/
def redactedToken : List UInt8 := bytesOf "\"authorizationToken\": \"[redacted]\""

/-- `authRegexp` at the head of `s`: the rest of `s` after the match, if a match starts there.
Byte 10 is a newline, byte 34 is `"`. -/
def authMatch (s : List UInt8) : Option (List UInt8) :=
  if authPrefix.isPrefixOf s then
    match s.drop authPrefix.length with
    | c :: rest =>
      if c = 10 then none
      else match rest.dropWhile (· != 34) with
        | _ :: after => some after
        | [] => none
    | [] => none
  else none

/-- `ReplaceAll` for at most `fuel` steps, each of which consumes a byte or a match. -/
def replaceAuthFuel : Nat → List UInt8 → List UInt8
  | 0, s => s
  | _ + 1, [] => []
  | fuel + 1, c :: s =>
    match authMatch (c :: s) with
    | some rest => redactedToken ++ replaceAuthFuel fuel rest
    | none => c :: replaceAuthFuel fuel s

/-- `authRegexp.ReplaceAll`: `s.length` steps reach the end of `s`. -/
def replaceAuth (s : List UInt8) : List UInt8 := replaceAuthFuel s.length s

/-- No match can start inside `pre`, whatever follows it: no tail of `pre` is a prefix of the
literal, and none has it as a prefix. -/
def noMatchStart : List UInt8 → Bool
  | [] => true
  | c :: pre =>
    !((c :: pre).isPrefixOf authPrefix || authPrefix.isPrefixOf (c :: pre)) && noMatchStart pre

theorem authMatch_of_not_prefix {s : List UInt8} (h : ¬ authPrefix <+: s) : authMatch s = none := by
  rw [authMatch, if_neg (by rwa [List.isPrefixOf_iff_prefix])]

theorem authMatch_length {s rest : List UInt8} (h : authMatch s = some rest) :
    rest.length < s.length := by
  unfold authMatch at h
  split_ifs at h
  split at h
  · rename_i c r hd
    split_ifs at h
    split at h
    · rename_i x after hw
      cases h
      have h₁ := congrArg List.length hd
      have h₂ := congrArg List.length hw
      have h₃ := (List.dropWhile_suffix (fun c => c != 34) (l := r)).length_le
      simp only [List.length_drop, List.length_cons] at h₁ h₂
      omega
    · cases h
  · cases h

theorem replaceAuthFuel_eq {s : List UInt8} {f f' : Nat} (hf : s.length ≤ f)
    (hf' : s.length ≤ f') : replaceAuthFuel f s = replaceAuthFuel f' s := by
  induction f generalizing s f' with
  | zero =>
    cases s with
    | nil => cases f' <;> rfl
    | cons => simp at hf
  | succ f ih =>
    cases f' with
    | zero =>
      cases s with
      | nil => rfl
      | cons => simp at hf'
    | succ f' =>
      cases s with
      | nil => rfl
      | cons c s =>
        simp only [replaceAuthFuel]
        split
        · rename_i rest hm
          have := authMatch_length hm
          simp only [List.length_cons] at hf hf' this
          rw [ih (show rest.length ≤ f by omega) (show rest.length ≤ f' by omega)]
        · simp only [List.length_cons] at hf hf'
          rw [ih (show s.length ≤ f by omega) (show s.length ≤ f' by omega)]

theorem replaceAuth_of_match {s rest : List UInt8} (h : authMatch s = some rest) :
    replaceAuth s = redactedToken ++ replaceAuth rest := by
  have hl := authMatch_length h
  obtain ⟨c, s, rfl⟩ := List.exists_cons_of_ne_nil
    (List.ne_nil_of_length_pos (show 0 < s.length by omega))
  simp only [replaceAuth, List.length_cons, replaceAuthFuel, h]
  rw [replaceAuthFuel_eq (show rest.length ≤ s.length by simp at hl; omega) le_rfl]

theorem replaceAuth_append_of_noMatchStart {pre : List UInt8} (s : List UInt8)
    (hpre : noMatchStart pre) : replaceAuth (pre ++ s) = pre ++ replaceAuth s := by
  induction pre with
  | nil => rfl
  | cons c pre ih =>
    simp only [noMatchStart, Bool.and_eq_true, Bool.or_eq_true, not_or,
      List.isPrefixOf_iff_prefix, Bool.not_eq_true', Bool.eq_false_iff, ne_eq] at hpre
    obtain ⟨⟨hc, hc'⟩, hpre⟩ := hpre
    have hm : authMatch (c :: (pre ++ s)) = none := authMatch_of_not_prefix fun hp =>
      (List.prefix_or_prefix_of_prefix hp (List.prefix_append (c :: pre) s)).elim hc' hc
    have h := ih hpre
    simp only [replaceAuth] at h ⊢
    rw [List.cons_append, List.length_cons, replaceAuthFuel, hm]
    exact congrArg (c :: ·) h

/-- A text where no match starts is left as it is. -/
theorem replaceAuth_of_no_match {s : List UInt8} (h : ∀ t ∈ s.tails, authMatch t = none) :
    replaceAuth s = s := by
  suffices ∀ f s, (∀ t ∈ s.tails, authMatch t = none) → replaceAuthFuel f s = s from this _ s h
  intro f
  induction f with
  | zero => intro s _; rfl
  | succ f ih =>
    intro s h
    cases s with
    | nil => rfl
    | cons c s =>
      have hc := h _ ((List.mem_tails _ _).2 (List.suffix_refl _))
      simp only [replaceAuthFuel, hc]
      rw [ih s fun t ht => h t ((List.mem_tails _ _).2 (((List.mem_tails _ _).1 ht).trans
        (List.suffix_cons c s)))]

theorem authMatch_token {v post : List UInt8} (hv : v ≠ []) (hq : 34 ∉ v)
    (hn : v.head? ≠ some 10) : authMatch (authPrefix ++ v ++ 34 :: post) = some post := by
  obtain ⟨c, v, rfl⟩ := List.exists_cons_of_ne_nil hv
  have hd : (authPrefix ++ (c :: v) ++ 34 :: post).drop authPrefix.length =
      c :: (v ++ 34 :: post) := by simp
  have hw : (v ++ 34 :: post).dropWhile (· != 34) = 34 :: post := by
    rw [List.dropWhile_append_of_pos]
    · simp
    · intro x hx
      simpa using fun h : x = 34 => hq (h ▸ List.mem_cons_of_mem c hx)
  have hp : authPrefix.isPrefixOf (authPrefix ++ (c :: v) ++ 34 :: post) := by
    rw [List.isPrefixOf_iff_prefix, List.append_assoc]
    exact List.prefix_append _ _
  have hc : c ≠ 10 := by simpa using hn
  rw [authMatch, if_pos hp, hd]
  simp only [hc, if_false, hw]

/-- A token member in the documented layout is replaced by `redactedToken`, whatever the
token, when no match can start before it. -/
theorem replaceAuth_token {pre v post : List UInt8} (hpre : noMatchStart pre) (hv : v ≠ [])
    (hq : 34 ∉ v) (hn : v.head? ≠ some 10) :
    replaceAuth (pre ++ authPrefix ++ v ++ 34 :: post) =
      pre ++ redactedToken ++ replaceAuth post := by
  rw [List.append_assoc pre, List.append_assoc pre, replaceAuth_append_of_noMatchStart _ hpre,
    replaceAuth_of_match (authMatch_token hv hq hn), List.append_assoc]

/-! ## `logResponse` -/

/-- `logResponse`: the line written for a reply when `blog.V(2)` is on; `reply` is `none` for
a nil slice. -/
def logResponse (verbose : Bool) (req : Request) (resp : Response)
    (reply : Option (List UInt8)) : Option (List UInt8) :=
  if !verbose then none
  else
    let headers := resp.header.map fun kv => kv.1 ++ ": " ++ ",".intercalate kv.2
    let hstr := "; ".intercalate headers
    let method := req.header.get "X-Blazer-Method"
    let id := req.header.get "X-Blazer-Request-ID"
    let line := "<< " ++ method ++ " (" ++ id ++ ") " ++ resp.status ++ " \x7b" ++ hstr ++ "\x7d "
    match reply with
    | some reply => some (bytesOf (line ++ "(") ++ replaceAuth reply ++ bytesOf ")")
    | none => some (bytesOf (line ++ "(no reply)"))

/-- What the log shows of a reply is `replaceAuth` of it, and nothing else. -/
theorem logResponse_eq_iff (req : Request) (resp : Response) (r₁ r₂ : List UInt8) :
    logResponse true req resp (some r₁) = logResponse true req resp (some r₂) ↔
      replaceAuth r₁ = replaceAuth r₂ := by
  simp only [logResponse, Bool.not_true, Bool.false_eq_true, if_false, Option.some.injEq,
    List.append_cancel_left_eq, List.append_cancel_right_eq]

/-- **A token in the documented layout stays out of the log.** Two replies that differ only in
the token of an `authorizationToken` member written with the documented spacing, after members
where no match can start, give the same log line. -/
theorem logResponse_hides_token (req : Request) (resp : Response) {pre post v₁ v₂ : List UInt8}
    (hpre : noMatchStart pre) (h₁ : v₁ ≠ [] ∧ 34 ∉ v₁ ∧ v₁.head? ≠ some 10)
    (h₂ : v₂ ≠ [] ∧ 34 ∉ v₂ ∧ v₂.head? ≠ some 10) :
    logResponse true req resp (some (pre ++ authPrefix ++ v₁ ++ 34 :: post)) =
      logResponse true req resp (some (pre ++ authPrefix ++ v₂ ++ 34 :: post)) := by
  rw [logResponse_eq_iff, replaceAuth_token hpre h₁.1 h₁.2.1 h₁.2.2,
    replaceAuth_token hpre h₂.1 h₂.2.1 h₂.2.2]

/-- The reply to `b2_authorize_account`, as the service lays it out. -/
def authorizeReply : Response :=
  { statusCode := 200, status := "200 OK", header := [], body := [], readErr := none }

/-- Two tokens after another member are logged alike. -/
theorem account_tokens_logged_alike :
    (noMatchStart (bytesOf "\x7b\"accountId\": \"a\", ") ∧
      (bytesOf "x" ≠ [] ∧ 34 ∉ bytesOf "x" ∧ (bytesOf "x").head? ≠ some 10) ∧
      (bytesOf "y" ≠ [] ∧ 34 ∉ bytesOf "y" ∧ (bytesOf "y").head? ≠ some 10)) ∧
    logResponse true ⟨"GET", "u", [], 0, .none⟩ authorizeReply (some
        (bytesOf "\x7b\"accountId\": \"a\", " ++ authPrefix ++ bytesOf "x" ++ 34 :: [125])) =
      logResponse true ⟨"GET", "u", [], 0, .none⟩ authorizeReply (some
        (bytesOf "\x7b\"accountId\": \"a\", " ++ authPrefix ++ bytesOf "y" ++ 34 :: [125])) :=
  ⟨⟨by decide, by decide, by decide⟩,
    logResponse_hides_token _ _ (by decide) (by decide) (by decide)⟩

/-- A reply with its `authorizationToken` member written with no space after the colon, the
layout `json.Marshal` writes. -/
def compactAuthReply (token : String) : List UInt8 :=
  bytesOf ("\x7b\"authorizationToken\":\"" ++ token ++ "\"\x7d")

/-- A `b2_create_key` reply: the new key's id and its secret, `applicationKey`. -/
def createKeyReply (secret : String) : List UInt8 :=
  bytesOf ("\x7b\"applicationKeyId\": \"k-1\", \"applicationKey\": \"" ++ secret ++ "\"\x7d")

/-- Two replies that differ only in the token, written without the space, and two
`b2_create_key` replies that differ only in the secret, give different log lines. -/
theorem credentials_logged (req : Request) (resp : Response) :
    logResponse true req resp (some (compactAuthReply "tok-1")) ≠
      logResponse true req resp (some (compactAuthReply "tok-2")) ∧
    logResponse true req resp (some (createKeyReply "key-1")) ≠
      logResponse true req resp (some (createKeyReply "key-2")) := by
  simp only [Ne, logResponse_eq_iff]
  rw [replaceAuth_of_no_match (by decide), replaceAuth_of_no_match (by decide),
    replaceAuth_of_no_match (by decide), replaceAuth_of_no_match (by decide)]
  decide

/-! ## `logRequest` -/

/-- `logRequest`: the line written for a request when `blog.V(2)` is on. It leaves out the
`Authorization` and `X-Blazer-Method` headers; `showURL` is how `%v` prints the request's URL,
and `args` is the marshalled request struct, `none` for a nil slice. -/
def logRequest (showURL : String → String) (verbose : Bool) (req : Request)
    (args : Option (List UInt8)) : Option (List UInt8) :=
  if !verbose then none
  else
    let headers := (req.header.filter fun kv =>
        !(kv.1 == "Authorization" || kv.1 == "X-Blazer-Method")).map
      fun kv => kv.1 ++ ": " ++ ",".intercalate kv.2
    let hstr := ";".intercalate headers
    let method := req.header.get "X-Blazer-Method"
    match args with
    | some args => some (bytesOf (">> " ++ method ++ " " ++ req.verb ++ ": " ++ showURL req.uri ++
        " headers: \x7b" ++ hstr ++ "\x7d args: (") ++ args ++ bytesOf ")")
    | none => some (bytesOf (">> " ++ method ++ " " ++ req.verb ++ ": " ++ showURL req.uri ++
        " \x7b" ++ hstr ++ "\x7d (no args)"))

/-- A header without its `Authorization` entry. -/
def scrubAuth (h : Header) : Header := h.filter (·.1 != "Authorization")

theorem scrubAuth_filter (h : Header) (k : String) :
    scrubAuth (h.filter (·.1 != k)) = (scrubAuth h).filter (·.1 != k) := by
  simp only [scrubAuth, List.filter_filter, Bool.and_comm]

theorem scrubAuth_set_congr {h₁ h₂ : Header} (h : scrubAuth h₁ = scrubAuth h₂) (k v : String) :
    scrubAuth (h₁.set k v) = scrubAuth (h₂.set k v) := by
  simp only [Header.set, scrubAuth, List.filter_cons]
  rw [← scrubAuth, ← scrubAuth, scrubAuth_filter, scrubAuth_filter, h]

theorem scrubAuth_set_auth (h : Header) {k : String}
    (hk : canonicalMIMEHeaderKey k = "Authorization") (v : String) :
    scrubAuth (h.set k v) = scrubAuth h := by
  simp only [Header.set, scrubAuth, List.filter_cons, hk, bne_self_eq_false, List.filter_filter]
  simp only [Bool.false_eq_true, if_false, Bool.and_self]

theorem scrubAuth_add_congr {h₁ h₂ : Header} (h : scrubAuth h₁ = scrubAuth h₂) {k : String}
    (hk : canonicalMIMEHeaderKey k ≠ "Authorization") (v : String) :
    scrubAuth (h₁.add k v) = scrubAuth (h₂.add k v) := by
  have hl : ∀ g : Header, g.lookup (canonicalMIMEHeaderKey k) =
      (scrubAuth g).lookup (canonicalMIMEHeaderKey k) := fun g =>
    (Header.lookup_filter_ne hk).symm
  simp only [Header.add, scrubAuth, List.filter_cons]
  rw [← scrubAuth, ← scrubAuth, scrubAuth_filter, scrubAuth_filter, h, hl h₁, hl h₂, h]

theorem scrubAuth_addHeaders_congr (o : B2Options) {h₁ h₂ : Header}
    (h : scrubAuth h₁ = scrubAuth h₂) :
    scrubAuth (o.addHeaders h₁) = scrubAuth (o.addHeaders h₂) := by
  have ht : canonicalMIMEHeaderKey "X-Bz-Test-Mode" ≠ "Authorization" := by decide
  have step : ∀ (c : Bool) (v : String) {g₁ g₂ : Header}, scrubAuth g₁ = scrubAuth g₂ →
      scrubAuth (if c then g₁.add "X-Bz-Test-Mode" v else g₁) =
        scrubAuth (if c then g₂.add "X-Bz-Test-Mode" v else g₂) := by
    intro c v g₁ g₂ hg
    cases c
    exacts [hg, scrubAuth_add_congr hg ht v]
  exact scrubAuth_set_congr (step _ _ (step _ _ (step _ _ h))) _ _

/-- Two lists of caller headers that differ at most in the values of `Authorization` keys. -/
def AuthOnlyDiff (h₁ h₂ : List (String × String)) : Prop :=
  List.Forall₂ (fun a b => a.1 = b.1 ∧ (canonicalMIMEHeaderKey a.1 ≠ "Authorization" → a.2 = b.2))
    h₁ h₂

theorem scrubAuth_foldl_set (f : String × String → String) {l₁ l₂ : List (String × String)}
    (hd : AuthOnlyDiff l₁ l₂) :
    ∀ {g₁ g₂ : Header}, scrubAuth g₁ = scrubAuth g₂ →
      scrubAuth (l₁.foldl (fun h kv => h.set kv.1 (f kv)) g₁) =
        scrubAuth (l₂.foldl (fun h kv => h.set kv.1 (f kv)) g₂) := by
  induction hd with
  | nil => exact id
  | @cons a b l₁ l₂ hab _ ih =>
    intro g₁ g₂ hg
    apply ih
    by_cases hk : canonicalMIMEHeaderKey a.1 = "Authorization"
    · rw [scrubAuth_set_auth _ hk, scrubAuth_set_auth _ (hab.1 ▸ hk), hg]
    · obtain rfl : a = b := Prod.ext hab.1 (hab.2 hk)
      exact scrubAuth_set_congr hg _ _

theorem logRequest_congr (showURL : String → String) (verbose : Bool) {r₁ r₂ : Request}
    (hs : scrubAuth r₁.header = scrubAuth r₂.header)
    (hm : r₁.header.get "X-Blazer-Method" = r₂.header.get "X-Blazer-Method")
    (hv : r₁.verb = r₂.verb) (hu : r₁.uri = r₂.uri) (args : Option (List UInt8)) :
    logRequest showURL verbose r₁ args = logRequest showURL verbose r₂ args := by
  have hf : ∀ h : Header,
      h.filter (fun kv => !(kv.1 == "Authorization" || kv.1 == "X-Blazer-Method")) =
      (scrubAuth h).filter (·.1 != "X-Blazer-Method") := fun h => by
    simp only [scrubAuth, List.filter_filter, Bool.not_or, bne]
    congr 1
    funext kv
    exact Bool.and_comm _ _
  simp only [logRequest, hf, hs, hm, hv, hu]

section Requests

variable (escape : String → String)

/-- **The request log never shows a token.** Two calls whose headers differ only in the value of
`Authorization` are logged alike, and so are two downloads by sessions that differ only in their
token. -/
theorem logRequest_hides_authorization (showURL : String → String) (verbose : Bool) :
    (∀ (o : B2Options) (id : Int) (method verb uri : String) (h₁ h₂ : List (String × String))
      (body : Option RequestBody) (args : Option (List UInt8)), AuthOnlyDiff h₁ h₂ →
      logRequest showURL verbose (buildRequest escape o id method verb uri h₁ body) args =
        logRequest showURL verbose (buildRequest escape o id method verb uri h₂ body) args) ∧
    (∀ (b : Bucket) (t₁ t₂ : String) (id : Int) (name : String) (offset size : Int)
      (header : Bool),
      logRequest showURL verbose
          ({ b with b2 := { b.b2 with authToken := t₁ } }.downloadRequest escape id name offset
            size header) none =
        logRequest showURL verbose
          ({ b with b2 := { b.b2 with authToken := t₂ } }.downloadRequest escape id name offset
            size header) none) := by
  constructor
  · intro o id method verb uri h₁ h₂ body args hd
    refine logRequest_congr _ _ ?_ ?_ (by simp only [buildRequest])
      (by simp only [buildRequest]) args
    · exact scrubAuth_addHeaders_congr _ (scrubAuth_set_congr
        (scrubAuth_set_congr (scrubAuth_foldl_set _ hd rfl) _ _) _ _)
    · simp only [buildRequest, requestHeader_method]
  · intro b t₁ t₂ id name offset size header
    refine logRequest_congr _ _ ?_ ?_ (by simp only [Bucket.downloadRequest])
      (by simp only [Bucket.downloadRequest]) none
    · have hc : canonicalMIMEHeaderKey "Authorization" = "Authorization" := by decide
      simp only [Bucket.downloadRequest]
      have hs : scrubAuth ((Header.set [] "Authorization" t₁).set "X-Blazer-Request-ID"
          (toString id)) = scrubAuth ((Header.set [] "Authorization" t₂).set
          "X-Blazer-Request-ID" (toString id)) :=
        scrubAuth_set_congr (by rw [scrubAuth_set_auth _ hc, scrubAuth_set_auth _ hc]) _ _
      have ha := scrubAuth_addHeaders_congr b.b2.opts (scrubAuth_set_congr hs
        "X-Blazer-Method" "b2_download_file_by_name")
      split_ifs
      · exact scrubAuth_set_congr ha _ _
      · exact ha
    · rw [Bucket.downloadRequest_method, Bucket.downloadRequest_method]

/-- Two sessions' `b2_list_buckets` calls, with the tokens `tok-1` and `tok-2`, are logged alike. -/
theorem list_buckets_logged_alike :
    AuthOnlyDiff [("Authorization", "tok-1")] [("Authorization", "tok-2")] ∧
      logRequest id true (buildRequest id {} 1 "b2_list_buckets" "POST" "u"
          [("Authorization", "tok-1")] none) none =
        logRequest id true (buildRequest id {} 1 "b2_list_buckets" "POST" "u"
          [("Authorization", "tok-2")] none) none := by
  have hd : AuthOnlyDiff [("Authorization", "tok-1")] [("Authorization", "tok-2")] :=
    .cons ⟨rfl, fun h => absurd (by decide) h⟩ .nil
  exact ⟨hd, (logRequest_hides_authorization id id true).1 {} 1 _ _ _ _ _ none none hd⟩

end Requests

end Blazer
