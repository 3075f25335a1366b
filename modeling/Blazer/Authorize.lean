import Blazer.Stamps
import Blazer.Download
import Mathlib.Data.List.Basic

/-!
# Authorizing an account

`AuthorizeAccount` applies its `AuthOption`s in order to a zero `b2Options`, calls
`b2_authorize_account` with those options, and returns a session that keeps them: every later
call of the session is made with them.

An `AuthOption` is a `func(*b2Options)`. `b2Options` is unexported, so the six constructors the
package exports are the only options a caller can build: `AuthOption` lists them, and
`AuthOption.apply` is the closure each one returns.

* **What the options say** (`authOptions_eq_optionsSpec`): each field of the options is fixed
  by the options that write it: the last `Transport`, the last `SetAPIBase`, any of the three
  test switches, and the user agents, the newest first, from the first non-empty one on.
* **The options of a session** (`authorizeAccount_session`): the session `AuthorizeAccount`
  returns keeps those options, and every call it makes sends those user agents followed by
  `blazer/0.7.2`: the calls `makeRequest` builds, and the downloads `DownloadFileByName` builds
  by hand, both through `addHeaders`. A reply without `apiInfo.storageApi` makes
  `AuthorizeAccount` dereference a nil pointer.
-/

namespace Blazer

/-! ## Options -/

/-- The options the package exports: `UserAgent`, `Transport` (`none` is a nil transport),
`FailSomeUploads`, `ExpireSomeAuthTokens`, `ForceCapExceeded` and `SetAPIBase`. -/
inductive AuthOption
  | userAgent (agent : String)
  | transport (rt : Option RoundTripper)
  | failSomeUploads
  | expireSomeAuthTokens
  | forceCapExceeded
  | setAPIBase (url : String)

/-- The closure each option returns. A user agent is prepended to the ones set before. -/
def AuthOption.apply : AuthOption → B2Options → B2Options
  | .userAgent agent, o =>
    if o.userAgent = "" then { o with userAgent := agent }
    else { o with userAgent := agent ++ " " ++ o.userAgent }
  | .transport rt, o => { o with transport := rt }
  | .failSomeUploads, o => { o with failSomeUploads := true }
  | .expireSomeAuthTokens, o => { o with expireTokens := true }
  | .forceCapExceeded, o => { o with capExceeded := true }
  | .setAPIBase url, o => { o with apiBase := url }

/-- The options of `AuthorizeAccount`: a zero `b2Options`, then each option in turn. -/
def authOptions (opts : List AuthOption) : B2Options :=
  opts.foldl (fun o f => f.apply o) {}

/-! ## What the options say -/

/-- The agent of a `UserAgent` option. -/
def AuthOption.agent? : AuthOption → Option String
  | .userAgent agent => some agent
  | _ => none

/-- The transport of a `Transport` option. -/
def AuthOption.transport? : AuthOption → Option (Option RoundTripper)
  | .transport rt => some rt
  | _ => none

/-- The URL of a `SetAPIBase` option. -/
def AuthOption.apiBase? : AuthOption → Option String
  | .setAPIBase url => some url
  | _ => none

/-- User agents set in turn: the newest first, from the first non-empty one on, joined by
spaces. -/
def composedAgent (agents : List String) : String :=
  " ".intercalate (agents.dropWhile (· == "")).reverse

/-- The options a list of options stands for, field by field. -/
def optionsSpec (opts : List AuthOption) : B2Options where
  transport := (opts.filterMap AuthOption.transport?).getLast?.join
  failSomeUploads := opts.any (· matches .failSomeUploads)
  expireTokens := opts.any (· matches .expireSomeAuthTokens)
  capExceeded := opts.any (· matches .forceCapExceeded)
  apiBase := (opts.filterMap AuthOption.apiBase?).getLast?.getD ""
  userAgent := composedAgent (opts.filterMap AuthOption.agent?)

theorem intercalate_go_append (a b s : String) (l : List String) :
    String.intercalate.go (a ++ b) s l = a ++ String.intercalate.go b s l := by
  induction l generalizing b with
  | nil => rfl
  | cons c l ih => simp only [String.intercalate.go, String.append_assoc, ← ih]

theorem intercalate_cons_of_ne_nil (s t : String) {l : List String} (hl : l ≠ []) :
    s.intercalate (t :: l) = t ++ s ++ s.intercalate l := by
  obtain ⟨u, l, rfl⟩ := List.exists_cons_of_ne_nil hl
  simp only [String.intercalate, String.intercalate.go, intercalate_go_append]

theorem intercalate_concat_ne_empty {a : String} (ha : a ≠ "") :
    ∀ l : List String, " ".intercalate (l ++ [a]) ≠ ""
  | [] => ha
  | b :: l => by
    rw [List.cons_append, intercalate_cons_of_ne_nil _ _ (by simp)]
    intro h
    have := congrArg String.length h
    simp [show " ".length = 1 from rfl] at this

/-- A new agent goes in front of the ones set before, if there are any. -/
theorem composedAgent_concat (agents : List String) (a : String) :
    composedAgent (agents ++ [a]) =
      if composedAgent agents = "" then a else a ++ " " ++ composedAgent agents := by
  unfold composedAgent
  rw [List.dropWhile_append]
  cases hd : agents.dropWhile (· == "") with
  | nil => by_cases ha : a = "" <;> simp [ha, String.intercalate, String.intercalate.go]
  | cons b l =>
    have hb : b ≠ "" := by simpa [hd] using List.head?_dropWhile_not (· == "") agents
    have hne := intercalate_concat_ne_empty hb l.reverse
    simp only [List.isEmpty_cons, Bool.false_eq_true, if_false, List.reverse_append,
      List.reverse_cons, List.reverse_nil, List.nil_append, List.singleton_append,
      List.cons_append]
    rw [if_neg hne]
    exact intercalate_cons_of_ne_nil _ _ (by simp)

theorem optionsSpec_concat (opts : List AuthOption) (f : AuthOption) :
    optionsSpec (opts ++ [f]) = f.apply (optionsSpec opts) := by
  cases f with
  | userAgent agent =>
    simp only [optionsSpec, AuthOption.apply, List.filterMap_append, List.filterMap_cons,
      AuthOption.agent?, List.filterMap_nil, composedAgent_concat]
    split_ifs <;> simp [AuthOption.transport?, AuthOption.apiBase?]
  | _ => simp [optionsSpec, AuthOption.apply, AuthOption.agent?, AuthOption.transport?,
      AuthOption.apiBase?]

/-- The options `AuthorizeAccount` makes are `optionsSpec`'s. -/
theorem authOptions_eq_optionsSpec (opts : List AuthOption) :
    authOptions opts = optionsSpec opts := by
  induction opts using List.reverseRecOn with
  | nil => rfl
  | append_singleton opts f ih =>
    rw [authOptions, List.foldl_append, ← authOptions, ih, List.foldl_cons, List.foldl_nil,
      optionsSpec_concat]

/-! ## `AuthorizeAccount` -/

/-- `b2types.StorageAPIInfo`, with the fields `AuthorizeAccount` reads. -/
structure StorageAPIInfo where
  absMinPartSize : Int
  uri : String
  bucket : String
  downloadURI : String
  pfx : String
  s3URI : String

/-- `b2types.APIInfo`; its `StorageAPIInfo` is a pointer, `none` when nil. -/
structure APIInfo where
  storageAPIInfo : Option StorageAPIInfo

/-- `b2types.AuthorizeAccountResponse`; its `APIInfo` is a pointer, `none` when nil. -/
structure AuthorizeAccountResponse where
  accountID : String
  apiInfo : Option APIInfo
  authToken : String

/-- `AuthorizeAccount`: the call, made with the options `o`. `base64` is
`base64.StdEncoding.EncodeToString` on the bytes of its argument. -/
def authorizeAccountCall (base64 : String → String) (account key : String) (o : B2Options) :
    Call :=
  { method := "b2_authorize_account", verb := "GET",
    uri := o.getAPIBase ++ v3api ++ "b2_authorize_account", b2req := none,
    headers := [("Authorization", "Basic " ++ base64 (account ++ ":" ++ key))], body := none }

/-- `AuthorizeAccount`: the session it returns. A reply without `apiInfo` or without its
`storageApi` makes it dereference a nil pointer, which panics: `none`. -/
def authorizeAccountResult (o : B2Options) (r : AuthorizeAccountResponse) : Option B2 := do
  let api ← r.apiInfo
  let s ← api.storageAPIInfo
  pure { accountID := r.accountID, authToken := r.authToken, apiURI := s.uri, s3URI := s.s3URI,
         downloadURI := s.downloadURI, minPartSize := s.absMinPartSize, bucket := s.bucket,
         pfx := s.pfx, opts := o }

theorem authorizeAccountResult_opts {o : B2Options} {r : AuthorizeAccountResponse} {b : B2}
    (hb : authorizeAccountResult o r = some b) : b.opts = o := by
  obtain ⟨_, _ | ⟨_ | s⟩, _⟩ := r <;> simp only [authorizeAccountResult, Option.bind_eq_bind,
    Option.none_bind, Option.some_bind, Option.pure_def, Option.some.injEq, reduceCtorEq] at hb
  exact hb ▸ rfl

section Session

variable (escape : String → String)

/-- **The options of a session.** The session `AuthorizeAccount` returns keeps the options
`optionsSpec` reads off the list, and every call it makes, through `makeRequest` or as a
download of one of its buckets, sends the user agents of the `UserAgent` options, the newest
first, followed by `blazer/0.7.2`. -/
theorem authorizeAccount_session (opts : List AuthOption) (r : AuthorizeAccountResponse) {b : B2}
    (hb : authorizeAccountResult (authOptions opts) r = some b) :
    let agent := if composedAgent (opts.filterMap AuthOption.agent?) = "" then defaultUserAgent
      else composedAgent (opts.filterMap AuthOption.agent?) ++ " " ++ defaultUserAgent
    b.opts = optionsSpec opts ∧
      (∀ id method headers, (requestHeader escape b.opts id method headers).get "User-Agent" =
        agent) ∧
      (∀ bk : Bucket, bk.b2 = b → ∀ id name offset size header,
        (bk.downloadRequest escape id name offset size header).header.get "User-Agent" =
          agent) := by
  intro agent
  have ho : b.opts = optionsSpec opts := by
    rw [authorizeAccountResult_opts hb, authOptions_eq_optionsSpec]
  have hagent : b.opts.getUserAgent = agent := by
    simp only [ho, B2Options.getUserAgent, optionsSpec, ite_not, agent]
  refine ⟨ho, fun id method headers => ?_, fun bk hbk id name offset size header => ?_⟩
  · rw [requestHeader_get, ← hagent]
    simp only [sentValue, canonical_userAgent, if_true]
  · rw [Bucket.downloadRequest_userAgent, hbk, hagent]

/-- Two user agents, the second set last. -/
def twoAgents : List AuthOption := [.userAgent "backup/1.0", .userAgent "rclone"]

/-- The reply that authorizes `staleSession`. -/
def staleReply : AuthorizeAccountResponse :=
  { accountID := "acct", authToken := "tok-1", apiInfo := some ⟨some
    { absMinPartSize := 5000000, uri := "https://api000.backblazeb2.com", bucket := "",
      downloadURI := "https://f000.backblazeb2.com", pfx := "",
      s3URI := "https://s3.us-west-000.backblazeb2.com" }⟩ }

/-- The session authorized with `twoAgents` lists its buckets, and downloads from `photos`,
under both agents. -/
theorem two_agents_session :
    authorizeAccountResult (authOptions twoAgents) staleReply =
      some { staleSession with opts := authOptions twoAgents } ∧
    (requestHeader id (authOptions twoAgents) 1 "b2_list_buckets" []).get "User-Agent" =
      (if composedAgent (twoAgents.filterMap AuthOption.agent?) = "" then defaultUserAgent
      else composedAgent (twoAgents.filterMap AuthOption.agent?) ++ " " ++ defaultUserAgent) ∧
    ((photos { staleSession with opts := authOptions twoAgents }).downloadRequest id 2 "a.txt" 0 0
      false).header.get "User-Agent" =
      if composedAgent (twoAgents.filterMap AuthOption.agent?) = "" then defaultUserAgent
      else composedAgent (twoAgents.filterMap AuthOption.agent?) ++ " " ++ defaultUserAgent :=
  have h := authorizeAccount_session id twoAgents staleReply rfl
  ⟨rfl, h.2.1 1 "b2_list_buckets" [], h.2.2 _ rfl 2 "a.txt" 0 0 false⟩

/-- The newest agent comes first. -/
example : composedAgent (twoAgents.filterMap AuthOption.agent?) = "rclone backup/1.0" := by
  decide

end Session

end Blazer
