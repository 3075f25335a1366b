import Blazer.Http

/-!
# Sessions and the handles that close over them

A `B2` session holds what `b2_authorize_account` returned. Every handle (`Bucket`, `URL`,
`File`, `LargeFile`, `FileChunk`) keeps a pointer to its session and reads the session's fields
each time it builds a call. A pointer is modelled by the value it points to when the call is
made: after `b.Update(n)`, a handle that refers to `b` builds its calls from `b.update n`.

Each API wrapper is a `Call`, the arguments it hands to `makeRequest`, and a function from the
decoded reply to what it returns. Request structs keep the members the modelled wrappers
fill in.

**`B2.Update` copies six of the nine fields** (`update_keeps_stale_fields`): the S3 endpoint
and the bucket and prefix restrictions of the old session survive an update, and the handles of
the session go on using them.
-/

namespace Blazer

/-- `b2types.V3api`. -/
def v3api : String := "/b2api/v3/"

/-- `B2`: an authorized session. `bucket` and `pfx` restrict it to one bucket and one prefix
when they are not empty. -/
structure B2 where
  accountID : String
  authToken : String
  apiURI : String
  s3URI : String
  downloadURI : String
  minPartSize : Int
  opts : B2Options
  bucket : String
  pfx : String

/-- `B2.Update`: "replaces the B2 object with a new one, in-place". -/
def B2.update (b n : B2) : B2 :=
  { b with
    accountID := n.accountID
    authToken := n.authToken
    apiURI := n.apiURI
    downloadURI := n.downloadURI
    minPartSize := n.minPartSize
    opts := n.opts }

/-! ## Request structs -/

/-- `LifecycleRule`. -/
structure LifecycleRule where
  prefix_ : String
  daysNewUntilHidden : Int
  daysHiddenUntilDeleted : Int
  deriving DecidableEq, Repr

/-- `b2types.CreateBucketRequest`. -/
structure CreateBucketRequest where
  accountID : String
  name : String
  bucketType : String
  info : List (String × String)
  lifecycleRules : List LifecycleRule
  deriving DecidableEq, Repr

/-- `b2types.ListBucketsRequest`. -/
structure ListBucketsRequest where
  accountID : String
  bucket : String
  name : String
  bucketTypes : List String
  deriving DecidableEq, Repr

/-- `b2types.UpdateBucketRequest`, without the bucket settings (CORS rules, retention,
encryption, file lock, replication) that it passes through unread. -/
structure UpdateBucketRequest where
  accountID : String
  bucketID : String
  bucketType : String
  info : List (String × String)
  lifecycleRules : List LifecycleRule
  ifRevisionIs : Int
  deriving DecidableEq, Repr

/-- A member tagged `omitempty` in a JSON encoding: absent when its value is the empty one. -/
def omitEmpty {α : Type} [DecidableEq α] (empty v : α) : Option α :=
  if v = empty then none else some v

/-- The `ifRevisionIs` member of the JSON encoding: the tag `omitempty` drops a zero. -/
def UpdateBucketRequest.ifRevisionIsMember (r : UpdateBucketRequest) : Option Int :=
  omitEmpty 0 r.ifRevisionIs

/-- `b2types.StartLargeFileRequest`. -/
structure StartLargeFileRequest where
  bucketID : String
  name : String
  contentType : String
  info : List (String × String)
  deriving DecidableEq, Repr

/-- `b2types.FinishLargeFileRequest`. -/
structure FinishLargeFileRequest where
  id : String
  hashes : List String
  deriving DecidableEq, Repr

/-- `b2types.ListFileNamesRequest`. -/
structure ListFileNamesRequest where
  bucketID : String
  count : Int
  continuation : String
  prefix_ : String
  delimiter : String
  deriving DecidableEq, Repr

/-- `b2types.ListFileVersionsRequest`. -/
structure ListFileVersionsRequest where
  bucketID : String
  count : Int
  startName : String
  startID : String
  prefix_ : String
  delimiter : String
  deriving DecidableEq, Repr

/-- The request structs the modelled wrappers marshal. -/
inductive ApiRequest
  | createBucket (r : CreateBucketRequest)
  | listBuckets (r : ListBucketsRequest)
  | updateBucket (r : UpdateBucketRequest)
  | getUploadURL (bucketID : String)
  | startLargeFile (r : StartLargeFileRequest)
  | getUploadPartURL (fileID : String)
  | finishLargeFile (r : FinishLargeFileRequest)
  | cancelLargeFile (fileID : String)
  | listFileNames (r : ListFileNamesRequest)
  | listFileVersions (r : ListFileVersionsRequest)
  deriving DecidableEq, Repr

/-- The arguments a wrapper hands to `makeRequest`. -/
structure Call where
  method : String
  verb : String
  uri : String
  b2req : Option ApiRequest
  headers : List (String × String)
  body : Option RequestBody
  deriving DecidableEq, Repr

/-- A `POST` of a request struct to the session's API endpoint, authorized by its token. -/
def B2.apiCall (b : B2) (method : String) (req : ApiRequest) : Call :=
  { method, verb := "POST", uri := b.apiURI ++ v3api ++ method, b2req := some req,
    headers := [("Authorization", b.authToken)], body := none }

/-! ## Handles -/

/-- `Bucket`, without the settings it passes through unread. `rev` is the revision an update
through this handle is conditional on. -/
structure Bucket where
  name : String
  bucketType : String
  info : List (String × String)
  lifecycleRules : List LifecycleRule
  id : String
  rev : Int
  b2 : B2

/-- `File`, with the fields the modelled wrappers read; `size` is an `int64`. -/
structure File where
  name : String
  size : BitVec 64
  status : String
  id : String
  b2 : B2

/-- `URL`: an upload URL leased for a bucket. -/
structure URL where
  uri : String
  token : String
  b2 : B2
  bucket : Bucket

/-- `Bucket.BaseURL`. -/
def Bucket.baseURL (b : Bucket) : String := b.b2.downloadURI

/-- `Bucket.S3URL`. -/
def Bucket.s3URL (b : Bucket) : String := b.b2.s3URI

/-! ## Buckets -/

/-- `b2types.CreateBucketResponse` (and `UpdateBucketResponse`, the same type), with the fields
the wrappers copy. -/
structure BucketResponse where
  bucketID : String
  name : String
  bucketType : String
  info : List (String × String)
  lifecycleRules : List LifecycleRule
  revision : Int
  deriving DecidableEq, Repr

/-- `B2.CreateBucket`: the call. Any type but `allPublic` is `allPrivate`. -/
def B2.createBucketCall (b : B2) (name btype : String) (info : List (String × String))
    (rules : List LifecycleRule) : Call :=
  b.apiCall "b2_create_bucket" (.createBucket
    { accountID := b.accountID, name, info, lifecycleRules := rules,
      bucketType := if btype ≠ "allPublic" then "allPrivate" else btype })

/-- `B2.CreateBucket`: the handle it returns. -/
def B2.createBucketResult (b : B2) (name : String) (resp : BucketResponse) : Bucket :=
  { name, bucketType := "", info := resp.info, lifecycleRules := resp.lifecycleRules,
    id := resp.bucketID, rev := resp.revision, b2 := b }

/-- `B2.ListBuckets`: the call, restricted to the session's bucket if it has one. -/
def B2.listBucketsCall (b : B2) (name : String) (bucketTypes : List String) : Call :=
  b.apiCall "b2_list_buckets" (.listBuckets
    { accountID := b.accountID, bucket := b.bucket, name, bucketTypes })

/-- `B2.ListBuckets`: the handles it returns. -/
def B2.listBucketsResult (b : B2) (resp : List BucketResponse) : List Bucket :=
  resp.map fun r =>
    { name := r.name, bucketType := r.bucketType, info := r.info,
      lifecycleRules := r.lifecycleRules, id := r.bucketID, rev := r.revision, b2 := b }

/-- `Bucket.Update`: the request struct, conditional on the handle's revision. -/
def Bucket.updateRequest (b : Bucket) : UpdateBucketRequest :=
  { accountID := b.b2.accountID, bucketID := b.id, bucketType := b.bucketType, info := b.info,
    lifecycleRules := b.lifecycleRules, ifRevisionIs := b.rev }

/-- `Bucket.Update`: the call. -/
def Bucket.updateCall (b : Bucket) : Call :=
  b.b2.apiCall "b2_update_bucket" (.updateBucket b.updateRequest)

/-- `Bucket.Update`: the handle it returns. -/
def Bucket.updateResult (b : Bucket) (resp : BucketResponse) : Bucket :=
  { name := b.name, bucketType := resp.bucketType, info := resp.info,
    lifecycleRules := resp.lifecycleRules, id := resp.bucketID, rev := 0, b2 := b.b2 }

/-- `Bucket.GetUploadURL`: the call. -/
def Bucket.getUploadURLCall (b : Bucket) : Call :=
  b.b2.apiCall "b2_get_upload_url" (.getUploadURL b.id)

/-! ## Listing files -/

/-- `Bucket.ListFileNames`: the call. An empty prefix falls back to the session's. -/
def Bucket.listFileNamesCall (b : Bucket) (count : Int) (continuation pfx delimiter : String) :
    Call :=
  b.b2.apiCall "b2_list_file_names" (.listFileNames
    { count, continuation, bucketID := b.id, delimiter,
      prefix_ := if pfx = "" then b.b2.pfx else pfx })

/-- `Bucket.ListFileVersions`: the call. An empty prefix falls back to the session's. -/
def Bucket.listFileVersionsCall (b : Bucket) (count : Int)
    (startName startID pfx delimiter : String) : Call :=
  b.b2.apiCall "b2_list_file_versions" (.listFileVersions
    { bucketID := b.id, count, startName, startID, delimiter,
      prefix_ := if pfx = "" then b.b2.pfx else pfx })

/-! ## Replacing a session in place -/

/-- Two sessions of one account that differ in their S3 endpoint and restrictions. -/
def staleSession : B2 :=
  { accountID := "acct", authToken := "tok-1", apiURI := "https://api000.backblazeb2.com",
    s3URI := "https://s3.us-west-000.backblazeb2.com",
    downloadURI := "https://f000.backblazeb2.com", minPartSize := 5000000, opts := {},
    bucket := "", pfx := "" }

/-- The session a re-authorization with a restricted key returns. -/
def freshSession : B2 :=
  { staleSession with
    authToken := "tok-2", s3URI := "https://s3.eu-central-003.backblazeb2.com",
    bucket := "bucket-7", pfx := "logs/" }

/-- A handle on one bucket of the session `b`. -/
def photos (b : B2) : Bucket :=
  { name := "photos", bucketType := "allPrivate", info := [], lifecycleRules := [],
    id := "bucket-7", rev := 3, b2 := b }

/-- After `b.Update(n)`, a bucket handle of `b` still reports `b`'s S3 endpoint, and `b` still
lists buckets and files under `b`'s restrictions, where `n` lists under its own. -/
theorem update_keeps_stale_fields :
    (photos (staleSession.update freshSession)).s3URL ≠ (photos freshSession).s3URL ∧
    (staleSession.update freshSession).listBucketsCall "" [] ≠ freshSession.listBucketsCall "" [] ∧
    (photos (staleSession.update freshSession)).listFileNamesCall 100 "" "" "" ≠
      (photos freshSession).listFileNamesCall 100 "" "" "" := by
  decide

end Blazer
