import Blazer.Stamps
import Blazer.Download
import Mathlib.Data.String.Basic

/-!
# File info, up and down

`UploadFile` sends each entry `k: v` of a file's info map as a header `X-Bz-Info-k`, its value
escaped by `makeRequest`; `DownloadFileByName` reads every `X-Bz-Info-` header of a reply back
into a map, unescaping the name and the value. Go puts header keys in canonical form on the way
out, so a name comes back as `infoName k`: `color` comes back as `Color`.

* **A caller's header arrives as given** (`requestHeader_caller`): with the caller's keys
  distinct in canonical form, every key `makeRequest` does not write itself carries the caller's
  value, escaped where `makeRequest` escapes it.
* **The fixed headers of an upload** (`uploadFile_header`): whatever the info map holds and in
  whatever order Go ranges over it, the upload sends the URL's token, the escaped file name, the
  content type, the length and the SHA1 as given; and when the info names are distinct in
  canonical form, every info value, escaped.
* **The round trip** (`info_round_trip`): when the reply to `DownloadFileByName` carries the
  info headers the upload sent, the download returns the upload's info map with its names in
  canonical form, provided `unescape` undoes `escape` and leaves those names alone.

`strings.HasPrefix` is `String.isPrefixOf`, which compares UTF-8 bytes; `isPrefixOf_eq_data`
turns it into a prefix test on the characters, so the keys it meets can be decided.
-/

namespace Blazer

/-! ## `strings.HasPrefix` on characters -/

open String in
theorem substrEq_loop_append (pre p s : List Char) (h : utf8Len p ≤ utf8Len s) :
    String.substrEq.loop ⟨pre ++ p⟩ ⟨pre ++ s⟩ ⟨utf8Len pre⟩ ⟨utf8Len pre⟩
      ⟨utf8Len pre + utf8Len p⟩ = p.isPrefixOf s := by
  induction p generalizing pre s with
  | nil => rw [String.substrEq.loop]; simp
  | cons c p ih =>
    cases s with
    | nil => simp at h; have := c.utf8Size_pos; omega
    | cons d s =>
      rw [String.substrEq.loop, dif_pos (by simp; exact .inr c.utf8Size_pos)]
      simp only [String.get_of_valid, List.headD_cons, List.isPrefixOf_cons₂]
      by_cases hcd : c = d
      · subst hcd
        have := ih (pre ++ [c]) s (by simp at h; omega)
        simp only [List.append_assoc, List.singleton_append, utf8Len_append, utf8Len_cons,
          utf8Len_nil] at this
        simp only [beq_self_eq_true, Bool.true_and]
        convert this using 2 <;> simp [String.Pos.ext_iff]; omega
      · have : (c == d) = false := by simpa using hcd
        simp [this]

theorem isPrefixOf_eq_data (p s : String) : p.isPrefixOf s = p.data.isPrefixOf s.data := by
  obtain ⟨p⟩ := p
  obtain ⟨s⟩ := s
  simp only [String.isPrefixOf, String.substrEq, String.endPos_eq, String.Pos.byteIdx_zero,
    Nat.zero_add, le_refl, decide_True, Bool.true_and]
  by_cases h : String.utf8Len p ≤ String.utf8Len s
  · simpa [h] using substrEq_loop_append [] p s h
  · have : p.isPrefixOf s = false := by
      by_contra hp
      exact h (String.utf8Len_le_of_prefix (List.isPrefixOf_iff_prefix.1 (by simpa using hp)))
    simp [h, this]

theorem isPrefixOf_append_self (p s : String) : p.isPrefixOf (p ++ s) = true := by
  rw [isPrefixOf_eq_data]
  simp [List.isPrefixOf_iff_prefix]

/-! ## Info keys -/

/-- The name an info key `k` comes back under: `X-Bz-Info-k` in canonical form, without the
prefix. A key with a byte outside the token set is kept as it is. -/
def infoName (k : String) : String :=
  if k.toList.all validHeaderFieldByte then String.mk (canonicalWords true k.toList) else k

theorem canonical_infoKey (k : String) :
    canonicalMIMEHeaderKey ("X-Bz-Info-" ++ k) = "X-Bz-Info-" ++ infoName k := by
  have hw : canonicalWords true ("X-Bz-Info-".toList ++ k.toList) =
      "X-Bz-Info-".toList ++ canonicalWords true k.toList := by
    simp [canonicalWords]
  have hv : ("X-Bz-Info-".toList ++ k.toList).all validHeaderFieldByte =
      k.toList.all validHeaderFieldByte := by
    rw [List.all_append]
    rfl
  simp only [canonicalMIMEHeaderKey, infoName, String.toList, String.data_append] at hw hv ⊢
  rw [hv]
  split_ifs
  · rw [hw]
    rfl
  · rfl

theorem infoKey_ne {s : String} (h : "X-Bz-Info-".isPrefixOf s = false) (n : String) :
    "X-Bz-Info-" ++ n ≠ s := by
  rintro rfl
  rw [isPrefixOf_append_self] at h
  cases h

theorem escapesValue_infoKey (k : String) : escapesValue ("X-Bz-Info-" ++ k) = true := by
  rw [escapesValue, isPrefixOf_eq_data]
  simp [List.isPrefixOf_iff_prefix]

theorem toNat_ofNat_of_lt {m : Nat} (h : m < 0xd800) : (Char.ofNat m).toNat = m := by
  rw [Char.ofNat, dif_pos (Or.inl h)]
  show (UInt32.ofNat' m _).toNat = m
  simp [UInt32.ofNat', UInt32.toNat]

theorem toUpper_toUpper (c : Char) : c.toUpper.toUpper = c.toUpper := by
  unfold Char.toUpper
  by_cases h : c.toNat ≥ 97 ∧ c.toNat ≤ 122
  · rw [if_pos h, toNat_ofNat_of_lt (by omega), if_neg (by omega)]
  · rw [if_neg h, if_neg h]

theorem toLower_toLower (c : Char) : c.toLower.toLower = c.toLower := by
  unfold Char.toLower
  by_cases h : c.toNat ≥ 65 ∧ c.toNat ≤ 90
  · rw [if_pos h, toNat_ofNat_of_lt (by omega), if_neg (by omega)]
  · rw [if_neg h, if_neg h]

/-- Putting a key in canonical form twice changes nothing: the case of each letter is fixed by
the letter before it, which the first pass has already fixed. -/
theorem canonicalWords_idem (upper : Bool) (cs : List Char) :
    canonicalWords upper (canonicalWords upper cs) = canonicalWords upper cs := by
  induction cs generalizing upper with
  | nil => rfl
  | cons c cs ih =>
    have hc : (if upper then (if upper then c.toUpper else c.toLower).toUpper
        else (if upper then c.toUpper else c.toLower).toLower) =
        if upper then c.toUpper else c.toLower := by
      cases upper
      · exact toLower_toLower c
      · exact toUpper_toUpper c
    simp only [canonicalWords, hc, ih]

theorem infoName_idem (k : String) : infoName (infoName k) = infoName k := by
  unfold infoName
  by_cases hv : k.toList.all validHeaderFieldByte
  · simp only [if_pos hv]
    split_ifs
    · exact congrArg String.mk (canonicalWords_idem true k.toList)
    · rfl
  · simp only [if_neg hv]

/-- The key an upload sends for an info entry is already in canonical form. -/
@[simp] theorem canonical_infoKey_infoName (k : String) :
    canonicalMIMEHeaderKey ("X-Bz-Info-" ++ infoName k) = "X-Bz-Info-" ++ infoName k := by
  rw [canonical_infoKey, infoName_idem]

theorem infoKey_inj {a b : String} (h : "X-Bz-Info-" ++ a = "X-Bz-Info-" ++ b) : a = b :=
  String.ext (List.append_cancel_left (congrArg String.data h))

/-- `strings.TrimPrefix(key, "X-Bz-Info-")` on an info key. -/
@[simp] theorem drop_infoKey (k : String) : ("X-Bz-Info-" ++ k).drop 10 = k := by
  rw [String.drop_eq]
  exact congrArg String.mk (List.drop_left' rfl)

/-! ## `UploadFile` -/

/-- The header map literal of `URL.UploadFile`. -/
def URL.uploadFixedHeaders (url : URL) (size : Int) (name contentType sha1 : String) :
    List (String × String) :=
  [("Authorization", url.token), ("X-Bz-File-Name", name), ("Content-Type", contentType),
    ("Content-Length", toString size), ("X-Bz-Content-Sha1", sha1)]

/-- The info entries of `URL.UploadFile`, under their header keys. -/
def infoHeaders (info : List (String × String)) : List (String × String) :=
  info.map fun kv => ("X-Bz-Info-" ++ kv.1, kv.2)

/-- The headers `URL.UploadFile` hands to `makeRequest`; Go ranges over them in any order. -/
def URL.uploadFileHeaders (url : URL) (size : Int) (name contentType sha1 : String)
    (info : List (String × String)) : List (String × String) :=
  url.uploadFixedHeaders size name contentType sha1 ++ infoHeaders info

/-- `URL.UploadFile`: the call, a `POST` of the body to the leased URL. -/
def URL.uploadFileCall (url : URL) (r : List UInt8) (size : Int)
    (name contentType sha1 : String) (info : List (String × String)) : Call :=
  { method := "b2_upload_file", verb := "POST", uri := url.uri, b2req := none,
    headers := url.uploadFileHeaders size name contentType sha1 info,
    body := some { size, body := r } }

/-- `b2types.UploadFileResponse`, with the fields `UploadFile` copies. -/
structure UploadFileResponse where
  fileID : String
  action : String

/-- `URL.UploadFile`: the file it returns, without the timestamp. -/
def URL.uploadFileResult (url : URL) (size : Int) (name : String) (resp : UploadFileResponse) :
    File :=
  { name, size := .ofInt 64 size, status := resp.action, id := resp.fileID, b2 := url.b2 }

theorem lastFor_of_unique {l : List (String × String)} {kv : String × String} {k : String}
    (hkv : kv ∈ l) (hk : canonicalMIMEHeaderKey kv.1 = canonicalMIMEHeaderKey k)
    (hu : ∀ e ∈ l, canonicalMIMEHeaderKey e.1 = canonicalMIMEHeaderKey k → e = kv) :
    lastFor l k = some kv := by
  cases h : lastFor l k with
  | none =>
    have := List.find?_eq_none.1 h kv (List.mem_reverse.2 hkv)
    simp [hk] at this
  | some e =>
    have he := List.mem_reverse.1 (List.mem_of_find?_eq_some h)
    have hp := List.find?_some h
    simp only [beq_iff_eq] at hp
    exact congrArg some (hu e he hp)

/-- The keys of the header map literal of `URL.UploadFile`. -/
def uploadFixedKeys : List String :=
  ["Authorization", "X-Bz-File-Name", "Content-Type", "Content-Length", "X-Bz-Content-Sha1"]

theorem uploadFixed_keys (url : URL) (size : Int) (name contentType sha1 : String) :
    (url.uploadFixedHeaders size name contentType sha1).map Prod.fst = uploadFixedKeys :=
  rfl

theorem mem_uploadFixedKeys {url : URL} {size : Int} {name contentType sha1 : String}
    {kv : String × String} (hkv : kv ∈ url.uploadFixedHeaders size name contentType sha1) :
    kv.1 ∈ uploadFixedKeys :=
  uploadFixed_keys url size name contentType sha1 ▸ List.mem_map_of_mem _ hkv

theorem uploadFixed_canonical_nodup (url : URL) (size : Int) (name contentType sha1 : String) :
    ((url.uploadFixedHeaders size name contentType sha1).map fun kv =>
      canonicalMIMEHeaderKey kv.1).Nodup := by
  rw [show (fun kv : String × String => canonicalMIMEHeaderKey kv.1) =
    canonicalMIMEHeaderKey ∘ Prod.fst from rfl, ← List.map_map, uploadFixed_keys]
  decide

theorem uploadFixed_not_info (url : URL) (size : Int) (name contentType sha1 : String) :
    ∀ kv ∈ url.uploadFixedHeaders size name contentType sha1,
      "X-Bz-Info-".isPrefixOf (canonicalMIMEHeaderKey kv.1) = false := by
  have hk : ∀ k ∈ uploadFixedKeys,
      "X-Bz-Info-".data.isPrefixOf (canonicalMIMEHeaderKey k).data = false := by decide
  exact fun kv hkv => (isPrefixOf_eq_data _ _).trans (hk _ (mem_uploadFixedKeys hkv))

theorem lastFor_upload_fixed (url : URL) (size : Int) (name contentType sha1 : String)
    (info : List (String × String)) {hs : List (String × String)}
    (hp : hs.Perm (url.uploadFileHeaders size name contentType sha1 info))
    {kv : String × String} (hkv : kv ∈ url.uploadFixedHeaders size name contentType sha1) :
    lastFor hs kv.1 = some kv := by
  refine lastFor_of_unique (hp.mem_iff.2 (List.mem_append_left _ hkv)) rfl fun e he hek => ?_
  rcases List.mem_append.1 (hp.mem_iff.1 he) with he | he
  · exact List.inj_on_of_nodup_map (uploadFixed_canonical_nodup url size name contentType sha1)
      he hkv hek
  · obtain ⟨⟨k, v⟩, -, rfl⟩ := List.mem_map.1 he
    rw [canonical_infoKey] at hek
    exact absurd hek (infoKey_ne (uploadFixed_not_info url size name contentType sha1 kv hkv) _)

theorem uploadFile_canonical_nodup (url : URL) (size : Int) (name contentType sha1 : String)
    {info : List (String × String)} (hd : (info.map fun kv => infoName kv.1).Nodup) :
    ((url.uploadFileHeaders size name contentType sha1 info).map fun kv =>
      canonicalMIMEHeaderKey kv.1).Nodup := by
  have hi : ((infoHeaders info).map fun kv => canonicalMIMEHeaderKey kv.1) =
      (info.map fun kv => infoName kv.1).map ("X-Bz-Info-" ++ ·) := by
    simp [infoHeaders, canonical_infoKey]
  rw [URL.uploadFileHeaders, List.map_append, List.nodup_append, hi]
  refine ⟨uploadFixed_canonical_nodup url size name contentType sha1,
    hd.map fun _ _ => infoKey_inj, fun a ha hb => ?_⟩
  obtain ⟨kv, hkv, rfl⟩ := List.mem_map.1 ha
  obtain ⟨n, -, hn⟩ := List.mem_map.1 hb
  exact infoKey_ne (uploadFixed_not_info url size name contentType sha1 kv hkv) n hn

theorem uploadFixed_not_reserved (url : URL) (size : Int) (name contentType sha1 : String) :
    ∀ kv ∈ url.uploadFixedHeaders size name contentType sha1, canonicalMIMEHeaderKey kv.1 ∉
      ["User-Agent", "X-Bz-Test-Mode", "X-Blazer-Method", "X-Blazer-Request-Id"] := by
  have hk : ∀ k ∈ uploadFixedKeys, canonicalMIMEHeaderKey k ∉
      ["User-Agent", "X-Bz-Test-Mode", "X-Blazer-Method", "X-Blazer-Request-Id"] := by decide
  exact fun kv hkv => hk _ (mem_uploadFixedKeys hkv)

theorem infoKey_not_reserved (k : String) : canonicalMIMEHeaderKey ("X-Bz-Info-" ++ k) ∉
    ["User-Agent", "X-Bz-Test-Mode", "X-Blazer-Method", "X-Blazer-Request-Id"] := by
  have hne : ∀ s ∈ ["User-Agent", "X-Bz-Test-Mode", "X-Blazer-Method", "X-Blazer-Request-Id"],
      "X-Bz-Info-".data.isPrefixOf s.data = false := by decide
  rw [canonical_infoKey]
  exact fun h => infoKey_ne ((isPrefixOf_eq_data _ _).trans (hne _ h)) _ rfl

theorem uploadFixed_escapesValue (url : URL) (size : Int) (name contentType sha1 : String) :
    (url.uploadFixedHeaders size name contentType sha1).map (fun kv => escapesValue kv.1) =
      [false, true, false, false, false] := by
  rw [show (fun kv : String × String => escapesValue kv.1) = escapesValue ∘ Prod.fst from rfl,
    ← List.map_map, uploadFixed_keys]
  simp only [uploadFixedKeys, List.map_cons, List.map_nil, escapesValue, isPrefixOf_eq_data]
  decide

/-! ## The info entries of a header -/

theorem filter_key_ne_of_not_mem {α : Type} {m : List (String × α)} {k : String}
    (hk : k ∉ m.map Prod.fst) : m.filter (·.1 != k) = m :=
  List.filter_eq_self.2 fun _ he => bne_iff_ne.2 fun h => hk (h ▸ List.mem_map_of_mem _ he)

theorem keys_nodup_cons_filter {α : Type} {m : List (String × α)} (k : String) (a : α)
    (hn : (m.map Prod.fst).Nodup) : (((k, a) :: m.filter (·.1 != k)).map Prod.fst).Nodup := by
  refine List.nodup_cons.2 ⟨fun hm => ?_, ((List.filter_sublist m).map Prod.fst).nodup hn⟩
  obtain ⟨e, he, hek⟩ := List.mem_map.1 hm
  simp [(List.mem_filter.1 he).2, hek] at he

namespace Header

/-- The `X-Bz-Info-` entries of a header, the ones `DownloadFileByName` reads. -/
def infoEntries (h : Header) : Header := h.filter fun e => "X-Bz-Info-".isPrefixOf e.1

theorem infoEntries_cons_filter {h : Header} {k : String} (vs : List String)
    (hk : "X-Bz-Info-".isPrefixOf k = false) :
    infoEntries ((k, vs) :: h.filter (·.1 != k)) = h.infoEntries := by
  rw [infoEntries, List.filter_cons_of_neg (by simp [hk]), List.filter_filter]
  refine List.filter_congr fun e _ => ?_
  cases he : "X-Bz-Info-".isPrefixOf e.1
  · rfl
  · have hne : e.1 ≠ k := fun h => by rw [h, hk] at he; cases he
    simp [hne]

theorem infoEntries_set (h : Header) {k : String} (v : String)
    (hk : "X-Bz-Info-".isPrefixOf (canonicalMIMEHeaderKey k) = false) :
    (h.set k v).infoEntries = h.infoEntries :=
  infoEntries_cons_filter _ hk

theorem infoEntries_add (h : Header) {k : String} (v : String)
    (hk : "X-Bz-Info-".isPrefixOf (canonicalMIMEHeaderKey k) = false) :
    (h.add k v).infoEntries = h.infoEntries :=
  infoEntries_cons_filter _ hk

theorem keys_nodup_set {h : Header} (k v : String) (hn : (h.map Prod.fst).Nodup) :
    ((h.set k v).map Prod.fst).Nodup :=
  keys_nodup_cons_filter _ _ hn

theorem keys_nodup_add {h : Header} (k v : String) (hn : (h.map Prod.fst).Nodup) :
    ((h.add k v).map Prod.fst).Nodup :=
  keys_nodup_cons_filter _ _ hn

theorem get_of_mem {h : Header} {k : String} {vs : List String} (hn : (h.map Prod.fst).Nodup)
    (he : (k, vs) ∈ h) (hc : canonicalMIMEHeaderKey k = k) : h.get k = vs.head?.getD "" := by
  rw [get, hc]
  induction h with
  | nil => cases he
  | cons a h ih =>
    rw [List.map_cons, List.nodup_cons] at hn
    rcases List.mem_cons.1 he with rfl | he
    · simp [List.lookup_cons]
    · have hne : k ≠ a.1 := fun hea => hn.1 (hea ▸ List.mem_map_of_mem _ he)
      rw [List.lookup_cons, beq_false_of_ne hne]
      exact ih hn.2 he

end Header

theorem B2Options.infoEntries_addHeaders (o : B2Options) (h : Header) :
    (o.addHeaders h).infoEntries = h.infoEntries := by
  have hm : "X-Bz-Info-".isPrefixOf (canonicalMIMEHeaderKey "X-Bz-Test-Mode") = false := by
    rw [canonical_testMode, isPrefixOf_eq_data]; decide
  have ha : ∀ (h : Header) (b : Bool) (v : String),
      (if b then h.add "X-Bz-Test-Mode" v else h).infoEntries = h.infoEntries := by
    intro h b v
    cases b
    · rfl
    · exact Header.infoEntries_add h v hm
  rw [addHeaders,
    Header.infoEntries_set _ _ (by rw [canonical_userAgent, isPrefixOf_eq_data]; decide),
    ha, ha, ha]

theorem B2Options.keys_nodup_addHeaders (o : B2Options) {h : Header}
    (hn : (h.map Prod.fst).Nodup) : ((o.addHeaders h).map Prod.fst).Nodup := by
  have ha : ∀ {h : Header} (b : Bool) (v : String), (h.map Prod.fst).Nodup →
      ((if b then h.add "X-Bz-Test-Mode" v else h).map Prod.fst).Nodup := by
    intro h b v hn
    cases b
    · exact hn
    · exact Header.keys_nodup_add _ _ hn
  exact Header.keys_nodup_set _ _ (ha _ _ (ha _ _ (ha _ _ hn)))

theorem foldl_set_of_nodup (f : String × String → String) :
    ∀ (l : List (String × String)) (h : Header),
      (l.map fun kv => canonicalMIMEHeaderKey kv.1).Nodup →
      (∀ kv ∈ l, canonicalMIMEHeaderKey kv.1 ∉ h.map Prod.fst) →
      l.foldl (fun h kv => h.set kv.1 (f kv)) h =
        (l.map fun kv => (canonicalMIMEHeaderKey kv.1, [f kv])).reverse ++ h
  | [], _, _, _ => rfl
  | kv :: l, h, hn, hk => by
    rw [List.map_cons, List.nodup_cons] at hn
    have hs : h.set kv.1 (f kv) = (canonicalMIMEHeaderKey kv.1, [f kv]) :: h :=
      congrArg _ (filter_key_ne_of_not_mem (hk kv (List.mem_cons_self _ _)))
    rw [List.foldl_cons, hs, foldl_set_of_nodup f l _ hn.2 fun e he hm => ?_]
    · simp
    · rcases List.mem_cons.1 hm with hm | hm
      · exact hn.1 (List.mem_map.2 ⟨e, he, hm⟩)
      · exact hk e (List.mem_cons_of_mem _ he) hm

section Upload

variable (escape : String → String)

/-- **A caller's header arrives as given.** When the caller's keys are distinct in canonical
form, every caller header whose key is none of the four `makeRequest` writes itself is sent with
its value, escaped for the `X-Bz-Info` and `X-Bz-File-Name` keys. -/
theorem requestHeader_caller (o : B2Options) (id : Int) (method : String)
    {headers : List (String × String)}
    (hd : (headers.map fun kv => canonicalMIMEHeaderKey kv.1).Nodup)
    {kv : String × String} (hkv : kv ∈ headers)
    (hk : canonicalMIMEHeaderKey kv.1 ∉
      ["User-Agent", "X-Bz-Test-Mode", "X-Blazer-Method", "X-Blazer-Request-Id"]) :
    (requestHeader escape o id method headers).get kv.1 =
      if escapesValue kv.1 then escape kv.2 else kv.2 :=
  requestHeader_get_of_lastFor escape o id method
    (lastFor_of_unique hkv rfl fun _ he hek => List.inj_on_of_nodup_map hd he hkv hek) hk

/-- The part number `UploadPart` sends arrives as given. -/
theorem upload_part_number_sent :
    ([("Authorization", "tok-1"), ("X-Bz-Part-Number", "3"), ("Content-Length", "5")].map
      fun kv => canonicalMIMEHeaderKey kv.1).Nodup ∧
    canonicalMIMEHeaderKey "X-Bz-Part-Number" ∉
      ["User-Agent", "X-Bz-Test-Mode", "X-Blazer-Method", "X-Blazer-Request-Id"] ∧
    (requestHeader id {} 1 "b2_upload_part"
        [("Authorization", "tok-1"), ("X-Bz-Part-Number", "3"), ("Content-Length", "5")]).get
      "X-Bz-Part-Number" = if escapesValue "X-Bz-Part-Number" then id "3" else "3" :=
  ⟨by decide, by decide, @requestHeader_caller id {} 1 "b2_upload_part"
    [("Authorization", "tok-1"), ("X-Bz-Part-Number", "3"), ("Content-Length", "5")]
    (by decide) ("X-Bz-Part-Number", "3") (by simp) (by decide)⟩

/-- **What an upload sends.** Whatever the info map holds and in whatever order Go ranges over
the header map, the upload sends the URL's token, the escaped file name, the content type, the
length and the SHA1 as given; when the info names are distinct in canonical form, it sends
every info value, escaped. -/
theorem uploadFile_header (url : URL) (size : Int) (name contentType sha1 : String)
    (info : List (String × String)) (id : Int) {hs : List (String × String)}
    (hp : hs.Perm (url.uploadFileHeaders size name contentType sha1 info)) :
    ((url.uploadFixedHeaders size name contentType sha1).map fun kv =>
      (requestHeader escape url.b2.opts id "b2_upload_file" hs).get kv.1) =
      [url.token, escape name, contentType, toString size, sha1] ∧
    ((info.map fun kv => infoName kv.1).Nodup → ∀ kv ∈ info,
      (requestHeader escape url.b2.opts id "b2_upload_file" hs).get ("X-Bz-Info-" ++ kv.1) =
        escape kv.2) := by
  constructor
  · have hget : ∀ kv ∈ url.uploadFixedHeaders size name contentType sha1,
        (requestHeader escape url.b2.opts id "b2_upload_file" hs).get kv.1 =
          if escapesValue kv.1 then escape kv.2 else kv.2 := fun kv hkv =>
      requestHeader_get_of_lastFor escape _ _ _ (lastFor_upload_fixed url size name contentType
        sha1 info hp hkv) (uploadFixed_not_reserved url size name contentType sha1 kv hkv)
    have he := uploadFixed_escapesValue url size name contentType sha1
    rw [List.map_congr_left hget]
    simp only [URL.uploadFixedHeaders, List.map_cons, List.map_nil, List.cons.injEq] at he ⊢
    simp [he]
  · intro hd kv hkv
    have hl : lastFor hs ("X-Bz-Info-" ++ kv.1) = some ("X-Bz-Info-" ++ kv.1, kv.2) := by
      have hm : ("X-Bz-Info-" ++ kv.1, kv.2) ∈ url.uploadFileHeaders size name contentType sha1
          info := List.mem_append_right _ (List.mem_map_of_mem _ hkv)
      refine lastFor_of_unique (hp.mem_iff.2 hm) rfl fun _ he hek => ?_
      exact List.inj_on_of_nodup_map (uploadFile_canonical_nodup url size name contentType sha1 hd)
        (hp.mem_iff.1 he) hm hek
    rw [requestHeader_get_of_lastFor escape _ _ _ hl (infoKey_not_reserved kv.1),
      escapesValue_infoKey, if_pos rfl]

/-- An upload URL leased for `photos`. -/
def photosUploadURL : URL :=
  { uri := "https://pod-000-1000-00.backblaze.com/b2api/v3/b2_upload_file/bucket-7/c000",
    token := "upload-tok", b2 := staleSession, bucket := photos staleSession }

/-- Ranging over the header map backwards sends the same headers. -/
theorem photos_upload_header_reversed :
    ((photosUploadURL.uploadFixedHeaders 5 "a.txt" "text/plain" "da39").map fun kv =>
      (requestHeader id photosUploadURL.b2.opts 1 "b2_upload_file"
        (photosUploadURL.uploadFileHeaders 5 "a.txt" "text/plain" "da39"
          [("color", "red")]).reverse).get kv.1) =
      [photosUploadURL.token, "a.txt", "text/plain", toString (5 : Int), "da39"] ∧
    (([("color", "red")].map fun kv => infoName kv.1).Nodup → ∀ kv ∈ [("color", "red")],
      (requestHeader id photosUploadURL.b2.opts 1 "b2_upload_file"
        (photosUploadURL.uploadFileHeaders 5 "a.txt" "text/plain" "da39"
          [("color", "red")]).reverse).get ("X-Bz-Info-" ++ kv.1) = kv.2) :=
  uploadFile_header id photosUploadURL 5 "a.txt" "text/plain" "da39" [("color", "red")] 1
    (List.reverse_perm _)

theorem requestHeader_keys_nodup (o : B2Options) (id : Int) (method : String)
    (headers : List (String × String)) :
    ((requestHeader escape o id method headers).map Prod.fst).Nodup := by
  have hf : ∀ (l : List (String × String)) (h : Header), (h.map Prod.fst).Nodup →
      ((l.foldl (fun h kv => h.set kv.1
        (if escapesValue kv.1 then escape kv.2 else kv.2)) h).map Prod.fst).Nodup := by
    intro l
    induction l with
    | nil => exact fun _ hn => hn
    | cons kv l ih => exact fun h hn => ih _ (Header.keys_nodup_set _ _ hn)
  exact o.keys_nodup_addHeaders (Header.keys_nodup_set _ _ (Header.keys_nodup_set _ _
    (hf headers [] List.nodup_nil)))

theorem uploadFile_infoEntries (url : URL) (size : Int) (name contentType sha1 : String)
    {info : List (String × String)} (id : Int) {hs : List (String × String)}
    (hp : hs.Perm (url.uploadFileHeaders size name contentType sha1 info))
    (hd : (info.map fun kv => infoName kv.1).Nodup) :
    (requestHeader escape url.b2.opts id "b2_upload_file" hs).infoEntries.Perm
      (info.map fun kv => ("X-Bz-Info-" ++ infoName kv.1, [escape kv.2])) := by
  have hn := (hp.map _).nodup_iff.2 (uploadFile_canonical_nodup url size name contentType sha1 hd)
  have hfixed : ((url.uploadFixedHeaders size name contentType sha1).map fun kv =>
      (canonicalMIMEHeaderKey kv.1, [if escapesValue kv.1 then escape kv.2 else kv.2])).filter
        (fun e => "X-Bz-Info-".isPrefixOf e.1) = [] := by
    refine List.filter_eq_nil_iff.2 fun e he => ?_
    obtain ⟨kv, hkv, rfl⟩ := List.mem_map.1 he
    simp [uploadFixed_not_info url size name contentType sha1 kv hkv]
  have hinfo : (infoHeaders info).map (fun kv =>
      (canonicalMIMEHeaderKey kv.1, [if escapesValue kv.1 then escape kv.2 else kv.2])) =
      info.map fun kv => ("X-Bz-Info-" ++ infoName kv.1, [escape kv.2]) := by
    simp [infoHeaders, canonical_infoKey, escapesValue_infoKey]
  rw [requestHeader, B2Options.infoEntries_addHeaders,
    Header.infoEntries_set _ _ (by rw [canonical_method, isPrefixOf_eq_data]; decide),
    Header.infoEntries_set _ _ (by rw [canonical_requestID, isPrefixOf_eq_data]; decide),
    foldl_set_of_nodup _ hs [] hn (by simp), List.append_nil, Header.infoEntries,
    List.filter_reverse]
  refine (List.reverse_perm _).trans (((hp.map _).filter _).trans ?_)
  rw [URL.uploadFileHeaders, List.map_append, List.filter_append, hfixed, hinfo, List.nil_append,
    List.filter_eq_self.2 fun e he => ?_]
  obtain ⟨kv, -, rfl⟩ := List.mem_map.1 he
  exact isPrefixOf_append_self _ _

end Upload

/-! ## Reading the info back -/

theorem foldl_setEntry_of_nodup :
    ∀ (l m : List (String × String)), (l.map Prod.fst).Nodup →
      (∀ p ∈ l, p.1 ∉ m.map Prod.fst) → l.foldl (fun m p => setEntry m p.1 p.2) m = l.reverse ++ m
  | [], _, _, _ => rfl
  | p :: l, m, hn, hk => by
    rw [List.map_cons, List.nodup_cons] at hn
    have hs : setEntry m p.1 p.2 = p :: m :=
      congrArg _ (filter_key_ne_of_not_mem (hk p (List.mem_cons_self _ _)))
    rw [List.foldl_cons, hs, foldl_setEntry_of_nodup l _ hn.2 fun e he hm => ?_]
    · simp
    · rcases List.mem_cons.1 hm with hm | hm
      · exact hn.1 (hm ▸ List.mem_map_of_mem _ he)
      · exact hk e (List.mem_cons_of_mem _ he) hm

section Download

variable (unescape : String → Except GoError String)

/-- One pass of the loop of `DownloadFileByName` over the keys of the reply's header `h`. -/
def infoStep (h : Header) (info : List (String × String)) (kv : String × List String) :
    Except GoError (List (String × String)) :=
  if "X-Bz-Info-".isPrefixOf kv.1 then do
    let name ← unescape (kv.1.drop 10)
    let val ← unescape (h.get kv.1)
    pure (setEntry info name val)
  else pure info

theorem infoOf_eq_foldlM (h : Header) : infoOf unescape h = h.foldlM (infoStep unescape h) [] :=
  rfl

theorem foldlM_infoStep_infoEntries (h : Header) :
    ∀ (l : Header) (m : List (String × String)),
      l.foldlM (infoStep unescape h) m = l.infoEntries.foldlM (infoStep unescape h) m
  | [], _ => rfl
  | e :: l, m => by
    by_cases he : "X-Bz-Info-".isPrefixOf e.1
    · simp only [Header.infoEntries, List.filter_cons, he, if_true, List.foldlM_cons]
      exact congrArg _ (funext fun m => foldlM_infoStep_infoEntries h l m)
    · simp only [Header.infoEntries, List.filter_cons, he, List.foldlM_cons, infoStep, if_false,
        Bool.false_eq_true]
      exact foldlM_infoStep_infoEntries h l m

theorem foldlM_infoStep (h : Header) {P : Header} {l : List (String × String)}
    (hr : List.Forall₂ (fun e p => "X-Bz-Info-".isPrefixOf e.1 = true ∧
      unescape (e.1.drop 10) = .ok p.1 ∧ unescape (h.get e.1) = .ok p.2) P l)
    (m : List (String × String)) :
    P.foldlM (infoStep unescape h) m = .ok (l.foldl (fun m p => setEntry m p.1 p.2) m) := by
  induction hr generalizing m with
  | nil => rfl
  | cons hep _ ih =>
    obtain ⟨hi, hn, hv⟩ := hep
    rw [List.foldlM_cons, infoStep, if_pos hi, hn, hv]
    exact ih _

variable (escape : String → String)

/-- The reply to a download whose header carries, in any order, the info entries of the header
an upload sent is read back into the upload's info map, with each name in canonical form. -/
theorem infoOf_upload (url : URL) (size : Int) (name contentType sha1 : String)
    (info : List (String × String)) (id : Int) {hs : List (String × String)} {h : Header}
    (hp : hs.Perm (url.uploadFileHeaders size name contentType sha1 info))
    (hd : (info.map fun kv => infoName kv.1).Nodup)
    (hname : ∀ kv ∈ info, unescape (infoName kv.1) = .ok (infoName kv.1))
    (hval : ∀ kv ∈ info, unescape (escape kv.2) = .ok kv.2)
    (hk : (h.map Prod.fst).Nodup)
    (hr : h.infoEntries.Perm
      (requestHeader escape url.b2.opts id "b2_upload_file" hs).infoEntries) :
    ∃ m, infoOf unescape h = .ok m ∧ m.Perm (info.map fun kv => (infoName kv.1, kv.2)) := by
  have hP := hr.trans (uploadFile_infoEntries escape url size name contentType sha1 id hp hd)
  have hget : ∀ kv ∈ info, h.get ("X-Bz-Info-" ++ infoName kv.1) = escape kv.2 := by
    intro kv hkv
    have hm : ("X-Bz-Info-" ++ infoName kv.1, [escape kv.2]) ∈ h.infoEntries :=
      hP.mem_iff.2 (List.mem_map_of_mem _ hkv)
    exact Header.get_of_mem hk (List.mem_of_mem_filter hm) (canonical_infoKey_infoName _)
  have hg : List.Forall₂ (fun e kv => e = ("X-Bz-Info-" ++ infoName kv.1, [escape kv.2]) ∧
      kv ∈ info) (info.map fun kv => ("X-Bz-Info-" ++ infoName kv.1, [escape kv.2])) info :=
    List.forall₂_map_left_iff.2 (List.forall₂_same.2 fun kv hkv => ⟨rfl, hkv⟩)
  obtain ⟨l, hl, hli⟩ := List.perm_comp_forall₂ hP hg
  have hread : List.Forall₂ (fun e p => "X-Bz-Info-".isPrefixOf e.1 = true ∧
      unescape (e.1.drop 10) = .ok p.1 ∧ unescape (h.get e.1) = .ok p.2) h.infoEntries
      (l.map fun kv => (infoName kv.1, kv.2)) := by
    refine List.forall₂_map_right_iff.2 (hl.imp fun e kv ⟨he, hkv⟩ => ?_)
    subst he
    exact ⟨isPrefixOf_append_self _ _, by simp [hname kv hkv], by rw [hget kv hkv, hval kv hkv]⟩
  have hn : ((l.map fun kv => (infoName kv.1, kv.2)).map Prod.fst).Nodup := by
    simpa using (hli.map _).nodup_iff.2 hd
  refine ⟨(l.map fun kv => (infoName kv.1, kv.2)).reverse, ?_, ?_⟩
  · rw [infoOf_eq_foldlM, foldlM_infoStep_infoEntries, foldlM_infoStep unescape h hread,
      foldl_setEntry_of_nodup _ _ hn (by simp), List.append_nil]
  · exact (List.reverse_perm _).trans (hli.map _)

variable (unmarshal : List UInt8 → ErrorMessage × Option GoError)
  (newRequestErr : String → String → Option GoError) (defaultTransport : RoundTripper)
  (quote : String → String)

theorem Bucket.downloadFileByName_of_ok {b : Bucket} {id : Int} {file : String}
    {offset len : Int} {header : Bool} {resp : Response} {clen : Int}
    {info : List (String × String)}
    (hn : newRequestErr (b.downloadRequest escape id file offset len header).verb
      (b.downloadRequest escape id file offset len header).uri = none)
    (ht : b.b2.opts.getTransport defaultTransport
      (b.downloadRequest escape id file offset len header) = .ok resp)
    (hs : resp.statusCode = 200 ∨ resp.statusCode = 206)
    (hc : parseInt (resp.header.get "Content-Length") = some clen)
    (hi : infoOf unescape resp.header = .ok info) :
    b.downloadFileByName unmarshal escape unescape newRequestErr defaultTransport quote id file
      offset len header = .ok
        { contentLength := clen, contentType := resp.header.get "Content-Type",
          id := resp.header.get "X-Bz-File-Id", info,
          sha1 := if resp.header.get "X-Bz-Content-Sha1" = "none" ∧
              (info.lookup "Large_file_sha1").getD "" ≠ "" then
            (info.lookup "Large_file_sha1").getD ""
          else resp.header.get "X-Bz-Content-Sha1" } := by
  have hs' : ¬(resp.statusCode ≠ 200 ∧ resp.statusCode ≠ 206) := by omega
  simp [Bucket.downloadFileByName, hn, makeNetRequest_ok ht, hs', hc, hi, bind, Except.bind, pure,
    Except.pure]

/-- **The info round trip.** A file uploaded with an info map is downloaded with that map, its
names in canonical form: when the reply to `DownloadFileByName` is a success with a length, and
its header carries, in any order, the info entries the upload sent, provided the names are
distinct in canonical form, `unescape` undoes `escape` on the values, and leaves the names,
which go out unescaped, alone. -/
theorem info_round_trip (url : URL) (size : Int) (name contentType sha1 : String)
    (info : List (String × String)) (uid : Int) {hs : List (String × String)}
    (hp : hs.Perm (url.uploadFileHeaders size name contentType sha1 info))
    (hd : (info.map fun kv => infoName kv.1).Nodup)
    (hname : ∀ kv ∈ info, unescape (infoName kv.1) = .ok (infoName kv.1))
    (hval : ∀ kv ∈ info, unescape (escape kv.2) = .ok kv.2)
    {b : Bucket} {id : Int} {file : String} {offset len : Int} {header : Bool} {resp : Response}
    (hn : newRequestErr (b.downloadRequest escape id file offset len header).verb
      (b.downloadRequest escape id file offset len header).uri = none)
    (ht : b.b2.opts.getTransport defaultTransport
      (b.downloadRequest escape id file offset len header) = .ok resp)
    (h200 : resp.statusCode = 200 ∨ resp.statusCode = 206)
    (hc : (parseInt (resp.header.get "Content-Length")).isSome)
    (hk : (resp.header.map Prod.fst).Nodup)
    (hr : resp.header.infoEntries.Perm
      (requestHeader escape url.b2.opts uid "b2_upload_file" hs).infoEntries) :
    ∃ r, b.downloadFileByName unmarshal escape unescape newRequestErr defaultTransport quote id
      file offset len header = .ok r ∧ r.info.Perm (info.map fun kv => (infoName kv.1, kv.2)) := by
  obtain ⟨clen, hclen⟩ := Option.isSome_iff_exists.1 hc
  obtain ⟨m, hm, hperm⟩ := infoOf_upload unescape escape url size name contentType sha1 info uid
    hp hd hname hval hk hr
  exact ⟨_, Bucket.downloadFileByName_of_ok unescape escape unmarshal newRequestErr
    defaultTransport quote hn ht h200 hclen hm, hperm⟩

/-- The header an upload to `photos` sent, as the reply to a download. -/
def photosReply : Response :=
  { statusCode := 200, status := "200 OK", body := [], readErr := none,
    header := requestHeader id photosUploadURL.b2.opts 1 "b2_upload_file"
      (photosUploadURL.uploadFileHeaders 5 "a.txt" "text/plain" "da39" [("color", "red")]) }

/-- A download from `photos` whose reply carries what the upload sent. -/
theorem photos_info_round_trip :
    ∃ r, (photos staleSession).downloadFileByName (fun _ => ({}, none)) id Except.ok
      (fun _ _ => none) (fun _ => .ok photosReply) id 2 "a.txt" 0 0 false = .ok r ∧
      r.info.Perm ([("color", "red")].map fun kv => (infoName kv.1, kv.2)) := by
  have hlen : photosReply.header.get "Content-Length" = toString (5 : Int) := by
    have hkv : ("Content-Length", toString (5 : Int)) ∈
        photosUploadURL.uploadFixedHeaders 5 "a.txt" "text/plain" "da39" := by
      simp [URL.uploadFixedHeaders]
    rw [photosReply, requestHeader_get_of_lastFor id _ _ _ (lastFor_upload_fixed _ _ _ _ _ _
      (List.Perm.refl _) hkv) (uploadFixed_not_reserved _ _ _ _ _ _ hkv)]
    simp
  exact info_round_trip Except.ok id (fun _ => ({}, none)) (fun _ _ => none)
    (fun _ => .ok photosReply) id photosUploadURL 5 "a.txt" "text/plain" "da39" [("color", "red")] 1
    (List.Perm.refl _) (List.nodup_singleton _) (fun _ _ => rfl) (fun _ _ => rfl) rfl rfl
    (.inl rfl) (by rw [hlen]; decide) (requestHeader_keys_nodup id _ _ _ _) (List.Perm.refl _)

end Download

end Blazer
