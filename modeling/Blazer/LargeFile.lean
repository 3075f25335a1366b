import Blazer.Session
import Blazer.FinalBytes
import Mathlib.Data.List.AList
import Mathlib.Data.BitVec
import Mathlib.Data.Int.Interval

/-!
# Large files, one call at a time

A large file is uploaded in numbered parts. `StartLargeFile` opens a session with an empty map
from part numbers to SHA1s; `CompileParts` resumes one from the parts already uploaded;
`AsLargeFile` turns a `File` into a session with no map at all. `UploadPart` sends one part
and, once the request succeeded, records its SHA1 and adds its size. `FinishLargeFile` lays the
map out as an array indexed by part number and sends it.

This file models each call on its own; `Blazer.Concurrent` interleaves them.

* **The sessions a run starts from** (`Opened.hashes_eq`): `StartLargeFile` and `CompileParts`
  return a map that holds exactly the parts they were given, whatever order the copy loop visits
  them in, and the running total they were given. `AsLargeFile` leaves the map nil, and the first
  successful `UploadPart` then panics (`asLargeFile_uploadPart_panics`).
* **The deferred hash** (`final_bytes_kept`): with the SHA1 `hex_digits_at_end`,
  `UploadPart` records the last 40 bytes of the part, however the transport reads it. A reader
  that yields more than the declared size makes it panic instead of failing
  (`keptBytes_eq_none_iff`, `overlong_part_panics`).
* **The array** (`finishPayload_spec`): when every part number is positive, `FinishLargeFile`
  fails locally exactly when the numbers are not `1..n`, and otherwise sends the SHA1s in
  part-number order, whatever order the map is iterated in. A part number below 1 makes it
  panic (`part_zero_finish_panics`).
-/

namespace Blazer

/-- A Go `map[int]string` from part numbers to SHA1s. -/
abbrev PartMap := AList fun _ : Int => String

/-- `LargeFile`, without its mutex. `size` is the `int64` running total; `hashes = none` is a
nil map. -/
structure LargeFile where
  id : String
  b2 : B2
  size : BitVec 64
  hashes : Option PartMap

/-- The entries of a map; a nil map has none. -/
def entriesOf : Option PartMap → List (Σ _ : Int, String)
  | some m => m.entries
  | none => []

/-! ## Opening a session -/

/-- `Bucket.StartLargeFile`: the call. -/
def Bucket.startLargeFileCall (b : Bucket) (name contentType : String)
    (info : List (String × String)) : Call :=
  b.b2.apiCall "b2_start_large_file" (.startLargeFile { bucketID := b.id, name, contentType, info })

/-- `Bucket.StartLargeFile`: the session it returns for the new file's id. -/
def Bucket.startLargeFileResult (b : Bucket) (fileID : String) : LargeFile :=
  { id := fileID, b2 := b.b2, size := 0, hashes := some ∅ }

/-- The loop `for k, v := range seen { s[k] = v }`, in the order of `seen`'s entries. -/
def copyEntries (seen : List (Σ _ : Int, String)) : PartMap :=
  seen.foldl (fun s e => s.insert e.1 e.2) ∅

/-- `File.CompileParts`: a session resumed with the parts in `seen` (`none` is a nil map) and
the running total `size`. -/
def File.compileParts (f : File) (size : BitVec 64) (seen : Option PartMap) : LargeFile :=
  { id := f.id, b2 := f.b2, size, hashes := some (copyEntries (entriesOf seen)) }

/-- `File.AsLargeFile`: a session with the file's id and session, and nothing else. -/
def File.asLargeFile (f : File) : LargeFile :=
  { id := f.id, b2 := f.b2, size := 0, hashes := none }

theorem lookup_copyEntries_aux (l : List (Σ _ : Int, String)) (hl : l.NodupKeys) (s : PartMap)
    (k : Int) : (l.foldl (fun s e => s.insert e.1 e.2) s).lookup k =
      (l.dlookup k).or (s.lookup k) := by
  induction l generalizing s with
  | nil => simp
  | cons e l ih =>
    obtain ⟨a, b⟩ := e
    rw [List.foldl_cons, ih (List.nodupKeys_cons.1 hl).2]
    by_cases hk : k = a
    · subst hk
      have : l.dlookup k = none := List.dlookup_eq_none.2 (List.nodupKeys_cons.1 hl).1
      simp [this, List.dlookup_cons_eq]
    · simp [AList.lookup_insert_ne hk, List.dlookup_cons_ne l ⟨a, b⟩ hk]

/-- The copy `CompileParts` makes has the same entries as `seen`, whatever order the copy
loop visits them in. -/
theorem lookup_copyEntries (m : PartMap) (k : Int) :
    (copyEntries m.entries).lookup k = m.lookup k := by
  rw [copyEntries, lookup_copyEntries_aux _ m.nodupKeys, AList.lookup_empty, Option.or_none]
  rfl

/-- A session that `StartLargeFile` or `CompileParts` returned, with the parts it was resumed
with and its running total: `StartLargeFile` resumes with no parts and 0 bytes. -/
inductive Opened : LargeFile → Option PartMap → BitVec 64 → Prop
  | startLargeFile (b : Bucket) (fileID : String) : Opened (b.startLargeFileResult fileID) none 0
  | compileParts (f : File) (size : BitVec 64) (seen : Option PartMap) :
      Opened (f.compileParts size seen) seen size

/-- An opened session has a map, which holds exactly the parts it was resumed with, and the
running total it was given. -/
theorem Opened.hashes_eq {l : LargeFile} {seen : Option PartMap} {size : BitVec 64}
    (h : Opened l seen size) :
    ∃ M, l.hashes = some M ∧ (∀ k, M.lookup k = seen.bind (AList.lookup k)) ∧ l.size = size := by
  cases h with
  | startLargeFile b fileID => exact ⟨∅, rfl, fun _ => rfl, rfl⟩
  | compileParts f size seen =>
    refine ⟨_, rfl, fun k => ?_, rfl⟩
    cases seen with
    | none => rfl
    | some m => exact lookup_copyEntries m k

/-! ## Uploading a part -/

/-- The SHA1 that asks for the hash to be read from the end of the part. -/
def hexDigitsAtEnd : String := "hex_digits_at_end"

/-- `string(b)` for a byte slice, each byte read as the code point of the same value: an
injective reading of Go's byte strings as Lean strings. -/
def goString (b : List UInt8) : String := String.mk (b.map fun x => Char.ofNat x.toNat)

theorem toNat_ofNat_byte (x : UInt8) : (Char.ofNat x.toNat).toNat = x.toNat := by
  have hx : x.toNat < 256 := x.val.isLt
  rw [Char.ofNat, dif_pos (Or.inl (by omega))]
  rfl

/-- Distinct byte strings read as distinct strings. -/
theorem goString_injective : Function.Injective goString := by
  intro a b h
  refine List.map_injective_iff.2 (fun x y hxy => ?_) (congrArg String.data h)
  have := congrArg Char.toNat hxy
  rw [toNat_ofNat_byte, toNat_ofNat_byte] at this
  exact UInt8.toNat.inj this

/-- `FileChunk`: an upload URL leased for one large file's parts. -/
structure FileChunk where
  url : String
  token : String

/-- `LargeFile.GetUploadPartURL`: the call. -/
def LargeFile.getUploadPartURLCall (l : LargeFile) : Call :=
  l.b2.apiCall "b2_get_upload_part_url" (.getUploadPartURL l.id)

/-- `FileChunk.UploadPart`: the call, for a body that yields `data`. -/
def FileChunk.uploadPartCall (fc : FileChunk) (sha1 : String) (size index : Int)
    (data : List UInt8) : Call :=
  { method := "b2_upload_part", verb := "POST", uri := fc.url, b2req := none,
    headers := [("Authorization", fc.token), ("X-Bz-Part-Number", toString index),
      ("Content-Length", toString size), ("X-Bz-Content-Sha1", sha1)],
    body := some { body := data, size } }

/-- The SHA1 that `UploadPart` records: the caller's, or for `hex_digits_at_end` the 40 bytes
the filter kept. -/
def recordedSha1 (sha1 : String) (kept : Fin 40 → UInt8) : String :=
  if sha1 = hexDigitsAtEnd then goString (List.ofFn kept) else sha1

/-- The critical section of `UploadPart`: `hashes[index] = sha1; size += int64(size)`. A write
to a nil map panics (`none`). -/
def LargeFile.recordPart (l : LargeFile) (index size : Int) (sha1 : String) : Option LargeFile :=
  l.hashes.map fun m =>
    { l with hashes := some (m.insert index sha1), size := l.size + .ofInt 64 size }

/-- What the filter kept of the body by the end of the request: the transport read it in
`chunks`. Without the sentinel there is no filter. `none` is a panic in `Read`. -/
def keptBytes (sha1 : String) (size : Int) (chunks : List (List UInt8)) :
    Option (Fin 40 → UInt8) :=
  if sha1 = hexDigitsAtEnd then ((KeepFinalBytes.start size).readAll chunks).map (·.2.sha)
  else some fun _ => 0

/-- `FileChunk.UploadPart` on the session `l`: the transport read the body in `chunks`, and the
request ended in `outcome`. The result is the returned count or error, and the session after
the call; `none` is a panic. -/
def uploadPart (l : LargeFile) (sha1 : String) (size index : Int) (chunks : List (List UInt8))
    (outcome : Except GoError Unit) : Option (Except GoError Int × LargeFile) := do
  let kept ← keptBytes sha1 size chunks
  match outcome with
  | .error err => pure (.error err, l)
  | .ok () => do
    let l ← l.recordPart index size (recordedSha1 sha1 kept)
    pure (.ok size, l)

/-- A session from `AsLargeFile` has a nil map: the first `UploadPart` on it whose request
succeeds panics. -/
theorem asLargeFile_uploadPart_panics (f : File) (sha1 : String) (size index : Int)
    (chunks : List (List UInt8)) :
    f.asLargeFile.hashes = none ∧ uploadPart f.asLargeFile sha1 size index chunks (.ok ()) = none := by
  refine ⟨rfl, ?_⟩
  simp only [uploadPart]
  cases keptBytes sha1 size chunks <;> rfl

/-- However the transport cuts a part `s` into reads, the filter never slices out of range,
hands on `s`, and ends holding the last 40 bytes of `s`, right-aligned after zeros when `s` is
shorter; a successful `UploadPart` with `hex_digits_at_end` records exactly those bytes. -/
theorem final_bytes_kept (chunks : List (List UInt8)) (l : LargeFile) (m : PartMap)
    (index : Int) :
    let s := chunks.flatten
    let last := List.replicate (40 - min 40 s.length) 0 ++ s.drop (s.length - 40)
    (∃ k, (KeepFinalBytes.start s.length).readAll chunks = some (s, k) ∧ List.ofFn k.sha = last) ∧
    uploadPart { l with hashes := some m } hexDigitsAtEnd s.length index chunks (.ok ()) =
      some (.ok s.length, { l with hashes := some (m.insert index (goString last)),
                                   size := l.size + .ofInt 64 s.length }) := by
  obtain ⟨k, hk, hsha⟩ := readAll_keeps_last chunks
  refine ⟨⟨k, hk, hsha⟩, ?_⟩
  simp only [uploadPart, keptBytes, recordedSha1, ↓reduceIte, hk, Option.map_some',
    Option.bind_eq_bind, Option.some_bind, LargeFile.recordPart, hsha]
  rfl

/-- With `hex_digits_at_end`, `UploadPart` on a part of `size` bytes panics exactly when the
reads of its body deliver more than `size` bytes: `net/http` reads the body again after the
first `size` bytes, to check that it ends there, and a byte it finds goes through the filter. -/
theorem keptBytes_eq_none_iff (size : Nat) (chunks : List (List UInt8)) :
    keptBytes hexDigitsAtEnd size chunks = none ↔ size < chunks.flatten.length := by
  rw [keptBytes, if_pos rfl, Option.map_eq_none',
    KeepFinalBytes.readAll_eq_none_iff chunks _ size rfl]

theorem uploadPart_of_keptBytes {l : LargeFile} {sha1 : String} {size index : Int}
    {chunks : List (List UInt8)} (h : keptBytes sha1 size chunks = none)
    (outcome : Except GoError Unit) : uploadPart l sha1 size index chunks outcome = none := by
  simp [uploadPart, h]

/-- A part declared as 5 bytes whose reader has a sixth: the read of the sixth byte, after the
five, makes `UploadPart` panic, whatever the request's outcome. -/
theorem overlong_part_panics (l : LargeFile) (index : Int) (outcome : Except GoError Unit) :
    keptBytes hexDigitsAtEnd 5 [[1, 2, 3, 4, 5], [6]] = none ∧
      uploadPart l hexDigitsAtEnd 5 index [[1, 2, 3, 4, 5], [6]] outcome = none := by
  have h : keptBytes hexDigitsAtEnd 5 [[1, 2, 3, 4, 5], [6]] = none :=
    (keptBytes_eq_none_iff 5 _).2 (by decide)
  exact ⟨h, uploadPart_of_keptBytes h outcome⟩

/-! ## Finishing -/

/-- `fmt.Errorf("b2_finish_large_file: invalid index %d", k)`. -/
def invalidIndex (k : Int) : GoError :=
  .other ("b2_finish_large_file: invalid index " ++ toString k)

/-- The loop of `FinishLargeFile` over the map in iteration order, filling `b2req.Hashes`: an
error at a key above the array's length, and a panic (`none`) at an index `k - 1` below 0. -/
def fillHashes (hashes : List String) :
    List (Σ _ : Int, String) → Option (Except GoError (List String))
  | [] => some (.ok hashes)
  | ⟨k, v⟩ :: rest =>
    if (hashes.length : Int) < k then some (.error (invalidIndex k))
    else if k - 1 < 0 then none
    else fillHashes (hashes.set (k - 1).toNat v) rest

/-- What `FinishLargeFile` sends as `partSha1Array`, or its local error, when the map is
iterated in `order`. -/
def LargeFile.finishPayload (l : LargeFile) (order : List (Σ _ : Int, String)) :
    Option (Except GoError (List String)) :=
  fillHashes (List.replicate (entriesOf l.hashes).length "") order

/-- `b2types.FinishLargeFileResponse`, without the timestamp. -/
structure FinishLargeFileResponse where
  name : String
  fileID : String
  action : String

/-- `LargeFile.FinishLargeFile`: the call. -/
def LargeFile.finishLargeFileCall (l : LargeFile) (hashes : List String) : Call :=
  l.b2.apiCall "b2_finish_large_file" (.finishLargeFile { id := l.id, hashes })

/-- `LargeFile.FinishLargeFile`, with the map iterated in `order` and `send` the outcome of the
request. A local error returns before `send` is consulted. -/
def LargeFile.finishLargeFile (l : LargeFile) (order : List (Σ _ : Int, String))
    (send : Call → Except GoError FinishLargeFileResponse) : Option (Except GoError File) :=
  (l.finishPayload order).map fun
    | .error err => .error err
    | .ok hashes => (send (l.finishLargeFileCall hashes)).map fun resp =>
      { name := resp.name, size := l.size, status := resp.action, id := resp.fileID, b2 := l.b2 }

/-- Storing entry `e` at index `e.1 - 1`. -/
def setAt (arr : List String) (e : Σ _ : Int, String) : List String := arr.set (e.1 - 1).toNat e.2

theorem fillHashes_of_le {arr : List String} {l : List (Σ _ : Int, String)}
    (h : ∀ e ∈ l, 1 ≤ e.1 ∧ e.1 ≤ arr.length) :
    fillHashes arr l = some (.ok (l.foldl setAt arr)) := by
  induction l generalizing arr with
  | nil => rfl
  | cons e l ih =>
    obtain ⟨k, v⟩ := e
    have hk := h ⟨k, v⟩ (List.mem_cons_self _ _)
    simp only at hk
    rw [fillHashes, if_neg (by omega), if_neg (by omega), List.foldl_cons, ih]
    · rfl
    · intro e he
      simpa [setAt] using h e (List.mem_cons_of_mem _ he)

theorem fillHashes_of_gt {arr : List String} {l : List (Σ _ : Int, String)}
    (hpos : ∀ e ∈ l, 1 ≤ e.1) (h : ∃ e ∈ l, (arr.length : Int) < e.1) :
    ∃ k, fillHashes arr l = some (.error (invalidIndex k)) := by
  induction l generalizing arr with
  | nil => simp at h
  | cons e l ih =>
    obtain ⟨k, v⟩ := e
    have hk := hpos ⟨k, v⟩ (List.mem_cons_self _ _)
    simp only at hk
    by_cases hgt : (arr.length : Int) < k
    · exact ⟨k, by rw [fillHashes, if_pos hgt]⟩
    · rw [fillHashes, if_neg hgt, if_neg (by omega)]
      refine ih (fun e he => hpos e (List.mem_cons_of_mem _ he)) ?_
      obtain ⟨e, he, hlt⟩ := h
      rcases List.mem_cons.1 he with rfl | he
      · exact absurd hlt hgt
      · exact ⟨e, he, by simpa using hlt⟩

theorem getD_foldl_setAt {l : List (Σ _ : Int, String)} (hl : l.NodupKeys)
    (hpos : ∀ e ∈ l, 1 ≤ e.1) {arr : List String} {i : Nat} (hi : i < arr.length) :
    (l.foldl setAt arr).getD i "" = (l.dlookup (i + 1 : Int)).getD (arr.getD i "") := by
  induction l generalizing arr with
  | nil => rfl
  | cons e l ih =>
    obtain ⟨k, v⟩ := e
    have hk := hpos ⟨k, v⟩ (List.mem_cons_self _ _)
    simp only at hk
    rw [List.foldl_cons, ih (List.nodupKeys_cons.1 hl).2
      (fun e he => hpos e (List.mem_cons_of_mem _ he)) (by simpa [setAt] using hi)]
    by_cases hik : (i + 1 : Int) = k
    · subst hik
      have hnone : l.dlookup (i + 1 : Int) = none :=
        List.dlookup_eq_none.2 (List.nodupKeys_cons.1 hl).1
      have hset : (setAt arr ⟨(i + 1 : Int), v⟩).getD i "" = v := by
        simp [setAt, List.getD_eq_getElem?_getD, hi]
      rw [hnone, Option.getD_none, hset, List.dlookup_cons_eq, Option.getD_some]
    · have hne : (k - 1).toNat ≠ i := by omega
      rw [List.dlookup_cons_ne l ⟨k, v⟩ hik]
      simp only [setAt, List.getD_eq_getElem?_getD, List.getElem?_set_ne hne]

theorem length_foldl_setAt (l : List (Σ _ : Int, String)) (arr : List String) :
    (l.foldl setAt arr).length = arr.length := by
  induction l generalizing arr with
  | nil => rfl
  | cons e l ih => simp [ih, setAt]

/-- `n` distinct part numbers between 1 and `n` are all of `1..n`. -/
theorem keys_eq_Icc_iff (m : PartMap) :
    (∀ k ∈ m.keys, 1 ≤ k ∧ k ≤ m.entries.length) ↔
      ∀ k : Int, k ∈ m.keys ↔ 1 ≤ k ∧ k ≤ m.entries.length := by
  refine ⟨fun h k => ?_, fun h k hk => (h k).1 hk⟩
  have hsub : m.keys.toFinset ⊆ Finset.Icc 1 (m.entries.length : Int) := fun k hk => by
    simpa using h k (List.mem_toFinset.1 hk)
  have hcard : (Finset.Icc 1 (m.entries.length : Int)).card ≤ m.keys.toFinset.card := by
    rw [Int.card_Icc, List.toFinset_card_of_nodup m.keys_nodup]
    simp [AList.keys, List.keys]
  rw [← List.mem_toFinset, Finset.eq_of_subset_of_card_le hsub hcard, Finset.mem_Icc]

/-- The array of a map: slot `i` holds the SHA1 of part `i + 1`, or `""`. -/
def partArray (m : PartMap) : List String :=
  (List.range m.entries.length).map fun i : Nat => (m.lookup (i + 1 : Int)).getD ""

/-- With positive part numbers, `FinishLargeFile` never panics; it fails locally exactly when
the part numbers are not `1..n`, and otherwise sends the SHA1s in part-number order, whatever
order the map is iterated in. -/
theorem finishPayload_spec {l : LargeFile} {m : PartMap} {order : List (Σ _ : Int, String)}
    (hl : l.hashes = some m) (ho : order.Perm m.entries) (hpos : ∀ k ∈ m.keys, 1 ≤ k) :
    let n := m.entries.length
    l.finishPayload order ≠ none ∧
    ((∃ err, l.finishPayload order = some (.error err)) ↔
      ¬ ∀ k : Int, k ∈ m.keys ↔ 1 ≤ k ∧ k ≤ n) ∧
    ((∀ k : Int, k ∈ m.keys ↔ 1 ≤ k ∧ k ≤ n) →
      l.finishPayload order = some (.ok (partArray m))) := by
  intro n
  have hmem : ∀ e ∈ order, e.1 ∈ m.keys := fun e he =>
    List.mem_keys_of_mem (ho.subset he)
  have hnd : order.NodupKeys := (ho.map Sigma.fst).nodup_iff.2 m.nodupKeys
  have hpay : l.finishPayload order = fillHashes (List.replicate n "") order := by
    simp [LargeFile.finishPayload, hl, entriesOf, n]
  have hok : (∀ k : Int, k ∈ m.keys ↔ 1 ≤ k ∧ k ≤ n) →
      l.finishPayload order = some (.ok (partArray m)) := by
    intro hall
    unfold partArray
    rw [hpay, fillHashes_of_le (fun e he => by simpa using (hall e.1).1 (hmem e he))]
    congr 2
    apply List.ext_getElem (by simp [length_foldl_setAt])
    intro i h₁ h₂
    have hi : i < n := by simpa [length_foldl_setAt] using h₁
    have := @getD_foldl_setAt order hnd (fun e he => hpos _ (hmem e he)) (List.replicate n "") i
      (by simpa using hi)
    rw [List.getD_eq_getElem?_getD, List.getElem?_eq_getElem h₁] at this
    simp only [Option.getD_some] at this
    rw [this, List.getElem_map, List.getElem_range, AList.lookup,
      List.perm_dlookup _ hnd m.nodupKeys ho]
    simp [hi]
  have herr : (¬ ∀ k : Int, k ∈ m.keys ↔ 1 ≤ k ∧ k ≤ n) →
      ∃ err, l.finishPayload order = some (.error err) := by
    intro hall
    rw [← keys_eq_Icc_iff] at hall
    push_neg at hall
    obtain ⟨k, hk, hkn⟩ := hall
    obtain ⟨v, hv⟩ := List.mem_keys.1 hk
    obtain ⟨k', hk'⟩ := @fillHashes_of_gt (List.replicate n "") order
      (fun e he => hpos _ (hmem e he)) ⟨⟨k, v⟩, ho.symm.subset hv, by simpa using hkn (hpos k hk)⟩
    exact ⟨_, hpay.trans hk'⟩
  refine ⟨fun hnone => ?_, ⟨fun ⟨err, h⟩ hall => ?_, herr⟩, hok⟩
  · by_cases hall : ∀ k : Int, k ∈ m.keys ↔ 1 ≤ k ∧ k ≤ n
    · rw [hok hall] at hnone; cases hnone
    · obtain ⟨err, h⟩ := herr hall
      rw [h] at hnone; cases hnone
  · rw [hok hall] at h; cases h

theorem fillHashes_ok_bounds {arr r : List String} {l : List (Σ _ : Int, String)}
    (h : fillHashes arr l = some (.ok r)) : ∀ e ∈ l, 1 ≤ e.1 ∧ e.1 ≤ arr.length := by
  induction l generalizing arr with
  | nil => simp
  | cons e l ih =>
    obtain ⟨k, v⟩ := e
    rw [fillHashes] at h
    split_ifs at h with h₁ h₂
    · cases h
    · intro e he
      rcases List.mem_cons.1 he with rfl | he
      · simp only; omega
      · simpa using ih h e he

/-- A payload built without error is the map's SHA1s in part-number order. -/
theorem finishPayload_ok {l : LargeFile} {m : PartMap} {order : List (Σ _ : Int, String)}
    {arr : List String} (hl : l.hashes = some m) (ho : order.Perm m.entries)
    (h : l.finishPayload order = some (.ok arr)) : arr = partArray m := by
  have hb : ∀ k ∈ m.keys, 1 ≤ k ∧ k ≤ m.entries.length := fun k hk => by
    obtain ⟨v, hv⟩ := List.mem_keys.1 hk
    simpa [hl, entriesOf] using fillHashes_ok_bounds h ⟨k, v⟩ (ho.symm.subset hv)
  have hspec := (finishPayload_spec hl ho fun k hk => (hb k hk).1).2.2 ((keys_eq_Icc_iff m).1 hb)
  rw [h] at hspec
  injection hspec with hspec
  injection hspec

/-- A file whose large upload is unfinished. -/
def unfinished : File :=
  { name := "movie.mp4", size := 0, status := "start", id := "f-1", b2 := staleSession }

/-- The map `{0: "abc"}`. -/
def partZero : PartMap := (∅ : PartMap).insert 0 "abc"

/-- A part numbered 0, which `UploadPart` accepts, makes `FinishLargeFile` index
`b2req.Hashes[-1]`: a panic, where a part number above the array gets a local error. The same
map reaches `FinishLargeFile` through `CompileParts`, with no request at all, and the panic comes
before the request is made, whatever its outcome would be. -/
theorem part_zero_finish_panics :
    (∃ l', uploadPart ((photos staleSession).startLargeFileResult "f-1") "abc" 5 0
        [[1, 2, 3, 4, 5]] (.ok ()) = some (.ok 5, l') ∧
      l'.finishPayload (entriesOf l'.hashes) = none) ∧
    ∀ send, (unfinished.compileParts 5 (some partZero)).finishLargeFile
      (entriesOf (unfinished.compileParts 5 (some partZero)).hashes) send = none :=
  ⟨⟨_, rfl, rfl⟩, fun _ => rfl⟩

end Blazer
