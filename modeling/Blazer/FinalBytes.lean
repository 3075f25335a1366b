import Mathlib.Data.Fintype.Basic
import Mathlib.Data.List.OfFn

/-!
# Keeping the final bytes of a stream

When a part is uploaded with the SHA1 `hex_digits_at_end`, its stream ends with the hex digits
of its own SHA1, which the uploader learns only as the bytes go by. `keepFinalBytes` wraps the
stream: each `Read` is passed on unchanged, and the bytes that fall within the last 40 of the
stream (`remain` counts what is left) are copied into a 40-byte array.

**Theorem (`readAll_keeps_last`).** However the stream `s` is cut into reads, the filter
never slices out of range, hands on exactly `s`, and ends holding the last `min 40 |s|` bytes
of `s`, right-aligned after zeros.

The proof is a loop invariant over the reads: after the first `c` bytes, byte `j` of the array
is byte `j + |s| - 40` of `s` if that position exists and is below `c`, and zero otherwise
(`Window`). One read moves `c` to `c + n`; the window arithmetic of `Read` (`pi`, `ki`, `ke`)
lands each byte of the read at its place (`read_window`).

**Over-long streams.** Once more bytes arrive than `remain` announced, `Read` slices the array
past its end: the reads panic exactly when the stream is longer than `remain`
(`readAll_eq_none_iff`).
-/

namespace Blazer

/-- `keepFinalBytes`, without the reader it wraps. `sha` is the array `[40]byte`. -/
structure KeepFinalBytes where
  remain : Int
  sha : Fin 40 → UInt8

/-- `copy(a[lo:hi], src)` into the 40-byte array: the first `min (hi - lo) |src|` bytes of
`src` land from `lo` on. -/
def copySlice (a : Fin 40 → UInt8) (lo hi : Nat) (src : List UInt8) : Fin 40 → UInt8 :=
  fun j => if lo ≤ j.val ∧ j.val < lo + min (hi - lo) src.length then src.getD (j.val - lo) 0
    else a j

namespace KeepFinalBytes

/-- `keepFinalBytes.Read`, once the wrapped reader has put `chunk` at the front of `p`: the
bytes handed on, and the new state. `none` is a slice-bounds panic: `k.sha[ki:ke]` needs
`0 ≤ ki ≤ ke ≤ 40`, and `p[pi:pe]` needs `0 ≤ pi ≤ pe`. -/
def read (k : KeepFinalBytes) (chunk : List UInt8) : Option (List UInt8 × KeepFinalBytes) :=
  let n : Int := chunk.length
  if k.remain - n > 40 then some (chunk, { k with remain := k.remain - n })
  else
    let pi := max (-40 + k.remain) 0
    let pe := n
    let ki := max (40 - k.remain) 0
    let ke := n - k.remain + 40
    if ki ≤ ke ∧ ke ≤ 40 ∧ pi ≤ pe then
      some (chunk, { remain := k.remain - n,
                     sha := copySlice k.sha ki.toNat ke.toNat (chunk.drop pi.toNat) })
    else none

/-- The filter over a body read in `chunks`: the bytes handed on, and the final state. -/
def readAll (k : KeepFinalBytes) : List (List UInt8) → Option (List UInt8 × KeepFinalBytes)
  | [] => some ([], k)
  | c :: cs => do
    let (out, k) ← k.read c
    let (rest, k) ← k.readAll cs
    pure (out ++ rest, k)

/-- The filter as `UploadPart` sets it up for a part of `size` bytes. -/
def start (size : Int) : KeepFinalBytes := { remain := size, sha := fun _ => 0 }

theorem read_of_lt {k : KeepFinalBytes} {chunk : List UInt8} {r : Nat} (hr : k.remain = r)
    (h : chunk.length + 40 < r) :
    k.read chunk = some (chunk, { k with remain := k.remain - chunk.length }) := by
  simp only [read, hr]
  rw [if_pos (by omega)]

theorem read_of_le {k : KeepFinalBytes} {chunk : List UInt8} {r : Nat} (hr : k.remain = r)
    (hn : chunk.length ≤ r) (h : r ≤ chunk.length + 40) :
    k.read chunk = some (chunk,
      { remain := k.remain - chunk.length
        sha := copySlice k.sha (40 - r) (chunk.length + 40 - r) (chunk.drop (r - 40)) }) := by
  simp only [read, hr]
  rw [if_neg (by omega), if_pos (by omega), show (max (40 - (r : Int)) 0).toNat = 40 - r by omega,
    show ((chunk.length : Int) - r + 40).toNat = chunk.length + 40 - r by omega,
    show (max (-40 + (r : Int)) 0).toNat = r - 40 by omega]

theorem read_of_gt {k : KeepFinalBytes} {chunk : List UInt8} {r : Nat} (hr : k.remain = r)
    (h : r < chunk.length) : k.read chunk = none := by
  simp only [read, hr]
  rw [if_neg (by omega), if_neg (by omega)]

theorem read_of_le_remain {k : KeepFinalBytes} {chunk : List UInt8} {r : Nat}
    (hr : k.remain = r) (h : chunk.length ≤ r) :
    ∃ k', k.read chunk = some (chunk, k') ∧ k'.remain = ((r - chunk.length : Nat) : Int) := by
  by_cases h₄₀ : chunk.length + 40 < r
  · exact ⟨_, read_of_lt hr h₄₀, by simp only [hr]; omega⟩
  · exact ⟨_, read_of_le hr h (by omega), by simp only [hr]; omega⟩

/-- However the body is cut into reads, they panic exactly when they deliver more bytes than
remain. -/
theorem readAll_eq_none_iff (chunks : List (List UInt8)) :
    ∀ (k : KeepFinalBytes) (r : Nat), k.remain = r →
      (k.readAll chunks = none ↔ r < chunks.flatten.length) := by
  induction chunks with
  | nil => intro k r _; simp [readAll]
  | cons c cs ih =>
    intro k r hr
    by_cases h : r < c.length
    · simp [readAll, read_of_gt hr h]
      omega
    · obtain ⟨k', hk', hr'⟩ := read_of_le_remain hr (show c.length ≤ r by omega)
      have hrest := ih k' _ hr'
      cases h' : k'.readAll cs <;> simp [readAll, hk', h'] at hrest ⊢ <;> omega

end KeepFinalBytes

/-! ## The loop invariant -/

/-- Byte `j` of the array after the first `c` bytes of `s` went by: the byte of `s` that ends
up at `j` when `s` is right-aligned in 40 bytes, once it has been read. -/
def windowAt (s : List UInt8) (c : Nat) (j : Nat) : UInt8 :=
  if 40 ≤ j + s.length ∧ j + s.length - 40 < c then s.getD (j + s.length - 40) 0 else 0

/-- The filter has seen the first `c` bytes of `s`. -/
structure Window (s : List UInt8) (c : Nat) (k : KeepFinalBytes) : Prop where
  remain : k.remain = s.length - c
  sha : ∀ j : Fin 40, k.sha j = windowAt s c j

theorem window_start (s : List UInt8) :
    Window s 0 (KeepFinalBytes.start s.length) :=
  ⟨by simp [KeepFinalBytes.start], fun j => by simp [KeepFinalBytes.start, windowAt]⟩

theorem windowAt_of_outside {s : List UInt8} {c n j : Nat}
    (h : j + s.length < c + 40 ∨ c + n + 40 ≤ j + s.length) :
    windowAt s (c + n) j = windowAt s c j := by
  unfold windowAt
  split_ifs <;> first | rfl | omega

theorem windowAt_of_inside {s : List UInt8} {c n j : Nat}
    (h : c + 40 ≤ j + s.length ∧ j + s.length < c + n + 40) :
    windowAt s (c + n) j = s.getD (j + s.length - 40) 0 := by
  rw [windowAt, if_pos (by omega)]

theorem window_index {L c j : Nat} (hc : c ≤ L) (hj : j < 40) (h : c + 40 ≤ j + L) :
    c + (L - c - 40 + (j - (40 - (L - c)))) = j + L - 40 := by
  omega

theorem getD_drop_take (s : List UInt8) (c n i : Nat) (h : i < n) :
    ((s.drop c).take n).getD i 0 = s.getD (c + i) 0 := by
  simp [List.getD_eq_getElem?_getD, List.getElem?_take_of_lt h, List.getElem?_drop]

theorem copied_iff {r n j : Nat} (h : ¬ n + 40 < r) :
    (40 - r ≤ j ∧ j < 40 - r + min (n + 40 - r - (40 - r)) (n - (r - 40))) ↔
      40 ≤ j + r ∧ j + r < n + 40 := by
  have hmin : min (n + 40 - r - (40 - r)) (n - (r - 40)) = n + 40 - r - (40 - r) := by omega
  rw [hmin]
  omega

/-- One read of the next `n` bytes keeps the invariant and does not panic. -/
theorem read_window {s : List UInt8} {c n : Nat} {k : KeepFinalBytes} (hw : Window s c k)
    (hn : c + n ≤ s.length) :
    ∃ k', k.read ((s.drop c).take n) = some ((s.drop c).take n, k') ∧ Window s (c + n) k' := by
  have hlen : ((s.drop c).take n).length = n := by simp; omega
  have hr : k.remain = ((s.length - c : Nat) : Int) := by rw [hw.remain]; omega
  by_cases h : n + 40 < s.length - c
  · -- the read ends before the last 40 bytes
    refine ⟨_, KeepFinalBytes.read_of_lt hr (by omega),
      ⟨by simp only [hw.remain, hlen]; omega, fun j => ?_⟩⟩
    rw [hw.sha, windowAt_of_outside (by omega)]
  · refine ⟨_, KeepFinalBytes.read_of_le hr (by omega) (by omega),
      ⟨by simp only [hw.remain, hlen]; omega, fun j => ?_⟩⟩
    have hj := j.isLt
    simp only [copySlice, List.length_drop, hlen, copied_iff h]
    split_ifs with h₃
    · -- byte `j` comes from this read
      have h₄ : c + 40 ≤ j.val + s.length ∧ j.val + s.length < c + n + 40 := by omega
      rw [windowAt_of_inside h₄, List.getD_eq_getElem?_getD, List.getElem?_drop,
        ← List.getD_eq_getElem?_getD, getD_drop_take _ _ _ _ (by omega),
        window_index (by omega) hj h₄.1]
    · rw [hw.sha, windowAt_of_outside (by omega)]

/-- However the rest of a stream is cut into reads, the filter hands on every byte and keeps
the window. -/
theorem readAll_window (s : List UInt8) :
    ∀ (cs : List (List UInt8)) (c : Nat) (k : KeepFinalBytes), Window s c k → c ≤ s.length →
      cs.flatten = s.drop c → ∃ k', k.readAll cs = some (s.drop c, k') ∧ Window s s.length k'
  | [], c, k, hw, hc, hj => by
    have hlen := congrArg List.length hj
    simp only [List.flatten_nil, List.length_nil, List.length_drop] at hlen
    obtain rfl : c = s.length := by omega
    exact ⟨k, by simp [KeepFinalBytes.readAll], hw⟩
  | d :: cs, c, k, hw, hc, hj => by
    have hd : (s.drop c).take d.length = d := by
      rw [← hj, List.flatten_cons, List.take_left]
    have hrest : cs.flatten = s.drop (c + d.length) := by
      rw [← List.drop_drop, ← hj, List.flatten_cons, List.drop_left]
    have hn : c + d.length ≤ s.length := by
      have hlen := congrArg List.length hj
      simp only [List.flatten_cons, List.length_append, List.length_drop] at hlen
      omega
    obtain ⟨k₁, h₁, hw₁⟩ := read_window hw hn
    obtain ⟨k₂, h₂, hw₂⟩ := readAll_window s cs (c + d.length) k₁ hw₁ hn hrest
    rw [hd] at h₁
    refine ⟨k₂, ?_, hw₂⟩
    simp only [KeepFinalBytes.readAll, h₁, h₂, Option.bind_eq_bind, Option.some_bind]
    rw [← hrest, ← hj, List.flatten_cons]
    rfl

theorem ofFn_window {s : List UInt8} {k : KeepFinalBytes} (hw : Window s s.length k) :
    List.ofFn k.sha = List.replicate (40 - min 40 s.length) 0 ++ s.drop (s.length - 40) := by
  apply List.ext_getElem
  · simp only [List.length_ofFn, List.length_append, List.length_replicate, List.length_drop]
    omega
  · intro j h₁ _
    simp only [List.length_ofFn] at h₁
    rw [List.getElem_ofFn, hw.sha, windowAt, List.getElem_append]
    simp only [List.length_replicate, Fin.val_mk]
    split_ifs with h₃ h₄ h₄
    · omega
    · rw [List.getElem_drop, List.getD_eq_getElem?_getD, List.getElem?_eq_getElem (by omega)]
      simp only [Option.getD_some]
      congr 1
      omega
    · simp
    · omega

/-- However a stream is cut into reads, the filter hands on the stream and ends holding its
last `min 40 |s|` bytes, right-aligned after zeros. -/
theorem readAll_keeps_last (chunks : List (List UInt8)) :
    ∃ k, (KeepFinalBytes.start chunks.flatten.length).readAll chunks = some (chunks.flatten, k) ∧
      List.ofFn k.sha = List.replicate (40 - min 40 chunks.flatten.length) 0 ++
        chunks.flatten.drop (chunks.flatten.length - 40) := by
  obtain ⟨k, hk, hw⟩ := readAll_window chunks.flatten chunks 0 _ (window_start _) (Nat.zero_le _)
    (List.drop_zero _).symm
  exact ⟨k, hk, ofFn_window hw⟩

end Blazer
