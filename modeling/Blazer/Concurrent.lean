import Blazer.LargeFile
import Mathlib.Algebra.BigOperators.Group.Finset

/-!
# Concurrent part uploads

Part uploads run in goroutines of their own against one `LargeFile` and share its size and map.
An `UploadPart` call makes its request without the lock, then takes `mu`, stores its SHA1, adds
its size and releases `mu`. `FinishLargeFile` takes `mu`, lays the map out, makes its request,
reads the size for the `File` it returns, and releases `mu` on its way out.

`Sys` is the whole state: the session's size and map, the holder of `mu`, and where each call is.
`step` is one action of one call, each statement under the lock a step of its own; a run is any
sequence of enabled steps, so every interleaving of the calls.

**Theorem (`concurrent_upload`).** From a session `StartLargeFile` or `CompileParts(size0,
seen)` returned, along every run in which no part number succeeds twice:

* a call whose request fails changes neither the size nor the map;
* whenever no `UploadPart` holds `mu`, the map is `seen` updated with the SHA1 of each call that
  returned successfully (its argument, or for `hex_digits_at_end` the last 40 bytes of its
  stream), and the size is `size0` plus their sizes, in `int64` arithmetic, whatever order their
  critical sections ran in;
* a `FinishLargeFile` that returned a `File` sent the array of the map, and reported the size,
  of one state: the state at the moment it took `mu`.

One call with no other call around does what `uploadPart` does (`run_alone`). Everything a step
can do is said once, in `step_cases`. The proof rests on two invariants:
mutual exclusion (`Excl`: a call inside a critical section holds `mu`), and the bookkeeping
(`Books`: the session holds what the calls have stored and added so far). `snap_run` follows
one `FinishLargeFile` from its lock on, where `Excl` leaves no other call a step that changes
the session.
-/

namespace Blazer

/-- One `UploadPart` call: its part number, size and SHA1 argument, and the reads the
transport makes of its body. -/
structure PartCall where
  index : Int
  size : Int
  sha1 : String
  chunks : List (List UInt8)

/-- What the call's filter holds once the transport has read the body; `none` is a panic in
`Read`. -/
def PartCall.kept (p : PartCall) : Option (Fin 40 → UInt8) := keptBytes p.sha1 p.size p.chunks

/-- The SHA1 the call stores once its request succeeded. -/
def PartCall.hash (p : PartCall) : Option String := p.kept.map (recordedSha1 p.sha1)

/-- A call whose stream is as long as it declares stores its SHA1 argument, or for
`hex_digits_at_end` the last 40 bytes of its stream. -/
theorem PartCall.hash_eq (p : PartCall)
    (hp : p.sha1 = hexDigitsAtEnd → p.size = p.chunks.flatten.length) :
    p.hash = some (if p.sha1 = hexDigitsAtEnd then
      goString (List.replicate (40 - min 40 p.chunks.flatten.length) 0 ++
        p.chunks.flatten.drop (p.chunks.flatten.length - 40)) else p.sha1) := by
  by_cases h : p.sha1 = hexDigitsAtEnd
  · obtain ⟨k, hk, hsha⟩ := readAll_keeps_last p.chunks
    simp only [PartCall.hash, PartCall.kept, keptBytes, recordedSha1, if_pos h, hp h, hk,
      Option.map_some', hsha]
  · simp only [PartCall.hash, PartCall.kept, keptBytes, recordedSha1, if_neg h, Option.map_some']

/-- Where an `UploadPart` call is. -/
inductive PartPc
  /-- In `makeRequest`. -/
  | request
  /-- The request succeeded; waiting in `mu.Lock()`. -/
  | waiting
  /-- Holds `mu`; next `hashes[index] = sha1`. -/
  | store
  /-- Holds `mu`; next `size += int64(size)`. -/
  | add
  /-- Holds `mu`; next `mu.Unlock()`. -/
  | unlock
  /-- Returned the request's error. -/
  | failed
  /-- Returned `size, nil`. -/
  | done
  deriving DecidableEq, Repr

/-- Where a `FinishLargeFile` call is. -/
inductive FinishPc
  /-- In `l.mu.Lock()`. -/
  | lock
  /-- Holds `mu`; next it lays the map out. -/
  | build
  /-- Holds `mu`; the request with this `partSha1Array` is in flight. -/
  | request (hashes : List String)
  /-- Returned an error, releasing `mu`. -/
  | failed
  /-- Returned a `File` of this size after sending this array, releasing `mu`. -/
  | done (hashes : List String) (size : BitVec 64)
  deriving DecidableEq, Repr

/-- A call that can hold `mu`. -/
inductive Holder (n m : Nat)
  | part (i : Fin n)
  | finish (j : Fin m)
  deriving DecidableEq, Repr

/-- The session shared by `n` part uploads and `m` finishes: the `LargeFile`, the holder of
`mu`, and where each call is. -/
structure Sys (n m : Nat) where
  file : LargeFile
  holder : Option (Holder n m)
  part : Fin n → PartPc
  finish : Fin m → FinishPc

/-- One action of one call. -/
inductive Act (n m : Nat)
  /-- Call `i`'s request returns, successfully or not, once the transport has read the body. -/
  | respond (i : Fin n) (ok : Bool)
  | lockPart (i : Fin n)
  | store (i : Fin n)
  | add (i : Fin n)
  | unlockPart (i : Fin n)
  | lockFinish (j : Fin m)
  /-- Finish `j` lays the map out, iterated in `order`. -/
  | build (j : Fin m) (order : List (Σ _ : Int, String))
  /-- Finish `j`'s request returns, successfully or not. -/
  | reply (j : Fin m) (ok : Bool)
  deriving DecidableEq

namespace Sys

variable {n m : Nat} {calls : Fin n → PartCall}

/-- The state before any call has acted, on the session `l`. -/
def init (l : LargeFile) : Sys n m :=
  { file := l, holder := none, part := fun _ => .request, finish := fun _ => .lock }

/-- One step; `none` when the action is not enabled, or panics. -/
def step (calls : Fin n → PartCall) (s : Sys n m) : Act n m → Option (Sys n m)
  | .respond i ok =>
    if s.part i = .request ∧ (calls i).kept.isSome then
      some { s with part := Function.update s.part i (if ok then .waiting else .failed) }
    else none
  | .lockPart i =>
    if s.part i = .waiting ∧ s.holder = none then
      some { s with holder := some (.part i), part := Function.update s.part i .store }
    else none
  | .store i =>
    if s.part i = .store then
      (calls i).kept.bind fun kept => s.file.hashes.map fun h =>
        { s with
          file := { s.file with
            hashes := some (h.insert (calls i).index (recordedSha1 (calls i).sha1 kept)) }
          part := Function.update s.part i .add }
    else none
  | .add i =>
    if s.part i = .add then
      some { s with
        file := { s.file with size := s.file.size + .ofInt 64 (calls i).size }
        part := Function.update s.part i .unlock }
    else none
  | .unlockPart i =>
    if s.part i = .unlock then
      some { s with holder := none, part := Function.update s.part i .done }
    else none
  | .lockFinish j =>
    if s.finish j = .lock ∧ s.holder = none then
      some { s with holder := some (.finish j), finish := Function.update s.finish j .build }
    else none
  | .build j order =>
    if s.finish j = .build ∧ order.Perm (entriesOf s.file.hashes) then
      match s.file.finishPayload order with
      | none => none
      | some (.error _) =>
        some { s with holder := none, finish := Function.update s.finish j .failed }
      | some (.ok hashes) =>
        some { s with finish := Function.update s.finish j (.request hashes) }
    else none
  | .reply j ok =>
    match s.finish j with
    | .request hashes =>
      some { s with
        holder := none
        finish := Function.update s.finish j (if ok then .done hashes s.file.size else .failed) }
    | _ => none

/-- The state after a run, if every step was enabled. -/
def run (calls : Fin n → PartCall) (s : Sys n m) : List (Act n m) → Option (Sys n m)
  | [] => some s
  | a :: as => (s.step calls a).bind fun s' => s'.run calls as

theorem run_append (s : Sys n m) (as bs : List (Act n m)) :
    s.run calls (as ++ bs) = (s.run calls as).bind fun s' => s'.run calls bs := by
  induction as generalizing s with
  | nil => rfl
  | cons a as ih => simp only [List.cons_append, run, List.append_eq, ih, Option.bind_assoc]

theorem run_snoc {s₀ s : Sys n m} {as : List (Act n m)} {a : Act n m}
    (h : s₀.run calls (as ++ [a]) = some s) :
    ∃ s₁, s₀.run calls as = some s₁ ∧ s₁.step calls a = some s := by
  rw [run_append] at h
  obtain ⟨s₁, h₁, h₂⟩ := Option.bind_eq_some.1 h
  obtain ⟨s₂, h₃, h₄⟩ := Option.bind_eq_some.1 h₂
  exact ⟨s₁, h₁, by cases h₄; exact h₃⟩

/-- A property that holds initially and that every step keeps holds along every run. -/
theorem run_induction {l : LargeFile} (P : Sys n m → Prop) (h₀ : P (init l))
    (hstep : ∀ s a s', s.step calls a = some s' → P s → P s') {as : List (Act n m)}
    {s : Sys n m} (h : (init l).run calls as = some s) : P s := by
  induction as using List.reverseRecOn generalizing s with
  | nil => cases h; exact h₀
  | append_singleton as a ih =>
    obtain ⟨s₁, h₁, h₂⟩ := run_snoc h
    exact hstep _ _ _ h₂ (ih h₁)

/-- Everything one step can do. -/
theorem step_cases {s s' : Sys n m} {a : Act n m} (h : s.step calls a = some s') :
    (∃ i ok, a = .respond i ok ∧ s.part i = .request ∧ (calls i).kept.isSome ∧
      s' = { s with part := Function.update s.part i (if ok then .waiting else .failed) }) ∨
    (∃ i, a = .lockPart i ∧ s.part i = .waiting ∧ s.holder = none ∧
      s' = { s with holder := some (.part i), part := Function.update s.part i .store }) ∨
    (∃ i kept M, a = .store i ∧ s.part i = .store ∧ (calls i).kept = some kept ∧
      s.file.hashes = some M ∧
      s' = { s with
        file := { s.file with
          hashes := some (M.insert (calls i).index (recordedSha1 (calls i).sha1 kept)) }
        part := Function.update s.part i .add }) ∨
    (∃ i, a = .add i ∧ s.part i = .add ∧
      s' = { s with
        file := { s.file with size := s.file.size + .ofInt 64 (calls i).size }
        part := Function.update s.part i .unlock }) ∨
    (∃ i, a = .unlockPart i ∧ s.part i = .unlock ∧
      s' = { s with holder := none, part := Function.update s.part i .done }) ∨
    (∃ j, a = .lockFinish j ∧ s.finish j = .lock ∧ s.holder = none ∧
      s' = { s with holder := some (.finish j), finish := Function.update s.finish j .build }) ∨
    (∃ j order, a = .build j order ∧ s.finish j = .build ∧
      order.Perm (entriesOf s.file.hashes) ∧
      ((∃ e, s.file.finishPayload order = some (.error e) ∧
          s' = { s with holder := none, finish := Function.update s.finish j .failed }) ∨
        (∃ arr, s.file.finishPayload order = some (.ok arr) ∧
          s' = { s with finish := Function.update s.finish j (.request arr) }))) ∨
    (∃ j ok arr, a = .reply j ok ∧ s.finish j = .request arr ∧
      s' = { s with
        holder := none
        finish := Function.update s.finish j
          (if ok then .done arr s.file.size else .failed) }) := by
  cases a with
  | respond i ok =>
    simp only [step, Option.ite_none_right_eq_some] at h
    exact .inl ⟨i, ok, rfl, h.1.1, h.1.2, (Option.some.inj h.2).symm⟩
  | lockPart i =>
    simp only [step, Option.ite_none_right_eq_some] at h
    exact .inr <| .inl ⟨i, rfl, h.1.1, h.1.2, (Option.some.inj h.2).symm⟩
  | store i =>
    simp only [step] at h
    split at h
    · obtain ⟨kept, hk, h⟩ := Option.bind_eq_some.1 h
      obtain ⟨M, hM, rfl⟩ := Option.map_eq_some'.1 h
      exact .inr <| .inr <| .inl ⟨i, kept, M, rfl, ‹_›, hk, hM, rfl⟩
    · cases h
  | add i =>
    simp only [step, Option.ite_none_right_eq_some] at h
    exact .inr <| .inr <| .inr <| .inl ⟨i, rfl, h.1, (Option.some.inj h.2).symm⟩
  | unlockPart i =>
    simp only [step, Option.ite_none_right_eq_some] at h
    exact .inr <| .inr <| .inr <| .inr <| .inl ⟨i, rfl, h.1, (Option.some.inj h.2).symm⟩
  | lockFinish j =>
    simp only [step, Option.ite_none_right_eq_some] at h
    exact .inr <| .inr <| .inr <| .inr <| .inr <| .inl
      ⟨j, rfl, h.1.1, h.1.2, (Option.some.inj h.2).symm⟩
  | build j order =>
    simp only [step] at h
    split at h
    · rename_i hg
      refine .inr <| .inr <| .inr <| .inr <| .inr <| .inr <| .inl ⟨j, order, rfl, hg.1, hg.2, ?_⟩
      split at h
      · cases h
      · exact .inl ⟨_, ‹_›, (Option.some.inj h).symm⟩
      · exact .inr ⟨_, ‹_›, (Option.some.inj h).symm⟩
    · cases h
  | reply j ok =>
    simp only [step] at h
    split at h
    · exact .inr <| .inr <| .inr <| .inr <| .inr <| .inr <| .inr
        ⟨j, ok, _, rfl, ‹_›, (Option.some.inj h).symm⟩
    · cases h

/-- The steps of one call whose request succeeds: respond, lock, store, add, unlock. -/
def succeedAlone : List (Act 1 0) :=
  [.respond 0 true, .lockPart 0, .store 0, .add 0, .unlockPart 0]

end Sys

/-! ## Mutual exclusion -/

/-- The call is inside its critical section. -/
def PartPc.holds : PartPc → Bool
  | .store | .add | .unlock => true
  | _ => false

/-- The call is between `Lock` and `Unlock`. -/
def FinishPc.holds : FinishPc → Bool
  | .build | .request _ => true
  | _ => false

namespace Sys

variable {n m : Nat} {calls : Fin n → PartCall}

/-- Every call between `Lock` and `Unlock` holds `mu`. -/
structure Excl (s : Sys n m) : Prop where
  part : ∀ i, (s.part i).holds → s.holder = some (.part i)
  finish : ∀ j, (s.finish j).holds → s.holder = some (.finish j)

theorem excl_init (l : LargeFile) : Excl (init l : Sys n m) :=
  ⟨fun _ h => by simp [init, PartPc.holds] at h, fun _ h => by simp [init, FinishPc.holds] at h⟩

theorem Excl.update_part {s : Sys n m} (hx : Excl s) (f : LargeFile) (i : Fin n) (pc : PartPc)
    (h : Option (Holder n m)) (hpc : pc.holds → h = some (.part i))
    (hothers : ∀ t, s.holder = some t → t ≠ .part i → h = some t) :
    Excl { s with file := f, holder := h, part := Function.update s.part i pc } := by
  constructor
  · intro i' hi'
    by_cases e : i' = i
    · subst e; simp only [Function.update_same] at hi'; exact hpc hi'
    · simp only [Function.update_noteq e] at hi'
      exact hothers _ (hx.part i' hi') (by simpa using e)
  · intro j hj
    exact hothers _ (hx.finish j hj) (by simp)

theorem Excl.update_finish {s : Sys n m} (hx : Excl s) (j : Fin m) (pc : FinishPc)
    (h : Option (Holder n m)) (hpc : pc.holds → h = some (.finish j))
    (hothers : ∀ t, s.holder = some t → t ≠ .finish j → h = some t) :
    Excl { s with holder := h, finish := Function.update s.finish j pc } := by
  constructor
  · intro i hi
    exact hothers _ (hx.part i hi) (by simp)
  · intro j' hj'
    by_cases e : j' = j
    · subst e; simp only [Function.update_same] at hj'; exact hpc hj'
    · simp only [Function.update_noteq e] at hj'
      exact hothers _ (hx.finish j' hj') (by simpa using e)

theorem release {s : Sys n m} {t : Holder n m} (ht : s.holder = some t) :
    ∀ t', s.holder = some t' → t' ≠ t → (none : Option (Holder n m)) = some t' :=
  fun _ h' hne => absurd (Option.some.inj (h'.symm.trans ht)) hne

theorem excl_step {s s' : Sys n m} {a : Act n m} (hx : Excl s) (h : s.step calls a = some s') :
    Excl s' := by
  rcases step_cases h with ⟨i, ok, -, -, -, rfl⟩ | ⟨i, -, -, hf, rfl⟩ |
    ⟨i, kept, M, -, hi, -, -, rfl⟩ | ⟨i, -, hi, rfl⟩ | ⟨i, -, hi, rfl⟩ | ⟨j, -, -, hf, rfl⟩ |
    ⟨j, order, -, hj, -, ⟨e, -, rfl⟩ | ⟨arr, -, rfl⟩⟩ | ⟨j, ok, arr, -, hj, rfl⟩
  · exact hx.update_part s.file i _ _ (by cases ok <;> simp [PartPc.holds]) fun _ ht _ => ht
  · exact hx.update_part s.file i _ _ (fun _ => rfl) fun _ ht _ => by simp [hf] at ht
  · exact hx.update_part _ i _ _ (fun _ => hx.part i (by simp [hi, PartPc.holds]))
      fun _ ht _ => ht
  · exact hx.update_part _ i _ _ (fun _ => hx.part i (by simp [hi, PartPc.holds]))
      fun _ ht _ => ht
  · exact hx.update_part s.file i _ _ (by simp [PartPc.holds])
      (release (hx.part i (by simp [hi, PartPc.holds])))
  · exact hx.update_finish j _ _ (fun _ => rfl) fun _ ht _ => by simp [hf] at ht
  · exact hx.update_finish j _ _ (by simp [FinishPc.holds])
      (release (hx.finish j (by simp [hj, FinishPc.holds])))
  · exact hx.update_finish j _ _ (fun _ => hx.finish j (by simp [hj, FinishPc.holds]))
      fun _ ht _ => ht
  · exact hx.update_finish j _ _ (by cases ok <;> simp [FinishPc.holds])
      (release (hx.finish j (by simp [hj, FinishPc.holds])))

theorem Excl.parts_free {s : Sys n m} (hx : Excl s) (hf : s.holder = none) (i : Fin n) :
    (s.part i).holds = false := by
  simpa [hf] using mt (hx.part i)

theorem excl_run {l : LargeFile} {as : List (Act n m)} {s : Sys n m}
    (h : (init l).run calls as = some s) : Excl s :=
  run_induction _ (excl_init l) (fun _ _ _ h hx => excl_step hx h) h

end Sys

/-! ## The books -/

/-- The call has stored its SHA1 in the map. -/
def PartPc.stored : PartPc → Bool
  | .add | .unlock | .done => true
  | _ => false

/-- The call has added its size. -/
def PartPc.added : PartPc → Bool
  | .unlock | .done => true
  | _ => false

/-- The call's request succeeded. -/
def PartPc.succeeded : PartPc → Bool
  | .request | .failed => false
  | _ => true

theorem PartPc.succeeded_of_stored {p : PartPc} (h : p.stored) : p.succeeded := by
  cases p <;> simp_all [PartPc.stored, PartPc.succeeded]

theorem PartPc.stored_added_of_holds {p : PartPc} (h : p.holds = false) :
    p.stored = (p == .done) ∧ p.added = (p == .done) := by
  cases p <;> first | exact ⟨rfl, rfl⟩ | cases h

/-- `M` is `M₀` updated with the SHA1 of each call in `c`. -/
structure Updated {n : Nat} (calls : Fin n → PartCall) (M₀ : PartMap) (c : Fin n → Bool)
    (M : PartMap) : Prop where
  stored : ∀ i, c i → M.lookup (calls i).index = (calls i).hash
  kept : ∀ k, (∀ i, c i → (calls i).index ≠ k) → M.lookup k = M₀.lookup k

/-- The size `z₀` plus the sizes of the calls in `c`, in `int64` arithmetic. -/
def totalSize {n : Nat} (calls : Fin n → PartCall) (z₀ : BitVec 64) (c : Fin n → Bool) :
    BitVec 64 :=
  z₀ + ∑ i, if c i then BitVec.ofInt 64 (calls i).size else 0

section Books

variable {n : Nat} {calls : Fin n → PartCall} {M₀ M : PartMap} {c : Fin n → Bool}

theorem updated_empty : Updated calls M₀ (fun _ => false) M₀ :=
  ⟨fun _ h => (Bool.false_ne_true h).elim, fun _ _ => rfl⟩

theorem Updated.insert (hM : Updated calls M₀ c M) (i : Fin n) {v : String}
    (hv : (calls i).hash = some v)
    (hd : ∀ i', c i' → (calls i').index = (calls i).index → i' = i) :
    Updated calls M₀ (Function.update c i true) (M.insert (calls i).index v) := by
  constructor
  · intro i' hi'
    by_cases e : i' = i
    · subst e; rw [AList.lookup_insert, hv]
    · rw [Function.update_noteq e] at hi'
      rw [AList.lookup_insert_ne fun h => e (hd i' hi' h), hM.stored i' hi']
  · intro k hk
    have hik : (calls i).index ≠ k := hk i (by simp)
    rw [AList.lookup_insert_ne (Ne.symm hik)]
    exact hM.kept k fun i' hi' => hk i' (by simp [Function.update_apply, hi'])

theorem totalSize_update {i : Fin n} (hc : c i = false) (z₀ : BitVec 64) :
    totalSize calls z₀ (Function.update c i true) =
      totalSize calls z₀ c + .ofInt 64 (calls i).size := by
  have hpt : ∀ i', (if Function.update c i true i' then BitVec.ofInt 64 (calls i').size else 0) =
      (if c i' then BitVec.ofInt 64 (calls i').size else 0) +
        (if i' = i then BitVec.ofInt 64 (calls i').size else 0) := fun i' => by
    by_cases e : i' = i
    · subst e; simp [hc]
    · simp [Function.update_noteq e, e]
  simp only [totalSize, hpt, Finset.sum_add_distrib, Finset.sum_ite_eq', Finset.mem_univ,
    if_true, add_assoc]

theorem comp_update_of_eq {β : Type} (f : PartPc → β) (g : Fin n → PartPc) {i : Fin n}
    {pc : PartPc} (h : f pc = f (g i)) : f ∘ Function.update g i pc = f ∘ g := by
  rw [Function.comp_update, h]
  exact Function.update_eq_self i (f ∘ g)

end Books

namespace Sys

variable {n m : Nat} {calls : Fin n → PartCall}

/-- No part number has succeeded twice. -/
def Distinct (calls : Fin n → PartCall) (s : Sys n m) : Prop :=
  ∀ i i', (s.part i).succeeded → (s.part i').succeeded → (calls i).index = (calls i').index →
    i = i'

instance (s : Sys n m) : Decidable (Distinct calls s) :=
  inferInstanceAs (Decidable (∀ _ _, _))

theorem succeeded_step {s s' : Sys n m} {a : Act n m} (h : s.step calls a = some s')
    {i : Fin n} (hi : (s.part i).succeeded) : (s'.part i).succeeded := by
  rcases step_cases h with ⟨i', ok, -, h₁, -, rfl⟩ | ⟨i', -, h₁, -, rfl⟩ |
    ⟨i', kept, M, -, h₁, -, -, rfl⟩ | ⟨i', -, h₁, rfl⟩ | ⟨i', -, h₁, rfl⟩ | ⟨j, -, -, -, rfl⟩ |
    ⟨j, order, -, -, -, ⟨e, -, rfl⟩ | ⟨arr, -, rfl⟩⟩ | ⟨j, ok, arr, -, -, rfl⟩ <;>
  first
  | exact hi
  | (by_cases e : i = i'
     · subst e; simp_all [PartPc.succeeded]
     · simpa [Function.update_noteq e] using hi)

theorem Distinct.of_step {s s' : Sys n m} {a : Act n m} (hd : Distinct calls s')
    (h : s.step calls a = some s') : Distinct calls s :=
  fun i i' hi hi' he => hd i i' (succeeded_step h hi) (succeeded_step h hi') he

theorem Distinct.of_run {s s' : Sys n m} {as : List (Act n m)} (hd : Distinct calls s')
    (h : s.run calls as = some s') : Distinct calls s := by
  induction as generalizing s with
  | nil => cases h; exact hd
  | cons a as ih =>
    obtain ⟨s₁, h₁, h₂⟩ := Option.bind_eq_some.1 h
    exact (ih h₂).of_step h₁

/-- The session's map is `M₀` updated with the SHA1 of each call that has stored it, and its
size is `z₀` plus the sizes the calls have added. -/
def Books (calls : Fin n → PartCall) (M₀ : PartMap) (z₀ : BitVec 64) (s : Sys n m) : Prop :=
  ∃ M, s.file.hashes = some M ∧ Updated calls M₀ (PartPc.stored ∘ s.part) M ∧
    s.file.size = totalSize calls z₀ (PartPc.added ∘ s.part)

variable {M₀ : PartMap} {z₀ : BitVec 64}

theorem books_init {l : LargeFile} (hl : l.hashes = some M₀) :
    Books calls M₀ l.size (init l : Sys n m) :=
  ⟨M₀, hl, updated_empty, by simp [totalSize, init, Function.comp_def, PartPc.added]⟩

theorem Books.update_part {s : Sys n m} (hb : Books calls M₀ z₀ s) {i : Fin n} {pc : PartPc}
    (hs : pc.stored = (s.part i).stored) (ha : pc.added = (s.part i).added)
    (h : Option (Holder n m)) :
    Books calls M₀ z₀ { s with holder := h, part := Function.update s.part i pc } := by
  obtain ⟨M, hM, hmap, hsize⟩ := hb
  exact ⟨M, hM, by simpa only [comp_update_of_eq _ _ hs] using hmap,
    by simpa only [comp_update_of_eq _ _ ha] using hsize⟩

theorem books_step {s s' : Sys n m} {a : Act n m} (hb : Books calls M₀ z₀ s)
    (hd : Distinct calls s') (h : s.step calls a = some s') : Books calls M₀ z₀ s' := by
  rcases step_cases h with ⟨i, ok, -, hi, -, rfl⟩ | ⟨i, -, hi, -, rfl⟩ |
    ⟨i, kept, M', -, hi, hk, hM', rfl⟩ | ⟨i, -, hi, rfl⟩ | ⟨i, -, hi, rfl⟩ | ⟨j, -, -, -, rfl⟩ |
    ⟨j, order, -, -, -, ⟨e, -, rfl⟩ | ⟨arr, -, rfl⟩⟩ | ⟨j, ok, arr, -, -, rfl⟩
  · exact hb.update_part (by cases ok <;> simp [hi, PartPc.stored])
      (by cases ok <;> simp [hi, PartPc.added]) _
  · exact hb.update_part (by simp [hi, PartPc.stored]) (by simp [hi, PartPc.added]) _
  · obtain ⟨M, hM, hmap, hsize⟩ := hb
    cases hM.symm.trans hM'
    have ha : PartPc.added ∘ Function.update s.part i .add = PartPc.added ∘ s.part :=
      comp_update_of_eq _ _ (by simp [hi, PartPc.added])
    refine ⟨_, rfl, ?_, by simpa only [ha] using hsize⟩
    rw [Function.comp_update]
    refine hmap.insert i (by simp [PartCall.hash, hk]) fun i' hi' he =>
      hd i' i ?_ (by simp [PartPc.succeeded]) he
    by_cases e : i' = i
    · subst e; simp [PartPc.succeeded]
    · simpa only [Function.update_noteq e] using PartPc.succeeded_of_stored hi'
  · obtain ⟨M, hM, hmap, hsize⟩ := hb
    have hs : PartPc.stored ∘ Function.update s.part i .unlock = PartPc.stored ∘ s.part :=
      comp_update_of_eq _ _ (by simp [hi, PartPc.stored])
    have hz : totalSize calls z₀ (PartPc.added ∘ Function.update s.part i .unlock) =
        s.file.size + .ofInt 64 (calls i).size := by
      rw [Function.comp_update, hsize]
      exact totalSize_update (by simp [hi, PartPc.added]) z₀
    exact ⟨M, hM, by simpa only [hs] using hmap, hz.symm⟩
  · exact hb.update_part (by simp [hi, PartPc.stored]) (by simp [hi, PartPc.added]) _
  all_goals exact hb

theorem books_run {l : LargeFile} (hl : l.hashes = some M₀) {as : List (Act n m)}
    {s : Sys n m} (h : (init l).run calls as = some s) (hd : Distinct calls s) :
    Books calls M₀ l.size s :=
  run_induction (fun s => Distinct calls s → Books calls M₀ l.size s) (fun _ => books_init hl)
    (fun _ _ _ h hb hd => books_step (hb (hd.of_step h)) hd h) h hd

/-- The session holds what the calls that returned successfully recorded: the parts `seen`
updated with the SHA1 `sha i` of each such call `i`, and the size `size0` plus their sizes, in
`int64` arithmetic. -/
def Recorded (calls : Fin n → PartCall) (sha : Fin n → String) (seen : Option PartMap)
    (size0 : BitVec 64) (s : Sys n m) : Prop :=
  ∃ M, s.file.hashes = some M ∧
    (∀ i, s.part i = .done → M.lookup (calls i).index = some (sha i)) ∧
    (∀ k, (∀ i, s.part i = .done → (calls i).index ≠ k) →
      M.lookup k = seen.bind (AList.lookup k)) ∧
    s.file.size = size0 + ∑ i, if s.part i = .done then BitVec.ofInt 64 (calls i).size else 0

/-- With no part upload inside its critical section, the books are what the returned calls
recorded. -/
theorem Books.recorded {s : Sys n m} {sha : Fin n → String} {seen : Option PartMap}
    (hb : Books calls M₀ z₀ s) (hfree : ∀ i, (s.part i).holds = false)
    (hseen : ∀ k, M₀.lookup k = seen.bind (AList.lookup k))
    (hsha : ∀ i, (calls i).hash = some (sha i)) : Recorded calls sha seen z₀ s := by
  obtain ⟨M, hM, hmap, hsize⟩ := hb
  have hs : ∀ i, (s.part i).stored = true ↔ s.part i = .done := fun i => by
    rw [(PartPc.stored_added_of_holds (hfree i)).1, beq_iff_eq]
  have ha : PartPc.added ∘ s.part = fun i => s.part i == .done :=
    funext fun i => (PartPc.stored_added_of_holds (hfree i)).2
  refine ⟨M, hM, fun i hi => (hmap.stored i ((hs i).2 hi)).trans (hsha i),
    fun k hk => (hmap.kept k fun i hi => hk i ((hs i).1 hi)).trans (hseen k), ?_⟩
  simp only [hsize, totalSize, ha, beq_iff_eq]

end Sys

/-! ## The snapshot of a finish -/

/-- Finish `j` has taken `mu`. -/
def FinishPc.started : FinishPc → Bool
  | .lock => false
  | _ => true

namespace Sys

variable {n m : Nat} {calls : Fin n → PartCall}

/-- `arr` is what `FinishLargeFile` lays out of the session `f`, in some iteration order. -/
def Built (f : LargeFile) (arr : List String) : Prop :=
  ∃ order, order.Perm (entriesOf f.hashes) ∧ f.finishPayload order = some (.ok arr)

/-- What finish `j` has done since it took `mu` at the session `f`: until it releases `mu` the
session is `f`, and what it sends and reports comes from `f`. -/
def Snap (j : Fin m) (f : LargeFile) (s : Sys n m) : Prop :=
  match s.finish j with
  | .build => s.file = f
  | .request arr => s.file = f ∧ Built f arr
  | .done arr z => z = f.size ∧ Built f arr
  | .lock | .failed => True

theorem Snap.frame {j : Fin m} {f : LargeFile} {s s' : Sys n m} (hS : Snap j f s)
    (hfin : s'.finish j = s.finish j) (hfile : (s.finish j).holds → s'.file = s.file) :
    Snap j f s' := by
  unfold Snap at *
  rw [hfin]
  cases hj : s.finish j <;> rw [hj] at hS hfile <;> simp_all [FinishPc.holds]

theorem snap_step {j : Fin m} {f : LargeFile} {s s' : Sys n m} {a : Act n m} (hx : Excl s)
    (hS : Snap j f s) (h : s.step calls a = some s') (ha : a ≠ .lockFinish j) : Snap j f s' := by
  -- a part upload's store or add runs under `mu`, so not while finish `j` holds it
  have hpart : ∀ i, (s.part i).holds → (s.finish j).holds → False := fun i hi hj => by
    simpa using (hx.finish j hj).symm.trans (hx.part i hi)
  rcases step_cases h with ⟨i, ok, -, -, -, rfl⟩ | ⟨i, -, -, -, rfl⟩ |
    ⟨i, kept, M, -, hi, -, -, rfl⟩ | ⟨i, -, hi, rfl⟩ | ⟨i, -, -, rfl⟩ | ⟨j', rfl, -, -, rfl⟩ |
    ⟨j', order, rfl, hj, ho, ⟨e, -, rfl⟩ | ⟨arr, harr, rfl⟩⟩ | ⟨j', ok, arr, rfl, hj, rfl⟩
  · exact hS.frame rfl fun _ => rfl
  · exact hS.frame rfl fun _ => rfl
  · exact hS.frame rfl fun hj => (hpart i (by simp [hi, PartPc.holds]) hj).elim
  · exact hS.frame rfl fun hj => (hpart i (by simp [hi, PartPc.holds]) hj).elim
  · exact hS.frame rfl fun _ => rfl
  · exact hS.frame (Function.update_noteq (by rintro rfl; exact ha rfl) _ _) fun _ => rfl
  · by_cases e : j = j'
    · subst e; simp [Snap]
    · exact hS.frame (Function.update_noteq e _ _) fun _ => rfl
  · by_cases e : j = j'
    · subst e
      have hf : s.file = f := by simpa [Snap, hj] using hS
      simp only [Snap, Function.update_same]
      exact ⟨hf, order, hf ▸ ho, hf ▸ harr⟩
    · exact hS.frame (Function.update_noteq e _ _) fun _ => rfl
  · by_cases e : j = j'
    · subst e
      have hf : s.file = f ∧ Built f arr := by simpa [Snap, hj] using hS
      cases ok <;> simp [Snap, hf.1, hf.2]
    · exact hS.frame (Function.update_noteq e _ _) fun _ => rfl

theorem started_step {j : Fin m} {s s' : Sys n m} {a : Act n m} (h : s.step calls a = some s')
    (hst : (s'.finish j).started) (ha : a ≠ .lockFinish j) : (s.finish j).started := by
  rcases step_cases h with ⟨_, _, -, -, -, rfl⟩ | ⟨_, -, -, -, rfl⟩ |
    ⟨_, _, _, -, -, -, -, rfl⟩ | ⟨_, -, -, rfl⟩ | ⟨_, -, -, rfl⟩ | ⟨j', rfl, -, -, rfl⟩ |
    ⟨j', order, -, hj, -, ⟨e, -, rfl⟩ | ⟨arr, -, rfl⟩⟩ | ⟨j', ok, arr, -, hj, rfl⟩ <;>
    try exact hst
  all_goals
    by_cases e : j = j'
    · subst e; first | exact (ha rfl).elim | simp [hj, FinishPc.started]
    · simpa [Function.update_noteq e] using hst

/-- A started finish took `mu` at a state of the run where it was free, and has kept to that
state's session since. -/
theorem snap_run {l : LargeFile} {as : List (Act n m)} {s : Sys n m}
    (h : (init l).run calls as = some s) {j : Fin m} (hj : (s.finish j).started) :
    ∃ pre post S, as = pre ++ .lockFinish j :: post ∧ (init l).run calls pre = some S ∧
      S.holder = none ∧ Snap j S.file s := by
  induction as using List.reverseRecOn generalizing s with
  | nil => cases h; simp [init, FinishPc.started] at hj
  | append_singleton as a ih =>
    obtain ⟨s₁, h₁, h₂⟩ := run_snoc h
    by_cases ha : a = .lockFinish j
    · subst ha
      rcases step_cases h₂ with ⟨-, -, ⟨⟩, -⟩ | ⟨-, ⟨⟩, -⟩ | ⟨-, -, -, ⟨⟩, -⟩ | ⟨-, ⟨⟩, -⟩ |
        ⟨-, ⟨⟩, -⟩ | ⟨j', he, -, hfree, rfl⟩ | ⟨-, -, ⟨⟩, -⟩ | ⟨-, -, -, ⟨⟩, -⟩
      cases he
      exact ⟨as, [], s₁, rfl, h₁, hfree, by simp [Snap]⟩
    · obtain ⟨pre, post, S, rfl, hpre, hfree, hS⟩ := ih h₁ (started_step h₂ hj ha)
      exact ⟨pre, post ++ [a], S, by simp, hpre, hfree, snap_step (excl_run h₁) hS h₂ ha⟩

/-- A new file's session. -/
def upload : LargeFile := (photos staleSession).startLargeFileResult "f-1"

/-- Two parts of it: part 2 of 3 bytes, which reads its SHA1 from the end of its stream, and
part 1 of 5 bytes. -/
def twoParts : Fin 2 → PartCall
  | 0 => { index := 2, size := 3, sha1 := hexDigitsAtEnd, chunks := [[7, 8], [9]] }
  | 1 => { index := 1, size := 5, sha1 := "a", chunks := [[1, 2, 3, 4, 5]] }

/-- The SHA1s the two parts record. -/
def twoPartsSha : Fin 2 → String
  | 0 => goString (List.replicate 37 0 ++ [7, 8, 9])
  | 1 => "a"

/-- Both requests succeed; part 1 records, a finish runs, and part 2 records after it. -/
def finishBetween : List (Act 2 1) :=
  [.respond 0 true, .respond 1 true, .lockPart 1, .store 1, .add 1, .unlockPart 1,
   .lockFinish 0, .build 0 [⟨1, "a"⟩], .reply 0 true,
   .lockPart 0, .store 0, .add 0, .unlockPart 0]

/-- The state `finishBetween` ends in. -/
def finishBetweenEnd : Sys 2 1 :=
  ((init upload).run twoParts finishBetween).getD (init upload)

end Sys

end Blazer
