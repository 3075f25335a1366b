import Blazer.Http

/-!
# What a call sends

`makeRequest` builds the header of a request in three layers: the caller's headers, set one by
one in the order Go ranges over the caller's map; then the request id and the method; then the
session's test modes and user agent (`addHeaders`). Every key is put in canonical form on the
way in, so two caller keys that differ only in case land on the same header key.

**Theorem (`requestHeader_get`).** At every key the header reads as `sentValue` says: the user
agent, the method and the request id whatever the caller passed; a caller's test mode before the
session's; and otherwise the value of the last caller entry with that canonical key, escaped for
the `X-Bz-Info` and `X-Bz-File-Name` keys.

**The order of the caller's map does not matter** (`requestHeader_perm`) when its keys are
distinct in canonical form. Two keys such as `X-Bz-Info-color` and `X-Bz-Info-Color` make the
header depend on the order Go picks.

The proof reads a header through `Header.first`, the first value of a key, with one lemma per
way `makeRequest` writes it (`set` or `add`, at the key or elsewhere).
-/

namespace Blazer

namespace Header

/-- The first value of key `k`, if the key is there; `get` is this, or `""`. -/
def first (h : Header) (k : String) : Option String :=
  (h.lookup (canonicalMIMEHeaderKey k)).bind List.head?

theorem get_eq_first (h : Header) (k : String) : h.get k = (h.first k).getD "" := rfl

theorem first_set_of_eq (h : Header) {k k' : String} (v : String)
    (hk : canonicalMIMEHeaderKey k = canonicalMIMEHeaderKey k') :
    (h.set k' v).first k = some v := by
  simp [first, set, hk]

theorem first_set_of_ne (h : Header) {k k' : String} (v : String)
    (hk : canonicalMIMEHeaderKey k ≠ canonicalMIMEHeaderKey k') :
    (h.set k' v).first k = h.first k := by
  simp only [first, set, lookup_cons_of_ne _ hk, lookup_filter_ne hk]

theorem first_add_of_eq (h : Header) {k k' : String} (v : String)
    (hk : canonicalMIMEHeaderKey k = canonicalMIMEHeaderKey k') :
    (h.add k' v).first k = some ((h.first k).getD v) := by
  simp only [first, add, hk, List.lookup_cons, beq_self_eq_true, Option.some_bind,
    List.head?_append]
  cases h.lookup (canonicalMIMEHeaderKey k') with
  | none => rfl
  | some vs => cases vs <;> rfl

theorem first_add_of_ne (h : Header) {k k' : String} (v : String)
    (hk : canonicalMIMEHeaderKey k ≠ canonicalMIMEHeaderKey k') :
    (h.add k' v).first k = h.first k := by
  simp only [first, add, lookup_cons_of_ne _ hk, lookup_filter_ne hk]

theorem first_nil (k : String) : first [] k = none := rfl

end Header

@[simp] theorem canonical_userAgent : canonicalMIMEHeaderKey "User-Agent" = "User-Agent" := by
  decide

@[simp] theorem canonical_testMode :
    canonicalMIMEHeaderKey "X-Bz-Test-Mode" = "X-Bz-Test-Mode" := by
  decide

@[simp] theorem canonical_method :
    canonicalMIMEHeaderKey "X-Blazer-Method" = "X-Blazer-Method" := by
  decide

@[simp] theorem canonical_requestID :
    canonicalMIMEHeaderKey "X-Blazer-Request-ID" = "X-Blazer-Request-Id" := by
  decide

/-! ## The caller's headers -/

/-- The caller's entry that decides the header at `k`: the last one whose key has `k`'s
canonical form. -/
def lastFor (headers : List (String × String)) (k : String) : Option (String × String) :=
  headers.reverse.find? fun kv => canonicalMIMEHeaderKey kv.1 == canonicalMIMEHeaderKey k

theorem lastFor_cons (kv : String × String) (l : List (String × String)) (k : String) :
    lastFor (kv :: l) k = (lastFor l k).or
      (if canonicalMIMEHeaderKey kv.1 = canonicalMIMEHeaderKey k then some kv else none) := by
  simp only [lastFor, List.reverse_cons, List.find?_append, List.find?_cons, List.find?_nil,
    beq_iff_eq]
  split <;> simp_all

theorem first_foldl_set (f : String × String → String) (l : List (String × String)) (h : Header)
    (k : String) :
    (l.foldl (fun h kv => h.set kv.1 (f kv)) h).first k = ((lastFor l k).map f).or (h.first k) := by
  induction l generalizing h with
  | nil => rfl
  | cons kv l ih =>
    rw [List.foldl_cons, ih, lastFor_cons]
    cases lastFor l k with
    | some x => rfl
    | none =>
      by_cases hk : canonicalMIMEHeaderKey kv.1 = canonicalMIMEHeaderKey k
      · rw [Header.first_set_of_eq _ _ hk.symm, if_pos hk]
        rfl
      · rw [Header.first_set_of_ne _ _ (Ne.symm hk), if_neg hk]
        rfl

theorem find?_perm_of_unique {α : Type} {p : α → Bool} {l₁ l₂ : List α} (hp : l₁.Perm l₂)
    (hu : ∀ a ∈ l₁, ∀ b ∈ l₁, p a → p b → a = b) : l₁.find? p = l₂.find? p := by
  cases h₁ : l₁.find? p with
  | none =>
    refine (List.find?_eq_none.2 fun x hx => ?_).symm
    exact List.find?_eq_none.1 h₁ x (hp.mem_iff.2 hx)
  | some a =>
    cases h₂ : l₂.find? p with
    | none =>
      have ha := List.find?_eq_none.1 h₂ a (hp.mem_iff.1 (List.mem_of_find?_eq_some h₁))
      exact absurd (List.find?_some h₁) ha
    | some b =>
      exact congrArg some (hu a (List.mem_of_find?_eq_some h₁) b
        (hp.mem_iff.2 (List.mem_of_find?_eq_some h₂)) (List.find?_some h₁) (List.find?_some h₂))

/-- With keys distinct in canonical form, the entry that decides a key is the same in every
order of the caller's map. -/
theorem lastFor_perm {l₁ l₂ : List (String × String)} (hp : l₁.Perm l₂)
    (hd : (l₁.map fun kv => canonicalMIMEHeaderKey kv.1).Nodup) (k : String) :
    lastFor l₁ k = lastFor l₂ k := by
  refine find?_perm_of_unique (l₁.reverse_perm.trans (hp.trans l₂.reverse_perm.symm)) ?_
  intro a ha b hb hpa hpb
  simp only [beq_iff_eq] at hpa hpb
  exact List.inj_on_of_nodup_map hd (List.mem_reverse.1 ha) (List.mem_reverse.1 hb)
    (hpa.trans hpb.symm)

/-! ## The session's headers -/

/-- The test modes `addHeaders` adds, in its order. -/
def B2Options.testModes (o : B2Options) : List String :=
  (if o.failSomeUploads then ["fail_some_uploads"] else []) ++
  (if o.expireTokens then ["expire_some_account_authorization_tokens"] else []) ++
  (if o.capExceeded then ["force_cap_exceeded"] else [])

theorem first_addHeaders_of_ne (o : B2Options) (h : Header) {k : String}
    (ht : canonicalMIMEHeaderKey k ≠ "X-Bz-Test-Mode")
    (hu : canonicalMIMEHeaderKey k ≠ "User-Agent") :
    (o.addHeaders h).first k = h.first k := by
  rw [← canonical_testMode] at ht
  rw [← canonical_userAgent] at hu
  simp only [B2Options.addHeaders, Header.first_set_of_ne _ _ hu]
  split_ifs <;> simp only [Header.first_add_of_ne _ _ ht]

theorem first_addHeaders_testMode (o : B2Options) (h : Header) {k : String}
    (ht : canonicalMIMEHeaderKey k = "X-Bz-Test-Mode") :
    ((o.addHeaders h).first k).getD "" = ((h.first k).or o.testModes.head?).getD "" := by
  rw [← canonical_testMode] at ht
  have hu : canonicalMIMEHeaderKey k ≠ canonicalMIMEHeaderKey "User-Agent" := by
    rw [ht]; decide
  simp only [B2Options.addHeaders, Header.first_set_of_ne _ _ hu, B2Options.testModes]
  cases o.failSomeUploads <;> cases o.expireTokens <;> cases o.capExceeded <;>
    simp [Header.first_add_of_eq _ _ ht] <;> cases h.first k <;> rfl

/-! ## The header of a call -/

/-- What the header of a call reads at `k`, as `makeRequest` means it: the session's user agent,
a caller's test mode before the session's, the call's method and id, and otherwise the last caller
entry for the key, escaped where `makeRequest` escapes it. -/
def sentValue (escape : String → String) (o : B2Options) (id : Int) (method : String)
    (headers : List (String × String)) (k : String) : String :=
  let ck := canonicalMIMEHeaderKey k
  let caller := (lastFor headers k).map fun kv => if escapesValue kv.1 then escape kv.2 else kv.2
  if ck = "User-Agent" then o.getUserAgent
  else if ck = "X-Bz-Test-Mode" then (caller.or o.testModes.head?).getD ""
  else if ck = "X-Blazer-Method" then method
  else if ck = "X-Blazer-Request-Id" then toString id
  else caller.getD ""

section Executor

variable (escape : String → String)

/-- **The header `makeRequest` sends.** At every key it reads as `sentValue`: no caller header
overrides the user agent, the method or the request id. -/
theorem requestHeader_get (o : B2Options) (id : Int) (method : String)
    (headers : List (String × String)) (k : String) :
    (requestHeader escape o id method headers).get k = sentValue escape o id method headers k := by
  have hfold := first_foldl_set (fun kv => if escapesValue kv.1 then escape kv.2 else kv.2)
    headers [] k
  rw [Header.first_nil, Option.or_none] at hfold
  rw [Header.get_eq_first, requestHeader, sentValue]
  by_cases hu : canonicalMIMEHeaderKey k = "User-Agent"
  · rw [if_pos hu, B2Options.addHeaders,
      Header.first_set_of_eq _ _ (hu.trans canonical_userAgent.symm)]
    rfl
  rw [if_neg hu]
  have hm : canonicalMIMEHeaderKey k = "X-Blazer-Method" →
      canonicalMIMEHeaderKey k = canonicalMIMEHeaderKey "X-Blazer-Method" := fun h => by
    rw [h]; decide
  have hi : canonicalMIMEHeaderKey k = "X-Blazer-Request-Id" →
      canonicalMIMEHeaderKey k = canonicalMIMEHeaderKey "X-Blazer-Request-ID" := fun h => by
    rw [h]; decide
  by_cases ht : canonicalMIMEHeaderKey k = "X-Bz-Test-Mode"
  · rw [if_pos ht, first_addHeaders_testMode _ _ ht,
      Header.first_set_of_ne _ _ (fun h => by rw [ht] at h; exact absurd h (by decide)),
      Header.first_set_of_ne _ _ (fun h => by rw [ht] at h; exact absurd h (by decide)), hfold]
  rw [if_neg ht, first_addHeaders_of_ne _ _ ht hu]
  by_cases hmk : canonicalMIMEHeaderKey k = "X-Blazer-Method"
  · rw [if_pos hmk, Header.first_set_of_eq _ _ (hm hmk)]
    rfl
  rw [if_neg hmk, Header.first_set_of_ne _ _ (fun h => hmk (h.trans canonical_method))]
  by_cases hik : canonicalMIMEHeaderKey k = "X-Blazer-Request-Id"
  · rw [if_pos hik, Header.first_set_of_eq _ _ (hi hik)]
    rfl
  rw [if_neg hik, Header.first_set_of_ne _ _ (fun h => hik (h.trans canonical_requestID)), hfold]

/-- The header reads the caller's entry at a key that is none of the four `makeRequest`
writes itself. -/
theorem requestHeader_get_of_lastFor (o : B2Options) (id : Int) (method : String)
    {headers : List (String × String)} {k : String} {kv : String × String}
    (hl : lastFor headers k = some kv)
    (hk : canonicalMIMEHeaderKey k ∉
      ["User-Agent", "X-Bz-Test-Mode", "X-Blazer-Method", "X-Blazer-Request-Id"]) :
    (requestHeader escape o id method headers).get k =
      if escapesValue kv.1 then escape kv.2 else kv.2 := by
  simp only [List.mem_cons, List.mem_singleton, not_or, List.not_mem_nil] at hk
  rw [requestHeader_get, sentValue]
  simp [hk.1, hk.2.1, hk.2.2.1, hk.2.2.2.1, hl]

/-- **Any order of the caller's map.** When the caller's keys are distinct in canonical form,
every order Go may range over them in sends a header that reads the same at every key. -/
theorem requestHeader_perm (o : B2Options) (id : Int) (method : String)
    {h₁ h₂ : List (String × String)} (hp : h₁.Perm h₂)
    (hd : (h₁.map fun kv => canonicalMIMEHeaderKey kv.1).Nodup) (k : String) :
    (requestHeader escape o id method h₁).get k = (requestHeader escape o id method h₂).get k := by
  rw [requestHeader_get, requestHeader_get, sentValue, sentValue, lastFor_perm hp hd]

end Executor

/-- An upload's token and file name, in either order. -/
theorem upload_header_swapped :
    ([("Authorization", "tok-1"), ("X-Bz-File-Name", "a.txt")].map fun kv =>
      canonicalMIMEHeaderKey kv.1).Nodup ∧
    (requestHeader id {} 1 "b2_upload_file"
        [("Authorization", "tok-1"), ("X-Bz-File-Name", "a.txt")]).get "X-Bz-File-Name" =
      (requestHeader id {} 1 "b2_upload_file"
        [("X-Bz-File-Name", "a.txt"), ("Authorization", "tok-1")]).get "X-Bz-File-Name" :=
  ⟨by decide, requestHeader_perm id {} 1 "b2_upload_file" (List.Perm.swap _ _ []) (by decide) _⟩

/-- Two info keys that differ only in case: Go's two orders of the map send two headers. -/
example :
    (requestHeader id {} 1 "b2_upload_file"
        [("X-Bz-Info-color", "red"), ("X-Bz-Info-Color", "blue")]).get "X-Bz-Info-Color" = "blue" ∧
      (requestHeader id {} 1 "b2_upload_file"
        [("X-Bz-Info-Color", "blue"), ("X-Bz-Info-color", "red")]).get "X-Bz-Info-Color" =
      "red" := by
  have hc : canonicalMIMEHeaderKey "X-Bz-Info-color" = "X-Bz-Info-Color" := by decide
  have hC : canonicalMIMEHeaderKey "X-Bz-Info-Color" = "X-Bz-Info-Color" := by decide
  simp [requestHeader_get, sentValue, lastFor, hc, hC]

end Blazer
