import Blazer.Session

/-!
# Conditional bucket updates

`b2_update_bucket` takes an optional `ifRevisionIs`: the service applies the update only if the
bucket is still at that revision, and then moves it to the next one. `Bucket.Update` sends the
handle's `rev`. A handle from `CreateBucket` or `ListBuckets` carries the revision the service
reported; a handle from `Update` does not (its `rev` is zero), and `omitempty` drops a zero from
the request.

Modelled from the spec of `b2_update_bucket`: the service (`Server.update`) accepts an update
whose `ifRevisionIs` is absent or current, and keeps the settings the request leaves out.
Clients hold handles; each handle is kept with the revision the service reported when it was
made, which the code does not keep.

* `update_accepted_iff`: an update is accepted exactly when the handle's `rev` is zero or the
  bucket's revision; so through a handle that `Update` returned it is accepted at every revision.
* `staleAccept_iff` (**which handles go stale**): along every run of two clients, an update the
  service accepts although the bucket moved on since its handle was made is exactly one through
  a handle with `rev = 0`; through a handle of `CreateBucket` or `ListBuckets` with a nonzero
  revision an update is accepted only at that revision.
* `lost_update`: two clients, and an update made from a stale handle overwrites the other
  client's accepted update.
-/

namespace Blazer

/-- What an update writes: the bucket's type, info and lifecycle rules. -/
structure BucketSettings where
  bucketType : String
  info : List (String × String)
  lifecycleRules : List LifecycleRule
  deriving DecidableEq, Repr

/-- The service's record of the bucket. -/
structure Server where
  bucketID : String
  name : String
  revision : Int
  settings : BucketSettings
  deriving DecidableEq, Repr

namespace Server

/-- The bucket as the service reports it. -/
def reply (s : Server) : BucketResponse :=
  { bucketID := s.bucketID, name := s.name, bucketType := s.settings.bucketType,
    info := s.settings.info, lifecycleRules := s.settings.lifecycleRules, revision := s.revision }

/-- Modelled from the spec of `b2_update_bucket`: an update is accepted when its `ifRevisionIs`
is absent or equals the bucket's revision, and moves the bucket to the next revision; a setting
whose member `omitempty` dropped is kept. `none` is the rejection. -/
def update (s : Server) (r : UpdateBucketRequest) : Option Server :=
  if r.ifRevisionIsMember.all (· = s.revision) then
    some { s with
      revision := s.revision + 1
      settings := ⟨(omitEmpty "" r.bucketType).getD s.settings.bucketType,
        (omitEmpty [] r.info).getD s.settings.info,
        (omitEmpty [] r.lifecycleRules).getD s.settings.lifecycleRules⟩ }
  else none

end Server

/-- A handle with its public settings set by the caller before an update. -/
def Bucket.withSettings (b : Bucket) (st : BucketSettings) : Bucket :=
  { b with bucketType := st.bucketType, info := st.info, lifecycleRules := st.lifecycleRules }

/-- An update through a handle is accepted exactly when the handle's `rev` is zero, which
`omitempty` drops, or the bucket's revision. -/
theorem update_accepted_iff (h : Bucket) (s : Server) :
    (s.update h.updateRequest).isSome ↔ h.rev = 0 ∨ h.rev = s.revision := by
  by_cases hr : h.rev = 0 <;>
    simp [Server.update, Bucket.updateRequest, UpdateBucketRequest.ifRevisionIsMember, omitEmpty,
      hr]

/-! ## Two clients -/

/-- A client's handle, with the revision the service reported when it was made. -/
structure Held where
  bucket : Bucket
  seen : Int

/-- The service and the handles each client holds. -/
structure World where
  server : Server
  handles : Nat → List Held

/-- A step of one client. -/
inductive Event
  /-- Client `c` lists the buckets through its session `b`. -/
  | list (c : Nat) (b : B2)
  /-- Client `c` sets the settings of its `i`-th handle and updates through it. -/
  | update (c : Nat) (i : Nat) (st : BucketSettings)

/-- The world after an event; a rejected update, or a handle the client does not hold,
changes nothing. -/
def World.step (w : World) : Event → World
  | .list c b =>
    { w with
      handles := Function.update w.handles c
        (w.handles c ++ (b.listBucketsResult [w.server.reply]).map (⟨·, w.server.revision⟩)) }
  | .update c i st =>
    match (w.handles c)[i]? with
    | none => w
    | some held =>
      let h := held.bucket.withSettings st
      match w.server.update h.updateRequest with
      | none => w
      | some s' =>
        { server := s'
          handles := Function.update w.handles c
            (w.handles c ++ [⟨h.updateResult s'.reply, s'.revision⟩]) }

/-- A run of events. -/
def World.run (w : World) (es : List Event) : World := es.foldl World.step w

/-- An update the service accepts from a handle made at another revision than the bucket's. -/
def World.staleAccept (w : World) : Event → Bool
  | .list _ _ => false
  | .update c i st =>
    match (w.handles c)[i]? with
    | none => false
    | some held =>
      held.seen != w.server.revision &&
        (w.server.update (held.bucket.withSettings st).updateRequest).isSome

/-! ## Which handles go stale -/

/-- A handle carries the revision it was made at, or zero. -/
def Held.Tagged (h : Held) : Prop := h.bucket.rev = h.seen ∨ h.bucket.rev = 0

/-- Every handle of every client is tagged. -/
def World.Tagged (w : World) : Prop := ∀ c, ∀ h ∈ w.handles c, h.Tagged

theorem World.Tagged.append {w : World} (hw : w.Tagged) (s : Server) (c : Nat) {new : List Held}
    (hn : ∀ h ∈ new, h.Tagged) :
    World.Tagged { server := s, handles := Function.update w.handles c (w.handles c ++ new) } := by
  intro c' h hh
  by_cases hc : c' = c
  · subst hc
    dsimp only at hh
    rw [Function.update_same] at hh
    exact (List.mem_append.1 hh).elim (hw c' h) (hn h)
  · dsimp only at hh
    exact hw c' h (by rwa [Function.update_noteq hc] at hh)

theorem World.Tagged.step {w : World} (hw : w.Tagged) : ∀ e, (w.step e).Tagged
  | .list c b => hw.append w.server c fun h hh => by
    simp only [B2.listBucketsResult, List.map_cons, List.map_nil, List.mem_singleton] at hh
    exact .inl (hh ▸ rfl)
  | .update c i st => by
    simp only [World.step]
    split
    · exact hw
    · split
      · exact hw
      · exact hw.append _ c fun h hh => .inr ((List.mem_singleton.1 hh) ▸ rfl)

theorem World.Tagged.run {w : World} (hw : w.Tagged) (es : List Event) : (w.run es).Tagged := by
  induction es generalizing w with
  | nil => exact hw
  | cons e es ih => exact ih (hw.step e)

/-- **Which handles go stale.** Along every run from a world whose handles carry the revision
they were made at, an update the service accepts although the bucket has moved on since its
handle was made is exactly an update through a handle with `rev = 0`, as `Update` returns them.
Through any other handle an update is accepted only at the revision the handle was made at. -/
theorem staleAccept_iff (w : World) (hw : w.Tagged) (es : List Event) (c i : Nat)
    (st : BucketSettings) (held : Held) (hh : ((w.run es).handles c)[i]? = some held) :
    (w.run es).staleAccept (.update c i st) = true ↔
      held.bucket.rev = 0 ∧ held.seen ≠ (w.run es).server.revision := by
  have ht : held.Tagged := (hw.run es) c held (List.mem_iff_getElem?.2 ⟨i, hh⟩)
  simp only [World.staleAccept, hh, Bool.and_eq_true, bne_iff_ne, ne_eq, update_accepted_iff,
    Bucket.withSettings]
  rcases ht with ht | ht <;> constructor <;> rintro ⟨h₁, h₂⟩
  · exact ⟨h₂.resolve_right fun h => h₁ (ht.symm.trans h), h₁⟩
  · exact ⟨h₂, .inl h₁⟩
  · exact ⟨ht, h₁⟩
  · exact ⟨h₂, .inl h₁⟩

/-- Client 0 created the bucket at revision 1 and holds that handle. -/
def created : World :=
  let s : Server :=
    { bucketID := "bucket-7", name := "photos", revision := 1, settings := ⟨"allPrivate", [], []⟩ }
  { server := s,
    handles := fun c => if c = 0 then [⟨staleSession.createBucketResult "photos" s.reply, 1⟩]
      else [] }

/-- Client 0 updates, client 1 lists and updates, and client 0 updates again through the
handle its first update returned. -/
def race : List Event :=
  [.update 0 0 ⟨"allPrivate", [("owner", "a")], []⟩, .list 1 freshSession,
   .update 1 0 ⟨"allPrivate", [("owner", "b")], []⟩,
   .update 0 1 ⟨"allPublic", [("owner", "a")], []⟩]

/-- In `race`, the handle client 0's first update returned has `rev = 0` where the service
reported revision 2; client 0's last update is accepted although the bucket has moved on to
revision 3, and client 1's update is gone. -/
theorem lost_update :
    ((created.run (race.take 3)).handles 0).map (fun h => (h.bucket.rev, h.seen)) =
      [(1, 1), (0, 2)] ∧
    (created.run (race.take 3)).server.revision = 3 ∧
    (created.run (race.take 3)).staleAccept (.update 0 1 ⟨"allPublic", [("owner", "a")], []⟩) =
      true ∧
    (created.run race).server.settings = ⟨"allPublic", [("owner", "a")], []⟩ := by
  decide

/-- Client 0's last update in `race` goes stale through its handle with `rev = 0`. -/
theorem race_last_update_stale :
    created.Tagged ∧ ∃ held, ((created.run (race.take 3)).handles 0)[1]? = some held ∧
      ((created.run (race.take 3)).staleAccept (.update 0 1 ⟨"allPublic", [("owner", "a")], []⟩) =
        true ↔ held.bucket.rev = 0 ∧ held.seen ≠ (created.run (race.take 3)).server.revision) := by
  have hw : created.Tagged := by
    intro c h hh
    simp only [created] at hh
    split_ifs at hh
    · exact .inl ((List.mem_singleton.1 hh) ▸ rfl)
    · cases hh
  exact ⟨hw, _, rfl, staleAccept_iff created hw (race.take 3) 0 1 _ _ rfl⟩

end Blazer
