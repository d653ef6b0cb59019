/-
Module: ArcRelay.Proofs.UploadStore
Purpose: The upload store counts its bytes exactly and within its limit, a rejected insertion only
  removes what has expired, and a lookup finds exactly what was last stored and is still fresh.
Trusted boundary: none
-/
import ArcRelay.Server.ClipboardUploads

namespace ArcRelay

open ClipboardUploadStore ClipboardUploadStoreInner

/-!
Three things are kept along a run.  `Balanced` is the running total: every operation adds and
removes what the map adds and removes, so nothing ever clips.  The limit is checked where the
total grows.  `Filed` connects the map to the history of calls: what the map holds was stored by
the latest successful insertion under its key, and what that insertion stored is there until it
expires.  Expiry is decided again at every call, which is harmless because the clock never goes
back: what has expired once stays expired.
-/

/-! ### Pruning -/

variable {inner : ClipboardUploadStoreInner} {key : Bytes × String}

theorem remove_absent (absent : inner.uploads.lookup key = none) : inner.remove key = inner := by
  rw [remove, absent]

variable {upload : ClipboardUpload}

theorem remove_present (found : inner.uploads.lookup key = some upload) :
    inner.remove key =
      { uploads := inner.uploads.erase key
        totalBytes := inner.totalBytes - upload.bytes.length
        saturated := inner.saturated || decide (inner.totalBytes < upload.bytes.length) } := by
  rw [remove, found]

theorem lookup_remove (inner : ClipboardUploadStoreInner) (key other : Bytes × String) :
    (inner.remove key).uploads.lookup other =
      if other = key then none else inner.uploads.lookup other := by
  cases found : inner.uploads.lookup key with
  | none =>
      rw [remove_absent found]
      split
      next same =>
        rw [same]
        exact found
      next => rfl
  | some =>
      rw [remove_present found]
      split
      next same =>
        rw [same]
        exact AList.lookup_erase _ _
      next different => exact AList.lookup_erase_ne different

theorem lookup_foldl_remove (keys : List (Bytes × String)) (inner : ClipboardUploadStoreInner)
    (key : Bytes × String) :
    (keys.foldl remove inner).uploads.lookup key =
      if key ∈ keys then none else inner.uploads.lookup key := by
  induction keys generalizing inner with
  | nil => simp
  | cons first keys ih =>
      rw [List.foldl_cons, ih, lookup_remove]
      by_cases member : key ∈ keys
      · rw [if_pos member, if_pos (.tail _ member)]
      · by_cases same : key = first
        · simp [same]
        · simp [same, member]

variable {now : Instant}

theorem mem_expiredKeys :
    key ∈ inner.expiredKeys now ↔
      ∃ upload, inner.uploads.lookup key = some upload ∧ upload.expired now = true := by
  rw [expiredKeys, List.mem_map]
  constructor
  · rintro ⟨⟨_, upload⟩, member, rfl⟩
    obtain ⟨held, expired⟩ := List.mem_filter.mp member
    exact ⟨upload, AList.mem_lookup_iff.mpr held, expired⟩
  · rintro ⟨upload, found, expired⟩
    exact ⟨⟨key, upload⟩, List.mem_filter.mpr ⟨AList.mem_lookup_iff.mp found, expired⟩, rfl⟩

/-- Pruning hides exactly the uploads that have expired. -/
theorem lookup_prune (inner : ClipboardUploadStoreInner) (now : Instant) (key : Bytes × String) :
    (inner.prune now).uploads.lookup key =
      (inner.uploads.lookup key).filter (!·.expired now) := by
  rw [prune, lookup_foldl_remove]
  cases found : inner.uploads.lookup key with
  | none => simp
  | some upload =>
      have listed : key ∈ inner.expiredKeys now ↔ upload.expired now = true := by
        rw [mem_expiredKeys, found]
        simp
      cases expired : upload.expired now with
      | false => simp [listed, expired, Option.filter]
      | true => simp [listed, expired, Option.filter]

theorem lookup_prune_eq_some :
    (inner.prune now).uploads.lookup key = some upload ↔
      inner.uploads.lookup key = some upload ∧ upload.expired now = false := by
  rw [lookup_prune, Option.filter_eq_some_iff, Bool.not_eq_true']

/-- What has expired stays expired. -/
theorem ClipboardUpload.fresh_mono {later : Instant} (order : now ≤ later)
    (fresh : upload.expired later = false) : upload.expired now = false := by
  rw [expired, decide_eq_false_iff_not] at fresh ⊢
  intro old
  exact fresh (old.trans (Nat.sub_le_sub_right order _))

/-! ### The running total -/

/-- The total is exact, and no operation on it has clipped. -/
structure Balanced (inner : ClipboardUploadStoreInner) : Prop where
  exact : inner.totalBytes = inner.uploads.total fun _ upload => upload.bytes.length
  unsaturated : inner.saturated = false

theorem Balanced.remove (balanced : Balanced inner) (key : Bytes × String) :
    Balanced (inner.remove key) := by
  cases found : inner.uploads.lookup key with
  | none =>
      rw [remove_absent found]
      exact balanced
  | some upload =>
      rw [remove_present found]
      have erased := HashMap.total_erase (fun _ upload => upload.bytes.length) found
      rw [← balanced.exact] at erased
      constructor
      · exact Nat.sub_eq_of_eq_add erased.symm
      · simp only [balanced.unsaturated, Bool.false_or, decide_eq_false_iff_not]
        omega

theorem Balanced.prune (balanced : Balanced inner) (now : Instant) :
    Balanced (inner.prune now) := by
  rw [ClipboardUploadStoreInner.prune]
  generalize inner.expiredKeys now = keys
  induction keys generalizing inner with
  | nil => exact balanced
  | cons key _ ih => exact ih (balanced.remove key)

/-- Pruning frees bytes. -/
theorem Balanced.prune_le (balanced : Balanced inner) (now : Instant) :
    (inner.prune now).totalBytes ≤ inner.totalBytes := by
  rw [(balanced.prune now).exact, balanced.exact]
  exact HashMap.total_le_total (fun _ _ found => (lookup_prune_eq_some.mp found).1) _

/-! ### Insertion -/

/-- What an insertion can do. -/
inductive InsertOutcome (sha256 : Bytes → Bytes) (call : UploadInsert)
    (inner : ClipboardUploadStoreInner) :
    Except String Unit × ClipboardUploadStoreInner → Prop where
  | refused (reason : String) : InsertOutcome sha256 call inner (.error reason, inner)
  | full (reason : String) :
      InsertOutcome sha256 call inner (.error reason, inner.prune call.pruneAt)
  | stored (totalBytes : Nat) (saturated : Bool) (id : call.uploadId.length = 32)
      (nonempty : call.bytes ≠ []) (small : call.bytes.length ≤ maxBlobBytes)
      (media : call.mediaType ∈ mediaTypes) (digest : sha256 call.bytes = call.expectedSha256)
      (room : totalBytes ≤ maxTotalBytes)
      (balanced : Balanced inner → Balanced
        ⟨(inner.prune call.pruneAt).uploads.insert call.key (call.upload sha256), totalBytes,
          saturated⟩) :
      InsertOutcome sha256 call inner (.ok (),
        ⟨(inner.prune call.pruneAt).uploads.insert call.key (call.upload sha256), totalBytes,
          saturated⟩)

/-- The replaced upload is credited before the new one is charged. -/
theorem Balanced.replace (balanced : Balanced inner) (key : Bytes × String)
    (upload : ClipboardUpload) (previous : Nat)
    (credited : ((inner.uploads.lookup key).map (·.bytes.length)).getD 0 = previous)
    (room : saturatingAdd (inner.totalBytes - previous) upload.bytes.length ≤ maxTotalBytes) :
    Balanced
      { uploads := inner.uploads.insert key upload
        totalBytes := saturatingAdd (inner.totalBytes - previous) upload.bytes.length
        saturated := inner.saturated || decide (inner.totalBytes < previous) ||
          decide (usizeMax < inner.totalBytes - previous + upload.bytes.length) } := by
  have exact := balanced.exact
  have sum : previous ≤ inner.totalBytes ∧ HashMap.total
      (inner.uploads.insert key upload) (fun _ upload => upload.bytes.length) + previous =
        inner.totalBytes + upload.bytes.length := by
    cases found : inner.uploads.lookup key with
    | none =>
        rw [found] at credited
        obtain rfl : 0 = previous := credited
        rw [HashMap.total_insert_new _ _ found, ← exact]
        exact ⟨Nat.zero_le _, rfl⟩
    | some old =>
        rw [found] at credited
        obtain rfl : old.bytes.length = previous := credited
        have weight := HashMap.weight_le_total (fun _ upload => upload.bytes.length) found
        have inserted := HashMap.total_insert_present upload (fun _ upload => upload.bytes.length)
          found
        rw [← exact] at weight inserted
        exact ⟨weight, inserted⟩
  -- A clipped addition would be larger than the limit.
  have unclipped : inner.totalBytes - previous + upload.bytes.length ≤ usizeMax := by
    by_contra clipped
    rw [saturatingAdd, Nat.min_eq_right (Nat.le_of_not_le clipped)] at room
    exact absurd room (by decide)
  have balance : inner.totalBytes - previous + upload.bytes.length =
      HashMap.total (inner.uploads.insert key upload) fun _ upload => upload.bytes.length := by
    omega
  constructor
  · rw [saturatingAdd, Nat.min_eq_left unclipped]
    exact balance
  · simp only [balanced.unsaturated, Bool.false_or, Bool.or_eq_false_iff,
      decide_eq_false_iff_not, Nat.not_lt]
    exact ⟨sum.1, unclipped⟩

theorem UploadInsert.run_outcome (sha256 : Bytes → Bytes) (call : UploadInsert)
    (inner : ClipboardUploadStoreInner) :
    InsertOutcome sha256 call inner (call.run sha256 inner) := by
  rw [run, ClipboardUploadStore.insert]
  split
  next => exact .refused _
  next valid =>
    simp only [not_or, not_not, Nat.not_lt] at valid
    obtain ⟨id, nonempty, small, media⟩ := valid
    split
    next => exact .refused _
    next matching =>
      simp only [not_or, not_not] at matching
      rw [insertLocked]
      split
      next => exact .full _
      next room =>
        refine .stored _ _ id nonempty small media matching.2 (Nat.not_lt.mp room) fun balanced => ?_
        exact (balanced.prune call.pruneAt).replace call.key (call.upload sha256) _ rfl
          (Nat.not_lt.mp room)

/-- Nothing is new, and what is missing has expired. -/
structure OnlyExpires (now : Instant) (before after : ClipboardUploadStoreInner) : Prop where
  held : ∀ key upload, after.uploads.lookup key = some upload →
    before.uploads.lookup key = some upload
  kept : ∀ key upload, before.uploads.lookup key = some upload → upload.expired now = false →
    after.uploads.lookup key = some upload

theorem OnlyExpires.refl (now : Instant) (inner : ClipboardUploadStoreInner) :
    OnlyExpires now inner inner :=
  ⟨fun _ _ found => found, fun _ _ found _ => found⟩

theorem OnlyExpires.prune (now : Instant) (inner : ClipboardUploadStoreInner) :
    OnlyExpires now inner (inner.prune now) :=
  ⟨fun _ _ found => (lookup_prune_eq_some.mp found).1,
    fun _ _ found fresh => lookup_prune_eq_some.mpr ⟨found, fresh⟩⟩

variable {sha256 : Bytes → Bytes} {call : UploadInsert} {after : ClipboardUploadStoreInner}

/-- A rejected insertion removes what has expired, or nothing. -/
theorem InsertOutcome.rejected {reason : String}
    (outcome : InsertOutcome sha256 call inner (.error reason, after)) :
    OnlyExpires call.pruneAt inner after := by
  cases outcome with
  | refused => exact .refl _ inner
  | full => exact .prune _ inner

/-! ### The history of calls -/

/-- The latest successful insertion under a key. -/
def LatestInsert (events : List UploadEvent) (key : Bytes × String) (call : UploadInsert) : Prop :=
  ∃ before after, events = before ++ .insert call (.ok ()) :: after ∧ call.key = key ∧
    ∀ other, UploadEvent.insert other (.ok ()) ∈ after → other.key ≠ key

variable {events : List UploadEvent} {event : UploadEvent}

/-- An event that stores nothing under a key leaves the latest insertion as it was. -/
theorem LatestInsert.append_iff
    (other : ∀ stored, event = .insert stored (.ok ()) → stored.key ≠ key) :
    LatestInsert (events ++ [event]) key call ↔ LatestInsert events key call := by
  constructor
  · rintro ⟨before, after, split, own, later⟩
    rcases List.eq_nil_or_concat after with rfl | ⟨front, last, rfl⟩
    · obtain ⟨-, same⟩ := List.append_inj' split rfl
      exact absurd own (other call (List.singleton_inj.mp same))
    · rw [List.concat_eq_append, ← List.cons_append, ← List.append_assoc] at split
      obtain ⟨rfl, -⟩ := List.append_inj' split rfl
      refine ⟨before, front, rfl, own, fun stored member => later stored ?_⟩
      rw [List.concat_eq_append]
      exact List.mem_append_left _ member
  · rintro ⟨before, after, rfl, own, later⟩
    refine ⟨before, after ++ [event], by simp, own, fun stored member => ?_⟩
    rcases List.mem_append.mp member with earlier | last
    · exact later stored earlier
    · exact other stored (List.mem_singleton.mp last).symm

/-- A successful insertion is the latest under its key. -/
theorem LatestInsert.last_iff {stored : UploadInsert} :
    LatestInsert (events ++ [.insert stored (.ok ())]) stored.key call ↔ call = stored := by
  constructor
  · rintro ⟨before, after, split, own, later⟩
    rcases List.eq_nil_or_concat after with rfl | ⟨front, last, rfl⟩
    · obtain ⟨-, same⟩ := List.append_inj' split rfl
      cases same
      rfl
    · rw [List.concat_eq_append, ← List.cons_append, ← List.append_assoc] at split
      obtain ⟨-, same⟩ := List.append_inj' split rfl
      cases same
      exact absurd rfl (later stored (by simp))
  · rintro rfl
    exact ⟨events, [], rfl, rfl, fun _ none => nomatch none⟩

/-- The latest insertion under a key is one. -/
theorem LatestInsert.unique {first second : UploadInsert}
    (firstLatest : LatestInsert events key first) (secondLatest : LatestInsert events key second) :
    first = second := by
  induction events using List.reverseRecOn with
  | nil =>
      obtain ⟨before, after, split, -⟩ := firstLatest
      simp at split
  | append_singleton _ event ih =>
      by_cases stores : ∃ stored, event = .insert stored (.ok ()) ∧ stored.key = key
      · obtain ⟨stored, rfl, rfl⟩ := stores
        rw [LatestInsert.last_iff] at firstLatest secondLatest
        rw [firstLatest, secondLatest]
      · have other : ∀ stored, event = .insert stored (.ok ()) → stored.key ≠ key :=
          fun stored equal own => stores ⟨stored, equal, own⟩
        rw [LatestInsert.append_iff other] at firstLatest secondLatest
        exact ih firstLatest secondLatest

/-- What the store holds, in terms of the calls so far. -/
structure Filed (sha256 : Bytes → Bytes) (events : List UploadEvent) (clock : Instant)
    (inner : ClipboardUploadStoreInner) : Prop where
  held : ∀ key upload, inner.uploads.lookup key = some upload →
    ∃ call, LatestInsert events key call ∧ call.upload sha256 = upload
  kept : ∀ key call, LatestInsert events key call → (call.upload sha256).expired clock = false →
    inner.uploads.lookup key = some (call.upload sha256)

/-- A call that stores nothing keeps the files in order. -/
theorem Filed.expire {clock later : Instant} {before : ClipboardUploadStoreInner}
    (filed : Filed sha256 events clock before) (only : OnlyExpires now before after)
    (order : clock ≤ now) (onwards : now ≤ later)
    (nothing : ∀ stored, event ≠ .insert stored (.ok ())) :
    Filed sha256 (events ++ [event]) later after := by
  have same : ∀ key call, LatestInsert (events ++ [event]) key call ↔ LatestInsert events key call :=
    fun key call => LatestInsert.append_iff fun stored equal => absurd equal (nothing stored)
  constructor
  · intro key upload found
    obtain ⟨call, latest, stored⟩ := filed.held key upload (only.held key upload found)
    exact ⟨call, (same key call).mpr latest, stored⟩
  · intro key call latest fresh
    have freshNow := ClipboardUpload.fresh_mono onwards fresh
    have found := filed.kept key call ((same key call).mp latest)
      (ClipboardUpload.fresh_mono order freshNow)
    exact only.kept key _ found freshNow

/-- A successful insertion files its own upload and leaves the other keys alone. -/
theorem Filed.store {clock : Instant} (filed : Filed sha256 events clock inner)
    (order : clock ≤ call.pruneAt) (onwards : call.pruneAt ≤ call.storedAt)
    (uploads : after.uploads =
      (inner.prune call.pruneAt).uploads.insert call.key (call.upload sha256)) :
    Filed sha256 (events ++ [.insert call (.ok ())]) call.storedAt after := by
  have others : ∀ key, key ≠ call.key → ∀ other,
      LatestInsert (events ++ [.insert call (.ok ())]) key other ↔ LatestInsert events key other := by
    intro key different other
    apply LatestInsert.append_iff
    rintro stored equal
    cases equal
    exact different.symm
  constructor
  · intro key upload found
    rw [uploads] at found
    by_cases same : key = call.key
    · subst same
      rw [AList.lookup_insert, Option.some.injEq] at found
      exact ⟨call, LatestInsert.last_iff.mpr rfl, found⟩
    · rw [AList.lookup_insert_ne same] at found
      obtain ⟨other, latest, stored⟩ := filed.held key upload (lookup_prune_eq_some.mp found).1
      exact ⟨other, (others key same other).mpr latest, stored⟩
  · intro key other latest fresh
    rw [uploads]
    by_cases same : key = call.key
    · subst same
      rw [AList.lookup_insert, LatestInsert.last_iff.mp latest]
    · rw [AList.lookup_insert_ne same]
      have freshNow := ClipboardUpload.fresh_mono onwards fresh
      exact lookup_prune_eq_some.mpr ⟨filed.kept key other ((others key same other).mp latest)
        (ClipboardUpload.fresh_mono order freshNow), freshNow⟩

/-! ### Runs -/

/-- What every run of calls keeps. -/
structure UploadsInOrder (sha256 : Bytes → Bytes) (events : List UploadEvent)
    (state : UploadState) : Prop where
  balanced : Balanced state.store
  limited : state.store.totalBytes ≤ maxTotalBytes
  filed : Filed sha256 events state.clock state.store

theorem UploadsInOrder.start (sha256 : Bytes → Bytes) : UploadsInOrder sha256 [] {} where
  balanced := ⟨rfl, rfl⟩
  limited := Nat.zero_le _
  filed :=
    { held := fun _ _ found => nomatch found
      kept := fun _ _ latest => by
        obtain ⟨before, after, split, -⟩ := latest
        simp at split }

theorem UploadsInOrder.step {state next : UploadState}
    (ordered : UploadsInOrder sha256 events state) (stepped : state.step sha256 event = some next) :
    UploadsInOrder sha256 (events ++ [event]) next := by
  have pruned : ∀ now, UploadsInOrder sha256 events state →
      (state.store.prune now).totalBytes ≤ maxTotalBytes := fun now _ =>
    (ordered.balanced.prune_le now).trans ordered.limited
  cases event with
  | insert call =>
      rw [UploadState.step] at stepped
      split at stepped
      next admitted =>
        obtain ⟨order, onwards, rfl⟩ := admitted
        cases stepped
        have outcome := call.run_outcome sha256 state.store
        generalize call.run sha256 state.store = result at outcome
        cases outcome with
        | refused =>
            exact ⟨ordered.balanced, ordered.limited,
              ordered.filed.expire (.refl _ _) order onwards (fun _ equal => nomatch equal)⟩
        | full =>
            exact ⟨ordered.balanced.prune _, pruned _ ordered,
              ordered.filed.expire (.prune _ _) order onwards (fun _ equal => nomatch equal)⟩
        | stored _ _ _ _ _ _ _ room balanced =>
            exact ⟨balanced ordered.balanced, room, ordered.filed.store order onwards rfl⟩
      next => cases stepped
  | get =>
      rw [UploadState.step] at stepped
      split at stepped
      next order =>
        cases stepped
        exact ⟨ordered.balanced.prune _, pruned _ ordered,
          ordered.filed.expire (.prune _ _) order le_rfl (fun _ equal => nomatch equal)⟩
      next => cases stepped

theorem uploadsInOrder_of_runs {state : UploadState}
    (run : Runs (uploadSystem sha256) events state) :
    UploadsInOrder sha256 events state := by
  induction run with
  | start => exact .start sha256
  | step _ _ stepped ih => exact ih.step stepped

theorem get_eq_some {uploadId expectedSha256 bytes : Bytes} {mediaType : String} :
    (ClipboardUploadStore.get inner uploadId expectedSha256 mediaType now).1 = some bytes ↔
      ∃ upload, inner.uploads.lookup (uploadId, mediaType) = some upload ∧
        upload.expired now = false ∧ upload.sha256 = expectedSha256 ∧ upload.bytes = bytes := by
  simp only [ClipboardUploadStore.get, Option.map_eq_some_iff, Option.filter_eq_some_iff,
    lookup_prune_eq_some, decide_eq_true_eq, and_assoc]

/-- After any calls with any arguments, under a clock that does not go back: the total is the
number of bytes stored, within the limit, and nothing has clipped on the way; a rejected insertion
leaves every upload that has not expired as it was and adds none; and `get` finds bytes exactly if
the latest successful insertion under the id and the media type stored them less than two minutes
ago and the digest is theirs. -/
theorem upload_store_invariant {sha256 : Bytes → Bytes} {events : List UploadEvent}
    {state : UploadState} (run : Runs (uploadSystem sha256) events state) :
    (state.store.totalBytes = state.store.uploads.total (fun _ upload => upload.bytes.length) ∧
      state.store.totalBytes ≤ maxTotalBytes ∧ state.store.saturated = false) ∧
    (∀ (call : UploadInsert) (reason : String),
      (call.run sha256 state.store).1 = .error reason →
        OnlyExpires call.pruneAt state.store (call.run sha256 state.store).2) ∧
    ∀ (uploadId expectedSha256 bytes : Bytes) (mediaType : String) (now : Instant),
      state.clock ≤ now →
        ((ClipboardUploadStore.get state.store uploadId expectedSha256 mediaType now).1 = some bytes ↔
          ∃ call, LatestInsert events (uploadId, mediaType) call ∧ call.bytes = bytes ∧
            now - call.storedAt < seconds 120 ∧ sha256 bytes = expectedSha256) := by
  have ordered := uploadsInOrder_of_runs run
  refine ⟨⟨ordered.balanced.exact, ordered.limited, ordered.balanced.unsaturated⟩, ?_, ?_⟩
  · intro call reason rejected
    have outcome := call.run_outcome sha256 state.store
    generalize call.run sha256 state.store = result at outcome rejected
    obtain ⟨answer, after⟩ := result
    obtain rfl : answer = .error reason := rejected
    exact outcome.rejected
  · intro uploadId expectedSha256 bytes mediaType now order
    rw [get_eq_some]
    constructor
    · rintro ⟨upload, found, fresh, digest, content⟩
      obtain ⟨call, latest, rfl⟩ := ordered.filed.held _ _ found
      subst content
      exact ⟨call, latest, rfl, Nat.not_le.mp (of_decide_eq_false fresh), digest⟩
    · rintro ⟨call, latest, rfl, young, rfl⟩
      have fresh : (call.upload sha256).expired now = false :=
        decide_eq_false (Nat.not_le.mpr young)
      exact ⟨call.upload sha256, ordered.filed.kept _ call latest
        (ClipboardUpload.fresh_mono order fresh), fresh, rfl, rfl⟩

/-- One upload at the start of the clock. -/
def firstUpload : UploadInsert :=
  ⟨List.replicate 32 0, [1], List.replicate 32 0, "text/rtf", 0, 0⟩

/-- It can be fetched for two minutes. -/
theorem upload_store_invariant_firstUpload :
    ∃ state, Runs (uploadSystem fun _ => List.replicate 32 0) [.insert firstUpload (.ok ())] state ∧
      (ClipboardUploadStore.get state.store (List.replicate 32 0) (List.replicate 32 0) "text/rtf"
        (seconds 119)).1 = some [1] := by
  have played : ((uploadSystem fun _ => List.replicate 32 0).replay (fun _ _ => true) {}
      [.insert firstUpload (.ok ())]).map (·.clock) = some 0 := by
    decide +kernel
  obtain ⟨state, last, clock⟩ := Option.map_eq_some_iff.mp played
  have run : Runs (uploadSystem fun _ => List.replicate 32 0) [.insert firstUpload (.ok ())] state :=
    RunsWhere.of_replay (fun _ _ _ => trivial) last
  obtain ⟨-, -, found⟩ := upload_store_invariant run
  have latest : LatestInsert [.insert firstUpload (.ok ())] (List.replicate 32 0, "text/rtf")
      firstUpload :=
    ⟨[], [], rfl, rfl, fun _ none => nomatch none⟩
  refine ⟨state, run, (found _ _ _ _ _ ?_).mpr ⟨firstUpload, latest, rfl, by decide, rfl⟩⟩
  rw [clock]
  exact Nat.zero_le _

end ArcRelay
