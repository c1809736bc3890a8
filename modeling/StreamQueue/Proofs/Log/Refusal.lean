import StreamQueue.Proofs.Log.View

/-!
# Refusals

A call may be refused: because the group that it is for is missing, because the stream whose
groups it lists is missing, or because the group that it creates is there. There are no other
reasons, and a call that is refused has changed nothing: no stream, no group and no consumer comes
into being.

A read for new entries makes its call again and again while it waits. If the group is there the
first time, it is there every time, so such a read is refused at its first look or never.

## What is proved

* `Store.perform_eq_error_iff` — when a call is refused, and what the refusal says.
* `Store.perform_refused` — a call that is refused leaves the store as it was.
* `Store.HasGroup.afterAll` — a group stays, whatever is done.
* `ReadRequest.resume_ne_error_of_waiting` — a read that waits is not refused.
-/

namespace StreamQueue

/-! ### When a call is refused -/

/-- The group that a call does its work for, and that has to be there. -/
def LogCall.worksFor? : LogCall → Option (String × String)
  | .readNew s g _ _ _ | .readPending s g _ _ _ | .pendingEntries s g _ _ _ | .pendingCount s g
  | .claim s g _ _ _ => some (s, g)
  | .ping | .append .. | .createGroup .. | .ack .. | .len .. | .rangeAfter .. | .groups .. => none

namespace Store

/-- The stream is there, and the group on it. -/
def HasGroup (s : Store) (stream group : String) : Prop := (s.group? stream group).isSome

instance (s : Store) (stream group : String) : Decidable (s.HasGroup stream group) :=
  inferInstanceAs (Decidable (_ = true))

/-- The reasons for which a store refuses a call. -/
inductive Refuses (s : Store) : LogCall → LogError → Prop
  | groupThere {stream group : String} (start : StreamId) (there : s.HasGroup stream group) :
    s.Refuses (.createGroup stream group start) (.groupExists stream group)
  | groupMissing {c : LogCall} {stream group : String} (works : c.worksFor? = some (stream, group))
    (missing : ¬ s.HasGroup stream group) : s.Refuses c (.groupNotFound stream group)
  | streamMissing {stream : String} (missing : s.has stream = false) :
    s.Refuses (.groups stream) (.streamNotFound stream)

variable {s : Store} {stream group : String}

theorem hasGroup_iff : s.HasGroup stream group ↔ (s.view stream group).group.isSome := by
  rw [HasGroup, group?_eq, Option.isSome_map]

/-- A group stays, whatever is done. -/
theorem HasGroup.perform (there : s.HasGroup stream group) (clock : Clock) (c : LogCall) :
    (s.perform clock c).2.HasGroup stream group := by
  rw [hasGroup_iff] at there ⊢
  rw [view_perform]
  exact View.isSome_group_step there clock c

theorem HasGroup.afterAll (there : s.HasGroup stream group) (cs : List TimedCall) :
    (s.afterAll cs).HasGroup stream group := by
  induction cs generalizing s with
  | nil => exact there
  | cons c cs ih => exact ih (there.perform c.clock c.call)

theorem groupOr_eq_error_iff {e : LogError} :
    s.groupOr stream group = .error e ↔ ¬ s.HasGroup stream group ∧ e = .groupNotFound stream group := by
  rw [groupOr, HasGroup]
  cases s.group? stream group with
  | none => simp [eq_comm]
  | some found => simp

/-- Work for a group that does not fail itself is refused exactly when the group is missing. -/
theorem work_eq_error_iff {α : Type} {work : Stream × Group → Except LogError α}
    (works : ∀ found, ∃ r, work found = .ok r) {e : LogError} :
    (s.groupOr stream group >>= work) = .error e ↔
      ¬ s.HasGroup stream group ∧ e = .groupNotFound stream group := by
  rw [← groupOr_eq_error_iff]
  cases s.groupOr stream group with
  | error e' => simp [bind, Except.bind]
  | ok found =>
    obtain ⟨r, is⟩ := works found
    simp [bind, Except.bind, is]

theorem settle_eq_error_iff {α : Type} {r : Except LogError (α × Store)} {e : LogError} :
    (s.settle r).1 = .error e ↔ r = .error e := by
  cases r with
  | ok done => simp [settle]
  | error e' => simp [settle]

theorem settle_refused {α : Type} {r : Except LogError (α × Store)} {e : LogError}
    (refused : (s.settle r).1 = .error e) : (s.settle r).2 = s := by
  rw [settle_eq_error_iff.1 refused, settle]

/-- **Refusals**: a call is refused for one of three reasons, and says which. -/
theorem perform_eq_error_iff {clock : Clock} {c : LogCall} {e : LogError} :
    (s.perform clock c).1 = .error e ↔ s.Refuses c e := by
  have forGroup {c : LogCall} {stream group : String} (works : c.worksFor? = some (stream, group)) :
      s.Refuses c e ↔ ¬ s.HasGroup stream group ∧ e = .groupNotFound stream group := by
    constructor
    · intro refuses
      cases refuses with
      | groupThere | streamMissing => cases works
      | groupMissing works' missing =>
        cases works.symm.trans works'
        exact ⟨missing, rfl⟩
    · rintro ⟨missing, rfl⟩
      exact .groupMissing works missing
  cases c with
  | ping | append | ack | len | rangeAfter =>
    apply iff_of_false
    · intro refused
      cases refused
    · intro refuses
      cases refuses with
      | groupMissing works missing => cases works
  | createGroup x y start =>
    rw [perform, settle_eq_error_iff, createGroup_eq]
    constructor
    · intro refused
      cases there : (s.view x y).group with
      | none => simp [there, Except.map] at refused
      | some g =>
        obtain rfl : .groupExists x y = e := by simpa [there, Except.map] using refused
        exact .groupThere start (hasGroup_iff.2 (by rw [there, Option.isSome_some]))
    · intro refuses
      cases refuses with
      | groupMissing works missing => cases works
      | groupThere _ there =>
        obtain ⟨g, is⟩ := Option.isSome_iff_exists.1 (hasGroup_iff.1 there)
        simp only [is, Except.map]
  | groups x =>
    rw [perform, groups]
    constructor
    · intro refused
      cases here : s.streams.get? x with
      | some st => simp [here] at refused
      | none =>
        obtain rfl : .streamNotFound x = e := by simpa [here] using refused
        exact .streamMissing (by rw [has, Table.contains, here, Option.isSome_none])
    · intro refuses
      cases refuses with
      | groupMissing works missing => cases works
      | streamMissing missing =>
        rw [has, Table.contains, Option.isSome_eq_false_iff, Option.isNone_iff_eq_none] at missing
        simp only [missing]
  | readNew x y consumer count block =>
    rw [forGroup rfl, perform, settle_eq_error_iff]
    exact work_eq_error_iff fun _ => ⟨_, rfl⟩
  | readPending x y consumer after count =>
    rw [forGroup rfl, perform, settle_eq_error_iff]
    exact work_eq_error_iff fun _ => ⟨_, rfl⟩
  | pendingEntries x y minIdle after count =>
    rw [forGroup rfl, perform]
    exact work_eq_error_iff fun _ => ⟨_, rfl⟩
  | pendingCount x y =>
    rw [forGroup rfl, perform]
    exact work_eq_error_iff fun _ => ⟨_, rfl⟩
  | claim x y consumer minIdle ids =>
    rw [forGroup rfl, perform, settle_eq_error_iff]
    exact work_eq_error_iff fun _ => ⟨_, rfl⟩

/-- A call that is refused leaves the store as it was. -/
theorem perform_refused {clock : Clock} {c : LogCall} {e : LogError}
    (refused : (s.perform clock c).1 = .error e) : (s.perform clock c).2 = s := by
  cases c with
  | createGroup | readNew | readPending | claim => exact settle_refused refused
  | append | ack => cases refused
  | ping | pendingEntries | pendingCount | len | rangeAfter | groups => rfl

end Store

/-! ### Reads that wait -/

namespace ReadRequest

variable {r : ReadRequest} {now : Instant} {feed : Feed} {receiver : Receiver} {s : Store}

theorem rest_ne_error (e : LogError) : r.rest now receiver ≠ .ended (.error e) := by
  rw [rest]
  split
  · simp
  · simp

/-- A look at a read is refused as its call is. -/
theorem attempt_eq_error_iff {e : LogError} :
    (r.attempt now feed s).1 = .ended (.error e) ↔
      ¬ s.HasGroup r.stream r.group ∧ e = .groupNotFound r.stream r.group := by
  have call : s.deliver now r.stream r.group r.consumer r.count = .error e ↔
      ¬ s.HasGroup r.stream r.group ∧ e = .groupNotFound r.stream r.group :=
    Store.work_eq_error_iff fun _ => ⟨_, rfl⟩
  rw [← call, attempt]
  cases s.deliver now r.stream r.group r.consumer r.count with
  | error e' => simp
  | ok found =>
    obtain ⟨_ | ⟨first, es⟩, s'⟩ := found
    · simp [rest_ne_error]
    · simp

theorem attempt_refused {e : LogError} (refused : (r.attempt now feed s).1 = .ended (.error e)) :
    (r.attempt now feed s).2 = s := by
  obtain ⟨missing, -⟩ := attempt_eq_error_iff.1 refused
  have call : s.deliver now r.stream r.group r.consumer r.count =
      .error (.groupNotFound r.stream r.group) :=
    (Store.work_eq_error_iff fun _ => ⟨_, rfl⟩).2 ⟨missing, rfl⟩
  rw [attempt, call]

/-- A read that waits and finds its group is not refused. -/
theorem resume_ne_error (there : s.HasGroup r.stream r.group) (e : LogError) :
    (r.resume now feed receiver s).1 ≠ .ended (.error e) := by
  rw [resume]
  split
  · intro refused
    exact (attempt_eq_error_iff.1 refused).1 there
  · exact rest_ne_error e

/-- **A read that waits** is refused at its first look or never, whatever is done meanwhile. -/
theorem resume_ne_error_of_waiting {waits : Receiver} (begun : (r.attempt now feed s).1 = .waiting waits)
    (cs : List TimedCall) (later : Instant) (fed : Feed) (e : LogError) :
    (r.resume later fed receiver ((r.attempt now feed s).2.afterAll cs)).1 ≠ .ended (.error e) := by
  have there : s.HasGroup r.stream r.group := by
    by_contra missing
    rw [attempt_eq_error_iff.2 ⟨missing, rfl⟩] at begun
    cases begun
  apply resume_ne_error
  apply Store.HasGroup.afterAll
  -- The first look is the read's call, and a group stays.
  rw [attempt_store r now ⟨0⟩ feed s none]
  exact there.perform _ _

end ReadRequest

end StreamQueue
