import StreamQueue.Proofs.Log.View

/-!
# Groups side by side

The groups of a stream share its entries, and streams share nothing. A client of one group
cannot tell whether others are there: without the calls that are made for another group of the
stream, and without those on other streams, it is given the same answers.

Two histories are compared, one with those calls and one without them. They do not go through
the same stores: in the second the other group is missing, and the stream may come into being
later, if it was created along with that group. What both have in common at every point is the
view of the client's own group (`StreamQueue.Proofs.Log.View`), and the answers are read off it.

The list of all groups of a stream does tell of the other group. Only what it says of the
client's own group is the same.

## What is proved

* `View.step_of_not_remains` — a call that is left out does not change the view of another group.
* `Store.perform_congr` — stores that agree on the view of a group answer its calls alike.
* `Store.isolation` — a history and what remains of it give a group the same answers, and show
  it and the entries of its stream alike at every point.
-/

namespace StreamQueue

/-! ### Whom a call is for -/

namespace LogCall

/-- The stream on which a call is made, and the group of it if the call is made for one. -/
def address? : LogCall → Option (String × Option String)
  | .ping => none
  | .append s _ _ | .len s | .rangeAfter s _ | .groups s => some (s, none)
  | .createGroup s g _ | .readNew s g _ _ _ | .readPending s g _ _ _ | .pendingEntries s g _ _ _
  | .pendingCount s g | .claim s g _ _ _ | .ack s g _ => some (s, some g)

/-- The call is not made for a group of a stream, and not on any other stream. -/
def Remains (stream group : String) (c : LogCall) : Prop :=
  ∀ a ∈ c.address?, a.1 = stream ∧ a.2 ≠ some group

/-- The call is made for a group of a stream, or on the stream without a look at its groups. -/
def Concerns (stream group : String) (c : LogCall) : Prop :=
  c.address? = some (stream, some group) ∨ c.address? = some (stream, none) ∧ c ≠ .groups stream

instance (stream group : String) (c : LogCall) : Decidable (c.Remains stream group) :=
  inferInstanceAs (Decidable (∀ a ∈ c.address?, a.1 = stream ∧ a.2 ≠ some group))

instance (stream group : String) (c : LogCall) : Decidable (c.Concerns stream group) :=
  inferInstanceAs (Decidable (_ ∨ _))

/-- What concerns one group remains when another is left out. -/
theorem Concerns.remains {stream group other : String} {c : LogCall} (concerns : c.Concerns stream other)
    (different : other ≠ group) : c.Remains stream group := by
  intro a ha
  obtain here | ⟨here, -⟩ := concerns
  · obtain rfl := Option.some.inj (here.symm.trans ha)
    exact ⟨rfl, fun same => different (Option.some.inj same)⟩
  · obtain rfl := Option.some.inj (here.symm.trans ha)
    exact ⟨rfl, by simp⟩

end LogCall

/-- A call that was carried out at some readings of the clocks, with its answer. -/
structure Exchange where
  clock : Clock
  call : LogCall
  result : call.Result

def Act.exchange (a : Act) : Exchange := ⟨a.clock, a.call, a.result⟩

/-- What was asked and answered for a group, or on its stream without a look at the groups. -/
def History.exchanges (h : History) (stream group : String) : List Exchange :=
  (h.filter fun a => a.call.Concerns stream group).map Act.exchange

theorem History.exchanges_cons (a : Act) (h : History) (stream group : String) :
    History.exchanges (a :: h) stream group =
      (if a.call.Concerns stream group then [a.exchange] else []) ++ h.exchanges stream group := by
  rw [exchanges, List.filter_cons]
  by_cases concerns : a.call.Concerns stream group
  · rw [if_pos (decide_eq_true concerns), if_pos concerns]
    rfl
  · rw [if_neg (by simp [concerns]), if_neg concerns]
    rfl

/-! ### One call -/

/-- A call that is left out does not change the view of another group. -/
theorem View.step_of_not_remains {v : View} {stream group other : String} (different : other ≠ group)
    {c : LogCall} (out : ¬ c.Remains stream group) (clock : Clock) : v.step stream other clock c = v := by
  have elsewhere (s g : String) (here : c.address? = some (s, some g)) : ¬ (s = stream ∧ g = other) := by
    rintro ⟨rfl, rfl⟩
    exact out (LogCall.Concerns.remains (.inl here) different)
  cases c with
  | append s fields maxLen =>
    refine if_neg ?_
    rintro rfl
    have concerns : (LogCall.append s fields maxLen).Concerns s other := .inr ⟨rfl, LogCall.noConfusion⟩
    exact out (concerns.remains different)
  | createGroup s g start => exact if_neg (elsewhere s g rfl)
  | readNew s g consumer count block => exact if_neg (elsewhere s g rfl)
  | readPending s g consumer after count => exact if_neg (elsewhere s g rfl)
  | claim s g consumer minIdle ids => exact if_neg (elsewhere s g rfl)
  | ack s g ids => exact if_neg (elsewhere s g rfl)
  | ping | pendingEntries | pendingCount | len | rangeAfter | groups => rfl

namespace Store

variable {s t : Store} {stream group other : String}

/-- **Answers**: stores that agree on the view of a group answer alike to what concerns it. -/
theorem perform_congr (same : s.view stream group = t.view stream group) (clock : Clock) {c : LogCall}
    (concerns : c.Concerns stream group) : (s.perform clock c).1 = (t.perform clock c).1 := by
  have entries : s.entries stream = t.entries stream := by
    rw [entries_eq s stream group, same, ← entries_eq]
  -- The address says on which stream the call is made, and for which group.
  have here : ∀ a ∈ c.address?, a.1 = stream ∧ ∀ g ∈ a.2, g = group := by
    intro a ha
    obtain is | ⟨is, -⟩ := concerns <;> obtain rfl := Option.some.inj (is.symm.trans ha) <;> simp
  cases c with
  | ping => rfl
  | append x fields maxLen =>
    obtain ⟨rfl, -⟩ := here _ rfl
    have next : (s.view x group).stream.nextId clock.wall = (t.view x group).stream.nextId clock.wall := by
      rw [same]
    exact congrArg Except.ok next
  | len x =>
    obtain ⟨rfl, -⟩ := here _ rfl
    simp only [perform, len, entries]
  | rangeAfter x after =>
    obtain ⟨rfl, -⟩ := here _ rfl
    simp only [perform, rangeAfter, entries]
  | groups x =>
    obtain ⟨rfl, -⟩ := here _ rfl
    obtain is | ⟨-, not⟩ := concerns
    · cases is
    · exact absurd rfl not
  | createGroup x y | readNew x y | readPending x y | pendingEntries x y | pendingCount x y | claim x y
  | ack x y =>
    obtain ⟨rfl, mine⟩ := here _ rfl
    obtain rfl := mine y rfl
    simp only [perform, createGroup_eq, deliver_eq, replay_eq, pendingEntries, pendingCount, claim_eq, ack_eq,
      groupOr_eq, same]
    cases (t.view x y).group <;> rfl

/-! ### Two histories -/

/-- Stores that agree on the view of a group still do after the calls that remain, if one of them
has gone through all the calls. -/
theorem view_afterAll_remaining (different : other ≠ group) (same : s.view stream other = t.view stream other)
    (cs : List TimedCall) :
    (s.afterAll cs).view stream other =
      (t.afterAll (cs.filter fun c => c.call.Remains stream group)).view stream other := by
  induction cs generalizing s t with
  | nil => exact same
  | cons c cs ih =>
    by_cases stays : c.call.Remains stream group
    · rw [List.filter_cons_of_pos (by simp [stays])]
      apply ih
      rw [view_perform, view_perform, same]
    · rw [List.filter_cons_of_neg (by simp [stays])]
      apply ih
      rw [view_perform, View.step_of_not_remains different stays, same]

theorem exchanges_remaining (different : other ≠ group) (same : s.view stream other = t.view stream other)
    (cs : List TimedCall) :
    (s.history cs).exchanges stream other =
      (t.history (cs.filter fun c => c.call.Remains stream group)).exchanges stream other := by
  induction cs generalizing s t with
  | nil => rfl
  | cons c cs ih =>
    let a : Act := ⟨s, c.clock, c.call⟩
    let b : Act := ⟨t, c.clock, c.call⟩
    by_cases stays : c.call.Remains stream group
    · have next : a.left.view stream other = b.left.view stream other := by
        rw [a.left_view, b.left_view, same]
      rw [List.filter_cons_of_pos (by simp [stays])]
      show History.exchanges (a :: a.left.history cs) stream other =
        History.exchanges (b :: b.left.history _) stream other
      rw [History.exchanges_cons, History.exchanges_cons, ih next]
      by_cases concerns : c.call.Concerns stream other
      · have answer : a.exchange = b.exchange :=
          congrArg (Exchange.mk c.clock c.call) (perform_congr same c.clock concerns)
        rw [if_pos concerns, if_pos concerns, answer]
      · rw [if_neg concerns, if_neg concerns]
    · -- The call is left out, so it concerns neither the other group nor the stream.
      have foreign : ¬ c.call.Concerns stream other := fun concerns => stays (concerns.remains different)
      have next : a.left.view stream other = t.view stream other := by
        rw [a.left_view, View.step_of_not_remains different stays, same]
      rw [List.filter_cons_of_neg (by simp [stays])]
      show History.exchanges (a :: a.left.history cs) stream other = _
      rw [History.exchanges_cons, if_neg foreign, List.nil_append]
      exact ih next

/-- **Isolation**: take any history on any log, and leave out every call that is made for a group
of a stream and every call on another stream. Whatever is asked for another group of the stream,
and every append to the stream, its length, and the entries after an identifier, is answered as
before, call by call; and at every point the stream shows the same entries and the list of its
groups says the same of that other group. -/
theorem isolation (different : other ≠ group) (s : Store) (stream : String) (cs : List TimedCall) :
    let remaining (cs : List TimedCall) := cs.filter fun c => c.call.Remains stream group
    (s.history cs).exchanges stream other = (s.history (remaining cs)).exchanges stream other ∧
    ∀ before, before <+: cs →
      (s.afterAll before).entries stream = (s.afterAll (remaining before)).entries stream ∧
      (s.afterAll before).info? stream other = (s.afterAll (remaining before)).info? stream other := by
  intro remaining
  refine ⟨exchanges_remaining different rfl cs, ?_⟩
  intro before _
  have same : (s.afterAll before).view stream other = (s.afterAll (remaining before)).view stream other :=
    view_afterAll_remaining different rfl before
  constructor
  · rw [entries_eq _ stream other, same, ← entries_eq]
  · rw [info?_eq, same, ← info?_eq]

/-- Auditors create the stream, read from it and acknowledge, next to workers of whom one claims an
entry that is trimmed by then. -/
def twoGroups : List TimedCall := [
  .atMilli 1 (.createGroup "jobs" "auditors" .zero), .atMilli 2 (.append "mail" [] 9),
  .atMilli 3 (.createGroup "jobs" "workers" .zero), .atMilli 4 (.append "jobs" [] 1),
  .atMilli 5 (.readNew "jobs" "auditors" "eve" 9 none), .atMilli 6 (.readNew "jobs" "workers" "ann" 9 none),
  .atMilli 7 (.append "jobs" [] 1), .atMilli 8 (.ack "jobs" "auditors" [⟨4, 0⟩]),
  .atMilli 9 (.claim "jobs" "workers" "bob" .zero [⟨4, 0⟩])]

/-- Without the auditors there are five calls left, and the workers are listed as before. -/
theorem isolation_twoGroups :
    "workers" ≠ "auditors" ∧
    (twoGroups.filter fun c => c.call.Remains "jobs" "auditors").length = 5 ∧
    (empty.history twoGroups).exchanges "jobs" "workers" =
      (empty.history (twoGroups.filter fun c => c.call.Remains "jobs" "auditors")).exchanges "jobs" "workers" ∧
    (empty.afterAll (twoGroups.filter fun c => c.call.Remains "jobs" "auditors")).info? "jobs" "workers" =
      some ⟨"workers", 2, 0, ⟨4, 0⟩⟩ := by
  have different : "workers" ≠ "auditors" := by decide
  obtain ⟨answers, alike⟩ := isolation different empty "jobs" twoGroups
  refine ⟨different, by decide, answers, ?_⟩
  obtain ⟨-, info⟩ := alike twoGroups (List.prefix_refl _)
  rw [← info]
  decide

end Store

end StreamQueue
