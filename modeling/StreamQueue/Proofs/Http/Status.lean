import StreamQueue.Http.App
import StreamQueue.Proofs.Json.Reading
import StreamQueue.Proofs.Publisher.Count

/-!
# The status of the queue

Every page that shows the status makes the same calls behind what else it does: it counts the backlog of
its group under the publisher's deadline, and then it sees whether the log answers at all. Nothing else
is shown if the backlog cannot be counted than a zero, and a log that refuses is one that is not connected.
The page waits for the last call without a deadline, so there is an answer exactly if that call comes back.

The text of a status is a JSON object. It has a member for an error exactly if there is one. A number has no
value here, so the object alone does not tell how many messages are pending; the text does.

## What is proved

* `Http.Status.denotes_toJson` — what the text of a status denotes.
* `Http.Status.toJson_injective` — the text determines the status.
* `App.passing_status` — the calls for a status and what is answered.
-/

namespace StreamQueue

/-! ### The text of a status -/

namespace Json

/-- A number that is not zero has another digit in front. -/
theorem head_toDigits (n : Nat) (nonzero : n ≠ 0) : ∃ d ds, Nat.toDigits 10 n = d :: ds ∧ d ≠ '0' := by
  induction n using Nat.strongRecOn with
  | ind n ih =>
    rcases Nat.lt_or_ge n 10 with small | large
    · refine ⟨n.digitChar, [], Nat.toDigits_of_lt_base small, ?_⟩
      interval_cases n <;> first | exact absurd rfl nonzero | decide
    · obtain ⟨d, ds, front, first⟩ := ih (n / 10) (by omega) (by omega)
      refine ⟨d, ds ++ [(n % 10).digitChar], ?_, first⟩
      rw [Nat.toDigits_of_base_le (by decide) large, front, List.cons_append]

theorem whole_toDigits (n : Nat) : Whole (Nat.toDigits 10 n) := by
  by_cases zero : n = 0
  · subst zero
    rw [Nat.toDigits_zero]
    exact .zero
  · have digits : Digits (Nat.toDigits 10 n) :=
      ⟨Nat.toDigits_ne_nil, fun c hc => Nat.isDigit_of_mem_toDigits (by decide) (by decide) hc⟩
    obtain ⟨d, ds, front, first⟩ := head_toDigits n zero
    rw [front] at digits ⊢
    exact .other first digits

theorem denotes_toString (n : Nat) : Denotes (toString n).toList .number := by
  have printed : (toString n).toList = Nat.toDigits 10 n := Nat.toList_repr
  have number := Number.positive (whole_toDigits n) .none .none
  rw [List.append_nil, List.append_nil] at number
  rw [printed]
  exact .number number

theorem denotes_bool (b : Bool) : Denotes (toString b).toList (.bool b) := by
  cases b
  · exact .false
  · exact .true

end Json

/-- A status as a JSON value. -/
def Http.Status.value (s : Status) : Json :=
  .object <| [(some "liveness", .bool s.health.live), (some "readiness", .bool s.health.ready),
    (some "stream_connected", .bool s.connected), (some "pending_messages", .number)] ++
    s.error.toList.map fun e => (some "error", .string (some e))

/-- **The text of a status** is an object with an error exactly if there is one. -/
theorem Http.Status.denotes_toJson (s : Status) : Json.Denotes s.toJson.toList s.value := by
  have each : ∀ m ∈ [("liveness", toString s.health.live, Json.bool s.health.live),
      ("readiness", toString s.health.ready, Json.bool s.health.ready),
      ("stream_connected", toString s.connected, Json.bool s.connected),
      ("pending_messages", toString s.pending, Json.number)] ++
      s.error.toList.map (fun e => ("error", Json.quote e, Json.string (some e))),
      Json.Denotes m.2.1.toList m.2.2 := by
    intro m hm
    rcases List.mem_append.1 hm with always | error
    · simp only [List.mem_cons, List.not_mem_nil, or_false] at always
      rcases always with rfl | rfl | rfl | rfl
      · exact Json.denotes_bool _
      · exact Json.denotes_bool _
      · exact Json.denotes_bool _
      · exact Json.denotes_toString _
    · obtain ⟨e, -, rfl⟩ := List.mem_map.1 error
      exact Json.denotes_quote e
  have whole := Json.denotes_objectText each
  simp only [List.map_append, List.map_cons, List.map_nil, List.map_map, Function.comp_def] at whole
  exact whole

/-- All that a status shows but the number is told by its value. -/
theorem Http.Status.value_eq_iff {s t : Status} :
    s.value = t.value ↔ s.health = t.health ∧ s.connected = t.connected ∧ s.error = t.error := by
  obtain ⟨⟨live, ready⟩, connected, pending, error⟩ := s
  obtain ⟨⟨live', ready'⟩, connected', pending', error'⟩ := t
  cases error <;> cases error' <;> simp [value, and_assoc]

/-- **The text determines the status**, the number of pending messages with it. -/
theorem Http.Status.toJson_injective {s t : Status} (same : s.toJson = t.toJson) : s = t := by
  have denotes := s.denotes_toJson
  rw [same] at denotes
  have shown := value_eq_iff.1 (denotes.unique t.denotes_toJson)
  obtain ⟨health, connected, pending, error⟩ := s
  obtain ⟨health', connected', pending', error'⟩ := t
  obtain ⟨rfl, rfl, rfl⟩ := shown
  -- Only the numbers are left to differ, and what stands around them is the same.
  have digits : (toString pending).toList = (toString pending').toList := by
    have chars := congrArg String.toList same
    cases error <;> simpa [toJson, Json.objectText, String.toList_intercalate, List.intercalate] using chars
  rw [Nat.repr_injective (String.toList_inj.1 digits)]

/-- An answer that shows a status. -/
structure Http.Response.Shows (answer : Response) (shown : Status) : Prop where
  status : answer.status = 200
  body : answer.body = shown.toJson
  value : Json.parse? answer.body = some shown.value
  /-- It shows no other status, and so no other number of pending messages. -/
  only : ∀ other : Status, answer.body = other.toJson → other = shown

theorem Http.shows_json (shown : Status) : (Response.json shown.toJson).Shows shown :=
  ⟨rfl, rfl, Json.parse?_eq_some_iff.2 shown.denotes_toJson, fun _ same => Status.toJson_injective same.symm⟩

/-! ### The calls for a status -/

namespace App

open Job Publisher Http

variable {a : App} {error : Option String}

/-- What is shown once the backlog was counted or could not be. -/
def shownStatus (a : App) (error : Option String) (counted : Except QueueError Nat) (connected : Bool) : Status :=
  ⟨a.health, connected, counted.toOption.getD 0, error⟩

/-- What a page does once the backlog was counted or could not be. -/
def conclude (a : App) (error : Option String) (counted : Except QueueError Nat) : Job Response :=
  let rest := call .ping fun reached => done (.json (a.shownStatus error counted reached.isOk).toJson)
  match counted with
  | .ok _ => rest
  | .error e => report (.backlogUnknown a.group e) rest

theorem status_eq (a : App) (error : Option String) :
    a.status error = (backlog a.publisher a.group).bind (a.conclude error) := by
  refine congrArg (backlog a.publisher a.group).bind (funext fun counted => ?_)
  cases counted <;> rfl

/-- What is reported of a backlog that could not be counted. -/
def uncounted (a : App) : Except QueueError Nat → List Event
  | .ok _ => []
  | .error e => [.backlogUnknown a.group e]

/-- To see whether the log answers leaves it as it is. -/
theorem passing_ping {α : Type} (hitches : Nat → Hitch) (wall : Instant → Timestamp) (f : Bool → α) (i : Nat)
    (t : Instant) (s : Store) :
    (call .ping fun reached => done (f reached.isOk)).passing (.hindered hitches wall) none i t s =
      ⟨(hitches i).delay.map fun d => (t.after d, f (hitches i).refusal.isNone), [(t, .ping)], [], s⟩ := by
  cases held : (hitches i).delay with
  | none =>
    have never : (Service.hindered hitches wall).inTime none i .ping t s = none := by
      simp [Service.inTime_none, Service.hindered, Hitch.comeback, held]
    rw [passing_call_of_hung never]
    rfl
  | some d =>
    have back : (Service.hindered hitches wall).inTime none i .ping t s =
        (Hitch.comeback (hitches i) wall .ping t s) := Service.inTime_none ..
    rw [Hitch.comeback, held, Option.map_some] at back
    rw [passing_call_of_some back]
    cases refusal : (hitches i).refusal <;> simp only [Hitch.outcome, refusal] <;> rfl

/-- **The calls for a status**, from the `i`-th on: up to three for the backlog, and one that is answered
by every log. There is an answer exactly if that one comes back. -/
theorem passing_status (a : App) (error : Option String) (hitches : Nat → Hitch) (wall : Instant → Timestamp)
    (i : Nat) (start : Instant) (s : Store) :
    ∃ counted looks last, Told a.publisher a.group hitches i s counted ∧
      looks.length ≤ 3 ∧ (∀ look ∈ looks, ∀ stream fields maxLen, look.2 ≠ .append stream fields maxLen) ∧
      (a.status error).passing (.hindered hitches wall) none i start s =
        let ping := hitches (i + looks.length)
        ⟨ping.delay.map fun d => (last.after d, .json (a.shownStatus error counted ping.refusal.isNone).toJson),
          looks ++ [(last, .ping)], a.uncounted counted, s⟩ := by
  obtain ⟨t, counted, looks, passage, few, reading, told⟩ :=
    passing_backlog a.publisher a.group hitches wall i start s
  refine ⟨counted, looks, t, told, few, reading, ?_⟩
  have pinged := passing_ping hitches wall
    (fun connected => Response.json (a.shownStatus error counted connected).toJson) (i + looks.length) t s
  rw [status_eq, passing_bind_none (looking_backlog _ _ s).tidy, passage, Passage.followed_of_ended rfl]
  cases counted with
  | ok n => simp only [conclude, pinged, uncounted, List.append_nil]
  | error e => simp only [conclude, passing, pinged, uncounted, List.nil_append]

end App

end StreamQueue
