import StreamQueue.Consumer.Run
import StreamQueue.Proofs.Lists
import StreamQueue.Proofs.Log.Page
import StreamQueue.Proofs.Text.Identifier
import StreamQueue.Proofs.Text.Utf8

/-!
# The listing of a server

The deliveries of a group are listed by a log in memory and by a log on a server. The one goes
through its pending list from the next identifier on and stops when it has enough rows. The other
asks for them in words: the least idle time, where to start, how many; the server chooses the rows,
and they come back as text and numbers to be read.

What a server does is said by the rule of its command (`ListsPending`): the first records of the
pending list that are idle for long enough, in the order of the identifiers, from a start on that is
either the beginning or an identifier that is left out. A number of a record is one that a reply can
carry, which is a word of 64 bits.

## What is proved

* `pendingEntries_agree` — over one pending list both logs answer alike.
* `result_refused` — one identifier in a reply that is none makes the whole call fail.
* `Sends.unique`, `exists_sends` — the pages of a scan come to one end, with one list of calls.
* `listing_agrees` — both logs answer a run alike, so it sends the same calls to either.
-/

namespace StreamQueue.Redis

open Text.Utf8 (encode decode? decode?_encode)

attribute [local instance] StreamId.linearOrder

/-! ### The server -/

/-- What a call comes to, on a server that replies to commands. -/
def asked (server : Command → Reply) (c : LogCall) : c.Result :=
  match plan c with
  | .immediate result => result
  | .exchange command read => read (server command)

/-- A line of a listing, as a server sends it. -/
structure Line where
  id : String
  consumer : String
  idle : Int
  deliveries : Int

namespace Line

/-- The line in a reply. -/
def value (l : Line) : Value :=
  .array [.bulk (encode l.id), .bulk (encode l.consumer), .int l.idle, .int l.deliveries]

/-- The line of a record. -/
def of (p : PendingEntry) : Line := ⟨p.id.text, p.consumer, p.idle.wholeMillis, p.deliveries⟩

end Line

/-- What a start of a listing lets through. -/
inductive StartsAt : String → (StreamId → Bool) → Prop
  | all : StartsAt "-" fun _ => true
  | past (x : StreamId) : StartsAt ("(" ++ x.text) fun id => x < id

/-- A server lists the pending records of a group by the rule of its command. -/
def ListsPending (server : Command → Reply) (stream group : String) (records : List PendingEntry) : Prop :=
  ∀ (t n : Nat) (start : String) (range : StreamId → Bool), StartsAt start range → ∀ command : Command,
    command.words = ["XPENDING", stream, group, "IDLE", toString t, start, "+", toString n] →
    server command = .value (.array (((records.filter fun p => t ≤ p.idle.wholeMillis && range p.id).take n).map
      fun p => (Line.of p).value))

/-! ### Reading a listing -/

theorem lines_eq (records : List PendingEntry) :
    (records.map fun p => (Line.of p).value) = (records.map Line.of).map Line.value := by
  rw [List.map_map]
  rfl

/-- What is read of a line. -/
def Line.raw (l : Line) : RawPending :=
  ⟨l.id, l.consumer, (l.idle % UInt64.size).toNat, (l.deliveries % UInt64.size).toNat⟩

theorem listedText_encode (s : String) : listedText (encode s) = .ok s := by
  rw [listedText, decode?_encode]

theorem rawPending_value (l : Line) : rawPending l.value = .ok l.raw := by
  rw [Line.value, rawPending, listedText_encode, listedText_encode]
  rfl

/-- There is no refusal among values if there is none in any of them. -/
theorem firstErrorIn?_eq_none_iff {vs : List Value} :
    Value.firstErrorIn? vs = none ↔ ∀ v ∈ vs, v.firstError? = none := by
  induction vs with
  | nil => simp [Value.firstErrorIn?]
  | cons v vs ih =>
    rw [Value.firstErrorIn?, List.forall_mem_cons, ← ih]
    cases v.firstError? <;> simp

/-- No line of a listing is an error. -/
theorem firstErrorIn?_lines (lines : List Line) : Value.firstErrorIn? (lines.map Line.value) = none :=
  firstErrorIn?_eq_none_iff.2 (List.forall_mem_map.2 fun _ _ => rfl)

/-- A listing is read line by line. -/
theorem result_lines (stream group : String) (minIdle : Span) (after : StreamId) (count : Nat) (lines : List Line) :
    result (.pendingEntries stream group minIdle after count) (.value (.array (lines.map Line.value))) =
      (lines.map Line.raw).mapM readPending := by
  have clean : (Value.array (lines.map Line.value)).firstError? = none := firstErrorIn?_lines lines
  have all : rawPendings (.array (lines.map Line.value)) = .ok (lines.map Line.raw) := by
    rw [rawPendings, List.mapM_map]
    exact mapM_eq_ok fun l _ => rawPending_value l
  rw [result, decode, clean]
  simp only
  rw [all]
  rfl

/-- A number that a reply can carry is read as it is. -/
theorem word_of_small {n : Nat} (small : n < UInt64.size) : ((n : Int) % UInt64.size).toNat = n := by
  rw [← Int.natCast_mod, Nat.mod_eq_of_lt small, Int.toNat_natCast]

theorem wholeMillis_ofMillis (n : Nat) : (Span.ofMillis n).wholeMillis = n :=
  Nat.mul_div_cancel n (by decide)

theorem ofMillis_le_ofMillis {m n : Nat} : Span.ofMillis m ≤ Span.ofMillis n ↔ m ≤ n :=
  Nat.mul_le_mul_right_iff (by decide)

/-- A record whose numbers a reply can carry is read as it is. -/
theorem readPending_of {p : PendingEntry} {millis : Nat} (small : millis < UInt64.size)
    (whole : p.idle = .ofMillis millis) (fits : p.deliveries < UInt64.size) :
    readPending (Line.of p).raw = .ok p := by
  have id : readId p.id.text = .ok p.id := StreamId.readId_eq_ok_iff.2 (StreamId.ofText?_text p.id)
  simp only [readPending, Line.raw, Line.of, whole, wholeMillis_ofMillis, word_of_small small, word_of_small fits, id]
  rw [← whole]
  rfl

/-- **One bad identifier**: when all that come before it are spellings, the call fails with its text. -/
theorem result_refused (stream group : String) (minIdle : Span) (after : StreamId) (count : Nat)
    {before behind : List Line} {bad : Line} (fine : ∀ l ∈ before, ∃ id, StreamId.Spells l.id.toList id)
    (unspelled : ∀ id, ¬ StreamId.Spells bad.id.toList id) :
    result (.pendingEntries stream group minIdle after count)
      (.value (.array ((before ++ bad :: behind).map Line.value))) = .error (.invalidId bad.id) := by
  have refused : readId bad.id = .error (.invalidId bad.id) := StreamId.readId_eq_error_iff.2 ⟨unspelled, rfl⟩
  rw [result_lines, List.map_append, List.map_cons]
  refine mapM_eq_error_iff.2 ⟨_, _, _, rfl, fun raw mem => ?fine, ?fails⟩
  case fine =>
    obtain ⟨l, there, rfl⟩ := List.mem_map.1 mem
    obtain ⟨id, spelled⟩ := fine l there
    have read : readId l.id = .ok id := StreamId.readId_eq_ok_iff.2 (StreamId.ofText?_eq_some_iff.2 spelled)
    rw [readPending, Line.raw, read]
    exact ⟨_, rfl⟩
  case fails =>
    rw [readPending, Line.raw, refused]
    rfl

/-! ### One pending list -/

/-- The pending list of a group as it is listed at an instant. -/
def listed (s : Store) (now : Instant) (stream group : String) : List PendingEntry :=
  (s.pendingOf stream group).pairs.map fun p => Group.listing now p.1 p.2

/-- A log in memory at a moment and a server have the same pending list for a group. No identifier
in it is zero, it is idle for whole milliseconds, and a reply can carry its numbers. -/
structure Alike (stream group : String) (s : Store) (clock : Clock) (server : Command → Reply) : Prop where
  there : (s.group? stream group).isSome
  positive : ∀ p ∈ listed s clock.now stream group, StreamId.zero < p.id
  whole : ∀ p ∈ listed s clock.now stream group, ∃ millis < UInt64.size, p.idle = .ofMillis millis
  fits : ∀ p ∈ listed s clock.now stream group, p.deliveries < UInt64.size
  rule : ListsPending server stream group (listed s clock.now stream group)

variable {stream group : String} {s : Store} {clock : Clock} {server : Command → Reply}

/-- What the log in memory answers, as a choice from its pending list. -/
theorem perform_listed (there : (s.group? stream group).isSome) (clock : Clock) (minIdle : Span) (after : StreamId)
    (count : Nat) : (s.perform clock (.pendingEntries stream group minIdle after count)).1 =
      .ok (((listed s clock.now stream group).filter fun p => minIdle ≤ p.idle ∧ after < p.id).take count) := by
  obtain ⟨⟨st, g⟩, found⟩ := Option.isSome_iff_exists.1 there
  have answer := s.perform_pendingEntries stream group st g clock minIdle after count
  rw [Store.putGroup_self found] at answer
  have pending : s.pendingOf stream group = g.pending := by
    rw [Store.pendingOf, found]
  rw [answer, listed, pending, Group.idle, List.filter_filter]
  simp [Bool.and_comm]

/-- What starts a listing lets through what is past the identifier, for all that there is. -/
theorem startsAt_listStart (after : StreamId) : ∃ range, StartsAt (Command.listStart after) range ∧
    ∀ id, StreamId.zero < id → range id = decide (after < id) := by
  by_cases first : after = .zero
  · subst first
    exact ⟨fun _ => true, .all, fun id positive => (decide_eq_true positive).symm⟩
  · have other : after.isZero = false := by simpa [StreamId.isZero] using first
    refine ⟨fun id => after < id, ?_, fun id _ => rfl⟩
    rw [Command.listStart, other]
    exact .past after

/-- **Both logs answer alike** for a least idle time of whole milliseconds. -/
theorem pendingEntries_agree (alike : Alike stream group s clock server) {t : Nat} (small : t < UInt64.size)
    (after : StreamId) (count : Nat) :
    asked server (.pendingEntries stream group (.ofMillis t) after count) =
      (s.perform clock (.pendingEntries stream group (.ofMillis t) after count)).1 := by
  obtain ⟨range, starts, same⟩ := startsAt_listStart after
  have words : (Command.ofCall (.pendingEntries stream group (.ofMillis t) after count)).words =
      ["XPENDING", stream, group, "IDLE", toString t, Command.listStart after, "+", toString count] := by
    simp only [Command.ofCall, Command.plain, Command.millisWord, wholeMillis_ofMillis, Nat.mod_eq_of_lt small]
  have reply := alike.rule t count _ range starts _ words
  have chosen : ((listed s clock.now stream group).filter fun p => t ≤ p.idle.wholeMillis && range p.id) =
      (listed s clock.now stream group).filter fun p => Span.ofMillis t ≤ p.idle ∧ after < p.id := by
    refine List.filter_congr fun p mem => ?_
    obtain ⟨millis, -, idle⟩ := alike.whole p mem
    rw [same p.id (alike.positive p mem), idle, wholeMillis_ofMillis]
    simp only [ofMillis_le_ofMillis, Bool.decide_and]
  rw [chosen] at reply
  rw [perform_listed alike.there]
  have sent : asked server (.pendingEntries stream group (.ofMillis t) after count) =
      result (.pendingEntries stream group (.ofMillis t) after count)
        (server (Command.ofCall (.pendingEntries stream group (.ofMillis t) after count))) := rfl
  rw [sent, reply, lines_eq, result_lines, List.mapM_map, List.mapM_map]
  refine (mapM_eq_ok (g := id) fun p mem => ?_).trans (by rw [List.map_id])
  have there := (List.mem_filter.1 (List.mem_of_mem_take mem)).1
  obtain ⟨millis, small, idle⟩ := alike.whole p there
  exact readPending_of small idle (alike.fits p there)

/-- What the log in memory answers, read off its pending list from the next identifier on. -/
theorem perform_upFrom (there : (s.group? stream group).isSome) (clock : Clock) (minIdle : Span)
    {after : StreamId} (h : after ≠ .last) (count : Nat) :
    (s.perform clock (.pendingEntries stream group minIdle after count)).1 =
      .ok (((((s.pendingOf stream group).upFrom after.next).map fun p => Group.listing clock.now p.1 p.2).filter
        fun p => minIdle ≤ p.idle).take count) := by
  obtain ⟨⟨st, g⟩, found⟩ := Option.isSome_iff_exists.1 there
  have answer := s.perform_pendingEntries stream group st g clock minIdle after count
  rw [Store.putGroup_self found] at answer
  have pending : s.pendingOf stream group = g.pending := by
    rw [Store.pendingOf, found]
  rw [answer, pending, Group.idle_past h]

end StreamQueue.Redis

namespace StreamQueue.Consumer

attribute [local instance] StreamId.linearOrder

/-! ### Page after page -/

variable {cfg : ConsumerConfig} {me : String} {cancelled : Bool} {answers answers' : Nat → (c : LogCall) → c.Result}
  {i : Nat} {found : List StreamId} {after : StreamId} {sent sent' : List LogCall} {m m' : Move}

/-- The calls that a run sends from a page of stuck entries on, and the move that ends its scan. The
answers may change from page to page. -/
inductive Sends (cfg : ConsumerConfig) (me : String) (cancelled : Bool) (answers : Nat → (c : LogCall) → c.Result) :
    Nat → List StreamId → StreamId → List LogCall → Move → Prop
  | last {i : Nat} {found : List StreamId} {after : StreamId} {m : Move}
    (moves : step cfg me cancelled (.scanning found) (.scanned (answers i (scanCall cfg after))) = m)
    (ends : ∀ found', m.phase ≠ .scanning found') :
    Sends cfg me cancelled answers i found after (scanCall cfg after :: m.starts.toList) m
  | more {i : Nat} {found found' : List StreamId} {after after' : StreamId} {sent : List LogCall} {m : Move}
    (moves : step cfg me cancelled (.scanning found) (.scanned (answers i (scanCall cfg after))) =
      ⟨.scanning found', [], some (scanCall cfg after')⟩)
    (rest : Sends cfg me cancelled answers (i + 1) found' after' sent m) :
    Sends cfg me cancelled answers i found after (scanCall cfg after :: sent) m

theorem scanCall_injective {a b : StreamId} (same : scanCall cfg a = scanCall cfg b) : a = b := by
  simp only [scanCall, LogCall.pendingEntries.injEq, true_and] at same
  exact same.1

/-- A scan comes to one end. -/
theorem Sends.unique (one : Sends cfg me cancelled answers i found after sent m)
    (other : Sends cfg me cancelled answers i found after sent' m') : sent' = sent ∧ m' = m := by
  induction one generalizing sent' m' with
  | last moves ends =>
    cases other with
    | last moves' =>
      obtain rfl := moves.symm.trans moves'
      exact ⟨rfl, rfl⟩
    | more moves' =>
      obtain rfl := moves.symm.trans moves'
      exact absurd rfl (ends _)
  | more moves rest ih =>
    cases other with
    | last moves' ends' =>
      obtain rfl := moves'.symm.trans moves
      exact absurd rfl (ends' _)
    | more moves' rest' =>
      obtain ⟨same, -, next⟩ := Move.mk.inj (moves.symm.trans moves')
      cases Phase.scanning.inj same
      cases scanCall_injective (Option.some.inj next)
      obtain ⟨rfl, rfl⟩ := ih rest'
      exact ⟨rfl, rfl⟩

/-- Answers that are alike are not told apart. -/
theorem Sends.congr (same : ∀ i after, answers i (scanCall cfg after) = answers' i (scanCall cfg after))
    (sends : Sends cfg me cancelled answers i found after sent m) :
    Sends cfg me cancelled answers' i found after sent m := by
  induction sends with
  | last moves ends => exact .last (same _ _ ▸ moves) ends
  | more moves rest ih => exact .more (same _ _ ▸ moves) ih

theorem listen_not_scanning (cfg : ConsumerConfig) (me : String) (cancelled readIsOut : Bool) (found : List StreamId) :
    (listen cfg me cancelled readIsOut).phase ≠ .scanning found := by
  cases cancelled <;> simp [listen, unlessCancelled, stop]

theorem claimFound_not_scanning (cfg : ConsumerConfig) (me : String) (cancelled : Bool) (found found' : List StreamId) :
    (claimFound cfg me cancelled found).phase ≠ .scanning found' := by
  unfold claimFound
  split
  · exact listen_not_scanning cfg me cancelled true found'
  · exact Phase.noConfusion

/-- What a run does with a page: it is done with the scan, or asks for what is past the last row. -/
theorem scanned_cases (cfg : ConsumerConfig) (me : String) (cancelled : Bool) (found : List StreamId)
    (result : Except LogError (List PendingEntry)) :
    (∀ found', (step cfg me cancelled (.scanning found) (.scanned result)).phase ≠ .scanning found') ∨
      ∃ page final found', result = .ok page ∧ final ∈ page ∧
        step cfg me cancelled (.scanning found) (.scanned result) =
          ⟨.scanning found', [], some (scanCall cfg final.id)⟩ := by
  cases result with
  | error e => exact .inl (listen_not_scanning cfg me cancelled true)
  | ok page =>
    simp only [step]
    cases last : page.getLast? with
    | none =>
      simp only [scanned, last]
      exact .inl (claimFound_not_scanning cfg me cancelled found)
    | some final =>
      rw [scanned]
      simp only [last]
      split
      · exact .inl (claimFound_not_scanning cfg me cancelled _)
      · exact .inr ⟨page, final, _, rfl, List.mem_of_getLast? last, rfl⟩

/-- **Pages come to an end** where the rows of each lie past the identifier that it was asked for. -/
theorem exists_sends
    (past : ∀ i after (page : List PendingEntry), answers i (scanCall cfg after) = .ok page →
      ∀ p ∈ page, after < p.id)
    (i : Nat) (found : List StreamId) (after : StreamId) :
    ∃ sent m, Sends cfg me cancelled answers i found after sent m := by
  -- With each page that is followed by another there are fewer identifiers left.
  induction left : 2 ^ 128 - after.position using Nat.strong_induction_on generalizing i found after with
  | _ n ih =>
    rcases scanned_cases cfg me cancelled found (answers i (scanCall cfg after)) with
      ends | ⟨page, final, found', answer, mem, moves⟩
    · exact ⟨_, _, .last rfl ends⟩
    · have later := StreamId.lt_iff_position_lt.1 (past i after page answer final mem)
      have bound := StreamId.le_iff_position_le.1 (StreamId.le_last final.id)
      rw [StreamId.position_last] at bound
      obtain ⟨sent, m, rest⟩ := ih _ (by omega) (i + 1) found' final.id rfl
      exact ⟨_, m, .more moves rest⟩

end StreamQueue.Consumer

namespace StreamQueue.Redis

open Consumer (Sends exists_sends scanCall batch)

attribute [local instance] StreamId.linearOrder

/-- **The listing of a server and the one in memory.** As long as a log in memory and a server have the
same pending list for a group, whenever they are asked:

* for a least idle time of whole milliseconds below `2 ^ 64`, from any identifier on and for any count, the
  call over the server comes to what the log in memory answers; from any identifier but the greatest that
  is the first rows of the pending list that are idle for long enough, from the next identifier on;
* whatever lines a reply has, the first identifier that is no spelling of one is the failure of the call;
* a scan for stuck entries comes to one end with one list of calls, and these are the same over both logs,
  with the identifiers that are claimed at the end. -/
theorem listing_agrees (stream group : String) (stores : Nat → Store) (clocks : Nat → Clock)
    (servers : Nat → Command → Reply) (alike : ∀ i, Alike stream group (stores i) (clocks i) (servers i)) :
    (∀ i t after count, t < UInt64.size →
      let call : LogCall := .pendingEntries stream group (.ofMillis t) after count
      asked (servers i) call = ((stores i).perform (clocks i) call).1 ∧
      (after ≠ .last → asked (servers i) call =
        .ok ((((((stores i).pendingOf stream group).upFrom after.next).map fun p =>
          Group.listing (clocks i).now p.1 p.2).filter fun p => Span.ofMillis t ≤ p.idle).take count))) ∧
    (∀ (server : Command → Reply) (minIdle : Span) (after : StreamId) (count : Nat) (before behind : List Line)
      (bad : Line),
      let call : LogCall := .pendingEntries stream group minIdle after count
      server (Command.ofCall call) = .value (.array ((before ++ bad :: behind).map Line.value)) →
      (∀ l ∈ before, ∃ id, StreamId.Spells l.id.toList id) → (∀ id, ¬ StreamId.Spells bad.id.toList id) →
      asked server call = .error (.invalidId bad.id)) ∧
    (∀ (cfg : ConsumerConfig) (me : String) (cancelled : Bool), cfg.stream = stream → cfg.group = group →
      (∃ t < UInt64.size, cfg.claimMinIdle = .ofMillis t) →
      ∃ sent m,
        (∀ sent' m', Sends cfg me cancelled (fun i c => ((stores i).perform (clocks i) c).1) 0 [] .zero sent' m' ↔
          sent' = sent ∧ m' = m) ∧
        (∀ sent' m', Sends cfg me cancelled (fun i c => asked (servers i) c) 0 [] .zero sent' m' ↔
          sent' = sent ∧ m' = m)) := by
  refine ⟨?alike, ?refused, ?scan⟩
  case alike =>
    intro i t after count small call
    have agree := pendingEntries_agree (alike i) small after count
    exact ⟨agree, fun h => agree.trans (perform_upFrom (alike i).there (clocks i) (.ofMillis t) h count)⟩
  case refused =>
    intro server minIdle after count before behind bad call reply fine unspelled
    have sent : asked server call = result call (server (Command.ofCall call)) := rfl
    rw [sent, reply]
    exact result_refused stream group minIdle after count fine unspelled
  case scan =>
    rintro cfg me cancelled rfl rfl ⟨t, small, whole⟩
    have same (i : Nat) (after : StreamId) : ((stores i).perform (clocks i) (scanCall cfg after)).1 =
        asked (servers i) (scanCall cfg after) := by
      rw [scanCall, whole]
      exact (pendingEntries_agree (alike i) small after (batch cfg)).symm
    have past (i : Nat) (after : StreamId) (page : List PendingEntry)
        (answer : ((stores i).perform (clocks i) (scanCall cfg after)).1 = .ok page) : ∀ p ∈ page, after < p.id := by
      intro p mem
      have rows := perform_listed (alike i).there (clocks i) cfg.claimMinIdle after (batch cfg)
      rw [Except.ok.inj (answer.symm.trans rows)] at mem
      exact (of_decide_eq_true (List.mem_filter.1 (List.mem_of_mem_take mem)).2).2
    obtain ⟨sent, m, sends⟩ :=
      @exists_sends cfg me cancelled (fun i c => ((stores i).perform (clocks i) c).1) past 0 [] .zero
    refine ⟨sent, m, fun sent' m' => ⟨sends.unique, ?_⟩, fun sent' m' => ⟨(sends.congr same).unique, ?_⟩⟩
    · rintro ⟨rfl, rfl⟩
      exact sends
    · rintro ⟨rfl, rfl⟩
      exact sends.congr same

/-! ### A server that follows the rule -/

/-- The number that a word of a command is. -/
def wordNumber (word : String) : Nat := Nat.ofDigitChars 10 word.toList 0

/-- Whether a start lets an identifier through. -/
def lets (start : String) (id : StreamId) : Bool :=
  match start.toList with
  | '(' :: x => (StreamId.ofText? (String.ofList x)).any fun x => x < id
  | _ => true

/-- A server that has a pending list and answers nothing but the command that lists it. -/
def lister (records : List PendingEntry) (command : Command) : Reply :=
  match command.words with
  | [_, _, _, _, t, start, _, n] =>
    .value (.array (((records.filter fun p =>
      wordNumber t ≤ p.idle.wholeMillis && lets start p.id).take (wordNumber n)).map fun p => (Line.of p).value))
  | _ => .closed

theorem wordNumber_toString (n : Nat) : wordNumber (toString n) = n := by
  have printed : (toString n).toList = Nat.toDigits 10 n := Nat.toList_repr
  rw [wordNumber, printed, Nat.ofDigitChars_ten_toDigits]

theorem lets_of_startsAt {start : String} {range : StreamId → Bool} (starts : StartsAt start range) :
    lets start = range := by
  cases starts with
  | all => rfl
  | past x =>
    have bracket : ("(" ++ x.text).toList = '(' :: x.text.toList := by simp
    funext id
    rw [lets, bracket]
    simp only [String.ofList_toList, StreamId.ofText?_text, Option.any_some]

theorem listsPending_lister (records : List PendingEntry) (stream group : String) :
    ListsPending (lister records) stream group records := by
  intro t n start range starts command words
  simp only [lister, words, wordNumber_toString, lets_of_startsAt starts]

/-- The client has two of the three deliveries that have waited, in the first page; the second page has the
one that it claims. -/
theorem listing_agrees_fivePending :
    let s := Store.empty.afterAll Store.fivePending
    let clock : Clock := (TimedCall.atMilli 9 .ping).clock
    let server := lister (listed s clock.now "jobs" "workers")
    let cfg := { Consumer.config "jobs" "workers" with claimBatch := 2, claimMinIdle := .ofMillis 4 }
    Alike "jobs" "workers" s clock server ∧
    asked server (.pendingEntries "jobs" "workers" (.ofMillis 4) .zero 2) =
      .ok [⟨⟨2, 0⟩, "ann", 1, .ofMillis 5⟩, ⟨⟨2, 2⟩, "ann", 1, .ofMillis 5⟩] ∧
    ∃ m, Sends cfg "ann" false (fun _ c => asked server c) 0 [] .zero
      [scanCall cfg .zero, scanCall cfg ⟨2, 2⟩, .claim "jobs" "workers" "ann" (.ofMillis 4) [⟨3, 0⟩]] m := by
  intro s clock server cfg
  have whole : ∀ p ∈ listed s clock.now "jobs" "workers",
      p.idle.wholeMillis < UInt64.size ∧ p.idle = .ofMillis p.idle.wholeMillis := by decide
  have alike : Alike "jobs" "workers" s clock server :=
    ⟨by decide, by decide, fun p mem => ⟨_, whole p mem⟩, by decide, listsPending_lister _ "jobs" "workers"⟩
  obtain ⟨agree, -, scan⟩ := listing_agrees "jobs" "workers" (fun _ => s) (fun _ => clock) (fun _ => server)
    fun _ => alike
  have first : (s.perform clock (.pendingEntries "jobs" "workers" (.ofMillis 4) .zero 2)).1 =
      .ok [⟨⟨2, 0⟩, "ann", 1, .ofMillis 5⟩, ⟨⟨2, 2⟩, "ann", 1, .ofMillis 5⟩] := by decide
  have second : (s.perform clock (.pendingEntries "jobs" "workers" (.ofMillis 4) ⟨2, 2⟩ 2)).1 =
      .ok [⟨⟨3, 0⟩, "bob", 1, .ofMillis 4⟩] := by decide
  obtain ⟨sent, m, memory, overServer⟩ := scan cfg "ann" false rfl rfl ⟨4, by decide, rfl⟩
  let claims : Consumer.Move := ⟨.claiming, [], some (.claim "jobs" "workers" "ann" (.ofMillis 4) [⟨3, 0⟩])⟩
  have last : Sends cfg "ann" false (fun _ c => (s.perform clock c).1) 1 [] ⟨2, 2⟩
      (scanCall cfg ⟨2, 2⟩ :: claims.starts.toList) claims := by
    refine .last ?_ fun _ => Consumer.Phase.noConfusion
    exact (congrArg (fun r => Consumer.step cfg "ann" false (.scanning []) (.scanned r)) second).trans rfl
  have pages : Sends cfg "ann" false (fun _ c => (s.perform clock c).1) 0 [] .zero
      (scanCall cfg .zero :: scanCall cfg ⟨2, 2⟩ :: claims.starts.toList) claims := by
    refine .more ?_ last
    exact (congrArg (fun r => Consumer.step cfg "ann" false (.scanning []) (.scanned r)) first).trans rfl
  obtain ⟨rfl, rfl⟩ := (memory _ _).1 pages
  exact ⟨alike, (agree 0 4 .zero 2 (by decide)).1.trans first, claims, (overServer _ _).2 ⟨rfl, rfl⟩⟩

end StreamQueue.Redis
