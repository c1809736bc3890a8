import StreamQueue.Proofs.Redis.Listing

/-!
# Milliseconds in commands

A server is told spans in whole milliseconds, each in a word of 64 bits: how long a read for new entries
may wait, and for how long an entry must have waited to be listed or claimed. A span is longer than that
in two ways. It may have a part of a millisecond, and it may have more milliseconds than a word holds.

For a read the part of a millisecond does not matter, since a read that waits at all says one millisecond
at least. Of a span that does not fit, only the remainder is sent, which may even be zero, and zero means
for ever. For a listing and a claim both matter: what is sent is never longer than the span that was asked
for, so a server lets everything through that it should, and something else as well unless the span is a
number of milliseconds that fits.

## What is proved

* `keeps_told_iff`, `told_eq_forever_iff` — when a read waits long enough, and when for ever.
* `heeds_millisWord` — what a threshold lets through, and when it is nothing else than what was asked for.
* `spans_kept_iff` — exactly which spans are kept by the commands that are sent.
* `spans_lost` — spans that are not kept.
-/

namespace StreamQueue.Redis

/-! ### Whole milliseconds -/

/-- A number of milliseconds is not past a span exactly if the span has as many of them. -/
theorem ofMillis_le_iff {n : Nat} {d : Span} : Span.ofMillis n ≤ d ↔ n ≤ d.wholeMillis :=
  (Nat.le_div_iff_mul_le (by decide)).symm

theorem ofMillis_wholeMillis_le (d : Span) : Span.ofMillis d.wholeMillis ≤ d := ofMillis_le_iff.2 (Nat.le_refl _)

/-! ### Reads that wait -/

/-- How long a read for new entries waits. -/
inductive Patience
  | none
  | millis (n : Nat)
  | forever
  deriving DecidableEq, Repr

/-- What a read for new entries tells a server about how long it waits. -/
inductive Command.Waits : Command → Patience → Prop
  /-- Nothing is said. -/
  | none (group consumer stream : String) (count : Nat) :
    Waits ⟨true, ["XREADGROUP", "GROUP", group, consumer, "COUNT", toString count, "STREAMS", stream, ">"]⟩ .none
  | millis (group consumer stream : String) (count : Nat) {n : Nat} (nonzero : n ≠ 0) :
    Waits ⟨true, ["XREADGROUP", "GROUP", group, consumer, "BLOCK", toString n, "COUNT", toString count, "STREAMS",
      stream, ">"]⟩ (.millis n)
  /-- No milliseconds are as many as it takes. -/
  | forever (group consumer stream : String) (count : Nat) :
    Waits ⟨true, ["XREADGROUP", "GROUP", group, consumer, "BLOCK", toString 0, "COUNT", toString count, "STREAMS",
      stream, ">"]⟩ .forever

/-- A server is told one thing. -/
theorem Command.Waits.unique {command : Command} {p q : Patience} (one : command.Waits p) (other : command.Waits q) :
    p = q := by
  cases one with
  | none =>
    generalize is : Command.mk _ _ = command at other
    cases other with
    | none => rfl
    | millis | forever => simp at is
  | millis _ _ _ _ nonzero =>
    generalize is : Command.mk _ _ = command at other
    cases other with
    | none => simp at is
    | millis =>
      simp only [mk.injEq, List.cons.injEq, true_and] at is
      rw [Nat.repr_injective is.2.2.1]
    | forever =>
      simp only [mk.injEq, List.cons.injEq, true_and] at is
      exact absurd (Nat.repr_injective is.2.2.1) nonzero
  | forever =>
    generalize is : Command.mk _ _ = command at other
    cases other with
    | none => simp at is
    | millis _ _ _ _ nonzero =>
      simp only [mk.injEq, List.cons.injEq, true_and] at is
      exact absurd (Nat.repr_injective is.2.2.1).symm nonzero
    | forever => rfl

/-- A read waits no shorter than it was asked to, and for ever only if it was asked to. -/
inductive Patience.Keeps : Option Span → Patience → Prop
  | forever : Keeps Option.none .forever
  | none : Keeps (some .zero) .none
  | millis {d : Span} {n : Nat} (nonzero : d ≠ .zero) (least : 1 ≤ n) (enough : d.wholeMillis ≤ n) :
    Keeps (some d) (.millis n)

/-- What a server is told for a span that is to be waited for. -/
def Patience.ofWord (n : Nat) : Patience := if n = 0 then .forever else .millis n

/-- How long a server is told to let a read wait. -/
def Patience.told : Option Span → Patience
  | .none => .forever
  | some d => if d = .zero then .none else .ofWord (max d.wholeMillis 1 % UInt64.size)

theorem waits_told (stream group consumer : String) (count : Nat) (block : Option Span) :
    (Command.ofCall (.readNew stream group consumer count block)).Waits (.told block) := by
  cases block with
  | none => exact .forever group consumer stream count
  | some d =>
    by_cases zero : d = .zero
    · rw [Command.ofCall, Command.blockWords, Patience.told, if_pos zero, if_pos zero]
      exact .none group consumer stream count
    · rw [Command.ofCall, Command.blockWords, Patience.told, if_neg zero, if_neg zero, Patience.ofWord]
      by_cases nothing : max d.wholeMillis 1 % UInt64.size = 0
      · rw [if_pos nothing, nothing]
        exact .forever group consumer stream count
      · rw [if_neg nothing]
        exact .millis group consumer stream count nothing

/-- A word of milliseconds is enough for a wait exactly if all of them fit. -/
theorem keeps_ofWord_iff {d : Span} (nonzero : d ≠ .zero) :
    Patience.Keeps (some d) (.ofWord (max d.wholeMillis 1 % UInt64.size)) ↔ d.wholeMillis < UInt64.size := by
  constructor
  · intro keeps
    by_contra long
    have short : max d.wholeMillis 1 % UInt64.size < UInt64.size := Nat.mod_lt _ (by decide)
    rw [Patience.ofWord] at keeps
    split at keeps
    · cases keeps
    · cases keeps with
      | millis nonzero least enough => omega
  · intro fits
    have whole : max d.wholeMillis 1 % UInt64.size = max d.wholeMillis 1 :=
      Nat.mod_eq_of_lt (max_lt fits (by decide))
    rw [whole, Patience.ofWord, if_neg (by omega)]
    exact .millis nonzero (Nat.le_max_right _ _) (Nat.le_max_left _ _)

/-- **How long a read waits**, by what it was asked. -/
theorem keeps_told_iff (block : Option Span) :
    Patience.Keeps block (.told block) ↔ ∀ d ∈ block, d.wholeMillis < UInt64.size := by
  cases block with
  | none => exact iff_of_true .forever (by simp)
  | some d =>
    simp only [Option.mem_def, Option.some.injEq, forall_eq']
    by_cases zero : d = .zero
    · subst zero
      exact iff_of_true .none (by decide)
    · rw [Patience.told, if_neg zero]
      exact keeps_ofWord_iff zero

/-- A read that was not asked to wait for ever does so if nothing is left of its milliseconds in a word. -/
theorem told_eq_forever_iff (block : Option Span) :
    Patience.told block = .forever ↔ block = none ∨ ∃ d ∈ block, 0 < d.wholeMillis ∧ UInt64.size ∣ d.wholeMillis := by
  cases block with
  | none => simp [Patience.told]
  | some d =>
    simp only [Option.mem_def, Option.some.injEq, exists_eq_left', reduceCtorEq, false_or]
    by_cases zero : d = .zero
    · subst zero
      exact iff_of_false (by rw [Patience.told, if_pos rfl]; exact Patience.noConfusion) (by decide)
    · rw [Patience.told, if_neg zero, Patience.ofWord, Nat.dvd_iff_mod_eq_zero]
      rcases Nat.eq_zero_or_pos d.wholeMillis with part | positive
      · rw [part]
        exact iff_of_false (by decide) (by simp)
      · rw [max_eq_left positive]
        constructor
        · intro is
          refine ⟨positive, ?_⟩
          by_contra left
          rw [if_neg left] at is
          cases is
        · rintro ⟨-, nothing⟩
          exact if_pos nothing

/-! ### Thresholds -/

/-- For how many milliseconds an entry must have waited for a server to list or to claim it. -/
inductive Command.Threshold : Command → Nat → Prop
  | listing (stream group start count : String) (t : Nat) :
    Threshold (plain ["XPENDING", stream, group, "IDLE", toString t, start, "+", count]) t
  | claim (stream group consumer : String) (t : Nat) (ids : List String) :
    Threshold (plain (["XCLAIM", stream, group, consumer, toString t] ++ ids)) t

/-- A server is told one threshold. -/
theorem Command.Threshold.unique {command : Command} {t u : Nat} (one : command.Threshold t)
    (other : command.Threshold u) : t = u := by
  cases one with
  | listing =>
    generalize is : plain _ = command at other
    cases other with
    | listing =>
      simp only [plain, mk.injEq, List.cons.injEq, true_and] at is
      exact Nat.repr_injective is.2.2.1
    | claim => simp [plain] at is
  | claim =>
    generalize is : plain _ = command at other
    cases other with
    | listing => simp [plain] at is
    | claim =>
      simp only [plain, mk.injEq, List.cons_append, List.cons.injEq, true_and] at is
      exact Nat.repr_injective is.2.2.2.1

/-- What has waited for so long is listed or claimed. -/
def Command.Admits (command : Command) (idle : Span) : Prop :=
  ∃ t, command.Threshold t ∧ Span.ofMillis t ≤ idle

/-- What a command lets through, for a least idle time that was asked for. -/
structure Command.Heeds (command : Command) (minIdle : Span) : Prop where
  /-- Everything that has waited for long enough is let through. -/
  all : ∀ idle, minIdle ≤ idle → command.Admits idle
  /-- Nothing else is, if the least idle time is a number of milliseconds that fits, and only then. -/
  only : (∀ idle, command.Admits idle → minIdle ≤ idle) ↔ ∃ n < UInt64.size, minIdle = .ofMillis n

/-- What is left of a span is all of it only if it is a number of milliseconds that fits. -/
theorem le_ofMillis_mod_iff (d : Span) :
    d ≤ .ofMillis (d.wholeMillis % UInt64.size) ↔ ∃ n < UInt64.size, d = .ofMillis n := by
  constructor
  · intro kept
    refine ⟨d.wholeMillis % UInt64.size, Nat.mod_lt _ (by decide), ?_⟩
    have short : Span.ofMillis (d.wholeMillis % UInt64.size) ≤ d := ofMillis_le_iff.2 (Nat.mod_le _ _)
    exact congrArg Span.mk (Nat.le_antisymm kept short)
  · rintro ⟨n, fits, rfl⟩
    rw [wholeMillis_ofMillis, Nat.mod_eq_of_lt fits]
    exact Nat.le_refl _

/-- **A threshold** in a word of milliseconds. -/
theorem heeds_millisWord {command : Command} {minIdle : Span}
    (told : command.Threshold (minIdle.wholeMillis % UInt64.size)) : command.Heeds minIdle where
  all := by
    intro idle waited
    have whole : minIdle.wholeMillis ≤ idle.wholeMillis :=
      ofMillis_le_iff.1 (Nat.le_trans (ofMillis_wholeMillis_le minIdle) waited)
    exact ⟨_, told, ofMillis_le_iff.2 ((Nat.mod_le _ _).trans whole)⟩
  only := by
    rw [← le_ofMillis_mod_iff]
    constructor
    · intro strict
      exact strict _ ⟨_, told, Nat.le_refl _⟩
    · rintro kept idle ⟨t, other, waited⟩
      rw [other.unique told] at waited
      exact Nat.le_trans kept waited

/-- How long a server is told to wait by a command, for the span that was asked for. -/
structure Command.Bides (command : Command) (block : Option Span) (patience : Patience) : Prop where
  told : ∀ other, command.Waits other ↔ other = patience
  keeps : patience.Keeps block ↔ ∀ d ∈ block, d.wholeMillis < UInt64.size
  forever : patience = .forever ↔ block = none ∨ ∃ d ∈ block, 0 < d.wholeMillis ∧ UInt64.size ∣ d.wholeMillis

/-- **Which spans are kept**: take any read for new entries, any listing and any claim of some entries. The
read waits for no shorter than it was asked to, and for ever only if it was asked to, exactly if a word holds
its milliseconds; it waits for ever unasked exactly if nothing is left of them in a word. A listing and a
claim let everything through that has waited for long enough, and nothing else exactly if the least idle time
is a number of milliseconds that a word holds. -/
theorem spans_kept_iff (stream group consumer : String) (count : Nat) (block : Option Span) (minIdle : Span)
    (after first : StreamId) (ids : List StreamId) :
    (∃ command patience, plan (.readNew stream group consumer count block) = .exchange command (result _) ∧
      command.Bides block patience) ∧
    (∃ command, plan (.pendingEntries stream group minIdle after count) = .exchange command (result _) ∧
      command.Heeds minIdle) ∧
    ∃ command, plan (.claim stream group consumer minIdle (first :: ids)) = .exchange command (result _) ∧
      command.Heeds minIdle := by
  have waits := waits_told stream group consumer count block
  refine ⟨⟨_, .told block, rfl, ?_, keeps_told_iff block, told_eq_forever_iff block⟩, ⟨_, rfl, ?_⟩, ⟨_, rfl, ?_⟩⟩
  · exact fun told => ⟨fun is => is.unique waits, fun is => is ▸ waits⟩
  · exact heeds_millisWord (.listing stream group _ _ _)
  · exact heeds_millisWord (.claim stream group consumer _ _)

/-- As many milliseconds as are one too many for a word: some 584 million years. -/
def overlong : Span := .ofMillis UInt64.size

/-- A millisecond and a half. -/
def millisecondAndHalf : Span := ⟨1500000⟩

/-- A server is told to let a read wait for a time that is not what was asked for. -/
structure Command.Misleads (command : Command) (block : Option Span) (patience : Patience) : Prop where
  told : command.Waits patience
  unkept : ¬ patience.Keeps block

/-- An entry is let through that has not waited for long enough. -/
structure Command.Hastens (command : Command) (minIdle idle : Span) : Prop where
  admitted : command.Admits idle
  early : ¬ minIdle ≤ idle

/-- **Spans that are lost**: a read that was to wait for a very long time waits for ever, what was not
stuck for long enough is listed though it has not waited at all, and claimed half a millisecond early. -/
theorem spans_lost :
    (Command.ofCall (.readNew "jobs" "workers" "ann" 1 (some overlong))).Misleads (some overlong) .forever ∧
    (Command.ofCall (.pendingEntries "jobs" "workers" overlong .zero 10)).Hastens overlong .zero ∧
    (Command.ofCall (.claim "jobs" "workers" "ann" millisecondAndHalf [⟨1, 0⟩])).Hastens millisecondAndHalf
      (.ofMillis 1) := by
  refine ⟨⟨?read, fun keeps => by cases keeps⟩, ⟨⟨0, ?listing, Nat.le_refl 0⟩, by decide⟩,
    ⟨⟨1, .claim "jobs" "workers" "ann" 1 ["1-0"], Nat.le_refl _⟩, by decide⟩⟩
  case read =>
    have waits := waits_told "jobs" "workers" "ann" 1 (some overlong)
    rwa [(told_eq_forever_iff (some overlong)).2 (.inr ⟨overlong, rfl, by decide, by decide⟩)] at waits
  case listing =>
    have nothing : overlong.wholeMillis % UInt64.size = 0 := by decide
    rw [Command.ofCall, Command.millisWord, nothing]
    exact .listing "jobs" "workers" "-" "10" 0

end StreamQueue.Redis
