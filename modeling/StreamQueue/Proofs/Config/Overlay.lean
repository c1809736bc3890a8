import StreamQueue.Cli.Execute
import StreamQueue.Proofs.Consumer.Failure
import StreamQueue.Proofs.Text.Decimal

/-!
# Settings from the environment

Five variables override one setting each, in a fixed order. Three of the settings are texts and two are
numbers, which may have blanks around them. The first variable that is set and is no number stops it all: what
came before it is overridden, and it and what comes behind it are not. So what is done a second time comes to
the same, whether it is stopped or not.

What is checked afterwards is what a publisher and a consumer rely on. With it the stream keeps an entry at
least, and the work for an entry has a size, since a size that is not positive is one that was not set.

## What is proved

* `Config.overlay_eq_iff` — what becomes of a configuration, by cases of the variables.
* `Config.validate_eq_ok_iff` — what passes the check.
* `Config.overlay_serves` — all of this, as far as the running consumer.
-/

namespace StreamQueue

namespace Config

open Text.Decimal

variable {env : Environment} {c c' : Config} {r : Except LoadError Unit}

/-! ### One setting -/

/-- A text is the numeral of a word of 64 bits, but for blanks around it. -/
def ReadsWord (s : String) (n : Nat) : Prop := ∃ t, Text.Trimmed s t ∧ Numeral t.toList n ∧ n < 2 ^ 64

/-- A text is the numeral of a signed number of 64 bits, but for blanks around it. -/
def ReadsInt (s : String) (a : Int) : Prop :=
  ∃ t, Text.Trimmed s t ∧ Signed t.toList a ∧ -2 ^ 63 ≤ a ∧ a < 2 ^ 63

theorem word64?_trim_eq_some_iff {s : String} {n : Nat} : word64? (Text.trim s) = some n ↔ ReadsWord s n := by
  rw [word64?_eq_some_iff]
  exact (Text.exists_trimmed_iff (P := fun t => Numeral t.toList n ∧ n < 2 ^ 64)).symm

theorem int64?_trim_eq_some_iff {s : String} {a : Int} : int64? (Text.trim s) = some a ↔ ReadsInt s a := by
  rw [int64?_eq_some_iff]
  exact (Text.exists_trimmed_iff (P := fun t => Signed t.toList a ∧ -2 ^ 63 ≤ a ∧ a < 2 ^ 63)).symm

/-- A setting after it could be overridden: it is what the variable says, or what it was if there is none. -/
inductive Settled {α : Type} (Reads : String → α → Prop) (base : α) : Option String → α → Prop
  | kept : Settled Reads base none base
  | read {s : String} {a : α} (reads : Reads s a) : Settled Reads base (some s) a

/-- A setting that is text is what the variable is. -/
abbrev Copied (base : String) : Option String → String → Prop := Settled (fun s a => a = s) base

section Settled

variable {α : Type} {Reads : String → α → Prop} {base a : α} {value : Option String}

/-- A setting is settled unless its variable is set and cannot be read. -/
theorem settled_or_unread (Reads : String → α → Prop) (base : α) (value : Option String) :
    (∃ a, Settled Reads base value a) ∨ ∃ s, value = some s ∧ ∀ a, ¬ Reads s a := by
  cases value with
  | none => exact .inl ⟨base, .kept⟩
  | some s =>
    by_cases readable : ∃ a, Reads s a
    · obtain ⟨a, reads⟩ := readable
      exact .inl ⟨a, .read reads⟩
    · exact .inr ⟨s, rfl, not_exists.1 readable⟩

theorem exists_copied (base : String) (value : Option String) : ∃ a, Copied base value a := by
  obtain settled | ⟨s, -, unread⟩ := settled_or_unread (fun s a => a = s) base value
  · exact settled
  · exact absurd rfl (unread s)

/-- A variable that is set determines what is settled. -/
theorem Settled.reads {s : String} (settled : Settled Reads base value a) (set : value = some s) : Reads s a := by
  cases settled with
  | kept => cases set
  | read reads =>
    cases set
    exact reads

/-- It is the same a second time. -/
theorem Settled.again (settled : Settled Reads base value a) : Settled Reads a value a := by
  cases settled with
  | kept => exact .kept
  | read reads => exact .read reads

end Settled

section Apply

variable {os : List Override} {name : String}

/-- A text overrides a setting, or there is no variable for it. -/
theorem applyOverrides_text {put : String → Config → Config} {base a : String} (copied : Copied base (env name) a)
    (same : put base c = c) :
    applyOverrides env (textOverride name put :: os) c = applyOverrides env os (put a c) := by
  generalize value : env name = found at copied
  cases copied with
  | kept => rw [applyOverrides, textOverride, value, same]
  | read is => rw [applyOverrides, textOverride, value, is]

variable {α : Type} {read : String → Option α} {Reads : String → α → Prop} {put : α → Config → Config}
  (reads : ∀ {s a}, read (Text.trim s) = some a ↔ Reads s a)
include reads

/-- A number overrides a setting, or there is no variable for it. -/
theorem applyOverrides_number {base a : α} (settled : Settled Reads base (env name) a) (same : put base c = c) :
    applyOverrides env (numberOverride name read put :: os) c = applyOverrides env os (put a c) := by
  generalize value : env name = found at settled
  cases settled with
  | kept => rw [applyOverrides, numberOverride, value, same]
  | read is => simp only [applyOverrides, numberOverride, value, reads.2 is, Option.map_some]

/-- A number that cannot be read ends it. -/
theorem applyOverrides_unread {s : String} (set : env name = some s) (unread : ∀ a, ¬ Reads s a) :
    applyOverrides env (numberOverride name read put :: os) c = (c, .error (.invalidVariable name s)) := by
  have unreadable : read (Text.trim s) = none := Option.eq_none_iff_forall_ne_some.2 fun a is => unread a (reads.1 is)
  simp only [applyOverrides, numberOverride, set, unreadable, Option.map_none]

end Apply

/-! ### All settings -/

/-- What becomes of a configuration in an environment. -/
inductive Overlaid (env : Environment) (c : Config) : Config → Except LoadError Unit → Prop
  /-- Each variable that is set determines its setting. -/
  | all {c' : Config} (dsn : Copied c.dsn (env "REDIS_DSN") c'.dsn)
    (maxLen : Settled ReadsWord c.maxLen (env "REDIS_MAXSTREAMLENGTH") c'.maxLen)
    (stream : Copied c.stream (env "REDIS_STREAMNAME") c'.stream)
    (group : Copied c.group (env "REDIS_STREAMGROUP") c'.group)
    (workSize : Settled ReadsInt c.workSize (env "PRODUCER_DATA_SIZE_BYTES") c'.workSize) :
    Overlaid env c c' (.ok ())
  /-- The number of entries cannot be read. Only the address of the server is overridden. -/
  | noMaxLen {dsn s : String} (before : Copied c.dsn (env "REDIS_DSN") dsn)
    (set : env "REDIS_MAXSTREAMLENGTH" = some s) (unread : ∀ n, ¬ ReadsWord s n) :
    Overlaid env c { c with dsn } (.error (.invalidVariable "REDIS_MAXSTREAMLENGTH" s))
  /-- The size of the work cannot be read. All other settings are overridden. -/
  | noWorkSize {c' : Config} {s : String} (dsn : Copied c.dsn (env "REDIS_DSN") c'.dsn)
    (maxLen : Settled ReadsWord c.maxLen (env "REDIS_MAXSTREAMLENGTH") c'.maxLen)
    (stream : Copied c.stream (env "REDIS_STREAMNAME") c'.stream)
    (group : Copied c.group (env "REDIS_STREAMGROUP") c'.group) (kept : c'.workSize = c.workSize)
    (set : env "PRODUCER_DATA_SIZE_BYTES" = some s) (unread : ∀ a, ¬ ReadsInt s a) :
    Overlaid env c c' (.error (.invalidVariable "PRODUCER_DATA_SIZE_BYTES" s))

/-- The first four settings are overridden. -/
theorem overlay_of_settled {dsn stream group : String} {maxLen : Nat} (address : Copied c.dsn (env "REDIS_DSN") dsn)
    (bound : Settled ReadsWord c.maxLen (env "REDIS_MAXSTREAMLENGTH") maxLen)
    (stream' : Copied c.stream (env "REDIS_STREAMNAME") stream)
    (group' : Copied c.group (env "REDIS_STREAMGROUP") group) :
    c.overlay env = applyOverrides env (overrides.drop 4) { c with dsn, maxLen, stream, group } := calc
  c.overlay env
  _ = applyOverrides env (overrides.drop 1) { c with dsn } := applyOverrides_text address rfl
  _ = applyOverrides env (overrides.drop 2) { c with dsn, maxLen } :=
    applyOverrides_number word64?_trim_eq_some_iff bound rfl
  _ = applyOverrides env (overrides.drop 3) { c with dsn, maxLen, stream } := applyOverrides_text stream' rfl
  _ = applyOverrides env (overrides.drop 4) { c with dsn, maxLen, stream, group } := applyOverrides_text group' rfl

/-- What is said to become of a configuration becomes of it. -/
theorem Overlaid.eq (overlaid : Overlaid env c c' r) : c.overlay env = (c', r) := by
  cases overlaid with
  | all dsn maxLen stream group workSize =>
    rw [overlay_of_settled dsn maxLen stream group]
    exact applyOverrides_number int64?_trim_eq_some_iff workSize rfl
  | @noMaxLen dsn s before set unread =>
    have first : c.overlay env = applyOverrides env (overrides.drop 1) { c with dsn } :=
      applyOverrides_text before rfl
    rw [first]
    exact applyOverrides_unread word64?_trim_eq_some_iff set unread
  | noWorkSize dsn maxLen stream group kept set unread =>
    rw [overlay_of_settled dsn maxLen stream group, ← kept]
    exact applyOverrides_unread int64?_trim_eq_some_iff set unread

/-- Something is said of every configuration. -/
theorem exists_overlaid (env : Environment) (c : Config) : ∃ c' r, Overlaid env c c' r := by
  obtain ⟨dsn, address⟩ := exists_copied c.dsn (env "REDIS_DSN")
  obtain ⟨maxLen, bound⟩ | ⟨s, set, unread⟩ := settled_or_unread ReadsWord c.maxLen (env "REDIS_MAXSTREAMLENGTH")
  case inr => exact ⟨_, _, .noMaxLen address set unread⟩
  obtain ⟨stream, stream'⟩ := exists_copied c.stream (env "REDIS_STREAMNAME")
  obtain ⟨group, group'⟩ := exists_copied c.group (env "REDIS_STREAMGROUP")
  obtain ⟨workSize, size⟩ | ⟨s, set, unread⟩ :=
    settled_or_unread ReadsInt c.workSize (env "PRODUCER_DATA_SIZE_BYTES")
  · exact ⟨⟨dsn, maxLen, stream, group, workSize⟩, _, .all address bound stream' group' size⟩
  · exact ⟨⟨dsn, maxLen, stream, group, c.workSize⟩, _, .noWorkSize address bound stream' group' rfl set unread⟩

/-- **What becomes of a configuration** in an environment. -/
theorem overlay_eq_iff : c.overlay env = (c', r) ↔ Overlaid env c c' r := by
  constructor
  · intro is
    obtain ⟨c₁, r₁, overlaid⟩ := exists_overlaid env c
    rw [overlaid.eq] at is
    cases is
    exact overlaid
  · exact Overlaid.eq

/-- What becomes of it a second time. -/
theorem Overlaid.again (overlaid : Overlaid env c c' r) : Overlaid env c' c' r := by
  cases overlaid with
  | all dsn maxLen stream group workSize =>
    exact .all dsn.again maxLen.again stream.again group.again workSize.again
  | @noMaxLen dsn s before set unread =>
    have again : Copied dsn (env "REDIS_DSN") dsn := before.again
    exact .noMaxLen again set unread
  | noWorkSize dsn maxLen stream group kept set unread =>
    exact .noWorkSize dsn.again maxLen.again stream.again group.again rfl set unread

/-- It ends well exactly if both numbers can be read that are set. -/
theorem Overlaid.ok_iff (overlaid : Overlaid env c c' r) : r = .ok () ↔
    (∀ s, env "REDIS_MAXSTREAMLENGTH" = some s → ∃ n, ReadsWord s n) ∧
      ∀ s, env "PRODUCER_DATA_SIZE_BYTES" = some s → ∃ a, ReadsInt s a := by
  cases overlaid with
  | all dsn maxLen stream group workSize =>
    exact iff_of_true rfl ⟨fun s set => ⟨_, maxLen.reads set⟩, fun s set => ⟨_, workSize.reads set⟩⟩
  | noMaxLen before set unread =>
    refine iff_of_false (by simp) fun ⟨readable, _⟩ => ?_
    obtain ⟨n, reads⟩ := readable _ set
    exact unread n reads
  | noWorkSize dsn maxLen stream group kept set unread =>
    refine iff_of_false (by simp) fun ⟨_, readable⟩ => ?_
    obtain ⟨a, reads⟩ := readable _ set
    exact unread a reads

/-! ### What is checked -/

/-- A check behind another. -/
theorem check_eq_ok_iff {bad : Bool} {flaw : Flaw} {rest : Except Flaw Unit} :
    (do if bad then Except.error flaw
        rest) = Except.ok () ↔ bad = false ∧ rest = .ok () := by
  cases bad with
  | true => exact iff_of_false (by rintro ⟨⟩) (by simp)
  | false => exact (and_iff_right rfl).symm

theorem checkDsn_eq_ok_iff : c.checkDsn = .ok () ↔ c.dsn ≠ "" ∧ Url.isValid c.dsn = true := by
  rw [checkDsn]
  by_cases empty : c.dsn = "" <;> by_cases valid : Url.isValid c.dsn <;> simp [empty, valid]

/-- **What passes the check**: the address of a server, unless none is needed, an entry at least that is kept,
and names for the stream and the group. -/
theorem validate_eq_ok_iff {inMemory : Bool} : c.validate inMemory = .ok () ↔
    (inMemory = false → c.dsn ≠ "" ∧ Url.isValid c.dsn = true) ∧ 1 ≤ c.maxLen ∧ c.stream ≠ "" ∧ c.group ≠ "" := by
  have rest : c.validate true = .ok () ↔ 1 ≤ c.maxLen ∧ c.stream ≠ "" ∧ c.group ≠ "" := by
    have last : (if c.group.isEmpty then Except.error Flaw.missingGroup else .ok ()) = .ok () ↔ c.group ≠ "" := by
      by_cases empty : c.group = "" <;> simp [empty]
    rw [validate]
    refine (check_eq_ok_iff.trans (and_congr ?_ (check_eq_ok_iff.trans (and_congr ?_ last))))
    · simp [Nat.one_le_iff_ne_zero]
    · simp
  cases inMemory with
  | true => simp [rest]
  | false =>
    have first : c.validate false = c.checkDsn >>= fun _ => c.validate true := rfl
    rw [first, forall_prop_of_true rfl, ← checkDsn_eq_ok_iff, ← rest]
    cases c.checkDsn with
    | ok => exact (and_iff_right rfl).symm
    | error e => exact iff_of_false (by rintro ⟨⟩) (by simp)

end Config

/-! ### The running consumer -/

/-- The work fails for its size exactly if that is not positive. -/
theorem Work.result_eq_size_iff {source : ByteSource} {calls : Nat} {cancelled : Bool} {size n : Int} :
    (run source calls cancelled size).result = .error (.size n) ↔ size ≤ 0 ∧ n = size := by
  have rest (total calls : Nat) (hasher : Digest.Hasher) (remaining : Nat) :
      (drawRest source total calls hasher remaining).result ≠ .error (.size n) := by
    fun_induction drawRest source total calls hasher remaining with
    | case1 | case2 | case3 | case4 => simp
    | case5 => assumption
  rw [run]
  split
  · rename_i negative
    simp [negative, eq_comm]
  · rename_i positive
    split
    · simp [positive]
    · simp [positive, rest]

namespace Consumer

variable {cfg : ConsumerConfig} {me : String} {turns : List Turn} {phase : Phase} {before now : Bool}

/-- No work of a positive size fails for it. -/
theorem Turn.Simulated.ne_size {t : Turn} (simulated : t.Simulated cfg) (positive : 0 < cfg.size) (n : Int) :
    t.signal? ≠ some (.worked (.error (.size n))) := by
  cases t with
  | start => simp [Turn.signal?]
  | look phase before seen signal fired =>
    intro told
    obtain rfl := Option.some.inj told
    obtain ⟨source, calls, cancelled, is, -⟩ | ⟨is, -⟩ := simulated
    · exact absurd (Work.result_eq_size_iff.1 is.symm).1 (not_le.2 positive)
    · cases is

/-- So no run ends for it. -/
theorem Course.ne_stopped_size (course : Course cfg me turns phase before now)
    (simulated : ∀ t ∈ turns, t.Simulated cfg) (positive : 0 < cfg.size) (id : StreamId) (n : Int) :
    phase ≠ .stopped (.processing id (.size n)) := by
  intro ended
  obtain ⟨t, ht, fails⟩ := (course.ended_iff (by simp)).1 ended
  cases t with
  | start => exact fails
  | look =>
    cases fails
    exact (simulated _ ht).ne_size positive n rfl

end Consumer

namespace Config

open Consumer

/-- A publisher and a consumer for a configuration find in it what they rely on. -/
structure Serves (c : Config) : Prop where
  /-- The stream keeps an entry at least. -/
  keeps : 1 ≤ (Cli.publisherOf c).maxLen
  positive : 0 < (Cli.consumerOf c).size
  /-- No work fails for its size, whatever the source of bytes does. -/
  works : ∀ source calls cancelled n,
    (Work.run source calls cancelled (Cli.consumerOf c).size).result ≠ .error (.size n)
  /-- No run of a consumer is told of such a failure or ends for it, under whatever identity. -/
  runs : ∀ (identity : Option String) {me : String} {turns : List Turn} {phase : Phase} {before now : Bool},
    let cfg := { Cli.consumerOf c with identity }
    Course cfg me turns phase before now → (∀ t ∈ turns, t.Simulated cfg) →
      (∀ t ∈ turns, ∀ n, t.signal? ≠ some (.worked (.error (.size n)))) ∧
      ∀ id n, phase ≠ .stopped (.processing id (.size n))

/-- The work for a message has a positive size. -/
theorem effectiveWorkSize_pos (c : Config) : 0 < c.effectiveWorkSize := by
  rw [effectiveWorkSize]
  split
  · assumption
  · decide

theorem serves_of_validate {c : Config} (valid : c.validate true = .ok ()) : c.Serves where
  keeps := (validate_eq_ok_iff.1 valid).2.1
  positive := c.effectiveWorkSize_pos
  works := fun _ _ _ _ is => absurd (Work.result_eq_size_iff.1 is).1 (not_le.2 c.effectiveWorkSize_pos)
  runs := fun _ _ _ _ _ _ course simulated =>
    ⟨fun t ht => (simulated t ht).ne_size c.effectiveWorkSize_pos,
      course.ne_stopped_size simulated c.effectiveWorkSize_pos⟩

/-- **Settings from the environment**: take any configuration and any environment. What becomes of it is said by
`Overlaid`, and it ends well exactly if both numbers can be read that are set. To do it again comes to the same,
also if it has ended with an error. A configuration that passes the check passes it without a server too; and
then the stream keeps an entry at least, the size of the work is positive, and no work of a consumer fails for
its size. -/
theorem overlay_serves (env : Environment) (c : Config) :
    (∀ c' r, c.overlay env = (c', r) ↔ Overlaid env c c' r) ∧
    ((c.overlay env).2 = .ok () ↔
      (∀ s, env "REDIS_MAXSTREAMLENGTH" = some s → ∃ n, ReadsWord s n) ∧
        ∀ s, env "PRODUCER_DATA_SIZE_BYTES" = some s → ∃ a, ReadsInt s a) ∧
    (c.overlay env).1.overlay env = c.overlay env ∧
    ((c.overlay env).1.validate false = .ok () → (c.overlay env).1.validate true = .ok ()) ∧
    ((c.overlay env).1.validate true = .ok () → (c.overlay env).1.Serves) := by
  have overlaid : Overlaid env c (c.overlay env).1 (c.overlay env).2 := overlay_eq_iff.1 rfl
  refine ⟨fun _ _ => overlay_eq_iff, overlaid.ok_iff, overlaid.again.eq, ?_, serves_of_validate⟩
  intro valid
  exact validate_eq_ok_iff.2 ⟨by simp, (validate_eq_ok_iff.1 valid).2⟩

/-- A configuration that keeps nothing. -/
def noneKept : Config := ⟨"redis://localhost", 0, "jobs", "workers", 8⟩

/-- The entries that are kept are set, with blanks around the number, and so is the size of the work. -/
def blankNumber : Environment := .ofList [("REDIS_MAXSTREAMLENGTH", " +05\n"), ("PRODUCER_DATA_SIZE_BYTES", "-7")]

/-- The work for a replayed entry fails because its bytes are lost. -/
def losesBytes : List Turn :=
  replaysWith [⟨⟨1, 0⟩, .empty⟩] ++
    [.look (.working ⟨⟨1, 0⟩, .empty⟩ (.replayed 0)) false false (.worked (.error .generatorLost)) false]

/-- Five entries are kept, the size that is not positive counts for nothing, and the run fails for another
reason than that. -/
theorem overlay_serves_blankNumber :
    let c := (noneKept.overlay blankNumber).1
    let cfg := { Cli.consumerOf c with identity := some "c1" }
    (noneKept.overlay blankNumber).2 = .ok () ∧ c.overlay blankNumber = (c, .ok ()) ∧
    c.validate false = .ok () ∧ c.validate true = .ok () ∧ (Cli.publisherOf c).maxLen = 5 ∧ c.workSize = -7 ∧
    0 < cfg.size ∧ Course cfg "c1" losesBytes (.stopped (.processing ⟨1, 0⟩ .generatorLost)) false false ∧
    (∀ t ∈ losesBytes, t.Simulated cfg) ∧
    ∀ t ∈ losesBytes, ∀ n, t.signal? ≠ some (.worked (.error (.size n))) := by
  intro c cfg
  obtain ⟨-, -, again, weaker, serves⟩ := overlay_serves blankNumber noneKept
  have fine : noneKept.overlay blankNumber = (c, .ok ()) := by decide +kernel
  have valid : c.validate false = .ok () := by decide +kernel
  have course : Course cfg "c1" losesBytes (.stopped (.processing ⟨1, 0⟩ .generatorLost)) false false :=
    (course_replaysWith _).told (.worked (.error .generatorLost)) trivial
  have simulated : ∀ t ∈ losesBytes, t.Simulated cfg := by
    have lost : Work.run (fun _ => ⟨false, .lost⟩) 0 false cfg.size = ⟨.error .generatorLost, 1, false⟩ := by
      have positive : 0 < cfg.size := (serves (weaker valid)).positive
      rw [Work.run, if_neg (not_le.2 positive), if_neg Bool.false_ne_true, Work.drawRest, if_neg (by omega)]
      rfl
    simp only [losesBytes, replaysWith, List.cons_append, List.nil_append, List.forall_mem_cons]
    refine ⟨trivial, trivial, trivial, .inl ⟨fun _ => ⟨false, .lost⟩, 0, false, ?_⟩, by simp⟩
    rw [lost]
    exact ⟨rfl, fun cancelled => Bool.noConfusion cancelled⟩
  exact ⟨congrArg Prod.snd fine, again.trans fine, valid, weaker valid, by decide +kernel, by decide +kernel,
    (serves (weaker valid)).positive, course, simulated, ((serves (weaker valid)).runs _ course simulated).1⟩

end Config

end StreamQueue
