import StreamQueue.Proofs.Consumer.Cancellation
import StreamQueue.Proofs.Consumer.Lone
import StreamQueue.Proofs.Log.Stuck

/-!
# A scan for stuck entries

A tick sends a run through the list of deliveries of its group, page by page, until it has found
as many entries of others as it claims at a time, or there are no more pages. A page is asked for
with the size of a batch, whoever its rows belong to, so a page may be full of the run's own
entries and bring nothing, and the last page may bring more than there is room for.

What a scan has found, with what is stuck past the last row it has seen, is all that is stuck.
This holds before every page, whatever the pages are like, and with every page that is full the
deliveries past the last row get fewer.

## What is proved

* `reclaims_pages` — the pages of a scan end, and the first that it has found are the first that
  are stuck.
* `Scanned.unique` — a scan comes to one end.
* `scan_claims_stuck` — a scan claims exactly the first stuck entries, and enough scans at one
  instant leave none of them with others.
-/

namespace StreamQueue.Consumer

attribute [local instance] StreamId.linearOrder

section

variable (cfg : ConsumerConfig) (me : String) (c : Circumstances)

/-- The ticker is due, and the run notices. -/
def Lone.tick (t : Lone) : Lone := t.told cfg me t.store .due

/-- A lone run gets from one moment to another, reclaims all the way, and starts some calls. -/
structure Reclaims (t u : Lone) (made : List LogCall) : Prop where
  steps : Relation.ReflTransGen (fun t u => t.phase.Reclaims ∧ t.next cfg me c = some u) t u
  calls_eq : calls (record cfg me u.turns) = calls (record cfg me t.turns) ++ made

/-- A lone run is done with the scan that a tick has begun, and has started some calls. -/
structure Scanned (t u : Lone) (made : List LogCall) : Prop where
  steps : Relation.ReflTransGen (fun t u => t.phase.Reclaims ∧ t.next cfg me c = some u) (t.tick cfg me) u
  ended : ¬ u.phase.Reclaims
  calls_eq : calls (record cfg me u.turns) = calls (record cfg me t.turns) ++ made

end

variable {cfg : ConsumerConfig} {me : String} {c : Circumstances} {t u v : Lone} {made made' : List LogCall}

theorem Reclaims.refl (t : Lone) : Reclaims cfg me c t t [] := ⟨.refl, (List.append_nil _).symm⟩

theorem Reclaims.trans (first : Reclaims cfg me c t u made) (second : Reclaims cfg me c u v made') :
    Reclaims cfg me c t v (made ++ made') where
  steps := first.steps.trans second.steps
  calls_eq := by rw [second.calls_eq, first.calls_eq, List.append_assoc]

/-- A turn of a run that reclaims, with the call that it starts. -/
theorem reclaims_told {left : Store} (signal : Signal) {m : Move} (reclaims : t.phase.Reclaims)
    (next : t.next cfg me c = some (t.told cfg me left signal))
    (moves : step cfg me false t.phase signal = m) :
    Reclaims cfg me c t ⟨left, t.turns ++ [.look t.phase false false signal false], m.phase, m.starts⟩
      m.starts.toList where
  steps := .single ⟨reclaims, moves ▸ next⟩
  calls_eq := (comesTo_told signal next moves).calls_eq

theorem Scanned.reaches (scan : Scanned cfg me c t u made) : (t.tick cfg me).Reaches cfg me c u :=
  scan.steps.lift id fun _ _ step => step.2

/-- What happens next is determined, so a scan comes to one end. -/
theorem Scanned.unique (scan : Scanned cfg me c t u made) (other : Scanned cfg me c t v made') : u = v := by
  obtain ⟨steps, ended, -⟩ := scan
  obtain ⟨steps', ended', -⟩ := other
  generalize t.tick cfg me = begun at steps steps'
  induction steps using Relation.ReflTransGen.head_induction_on with
  | refl =>
    rcases steps'.cases_head with same | ⟨x, ⟨reclaims, -⟩, -⟩
    · exact same
    · exact absurd reclaims ended
  | head step _ ih =>
    rcases steps'.cases_head with rfl | ⟨x, step', later⟩
    · exact absurd step.1 ended'
    · obtain rfl := Option.some.inj (step.2.symm.trans step'.2)
      exact ih later

/-! ### The pages -/

variable {s : Store} {st : Stream} {g : Group} {turns : List Turn} {found stuck : List StreamId}
  {after : StreamId}

/-- What a run does with a page: it claims what it has found when there are no more rows, or enough,
and asks for the next page otherwise. -/
theorem scanned_of_last (cfg : ConsumerConfig) (me : String) (found : List StreamId)
    {page : List PendingEntry} {final : PendingEntry} (last : page.getLast? = some final) :
    scanned cfg me false found page =
      if page.length < batch cfg ∨ batch cfg ≤ (found ++ Group.foreign me page).length then
        claimFound cfg me false (found ++ Group.foreign me page)
      else ⟨.scanning (found ++ Group.foreign me page), [], some (scanCall cfg final.id)⟩ := by
  simp only [scanned, last, Group.foreign, Bool.or_eq_true, decide_eq_true_eq]
  exact ite_congr rfl (fun _ => rfl) fun _ => rfl

variable (cfg me c s st)

/-- A page is listed, and the run goes on from its rows. -/
theorem reclaims_page (turns : List Turn) (found : List StreamId) {page : List PendingEntry}
    (rows : g.page (c.clock turns.length).now cfg.claimMinIdle after (batch cfg) = page) {m : Move}
    (moves : scanned cfg me false found page = m) :
    ∃ turns', turns.length < turns'.length ∧ Reclaims cfg me c
      ⟨s.putGroup cfg.stream st cfg.group g, turns, .scanning found, some (scanCall cfg after)⟩
      ⟨s.putGroup cfg.stream st cfg.group g, turns', m.phase, m.starts⟩ m.starts.toList := by
  refine ⟨_, ?_, reclaims_told (.scanned (.ok page)) trivial ?_ moves⟩
  · simp
  · have answer := s.perform_pendingEntries cfg.stream cfg.group st g (c.clock turns.length) cfg.claimMinIdle
      after (batch cfg)
    rw [← rows]
    exact Lone.next_answered trivial rfl answer rfl (by simp)

/-- **All pages**: as long as what a scan has found, with what is stuck past the identifier that it
has come to, is what is stuck, its pages come to an end, and the first that it has found are the
first that are stuck. -/
theorem reclaims_pages (turns : List Turn)
    (same : ∀ i, turns.length ≤ i → g.stuck (c.clock i).now cfg.claimMinIdle me = stuck)
    (all : found ++ stuck.filter (fun id => after < id) = stuck) :
    ∃ (found' : List StreamId) (turns' : List Turn) (afters : List StreamId),
      found'.take (batch cfg) = stuck.take (batch cfg) ∧ turns.length < turns'.length ∧
      let m := claimFound cfg me false found'
      Reclaims cfg me c
        ⟨s.putGroup cfg.stream st cfg.group g, turns, .scanning found, some (scanCall cfg after)⟩
        ⟨s.putGroup cfg.stream st cfg.group g, turns', m.phase, m.starts⟩
        (afters.map (scanCall cfg) ++ m.starts.toList) := by
  -- With each page that is followed by another the deliveries past its last row get fewer.
  induction left : (g.pending.keys.filter fun id => after < id).length using Nat.strong_induction_on
    generalizing found after turns with
  | _ n ih =>
    have now := same turns.length le_rfl
    cases last : (g.page (c.clock turns.length).now cfg.claimMinIdle after (batch cfg)).getLast? with
    | none =>
      have empty := List.getLast?_eq_none_iff.1 last
      have nothing := Group.stuck_past_nil me (Nat.lt_of_lt_of_le Nat.one_pos (Nat.le_max_right _ _))
        empty
      rw [now] at nothing
      rw [nothing, List.append_nil] at all
      obtain ⟨turns', longer, ends⟩ := reclaims_page cfg me c s st turns found empty
        (m := claimFound cfg me false found) rfl
      exact ⟨found, turns', [], by rw [all], longer, ends⟩
    | some final =>
      have moves := scanned_of_last cfg me found last
      have past := Group.stuck_past_page me last
      rw [now] at past
      rw [past, ← List.append_assoc] at all
      split at moves
      · rename_i enough
        obtain ⟨turns', longer, ends⟩ := reclaims_page cfg me c s st turns found rfl moves
        refine ⟨_, turns', [], ?_, longer, ends⟩
        rcases enough with short | full
        · have nothing := Group.stuck_past_short me last short
          rw [now] at nothing
          rw [nothing, List.append_nil] at all
          exact congrArg _ all
        · conv_rhs => rw [← all]
          exact (List.take_append_of_le_length full).symm
      · obtain ⟨turns', longer, page⟩ := reclaims_page cfg me c s st turns found rfl moves
        obtain ⟨found', turns'', afters, firsts, longer', pages⟩ := ih _
          (left ▸ Group.keys_past_page_lt last) turns'
          (fun i hi => same i (by omega)) all rfl
        exact ⟨found', turns'', final.id :: afters, firsts, by omega, page.trans pages⟩

/-! ### The claim -/

/-- The phase of a run that is handed claimed entries: it works on the first, or listens. -/
def Phase.handed : List Entry → Phase
  | [] => .listening
  | e :: rest => .working e (.claimed rest)

/-- Claimed entries that come in order are handed over as they are. -/
theorem step_claimed {given : List Entry} (increasing : given.Pairwise fun a b => a.id < b.id) :
    ∃ events, step cfg me false .claiming (.claimed (.ok given)) = ⟨.handed given, events, none⟩ := by
  have sorted : inOrder given = given :=
    List.mergeSort_of_pairwise (increasing.imp fun h => decide_eq_true (le_of_lt h))
  cases given with
  | nil => exact ⟨[], rfl⟩
  | cons e rest =>
    have moves : step cfg me false .claiming (.claimed (.ok (e :: rest))) =
        (nextClaimed cfg me false (inOrder (e :: rest))).behind [.claimedStuck me (rest.length + 1)] := rfl
    rw [moves, sorted]
    exact ⟨_, rfl⟩

/-- A claim of entries that are stuck is carried out. -/
theorem reclaims_claim (g : Group) (turns : List Turn) {ids : List StreamId}
    (increasing : st.entries.Pairwise fun a b => a.id < b.id)
    (sorted : ids.Pairwise (· < ·))
    (isStuck : ∀ id ∈ ids, id ∈ g.stuck (c.clock turns.length).now cfg.claimMinIdle me) :
    ∃ turns' g', turns'.length = turns.length + 1 ∧
      Stream.Reclaimed g (st.entries.map (·.id)) me (c.clock turns.length).now ids g' ∧
      Reclaims cfg me c
        ⟨s.putGroup cfg.stream st cfg.group g, turns, .claiming,
          some (.claim cfg.stream cfg.group me cfg.claimMinIdle ids)⟩
        ⟨s.putGroup cfg.stream st cfg.group g', turns', .handed (st.entries.filter fun e => e.id ∈ ids),
          none⟩ [] := by
  have seen (id : StreamId) (hid : id ∈ ids) :
      id ∈ (g.see me).stuck (c.clock turns.length).now cfg.claimMinIdle me := isStuck id hid
  obtain ⟨gives, reclaimed⟩ := Stream.reclaimed_claimAll increasing sorted seen
  obtain ⟨events, moves⟩ := step_claimed cfg me
    (increasing.sublist (List.filter_sublist (p := fun e => e.id ∈ ids)))
  refine ⟨_, _, List.length_append, ⟨reclaimed.cursor, reclaimed.given, reclaimed.forgotten, reclaimed.others⟩,
    reclaims_told (t := ⟨_, _, .claiming, _⟩) _ trivial ?_ moves⟩
  have answer := s.perform_claim cfg.stream cfg.group st g (c.clock turns.length) me cfg.claimMinIdle ids
  rw [gives] at answer
  exact Lone.next_answered trivial rfl answer rfl (by simp)

/-! ### The whole scan -/

variable {cfg me c s st}

/-- The claim that a scan makes, if it has found anything. -/
def claims (cfg : ConsumerConfig) (me : String) (ids : List StreamId) : List LogCall :=
  if ids = [] then [] else [.claim cfg.stream cfg.group me cfg.claimMinIdle ids]

theorem claimFound_eq (found : List StreamId) :
    claimFound cfg me false found = if found.take (batch cfg) = [] then listen cfg me false true
      else ⟨.claiming, [], some (.claim cfg.stream cfg.group me cfg.claimMinIdle (found.take (batch cfg)))⟩ := by
  unfold claimFound
  split
  · rename_i nothing
    rw [if_pos nothing]
  · rename_i nonempty
    rw [if_neg nonempty]

theorem Phase.not_reclaims_handed (entries : List Entry) : ¬ (Phase.handed entries).Reclaims := by
  cases entries <;> exact id

/-- What follows a tick up to the end of the reclamation is a scan. -/
theorem Reclaims.scanned {out : Option LogCall} (entries : List Entry) {left : Store} {turns' : List Turn}
    (reclaims : Reclaims cfg me c (Lone.tick cfg me ⟨s, turns, .listening, out⟩)
      ⟨left, turns', .handed entries, none⟩ made) :
    Scanned cfg me c ⟨s, turns, .listening, out⟩ ⟨left, turns', .handed entries, none⟩
      (scanCall cfg .zero :: made) where
  steps := reclaims.steps
  ended := Phase.not_reclaims_handed entries
  calls_eq := by
    rw [reclaims.calls_eq, Lone.tick, Lone.calls_told, List.append_assoc]
    rfl

/-- **A scan** of a lone run, from the tick to its end. -/
theorem scanned_of_stuck (s : Store) (increasing : st.entries.Pairwise fun a b => a.id < b.id)
    (positive : ∀ id ∈ g.pending.keys, StreamId.zero < id)
    (same : ∀ i, turns.length < i → g.stuck (c.clock i).now cfg.claimMinIdle me = stuck) :
    let ids := stuck.take (batch cfg)
    ∃ (turns' : List Turn) (i : Nat) (g' : Group) (afters : List StreamId), turns.length < i ∧
      turns'.length = i + 1 ∧ Stream.Reclaimed g (st.entries.map (·.id)) me (c.clock i).now ids g' ∧
      Scanned cfg me c ⟨s.putGroup cfg.stream st cfg.group g, turns, .listening, none⟩
        ⟨s.putGroup cfg.stream st cfg.group g', turns', .handed (st.entries.filter fun e => e.id ∈ ids), none⟩
        (afters.map (scanCall cfg) ++ claims cfg me ids) := by
  intro ids
  let tick : Lone := Lone.tick cfg me ⟨s.putGroup cfg.stream st cfg.group g, turns, .listening, none⟩
  have begun : tick.turns.length = turns.length + 1 := List.length_append
  have all : ([] : List StreamId) ++ stuck.filter (fun id => StreamId.zero < id) = stuck := by
    rw [List.nil_append, List.filter_eq_self, ← same (turns.length + 1) (Nat.lt_succ_self _)]
    intro id hid
    obtain ⟨d, hd, -⟩ := Group.mem_stuck.1 hid
    exact decide_eq_true (positive id (Table.mem_keys_iff.2 ⟨d, hd⟩))
  obtain ⟨found, turns', afters, firsts, longer, pages⟩ := reclaims_pages cfg me c s st
    tick.turns (fun i hi => same i (by omega)) all
  simp only [claimFound_eq, firsts] at pages
  by_cases nothing : ids = []
  · have given : (st.entries.filter fun e => e.id ∈ ids) = [] := by simp [nothing]
    rw [if_pos nothing] at pages
    refine ⟨turns', turns'.length - 1, g, .zero :: afters, by omega, by omega, ?_, ?_⟩
    · rw [nothing]
      exact ⟨rfl, by simp, by simp, fun _ _ => rfl⟩
    · rw [given, claims, if_pos nothing]
      exact Reclaims.scanned [] pages
  · rw [if_neg nothing] at pages
    have now := same turns'.length (by omega)
    have sorted : ids.Pairwise (· < ·) := by
      refine List.Pairwise.sublist (List.take_sublist _ _) ?_
      rw [← now]
      exact Group.stuck_increasing
    obtain ⟨turns'', g', last, reclaimed, claim⟩ := reclaims_claim cfg me c s st g turns'
      increasing sorted fun id hid => now ▸ List.mem_of_mem_take hid
    refine ⟨turns'', turns'.length, g', .zero :: afters, by omega, last, reclaimed, ?_⟩
    rw [claims, if_neg nothing]
    have whole := pages.trans claim
    rw [List.append_nil] at whole
    exact whole.scanned _

/-- One scan makes a store of another, whatever the run has done before. -/
def ScansTo (cfg : ConsumerConfig) (me : String) (c : Circumstances) (s s' : Store) : Prop :=
  ∃ turns u made, Scanned cfg me c ⟨s, turns, .listening, none⟩ u made ∧ u.store = s'

/-- So many scans in a row make a store of another. -/
def Scans (cfg : ConsumerConfig) (me : String) (c : Circumstances) : Nat → Store → Store → Prop
  | 0, s, s' => s' = s
  | n + 1, s, s' => ∃ between, Scans cfg me c n s between ∧ ScansTo cfg me c between s'

/-- What so many scans at one instant have made of a group: the first entries that were stuck are
stuck no longer, and a delivery that is not the consumer's is as it was. -/
structure Rescued (cfg : ConsumerConfig) (me : String) (now : Instant) (n : Nat) (g : Group) (s' : Store)
    (cs' : List TimedCall) (st' : Stream) (g' : Group) : Prop where
  left : s' = Store.empty.afterAll cs'
  room : Store.empty.Roomy cs'
  there : s'.group? cfg.stream cfg.group = some (st', g')
  stuck : g'.stuck now cfg.claimMinIdle me = (g.stuck now cfg.claimMinIdle me).drop (n * batch cfg)
  others : ∀ id d, g'.pending.get? id = some d → d.owner = me ∨ g.pending.get? id = some d

variable {cs cs' : List TimedCall} {now : Instant} {n : Nat} {s' : Store} {st' : Stream} {g' : Group}

/-- The scan that a lone run makes at an instant of a log that other scans have left. -/
theorem Rescued.scanned (rescued : Rescued cfg me now n g s' cs' st' g')
    (atOnce : ∀ i, (c.clock i).now = now) (turns : List Turn) :
    ∃ turns' g'' phase made,
      Stream.Reclaimed g' (st'.entries.map (·.id)) me now
        ((g'.stuck now cfg.claimMinIdle me).take (batch cfg)) g'' ∧
      Scanned cfg me c ⟨s', turns, .listening, none⟩
        ⟨s'.putGroup cfg.stream st' cfg.group g'', turns', phase, none⟩ made := by
  obtain ⟨rfl, room, there, -, -⟩ := rescued
  have attended := (Store.attended_afterAll cs' cfg.stream cfg.group).group g' (Store.view_of_there there)
  have same (i : Nat) (_ : turns.length < i) : g'.stuck (c.clock i).now cfg.claimMinIdle me =
      g'.stuck now cfg.claimMinIdle me := by rw [atOnce]
  obtain ⟨turns', i, g'', afters, -, -, reclaimed, scan⟩ := scanned_of_stuck (Store.empty.afterAll cs')
    (Store.increasing_of_there room there) (fun id pending => attended.zero_lt pending) same
  rw [atOnce] at reclaimed
  rw [Store.putGroup_self there] at scan
  exact ⟨turns', g'', _, _, reclaimed, scan⟩

/-- **One more scan** at the same instant. -/
theorem Rescued.next (rescued : Rescued cfg me now n g s' cs' st' g')
    (atOnce : ∀ i, (c.clock i).now = now) {s'' : Store} (scans : ScansTo cfg me c s' s'') :
    ∃ cs'' st'' g'', Rescued cfg me now (n + 1) g s'' cs'' st'' g'' := by
  obtain ⟨turns, u, made, scan, rfl⟩ := scans
  obtain ⟨turns', g'', phase, made', reclaimed, scan'⟩ := rescued.scanned atOnce turns
  obtain rfl := scan.unique scan'
  obtain ⟨ds, after, roomy⟩ := Lone.roomy_of_reaches scan.reaches
  change s'.putGroup cfg.stream st' cfg.group g'' = s'.afterAll ds at after
  change s'.Roomy ds at roomy
  rw [rescued.left] at roomy
  refine ⟨cs' ++ ds, _, g'', ?left, Store.roomy_append.2 ⟨rescued.room, roomy⟩,
    Store.group?_putGroup s' cfg.stream cfg.group st' g'', ?stuck, ?others⟩
  case left =>
    rw [Store.afterAll_append, ← rescued.left]
    exact after
  case stuck => rw [reclaimed.stuck, rescued.stuck, List.drop_drop, Nat.succ_mul]
  case others =>
    intro id d hd
    by_cases claimed : id ∈ (g'.stuck now cfg.claimMinIdle me).take (batch cfg)
    · by_cases retained : id ∈ st'.entries.map (·.id)
      · obtain ⟨before, -, is⟩ := reclaimed.given id claimed retained
        obtain rfl := Option.some.inj (is.symm.trans hd)
        exact .inl rfl
      · rw [reclaimed.forgotten id claimed retained] at hd
        cases hd
    · rw [reclaimed.others id claimed] at hd
      exact rescued.others id d hd

/-- **Scans in a row** at one instant: there are as many as one likes, and each takes the next of
the entries that were stuck. -/
theorem rescued_of_scans (me : String) (room : Store.empty.Roomy cs)
    (there : (Store.empty.afterAll cs).group? cfg.stream cfg.group = some (st, g))
    (atOnce : ∀ i, (c.clock i).now = now) (n : Nat) :
    (∃ s', Scans cfg me c n (Store.empty.afterAll cs) s') ∧
      ∀ s', Scans cfg me c n (Store.empty.afterAll cs) s' → ∃ cs' st' g', Rescued cfg me now n g s' cs' st' g' := by
  induction n with
  | zero =>
    refine ⟨⟨_, rfl⟩, ?_⟩
    rintro s' rfl
    exact ⟨cs, st, g, rfl, room, there, by simp, fun _ _ hd => .inr hd⟩
  | succ n ih =>
    obtain ⟨⟨between, scans⟩, all⟩ := ih
    refine ⟨?_, ?_⟩
    · obtain ⟨cs', st', g', rescued⟩ := all between scans
      obtain ⟨turns', g'', phase, made, -, scan⟩ := rescued.scanned (c := c) atOnce []
      exact ⟨_, between, scans, _, _, _, scan, rfl⟩
    · rintro s' ⟨between, scans, scan⟩
      obtain ⟨cs', st', g', rescued⟩ := all between scans
      exact rescued.next atOnce scan

/-- What a scan of a lone run comes to that claims `ids` of what is `stuck`: it lists deliveries and then makes
its claim, or none if nothing is stuck. The last of its turns has the number `i`. -/
structure ScanClaims (cfg : ConsumerConfig) (me : String) (c : Circumstances) (s : Store) (st : Stream) (g : Group)
    (turns : List Turn) (stuck ids : List StreamId) (turns' : List Turn) (i : Nat) (g' : Group)
    (afters : List StreamId) : Prop where
  later : turns.length < i
  last : turns'.length = i + 1
  /-- The retained ones are the consumer's then, the trimmed ones are forgotten, and the rest is as it was. -/
  reclaimed : Stream.Reclaimed g (st.entries.map (·.id)) me (c.clock i).now ids g'
  /-- The run is handed the retained ones in order. -/
  ordered : ((st.entries.filter fun e => e.id ∈ ids).map (·.id)).Pairwise (· < ·)
  scanned : Scanned cfg me c ⟨s, turns, .listening, none⟩
    ⟨s.putGroup cfg.stream st cfg.group g', turns', .handed (st.entries.filter fun e => e.id ∈ ids), none⟩
    (afters.map (scanCall cfg) ++
      if stuck = [] then [] else [.claim cfg.stream cfg.group me cfg.claimMinIdle ids])

/-- So many scans in a row can be made, and leave nothing of what was `stuck` with others. -/
structure ScansClear (cfg : ConsumerConfig) (me : String) (c : Circumstances) (s : Store) (stuck : List StreamId)
    (n : Nat) : Prop where
  possible : ∃ s', Scans cfg me c n s s'
  mine : ∀ s', Scans cfg me c n s s' → ∀ id ∈ stuck,
    ∀ d, (s'.pendingOf cfg.stream cfg.group).get? id = some d → d.owner = me

/-- **Enough scans** at one instant take all that was stuck. -/
theorem scansClear_of_enough (room : Store.empty.Roomy cs)
    (there : (Store.empty.afterAll cs).group? cfg.stream cfg.group = some (st, g))
    (atOnce : ∀ i, (c.clock i).now = now) (enough : (g.stuck now cfg.claimMinIdle me).length ≤ n * batch cfg) :
    ScansClear cfg me c (Store.empty.afterAll cs) (g.stuck now cfg.claimMinIdle me) n := by
  obtain ⟨possible, all⟩ := rescued_of_scans me room there atOnce n
  refine ⟨possible, fun s' scans id hid d hd => ?_⟩
  obtain ⟨cs', st', g', rescued⟩ := all s' scans
  rw [Store.pendingOf, rescued.there] at hd
  -- A delivery that is still another's would be stuck still.
  by_contra other
  have before := (rescued.others id d hd).resolve_left other
  obtain ⟨d', hd', waits, -⟩ := Group.mem_stuck.1 hid
  obtain rfl := Option.some.inj (before.symm.trans hd')
  have still : id ∈ g'.stuck now cfg.claimMinIdle me := Group.mem_stuck.2 ⟨d, hd, waits, other⟩
  have nothing : (g.stuck now cfg.claimMinIdle me).drop (n * batch cfg) = [] := List.drop_eq_nil_of_le enough
  rw [rescued.stuck, nothing] at still
  cases still

/-- **A scan claims exactly the right entries.** Take any log that a history with room has left,
with the group of a consumer, and let a lone run of the consumer notice a tick. What is stuck may
be read at any moment of the scan, as long as it is the same at all of them; no delivery of the
consumer's own matters, however many there are.

The scan ends. It claims the first entries that are stuck, as many as fill a batch. The retained
ones among them are the consumer's then, with one delivery more and no time passed since, and the
run is handed them in order; the trimmed ones are forgotten. The other deliveries, the cursor and
the rest of the log are as they were.

Scans that follow each other at one instant, as many as it takes for their batches to hold all
that was stuck, leave none of it with others. -/
theorem scan_claims_stuck (cfg : ConsumerConfig) (me : String) (c : Circumstances) {cs : List TimedCall}
    (room : Store.empty.Roomy cs) {st : Stream} {g : Group}
    (there : (Store.empty.afterAll cs).group? cfg.stream cfg.group = some (st, g)) :
    let s := Store.empty.afterAll cs
    let b := max cfg.claimBatch 1
    (∀ (turns : List Turn) (stuck : List StreamId),
      (∀ i, turns.length < i → g.stuck (c.clock i).now cfg.claimMinIdle me = stuck) →
      ∃ turns' i g' afters, ScanClaims cfg me c s st g turns stuck (stuck.take b) turns' i g' afters) ∧
    ∀ now, (∀ i, (c.clock i).now = now) → ∀ n, (g.stuck now cfg.claimMinIdle me).length ≤ n * b →
      ScansClear cfg me c s (g.stuck now cfg.claimMinIdle me) n := by
  intro s b
  have increasing := Store.increasing_of_there room there
  have attended := (Store.attended_afterAll cs cfg.stream cfg.group).group g (Store.view_of_there there)
  refine ⟨fun turns stuck same => ?_, fun now atOnce n enough => scansClear_of_enough room there atOnce enough⟩
  obtain ⟨turns', i, g', afters, later, last, reclaimed, scan⟩ := scanned_of_stuck s increasing
    (fun id pending => attended.zero_lt pending) same
  rw [Store.putGroup_self there] at scan
  have nothing : stuck.take b = [] ↔ stuck = [] := by
    rw [List.take_eq_nil_iff]
    exact or_iff_right (Nat.ne_of_gt (Nat.lt_of_lt_of_le Nat.one_pos (Nat.le_max_right _ _)))
  have made : claims cfg me (stuck.take b) =
      if stuck = [] then [] else [.claim cfg.stream cfg.group me cfg.claimMinIdle (stuck.take b)] :=
    if_congr nothing rfl rfl
  exact ⟨turns', i, g', afters, later, last, reclaimed,
    List.pairwise_map.2 (increasing.sublist List.filter_sublist), made ▸ scan⟩

/-- Five entries are delivered, the second and the third to the consumer that is going to look for
stuck ones, and the first is trimmed then. -/
def fiveDelivered : List TimedCall := [
  .atMilli 0 (.createGroup "jobs" "workers" .zero), .atMilli 1 (.append "jobs" [] 9),
  .atMilli 2 (.append "jobs" [] 9), .atMilli 3 (.append "jobs" [] 9), .atMilli 4 (.append "jobs" [] 9),
  .atMilli 5 (.append "jobs" [] 9), .atMilli 6 (.readNew "jobs" "workers" "bob" 1 none),
  .atMilli 7 (.readNew "jobs" "workers" "ann" 2 none), .atMilli 8 (.readNew "jobs" "workers" "bob" 2 none),
  .atMilli 9 (.append "jobs" [] 5)]

/-- Nothing fails, and the clocks stand still. -/
def muchLater : Circumstances where
  clock _ := (TimedCall.atMilli 100000 .ping).clock
  work _ := .ok ⟨"", 2⟩
  refusal _ := none
  uncancelled _ := by simp

/-- With batches of two the first scan takes the trimmed entry and the one behind the consumer's
own; a second one leaves nothing with others. -/
theorem scan_claims_stuck_fiveDelivered :
    let jobs := { config "jobs" "workers" with claimBatch := 2 }
    let s := Store.empty.afterAll fiveDelivered
    let later := (TimedCall.atMilli 100000 .ping).clock.now
    Store.empty.Roomy fiveDelivered ∧ (∃ (st : Stream) (turns : List Turn) (g' : Group) (afters : List StreamId),
      Scanned jobs "ann" muchLater ⟨s, [], .listening, none⟩
        ⟨s.putGroup "jobs" st "workers" g', turns, .working ⟨⟨4, 0⟩, .empty⟩ (.claimed []), none⟩
        (afters.map (scanCall jobs) ++ [.claim "jobs" "workers" "ann" jobs.claimMinIdle [⟨1, 0⟩, ⟨4, 0⟩]]) ∧
      g'.pending.get? ⟨1, 0⟩ = none ∧ g'.pending.get? ⟨4, 0⟩ = some ⟨"ann", later, 2⟩ ∧
      g'.pending.get? ⟨5, 0⟩ = some ⟨"bob", (TimedCall.atMilli 8 .ping).clock.now, 1⟩) ∧
    ∃ s', Scans jobs "ann" muchLater 2 s s' ∧
      ∀ d, (s'.pendingOf "jobs" "workers").get? ⟨5, 0⟩ = some d → d.owner = "ann" := by
  intro jobs s later
  have room : Store.empty.Roomy fiveDelivered := by decide
  obtain ⟨⟨st, g⟩, there⟩ : ∃ found, s.group? "jobs" "workers" = some found :=
    Option.isSome_iff_exists.1 (by decide)
  have looks : ((s.group? "jobs" "workers").map fun x => (x.2.stuck later jobs.claimMinIdle "ann",
      x.1.entries.filter (fun e => e.id ∈ [⟨1, 0⟩, ⟨4, 0⟩]), x.2.pending.get? ⟨4, 0⟩,
      x.2.pending.get? ⟨5, 0⟩)) = some ([⟨1, 0⟩, ⟨4, 0⟩, ⟨5, 0⟩], [⟨⟨4, 0⟩, .empty⟩],
        some ⟨"bob", (TimedCall.atMilli 8 .ping).clock.now, 1⟩,
        some ⟨"bob", (TimedCall.atMilli 8 .ping).clock.now, 1⟩) := by decide
  have retained : ((s.group? "jobs" "workers").map fun x => x.1.entries.map (·.id)) =
      some [⟨2, 0⟩, ⟨3, 0⟩, ⟨4, 0⟩, ⟨5, 0⟩, ⟨9, 0⟩] := by decide
  simp only [there, Option.map_some, Option.some.injEq, Prod.mk.injEq] at looks retained
  obtain ⟨stuck, given, four, five⟩ := looks
  obtain ⟨scan, scans⟩ := scan_claims_stuck jobs "ann" muchLater room there
  obtain ⟨turns, i, g', afters, -, -, reclaimed, -, ends⟩ := scan [] _ fun _ _ => stuck
  change Stream.Reclaimed g _ "ann" later [⟨1, 0⟩, ⟨4, 0⟩] g' at reclaimed
  change Scanned jobs "ann" muchLater _
    ⟨_, _, .handed (st.entries.filter fun e => e.id ∈ [⟨1, 0⟩, ⟨4, 0⟩]), none⟩ _ at ends
  rw [retained] at reclaimed
  rw [given] at ends
  obtain ⟨⟨s', twice⟩, mine⟩ := scans later (fun _ => rfl) 2 (by rw [stuck]; decide)
  refine ⟨room, ⟨st, turns, g', afters, ends, ?_, ?_, ?_⟩, s', twice, ?_⟩
  · exact reclaimed.forgotten ⟨1, 0⟩ (by decide) (by decide)
  · obtain ⟨d, hd, is⟩ := reclaimed.given ⟨4, 0⟩ (by decide) (by decide)
    obtain rfl := Option.some.inj (four.symm.trans hd)
    exact is
  · exact (reclaimed.others ⟨5, 0⟩ (by decide)).trans five
  · exact mine s' twice ⟨5, 0⟩ (by rw [stuck]; decide)

end StreamQueue.Consumer
