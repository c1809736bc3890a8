import StreamQueue.Proofs.Http.PublishTrigger
import StreamQueue.Proofs.Publisher.Conduct

/-!
# What requests can change

Requests of any methods for any targets come one after the other. A page is reached by a request for its
path with one of its methods; a request that reaches no page is answered by itself. Two pages flip a flag
each, and nothing else does. The status makes up to four calls on every page that shows it, and they only
look at the log. So the log is left alone by all pages but the one that publishes, and this one only appends
times to the stream of its publisher.

All of this is on any log: it may answer a call with anything, be late with it, or never answer, and whatever
has reached it was among the calls that were made, in any order, at any time and any number of times.

## What is proved

* `App.fst_handle`, `App.conforms_of_unfolds` — one request.
* `App.served_attend` — requests to the log in memory with calls that are hindered are served so.
* `App.requests_flip_and_append` — any requests, one after the other.
-/

namespace StreamQueue

/-! ### Calls that only look -/

/-- The calls that look at a log and have no effect on it. -/
inductive LogCall.Looks : LogCall → Prop
  | ping : Looks .ping
  | pendingCount (stream group : String) : Looks (.pendingCount stream group)
  | len (stream : String) : Looks (.len stream)
  | rangeAfter (stream : String) (after : StreamId) : Looks (.rangeAfter stream after)
  | groups (stream : String) : Looks (.groups stream)

namespace Store

variable {s : Store} {p : PublisherConfig} {c : LogCall} {ds : List TimedCall}

theorem perform_of_looks (looks : c.Looks) (s : Store) (clock : Clock) : (s.perform clock c).2 = s := by
  cases looks <;> rfl

/-- Without the calls that only look the store is the same. -/
theorem afterAll_of_looks {P : LogCall → Prop} (each : ∀ q ∈ ds, q.call.Looks ∨ P q.call) (s : Store) :
    ∃ posts, posts.Sublist ds ∧ (∀ q ∈ posts, P q.call) ∧ s.afterAll ds = s.afterAll posts := by
  induction ds generalizing s with
  | nil => exact ⟨[], .slnil, by simp, rfl⟩
  | cons q ds ih =>
    obtain ⟨first, others⟩ := List.forall_mem_cons.1 each
    obtain ⟨posts, among, appends, same⟩ := ih others (s.perform q.clock q.call).2
    rcases first with looks | appends'
    · rw [perform_of_looks looks] at same
      refine ⟨posts, among.cons q, appends, ?_⟩
      rw [afterAll, List.foldl_cons, perform_of_looks looks]
      exact same
    · exact ⟨q :: posts, among.cons_cons q, List.forall_mem_cons.2 ⟨appends', appends⟩, same⟩

/-- What appends to a stream leave alone: all groups of all streams, and the other streams. -/
structure Appended (stream : String) (s s' : Store) : Prop where
  groups : ∀ other group, (s'.view other group).group = (s.view other group).group
  others : ∀ other, other ≠ stream → s'.streams.get? other = s.streams.get? other

theorem appended_append (s : Store) (clock : Clock) (stream : String) (fields : List (String × String))
    (maxLen : Nat) : Appended stream s (s.perform clock (.append stream fields maxLen)).2 where
  groups := by
    intro other group
    rw [view_perform, View.step]
    split <;> rfl
  others := by
    intro other different
    rw [perform, append, putStream, Table.get?_insert, if_neg different]

theorem appended_afterAll {stream : String}
    (appends : ∀ q ∈ ds, ∃ fields maxLen, q.call = .append stream fields maxLen) (s : Store) :
    Appended stream s (s.afterAll ds) := by
  induction ds generalizing s with
  | nil => exact ⟨fun _ _ => rfl, fun _ _ => rfl⟩
  | cons q ds ih =>
    obtain ⟨⟨fields, maxLen, call⟩, others⟩ := List.forall_mem_cons.1 appends
    have first := appended_append s q.clock stream fields maxLen
    rw [← call] at first
    have rest := ih others (s.perform q.clock q.call).2
    constructor
    case groups => exact fun other group => (rest.groups other group).trans (first.groups other group)
    case others =>
      exact fun other different => (rest.others other different).trans (first.others other different)

end Store

/-! ### Pages and the requests that reach them -/

namespace Http

variable {r : Request} {page page' : Page}

/-- The path of a page. -/
def Page.path : Page → String
  | index => "/"
  | liveness => "/liveness"
  | readiness => "/readiness"
  | updateLiveness => "/update-liveness"
  | updateReadiness => "/update-readiness"
  | publishTime => "/publish-time"

theorem Page.ofPath?_eq_some_iff {path : String} : ofPath? path = some page ↔ path = page.path := by
  constructor
  · intro found
    unfold ofPath? at found
    split at found <;> cases found <;> rfl
  · rintro rfl
    cases page <;> rfl

/-- A request reaches a page: it is for the path of the page, with one of its methods. -/
def Request.Reaches (r : Request) (page : Page) : Prop := r.target.path = page.path ∧ r.method ∈ page.methods

instance (r : Request) (page : Page) : Decidable (r.Reaches page) := inferInstanceAs (Decidable (_ ∧ _))

/-- A request reaches one page at most. -/
theorem Request.Reaches.unique (reaches : r.Reaches page) (reaches' : r.Reaches page') : page = page' := by
  have found := Page.ofPath?_eq_some_iff.2 reaches.1
  rw [Page.ofPath?_eq_some_iff.2 reaches'.1] at found
  exact (Option.some.inj found).symm

/-- An answer to a request that shows a status with given flags, unless only its header is asked for. -/
def Response.Reports (answer : Response) (r : Request) (h : Health) : Prop :=
  ∃ shown : Status, shown.health = h ∧ answer.status = 200 ∧ (r.method ≠ "HEAD" → answer.Shows shown)

/-- The pages that show a status, the one that publishes if the query gives no number of messages or one. -/
def Page.Tells (query : Option String) : Page → Prop
  | liveness | readiness => False
  | publishTime => ∃ text : Option String, countTexts query = text.toList
  | index | updateLiveness | updateReadiness => True

end Http

open Http

/-- The flags once they are flipped by the requests that reach the two pages for this. -/
def Health.toggled (h : Health) (rs : List Request) : Health where
  live := not^[rs.countP fun r => r.Reaches .updateLiveness] h.live
  ready := not^[rs.countP fun r => r.Reaches .updateReadiness] h.ready

theorem Health.toggled_append (h : Health) (rs rs' : List Request) :
    h.toggled (rs ++ rs') = (h.toggled rs).toggled rs' := by
  have again (m n : Nat) (b : Bool) : not^[m + n] b = not^[n] (not^[m] b) := by
    rw [Nat.add_comm, Function.iterate_add_apply]
  simp only [toggled, List.countP_append, again]

theorem Health.toggled_cons (h : Health) (r : Request) (rs : List Request) :
    h.toggled (r :: rs) = (h.toggled [r]).toggled rs := h.toggled_append [r] rs

/-- A request and what has become of it: the calls that were made for it, and the answer unless it is
waited for for ever. -/
structure Http.Visit where
  request : Request
  calls : List LogCall
  answer : Option Response

/-- What may become of a request, given the flags before it and after it. -/
structure Http.Visit.Conforms (p : PublisherConfig) (before after : Health) (v : Visit) : Prop where
  /-- The health checks are answered at once, without a call. -/
  liveness : v.request.Reaches .liveness →
    v.calls = [] ∧ ∃ answer, v.answer = some answer ∧ answer.status = if before.live then 200 else 503
  readiness : v.request.Reaches .readiness →
    v.calls = [] ∧ ∃ answer, v.answer = some answer ∧ answer.status = if before.ready then 200 else 503
  /-- A status shows the flags as they are after the request. -/
  status : ∀ page, v.request.Reaches page → page.Tells v.request.target.query →
    ∀ answer, v.answer = some answer → answer.Reports v.request after
  /-- The log is only looked at, but for times that are appended. -/
  calls : ∀ c ∈ v.calls, c.Looks ∨
    v.request.Reaches .publishTime ∧ ∃ t : Timestamp, c = Publisher.appending p t.rfc3339

namespace App

open Job Publisher

variable {a b : App} {r : Request} {page : Page}

/-! ### What the pages do -/

/-- An operation of a publisher makes the calls of its job. -/
theorem keeps_timed {α : Type} {P : LogCall → Prop} (p : PublisherConfig) {job : Job (Except QueueError α)}
    (keeps : job.Keeps P fun _ => True) : (timed p job).Keeps P fun _ => True := by
  rw [timed_eq]
  exact ⟨trivial, keeps.bind fun _ _ => trivial⟩

/-- To count the backlog is to look. -/
theorem keeps_backlog (p : PublisherConfig) (group : String) :
    (backlog p group).Keeps LogCall.Looks fun _ => True := by
  have pending (fresh : Except QueueError Nat) : (countPending p group fresh).Keeps LogCall.Looks fun _ => True := by
    cases fresh with
    | error e => trivial
    | ok n => exact ⟨.pendingCount _ _, fun r => by cases r <;> trivial⟩
  have fresh (g : GroupInfo) : (undelivered p g).Keeps LogCall.Looks fun _ => True := by
    rw [undelivered]
    split
    · exact ⟨.len _, fun _ => trivial⟩
    · exact ⟨.rangeAfter _ _, fun _ => trivial⟩
  rw [backlog_eq]
  refine keeps_timed p ⟨.groups _, fun groups => ?_⟩
  cases groups with
  | error e => trivial
  | ok groups =>
    rw [countFor]
    split
    · trivial
    · exact (fresh _).bind fun n _ => pending n

/-- To show the status is to look. -/
theorem keeps_status (a : App) (error : Option String) :
    (a.status error).Keeps LogCall.Looks fun answer =>
      ∃ shown : Status, shown.health = a.health ∧ answer.Shows shown := by
  rw [status_eq]
  refine (keeps_backlog a.publisher a.group).bind fun counted _ => ?_
  cases counted <;> exact ⟨.ping, fun _ => ⟨_, rfl, shows_json _⟩⟩

/-- To publish times is to append them. -/
theorem keeps_publishTimes (a : App) (n : Nat) :
    (a.publishTimes n).Keeps (fun c => ∃ t : Timestamp, c = appending a.publisher t.rfc3339) fun _ => True := by
  induction n with
  | zero => trivial
  | succ n ih =>
    rw [publishTimes_succ]
    intro t
    have published : (publish a.publisher t.rfc3339).Keeps
        (fun c => ∃ t : Timestamp, c = appending a.publisher t.rfc3339) fun _ => True :=
      keeps_timed _ ⟨⟨t, rfl⟩, fun _ => trivial⟩
    refine published.bind fun r _ => ?_
    cases r with
    | ok id => exact ih
    | error e => trivial

/-- What a page does to the log, and what it shows. -/
theorem keeps_visit (a : App) (query : Option String) (page : Page) :
    (a.visit query page).2.Keeps
      (fun c => c.Looks ∨ page = .publishTime ∧ ∃ t : Timestamp, c = appending a.publisher t.rfc3339)
      fun answer => page.Tells query →
        ∃ shown : Status, shown.health = (a.visit query page).1.health ∧ answer.Shows shown := by
  have status (b : App) (error : Option String) : (b.status error).Keeps
      (fun c => c.Looks ∨ page = .publishTime ∧ ∃ t : Timestamp, c = appending a.publisher t.rfc3339)
      fun answer => page.Tells query → ∃ shown : Status, shown.health = b.health ∧ answer.Shows shown :=
    (keeps_status b error).mono (fun _ looks => .inl looks) fun _ shows _ => shows
  cases page with
  | index => exact status a none
  | liveness | readiness => exact False.elim
  | updateLiveness | updateReadiness => exact status _ none
  | publishTime =>
    rw [visit]
    split
    · rename_i first second rest texts
      rintro ⟨text, one⟩
      rw [texts] at one
      cases text <;> cases one
    · exact ((keeps_publishTimes a _).mono (fun _ appends => .inr ⟨rfl, appends⟩) fun _ _ => trivial).bind
        fun failure _ => status a _

/-- A visit leaves the settings alone, and the flags but for one that the page flips. -/
theorem fst_visit (a : App) (query : Option String) (page : Page) :
    (a.visit query page).1 = { a with health :=
      ⟨if page = .updateLiveness then !a.health.live else a.health.live,
        if page = .updateReadiness then !a.health.ready else a.health.ready⟩ } := by
  cases page with
  | publishTime =>
    rw [visit]
    split <;> rfl
  | _ => rfl

/-! ### One request -/

/-- What a page answers to a request, once it is on its way. -/
def sent (r : Request) (answer : Response) : Response :=
  opened (if r.method == "HEAD" then answer.withoutBody else answer)

theorem status_sent (r : Request) (answer : Response) : (sent r answer).status = answer.status := by
  rw [sent]
  split <;> rfl

theorem reports_sent {answer : Response} {shown : Status} (shows : answer.Shows shown) (r : Request) :
    (sent r answer).Reports r shown.health := by
  refine ⟨shown, rfl, (status_sent r answer).trans shows.status, fun whole => ?_⟩
  rw [sent, if_neg (by simpa using whole)]
  exact ⟨shows.status, shows.body, shows.value, shows.only⟩

/-- A request that reaches a page is answered by it. -/
theorem handle_of_reaches (a : App) (reaches : r.Reaches page) :
    a.handle r = ((a.visit r.target.query page).1,
      (a.visit r.target.query page).2.bind fun answer => done (sent r answer)) := by
  have other : (r.method == "OPTIONS") = false := by
    have known := reaches.2
    rw [beq_eq_false_iff_ne]
    intro options
    rw [options] at known
    cases page <;> exact absurd known (by decide)
  have route : a.route r = ((a.visit r.target.query page).1, (a.visit r.target.query page).2.bind fun answer =>
      done (if r.method == "HEAD" then answer.withoutBody else answer)) := by
    simp only [route, Page.ofPath?_eq_some_iff.2 reaches.1, List.contains_iff_mem.2 reaches.2, if_true]
    rfl
  simp only [handle, other, route, Bool.false_eq_true, if_false]
  exact Prod.ext rfl (Job.bind_assoc ..)

/-- Any other request is answered without a call. -/
theorem handle_of_unreached (a : App) (unreached : ∀ page, ¬ r.Reaches page) :
    ∃ answer, a.handle r = (a, done answer) := by
  rw [handle]
  split
  · exact ⟨_, rfl⟩
  · cases found : Page.ofPath? r.target.path with
    | none =>
      simp only [route, found]
      exact ⟨_, rfl⟩
    | some page =>
      have refused : page.methods.contains r.method = false := by
        rw [← Bool.not_eq_true, List.contains_iff_mem]
        exact fun known => unreached page ⟨Page.ofPath?_eq_some_iff.1 found, known⟩
      simp only [route, found, refused]
      exact ⟨_, rfl⟩

/-- **A request changes nothing of a page's settings but the flags**, which it flips if it reaches a page
for this. -/
theorem fst_handle (a : App) (r : Request) : (a.handle r).1 = { a with health := a.health.toggled [r] } := by
  have flipped (page : Page) (b : Bool) :
      not^[[r].countP fun r => r.Reaches page] b = if r.Reaches page then !b else b := by
    rw [List.countP_singleton]
    split <;> simp_all
  simp only [Health.toggled, flipped]
  by_cases reached : ∃ page, r.Reaches page
  · obtain ⟨page, reaches⟩ := reached
    have same (page' : Page) : r.Reaches page' ↔ page = page' :=
      ⟨reaches.unique, by rintro rfl; exact reaches⟩
    rw [handle_of_reaches a reaches, fst_visit]
    simp only [same]
  · rw [not_exists] at reached
    obtain ⟨answer, is⟩ := handle_of_unreached a reached
    rw [is, if_neg (reached _), if_neg (reached _)]

/-- What is answered without a call is sent at once. -/
theorem unfolds_sent {answer : Response} {late : Option (Job Response)} {calls : List LogCall}
    {ended : Option Response} (unfolds : (done (sent r answer)).Unfolds late calls ended) :
    calls = [] ∧ ∃ sent, ended = some sent ∧ sent.status = answer.status := by
  obtain ⟨empty, is⟩ := unfolds.of_done
  exact ⟨empty, _, is, status_sent r answer⟩

/-- **One request**, on any log. -/
theorem conforms_of_unfolds (a : App) {v : Visit} (unfolds : (a.handle v.request).2.Unfolds none v.calls v.answer) :
    v.Conforms a.publisher a.health (a.health.toggled [v.request]) := by
  have after : (a.handle v.request).1.health = a.health.toggled [v.request] := by rw [fst_handle]
  by_cases reached : ∃ page, v.request.Reaches page
  · obtain ⟨page, reaches⟩ := reached
    rw [handle_of_reaches a reaches] at unfolds after
    have conduct : ((a.visit v.request.target.query page).2.bind fun answer => done (sent v.request answer)).Keeps _
        fun answer => page.Tells v.request.target.query → answer.Reports v.request (a.health.toggled [v.request]) :=
      (keeps_visit a v.request.target.query page).bind fun answer shows tells => by
        obtain ⟨shown, health, shows⟩ := shows tells
        rw [← after, ← health]
        exact reports_sent shows v.request
    obtain ⟨calls, value⟩ := unfolds.keeps conduct (by simp)
    constructor
    case liveness =>
      intro reaches'
      obtain rfl := reaches.unique reaches'
      obtain ⟨empty, answer, is, status⟩ := unfolds_sent unfolds
      refine ⟨empty, answer, is, status.trans ?_⟩
      split <;> rfl
    case readiness =>
      intro reaches'
      obtain rfl := reaches.unique reaches'
      obtain ⟨empty, answer, is, status⟩ := unfolds_sent unfolds
      refine ⟨empty, answer, is, status.trans ?_⟩
      split <;> rfl
    case status =>
      intro page' reaches' tells answer is
      obtain rfl := reaches.unique reaches'
      exact value answer is tells
    case calls =>
      intro c hc
      exact (calls c hc).imp_right fun ⟨same, appends⟩ => ⟨same ▸ reaches, appends⟩
  · rw [not_exists] at reached
    obtain ⟨answer, is⟩ := handle_of_unreached a reached
    rw [is] at unfolds
    obtain ⟨empty, -⟩ := unfolds.of_done
    constructor
    case liveness => exact fun reaches => absurd reaches (reached _)
    case readiness => exact fun reaches => absurd reaches (reached _)
    case status => exact fun page reaches => absurd reaches (reached page)
    case calls => simp [empty]

/-! ### Any requests -/

/-- Requests that are served one after the other. -/
inductive Served : App → List Visit → App → Prop
  | nil (a : App) : Served a [] a
  | cons {a b : App} {v : Visit} {vs : List Visit}
    (unfolds : (a.handle v.request).2.Unfolds none v.calls v.answer) (rest : Served (a.handle v.request).1 vs b) :
    Served a (v :: vs) b

/-- The flags are flipped by each request that reaches a page for this. -/
theorem Served.after {vs : List Visit} (served : Served a vs b) :
    b = { a with health := a.health.toggled (vs.map (·.request)) } := by
  induction served with
  | nil a => rfl
  | @cons a b v vs unfolds rest ih =>
    rw [ih, fst_handle, List.map_cons, Health.toggled_cons _ _ (vs.map _)]

/-- What becomes of each of the requests. -/
theorem Served.conforms {vs : List Visit} (served : Served a vs b) :
    ∀ before v behind, vs = before ++ v :: behind →
      v.Conforms a.publisher (a.health.toggled (before.map (·.request)))
        (a.health.toggled ((before ++ [v]).map (·.request))) := by
  induction served with
  | nil a =>
    intro before v behind is
    exact absurd is (by simp)
  | @cons a b w ws unfolds rest ih =>
    intro before v behind is
    cases before with
    | nil =>
      obtain ⟨rfl, rfl⟩ := List.cons.inj is
      exact conforms_of_unfolds a unfolds
    | cons u before =>
      obtain ⟨rfl, same⟩ := List.cons.inj is
      have later := ih before v behind same
      rw [fst_handle] at later
      rw [List.cons_append, List.map_cons, List.map_cons, Health.toggled_cons _ _ (before.map _),
        Health.toggled_cons _ _ ((before ++ [v]).map _)]
      exact later

/-! ### Requests to the log in memory -/

/-- A request that comes at an instant, with what hinders the calls for it. -/
structure Attempt where
  request : Request
  hitches : Nat → Hitch
  start : Instant

/-- Requests to the log in memory, one after the other: what becomes of them, and what they leave. -/
def attend (wall : Instant → Timestamp) : App → Store → List Attempt → List Visit × App × Store
  | a, s, [] => ([], a, s)
  | a, s, x :: xs =>
    let o := (a.handle x.request).2.passing (.hindered x.hitches wall) none 0 x.start s
    let rest := attend wall (a.handle x.request).1 o.left xs
    (⟨x.request, o.calls.map (·.2), o.ended.map (·.2)⟩ :: rest.1, rest.2)

/-- Requests to the log in memory are served, and only calls that were made for them are carried out. -/
theorem served_attend (wall : Instant → Timestamp) (a : App) (s : Store) (xs : List Attempt) :
    let o := a.attend wall s xs
    Served a o.1 o.2.1 ∧ ∃ ds, o.2.2 = s.afterAll ds ∧ ∀ q ∈ ds, ∃ v ∈ o.1, q.call ∈ v.calls := by
  induction xs generalizing a s with
  | nil => exact ⟨.nil a, [], rfl, by simp⟩
  | cons x xs ih =>
    have first := follows_passing_none x.hitches wall (a.handle x.request).2 0 x.start s
    obtain ⟨ds, left, made⟩ := first.left
    obtain ⟨served, es, left', made'⟩ := ih (a.handle x.request).1 _
    refine ⟨.cons first.unfolds served, ds ++ es, ?_, ?_⟩
    · rw [Store.afterAll_append, ← left]
      exact left'
    · intro q hq
      rcases List.mem_append.1 hq with here | later
      · exact ⟨_, List.mem_cons_self, made q here⟩
      · obtain ⟨v, hv, call⟩ := made' q later
        exact ⟨v, List.mem_cons_of_mem _ hv, call⟩

/-- **What requests can change**: take any requests, one after the other, on any log. Each flag is flipped once
by every request that reaches its page, and by no other; the settings stay. The health checks are answered by
the flags as they are then, without a call, and every status shows them as they are after its own request.

Let any calls reach a log that were made meanwhile, whatever they were answered, in any order, at any times,
and as often as may be. What it is then it is by appends of times to the stream of the publisher, each made for
a request that has reached the page that publishes; if there is none, it is as it was. No group of any stream
has come into being or changed, so no cursor, pending delivery or consumer has, and neither have the other
streams. -/
theorem requests_flip_and_append {vs : List Visit} (served : Served a vs b) :
    b = { a with health := a.health.toggled (vs.map (·.request)) } ∧
    (∀ before v behind, vs = before ++ v :: behind →
      v.Conforms a.publisher (a.health.toggled (before.map (·.request)))
        (a.health.toggled ((before ++ [v]).map (·.request)))) ∧
    ∀ (s : Store) (ds : List TimedCall), (∀ q ∈ ds, ∃ v ∈ vs, q.call ∈ v.calls) →
      (∃ posts, posts.Sublist ds ∧ s.afterAll ds = s.afterAll posts ∧
        ∀ q ∈ posts, ∃ v ∈ vs, v.request.Reaches .publishTime ∧ q.call ∈ v.calls ∧
          ∃ t : Timestamp, q.call = appending a.publisher t.rfc3339) ∧
      ((∀ v ∈ vs, ¬ v.request.Reaches .publishTime) → s.afterAll ds = s) ∧
      Store.Appended a.publisher.stream s (s.afterAll ds) := by
  refine ⟨served.after, served.conforms, ?_⟩
  intro s ds made
  have each : ∀ q ∈ ds, q.call.Looks ∨ ∃ v ∈ vs, v.request.Reaches .publishTime ∧ q.call ∈ v.calls ∧
      ∃ t : Timestamp, q.call = appending a.publisher t.rfc3339 := by
    intro q hq
    obtain ⟨v, hv, call⟩ := made q hq
    obtain ⟨before, behind, is⟩ := List.append_of_mem hv
    exact ((served.conforms before v behind is).calls _ call).imp_right fun ⟨reaches, appends⟩ =>
      ⟨v, hv, reaches, call, appends⟩
  obtain ⟨posts, among, appends, same⟩ := Store.afterAll_of_looks
    (P := fun c => ∃ v ∈ vs, v.request.Reaches .publishTime ∧ c ∈ v.calls ∧
      ∃ t : Timestamp, c = appending a.publisher t.rfc3339) each s
  refine ⟨⟨posts, among, same, appends⟩, ?_, ?_⟩
  · intro unreached
    have empty : posts = [] := by
      refine List.eq_nil_iff_forall_not_mem.2 fun q hq => ?_
      obtain ⟨v, hv, reaches, -⟩ := appends q hq
      exact unreached v hv reaches
    rw [same, empty]
    rfl
  · rw [same]
    refine Store.appended_afterAll (fun q hq => ?_) s
    obtain ⟨v, -, -, -, t, call⟩ := appends q hq
    exact ⟨_, _, call⟩

/-- The liveness is flipped while the backlog cannot be counted in time, it is checked, and a time is
published. -/
def threeAttempts : List Attempt := [
  ⟨⟨"GET", ⟨"/update-liveness", none⟩⟩, fun | 0 => ⟨none, none⟩ | _ => ⟨some .zero, none⟩, .zero⟩,
  ⟨⟨"GET", ⟨"/liveness", none⟩⟩, unhindered, .zero⟩,
  ⟨⟨"POST", ⟨"/publish-time", none⟩⟩, unhindered, .zero⟩]

/-- The second of the requests is told that the queue is not live. The third has appended an entry, and the
group is as it was. -/
theorem requests_flip_and_append_threeAttempts :
    let s := Store.empty.afterAll [.atMilli 0 (.createGroup "jobs" "workers" .zero)]
    let o := threeKept.attend (fun _ => ⟨0⟩) s threeAttempts
    Served threeKept o.1 o.2.1 ∧ o.2.1.health = ⟨false, true⟩ ∧
    (∃ v answer, o.1[1]? = some v ∧ v.answer = some answer ∧ answer.status = 503) ∧
    (o.2.2.entries "jobs").length = 1 ∧ (o.2.2.view "jobs" "workers").group = some (.startingAt .zero) := by
  intro s o
  obtain ⟨served, ds, left, made⟩ := served_attend (fun _ => ⟨0⟩) threeKept s threeAttempts
  obtain ⟨after, conforms, effects⟩ := requests_flip_and_append served
  obtain ⟨-, -, appended⟩ := effects s ds made
  refine ⟨served, ?_, ?_, by decide +kernel, ?_⟩
  · exact (congrArg App.health after).trans (by decide +kernel)
  · obtain ⟨-, answer, is, status⟩ :=
      (conforms [_] _ [_] rfl).liveness (by decide +kernel)
    exact ⟨_, answer, rfl, is, status.trans (by decide +kernel)⟩
  · have same := appended.groups "jobs" "workers"
    rw [← left] at same
    exact same.trans (by decide +kernel)

end App

end StreamQueue
