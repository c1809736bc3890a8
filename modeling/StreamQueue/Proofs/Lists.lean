import Mathlib.Data.List.Forall2
import Mathlib.Data.List.Nodup

/-!
# Lists

Facts about lists of anything, which the theory of the log, of its clients and of its server share. A list
of what was done is read from its front on, so what holds at each place is said of the list before it.

## What is proved

* `perm_append_of_mem_iff` — a list without repetitions is put together of two others that share nothing.
* `nodup_eraseDups`, `eraseDups_of_nodup` — what stays when repetitions are left out.
* `mapM_eq_ok_iff`, `mapM_eq_error_iff` — when a traversal comes to its end, and where it fails.
* `Throughout.snoc` — what holds at every place of a list goes on to hold when one more element is allowed.
-/

namespace StreamQueue

variable {α β ε : Type}

/-! ### Lists without repetitions -/

theorem perm_append_of_mem_iff {l a b : List α} (hl : l.Nodup) (ha : a.Nodup) (hb : b.Nodup)
    (apart : ∀ x ∈ a, x ∉ b) (h : ∀ x, x ∈ l ↔ x ∈ a ∨ x ∈ b) : (a ++ b).Perm l := by
  refine (List.perm_ext_iff_of_nodup (List.nodup_append.2 ⟨ha, hb, ?_⟩) hl).2 fun x => ?_
  · rintro x hx y hy rfl
    exact apart x hx hy
  · rw [List.mem_append, h]

/-- What stays of a list when repetitions are left out names nothing twice. -/
theorem nodup_eraseDups [DecidableEq α] : ∀ l : List α, l.eraseDups.Nodup
  | [] => List.nodup_nil
  | a :: rest => by
    rw [List.eraseDups_cons, List.nodup_cons]
    refine ⟨?_, nodup_eraseDups (rest.filter fun b => !b == a)⟩
    rw [List.mem_eraseDups, List.mem_filter]
    rintro ⟨-, other⟩
    simp at other
termination_by l => l.length
decreasing_by exact Nat.lt_succ_of_le (List.length_filter_le _ _)

theorem eraseDups_of_nodup [DecidableEq α] {l : List α} (once : l.Nodup) : l.eraseDups = l := by
  induction l with
  | nil => rfl
  | cons a rest ih =>
    obtain ⟨apart, once⟩ := List.nodup_cons.1 once
    have others : (rest.filter fun b => !b == a) = rest := by
      rw [List.filter_eq_self]
      intro b hb
      rw [Bool.not_eq_true', beq_eq_false_iff_ne]
      rintro rfl
      exact apart hb
    rw [List.eraseDups_cons, others, ih once]

/-! ### Traversals that end at the first failure -/

section Traversal

variable {f : α → Except ε β} {l : List α} {e : ε}

theorem mapM_eq_ok_iff {bs : List β} : l.mapM f = .ok bs ↔ List.Forall₂ (fun a b => f a = .ok b) l bs := by
  induction l generalizing bs with
  | nil =>
    rw [List.mapM_nil, List.forall₂_nil_left_iff]
    exact ⟨fun is => (Except.ok.inj is).symm, fun is => is ▸ rfl⟩
  | cons a l ih =>
    rw [List.mapM_cons, List.forall₂_cons_left_iff]
    constructor
    · intro all
      cases first : f a with
      | error e =>
        rw [first] at all
        cases all
      | ok b =>
        cases rest : l.mapM f with
        | error e =>
          rw [first, rest] at all
          cases all
        | ok cs =>
          rw [first, rest] at all
          obtain rfl := Except.ok.inj all
          exact ⟨b, cs, rfl, ih.1 rest, rfl⟩
    · rintro ⟨b, cs, first, rest, rfl⟩
      rw [first, ih.2 rest]
      rfl

theorem mapM_eq_ok {g : α → β} (each : ∀ a ∈ l, f a = .ok (g a)) : l.mapM f = .ok (l.map g) := by
  rw [mapM_eq_ok_iff, List.forall₂_map_right_iff, List.forall₂_same]
  exact each

/-- A traversal fails as the first that fails. -/
theorem mapM_eq_error_iff : l.mapM f = .error e ↔
    ∃ before bad behind, l = before ++ bad :: behind ∧ (∀ a ∈ before, ∃ b, f a = .ok b) ∧ f bad = .error e := by
  constructor
  · intro fails
    induction l with
    | nil => cases fails
    | cons a l ih =>
      rw [List.mapM_cons] at fails
      cases first : f a with
      | error e' =>
        rw [first] at fails
        obtain rfl := Except.error.inj fails
        exact ⟨[], a, l, rfl, by simp, first⟩
      | ok b =>
        cases rest : l.mapM f with
        | ok cs =>
          rw [first, rest] at fails
          cases fails
        | error e' =>
          rw [first, rest] at fails
          obtain rfl := Except.error.inj fails
          obtain ⟨before, bad, behind, rfl, fine, fails⟩ := ih rest
          exact ⟨a :: before, bad, behind, rfl, List.forall_mem_cons.2 ⟨⟨b, first⟩, fine⟩, fails⟩
  · rintro ⟨before, bad, behind, rfl, fine, fails⟩
    induction before with
    | nil =>
      rw [List.nil_append, List.mapM_cons, fails]
      rfl
    | cons a before ih =>
      obtain ⟨b, first⟩ := fine a List.mem_cons_self
      rw [List.cons_append, List.mapM_cons, first, ih fun c mem => fine c (List.mem_cons_of_mem a mem)]
      rfl

end Traversal

/-! ### What holds at every place of a list -/

/-- Every element of a list stands in a relation to the list of those before it. -/
def Throughout (P : List α → α → Prop) (l : List α) : Prop :=
  ∀ ⦃before x after⦄, l = before ++ x :: after → P before x

theorem throughout_nil (P : List α → α → Prop) : Throughout P [] := by
  intro before x after h
  simp at h

theorem Throughout.snoc {P : List α → α → Prop} {l : List α} (h : Throughout P l) {x : α} (hx : P l x) :
    Throughout P (l ++ [x]) := by
  intro before y after split
  rcases List.eq_nil_or_concat after with rfl | ⟨init, last, rfl⟩
  · obtain ⟨rfl, hy⟩ := List.append_inj' split rfl
    obtain rfl : x = y := by simpa using hy
    exact hx
  · rw [List.concat_eq_append, ← List.cons_append, ← List.append_assoc] at split
    exact h (List.append_inj' split rfl).1

end StreamQueue
