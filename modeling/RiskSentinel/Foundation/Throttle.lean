import Mathlib.Data.List.Basic
import Mathlib.Data.List.Induction
import Mathlib.Order.Basic

namespace RiskSentinel
namespace Foundation

/-!
# Throttling by key

A throttle remembers when each key last passed and blocks a request that
comes within its window of that moment.  A blocked request leaves no trace,
so the window is not extended by repetition.

Three facts are proved about whole sequences of requests with a nondecreasing
clock.  The decision depends on the passed requests of the same key only, and
exactly on whether one of them lies within the window.  Requests of other
keys can be left out.  A memory from which sufficiently old entries have been
dropped decides like the full one.
-/

/-- One request: its key, the time, and the window that applies to it. -/
structure Request (K : Type) where
  key : K
  now : Nat
  window : Nat

namespace Throttle

variable {K : Type}

/-- The key passed less than one window ago, or in the future of a clock
that went back. -/
def blocked (last : K -> Option Nat) (request : Request K) : Bool :=
  match last request.key with
  | none => false
  | some fired => decide (request.now < fired + request.window)

/-! ## Repeated keys -/

/-- A sequence in which some key comes back has a last item whose key came
before it. -/
theorem exists_last_repeat {A : Type} (key : A -> K) (items : List A)
    (repeated : ¬ items.Pairwise fun first second => key first ≠ key second) :
    Exists fun before => Exists fun item => Exists fun later => items = before ++ item :: later ∧
      (Exists fun earlier => earlier ∈ before ∧ key earlier = key item) ∧
      (later.Pairwise fun first second => key first ≠ key second) ∧
      forall other, other ∈ later -> forall earlier, earlier ∈ before ++ [item] ->
        key earlier ≠ key other := by
  induction items using List.reverseRecOn with
  | nil => exact absurd List.Pairwise.nil repeated
  | append_singleton rest last inductionHypothesis =>
      by_cases seen : Exists fun earlier => earlier ∈ rest ∧ key earlier = key last
      · exact ⟨rest, last, [], rfl, seen, List.Pairwise.nil, fun _ member => by cases member⟩
      · have unseen : forall earlier, earlier ∈ rest -> key earlier ≠ key last :=
          fun earlier member same => seen ⟨earlier, member, same⟩
        have restRepeated : ¬ rest.Pairwise fun first second => key first ≠ key second := by
          intro distinct
          refine repeated (List.pairwise_append.mpr ⟨distinct, List.pairwise_singleton _ _, ?_⟩)
          intro earlier member other isLast
          rw [List.mem_singleton.mp isLast]
          exact unseen earlier member
        rcases inductionHypothesis restRepeated
          with ⟨before, item, later, rfl, witnessed, distinct, fresh⟩
        refine ⟨before, item, later ++ [last], by simp, witnessed, ?_, ?_⟩
        · refine List.pairwise_append.mpr ⟨distinct, List.pairwise_singleton _ _, ?_⟩
          intro earlier member other isLast
          rw [List.mem_singleton.mp isLast]
          exact unseen earlier (List.mem_append_right _ (List.mem_cons_of_mem _ member))
        · intro other member earlier listed
          rcases List.mem_append.mp member with inside | isLast
          · exact fresh other inside earlier listed
          · rw [List.mem_singleton.mp isLast]
            apply unseen earlier
            rcases List.mem_append.mp listed with inBefore | isItem
            · exact List.mem_append_left _ inBefore
            · rw [List.mem_singleton.mp isItem]
              exact List.mem_append_right _ List.mem_cons_self

/-! ## Forgetting old firings -/

/-- `kept` is the memory `full` without some entries that are more than
`horizon` older than `clock`. -/
def Prunes (horizon clock : Nat) (kept full : K -> Option Nat) : Prop :=
  forall key, kept key = full key ∨
    (kept key = none ∧ Exists fun fired => full key = some fired ∧ fired + horizon < clock)

theorem Prunes.refl (horizon clock : Nat) (last : K -> Option Nat) :
    Prunes horizon clock last last :=
  fun _ => Or.inl rfl

theorem Prunes.mono {horizon clock later : Nat} {kept full : K -> Option Nat}
    (prunes : Prunes horizon clock kept full) (moved : clock ≤ later) :
    Prunes horizon later kept full := by
  intro key
  rcases prunes key with same | ⟨dropped, fired, found, old⟩
  · exact Or.inl same
  · exact Or.inr ⟨dropped, fired, found, Nat.lt_of_lt_of_le old moved⟩

/-- A window within the horizon cannot see a forgotten firing. -/
theorem Prunes.blocked_eq {horizon clock : Nat} {kept full : K -> Option Nat}
    (prunes : Prunes horizon clock kept full) (request : Request K) (reached : clock ≤ request.now)
    (within : request.window ≤ horizon) : blocked kept request = blocked full request := by
  rcases prunes request.key with same | ⟨dropped, fired, found, old⟩
  · rw [blocked, blocked, same]
  · rw [blocked, blocked, dropped, found]
    exact (decide_eq_false (by omega)).symm

/-- Dropping entries older than the horizon is invisible. -/
theorem Prunes.drop {horizon clock : Nat} {kept full : K -> Option Nat}
    (prunes : Prunes horizon clock kept full) :
    Prunes horizon clock
      (fun key => (kept key).filter fun fired => !decide (fired + horizon < clock)) full := by
  intro key
  rcases prunes key with same | ⟨dropped, fired, found, old⟩
  · cases present : full key with
    | none => simp [same, present]
    | some fired =>
        by_cases stale : fired + horizon < clock
        · exact Or.inr ⟨by simp [same, present, Option.filter, stale], fired, rfl, stale⟩
        · exact Or.inl (by simp [same, present, Option.filter, stale])
  · exact Or.inr ⟨by simp [dropped], fired, found, old⟩

/-! ## Sequences of requests -/

variable [DecidableEq K]

/-- A request that passes becomes the last of its key. -/
def recordFiring (last : K -> Option Nat) (request : Request K) : K -> Option Nat :=
  if blocked last request then last
  else fun key => if key = request.key then some request.now else last key

theorem recordFiring_blocked {last : K -> Option Nat} {request : Request K}
    (isBlocked : blocked last request = true) : recordFiring last request = last :=
  if_pos isBlocked

theorem recordFiring_passed {last : K -> Option Nat} {request : Request K}
    (passes : blocked last request = false) (key : K) :
    recordFiring last request key = if key = request.key then some request.now else last key := by
  rw [recordFiring, if_neg (by rw [passes]; decide)]

theorem Prunes.record {horizon clock : Nat} {kept full : K -> Option Nat}
    (prunes : Prunes horizon clock kept full) (request : Request K) (reached : clock ≤ request.now)
    (within : request.window ≤ horizon) :
    Prunes horizon request.now (recordFiring kept request) (recordFiring full request) := by
  have sameDecision := prunes.blocked_eq request reached within
  cases decision : blocked kept request with
  | true =>
      rw [recordFiring_blocked decision, recordFiring_blocked (sameDecision ▸ decision)]
      exact prunes.mono reached
  | false =>
      intro key
      rw [recordFiring_passed decision, recordFiring_passed (sameDecision ▸ decision)]
      by_cases same : key = request.key
      · rw [if_pos same, if_pos same]
        exact Or.inl rfl
      · rw [if_neg same, if_neg same]
        exact prunes.mono reached key

variable {A : Type} (view : A -> Request K)

/-- The memory after a sequence of items. -/
def after (last : K -> Option Nat) (items : List A) : K -> Option Nat :=
  items.foldl (fun memory item => recordFiring memory (view item)) last

/-- The items whose requests pass. -/
def passing : (K -> Option Nat) -> List A -> List A
  | _, [] => []
  | last, item :: rest =>
      if blocked last (view item) then passing (recordFiring last (view item)) rest
      else item :: passing (recordFiring last (view item)) rest

/-- The clock does not go back. -/
def Monotone (items : List A) : Prop :=
  items.Pairwise fun earlier later => (view earlier).now ≤ (view later).now

theorem passing_append (last : K -> Option Nat) (earlier later : List A) :
    passing view last (earlier ++ later) = passing view last earlier ++ passing view
      (after view last earlier) later := by
  induction earlier generalizing last with
  | nil => rfl
  | cons item rest inductionHypothesis =>
      simp only [List.cons_append, passing, inductionHypothesis, after, List.foldl_cons]
      split <;> rfl

theorem mem_of_mem_passing {last : K -> Option Nat} {items : List A} {item : A}
    (member : item ∈ passing view last items) : item ∈ items := by
  induction items generalizing last with
  | nil => cases member
  | cons head rest inductionHypothesis =>
      unfold passing at member
      split at member
      · exact List.mem_cons_of_mem _ (inductionHypothesis member)
      · rcases List.mem_cons.mp member with same | further
        · exact same ▸ List.mem_cons_self
        · exact List.mem_cons_of_mem _ (inductionHypothesis further)

/-! ## The memory and the history -/

private theorem recordFiring_keeps (last : K -> Option Nat) (request : Request K)
    (key : K) (bound : Nat) (present : Exists fun fired => last key = some fired ∧ bound ≤ fired)
    (later : bound ≤ request.now) :
    Exists fun fired => recordFiring last request key = some fired ∧ bound ≤ fired := by
  cases decision : blocked last request with
  | true =>
      rw [recordFiring_blocked decision]
      exact present
  | false =>
      rw [recordFiring_passed decision]
      by_cases same : key = request.key
      · rw [if_pos same]
        exact ⟨request.now, rfl, later⟩
      · rw [if_neg same]
        exact present

private theorem after_keeps (last : K -> Option Nat) (items : List A) (key : K) (bound : Nat)
    (present : Exists fun fired => last key = some fired ∧ bound ≤ fired)
    (later : forall item, item ∈ items -> bound ≤ (view item).now) :
    Exists fun fired => after view last items key = some fired ∧ bound ≤ fired := by
  induction items generalizing last with
  | nil => exact present
  | cons item rest inductionHypothesis =>
      exact inductionHypothesis (recordFiring last (view item))
        (recordFiring_keeps last (view item) key bound present (later item List.mem_cons_self))
        (fun other member => later other (List.mem_cons_of_mem _ member))

private theorem after_of_passing (last : K -> Option Nat) (items : List A)
    (monotone : Monotone view items) (item : A) (member : item ∈ passing view last items) :
    Exists fun fired => after view last items (view item).key = some fired ∧
    (view item).now ≤ fired := by
  induction items generalizing last with
  | nil => cases member
  | cons head rest inductionHypothesis =>
      have tail := List.pairwise_cons.mp monotone
      cases decision : blocked last (view head) with
      | true =>
          simp only [passing, decision, if_true] at member
          exact inductionHypothesis _ tail.2 member
      | false =>
          simp only [passing, decision, Bool.false_eq_true, if_false] at member
          rcases List.mem_cons.mp member with same | later
          · subst same
            apply after_keeps view (recordFiring last (view item)) rest (view item).key
              (view item).now ?_ tail.1
            exact ⟨(view item).now, by rw [recordFiring_passed decision, if_pos rfl], Nat.le_refl _⟩
          · exact inductionHypothesis _ tail.2 later

private theorem passing_of_after (last : K -> Option Nat) (items : List A) (key : K) (fired : Nat)
    (found : after view last items key = some fired) :
    last key = some fired ∨
      Exists fun item => item ∈ passing view last items ∧ (view item).key = key ∧
      (view item).now = fired := by
  induction items generalizing last with
  | nil => exact Or.inl found
  | cons head rest inductionHypothesis =>
      cases decision : blocked last (view head) with
      | true =>
          simp only [passing, decision, if_true]
          rcases inductionHypothesis (recordFiring last (view head)) found with old
            | ⟨item, member, facts⟩
          · rw [recordFiring_blocked decision] at old
            exact Or.inl old
          · exact Or.inr ⟨item, member, facts⟩
      | false =>
          simp only [passing, decision, Bool.false_eq_true, if_false]
          rcases inductionHypothesis (recordFiring last (view head)) found with old
            | ⟨item, member, facts⟩
          · rw [recordFiring_passed decision] at old
            by_cases same : key = (view head).key
            · rw [if_pos same] at old
              exact Or.inr ⟨head, List.mem_cons_self, same.symm, Option.some.inj old⟩
            · rw [if_neg same] at old
              exact Or.inl old
          · exact Or.inr ⟨item, List.mem_cons_of_mem _ member, facts⟩

/-- A request is blocked exactly when an earlier request of its key passed
less than its window before it. -/
theorem blocked_after_iff (items : List A) (monotone : Monotone view items) (request : Request K) :
    blocked (after view (fun _ => none) items) request = true ↔
      Exists fun earlier => earlier ∈ passing view (fun _ => none) items ∧
      (view earlier).key = request.key ∧
        request.now < (view earlier).now + request.window := by
  constructor
  · intro isBlocked
    unfold blocked at isBlocked
    cases found : after view (fun _ => none) items request.key with
    | none =>
        rw [found] at isBlocked
        cases isBlocked
    | some fired =>
        rw [found] at isBlocked
        rcases passing_of_after view _ items request.key fired found with impossible
          | ⟨earlier, member, key, time⟩
        · cases impossible
        · exact ⟨earlier, member, key, time ▸ of_decide_eq_true isBlocked⟩
  · rintro ⟨earlier, member, key, near⟩
    rcases after_of_passing view _ items monotone earlier member with ⟨fired, found, bound⟩
    rw [key] at found
    rw [blocked, found]
    exact decide_eq_true (by omega)

/-! ## The decisions one by one -/

/-- Each item with the decision taken on it. -/
def decisions : (K -> Option Nat) -> List A -> List (A × Bool)
  | _, [] => []
  | last, item :: rest =>
      (item, blocked last (view item)) :: decisions (recordFiring last (view item)) rest

theorem mem_passing_iff_decisions (last : K -> Option Nat) (items : List A) (item : A) :
    item ∈ passing view last items ↔ (item, false) ∈ decisions view last items := by
  induction items generalizing last with
  | nil => simp [passing, decisions]
  | cons head rest inductionHypothesis =>
      rw [passing, decisions, List.mem_cons]
      cases decision : blocked last (view head) with
      | true =>
          rw [if_pos rfl, inductionHypothesis]
          simp
      | false =>
          rw [if_neg (by decide), List.mem_cons, inductionHypothesis]
          simp

/-- One decision is the one taken by the memory of the items before it. -/
theorem decisions_split (last : K -> Option Nat) (items : List A)
    (before later : List (A × Bool)) (item : A) (answer : Bool)
    (split : decisions view last items = before ++ (item, answer) :: later) :
    Exists fun earlier => Exists fun rest => items = earlier ++ item :: rest ∧
      before = decisions view last earlier ∧
      answer = blocked (after view last earlier) (view item) := by
  induction before generalizing last items with
  | nil =>
      cases items with
      | nil => cases split
      | cons head rest =>
          rw [decisions, List.nil_append] at split
          rcases Prod.mk.inj (List.head_eq_of_cons_eq split) with ⟨rfl, sameAnswer⟩
          exact ⟨[], rest, rfl, rfl, sameAnswer.symm⟩
  | cons first others inductionHypothesis =>
      cases items with
      | nil => cases split
      | cons head rest =>
          rw [decisions, List.cons_append] at split
          rcases inductionHypothesis (recordFiring last (view head)) rest
            (List.tail_eq_of_cons_eq split) with ⟨earlier, remaining, rfl, rfl, decided⟩
          exact ⟨head :: earlier, remaining, rfl,
            by rw [decisions, List.head_eq_of_cons_eq split], decided⟩

/-- Whatever happens to an item, some item of its key has passed by then. -/
theorem exists_passing_of_mem (items : List A) (monotone : Monotone view items) {item : A}
    (member : item ∈ items) :
    Exists fun passed => passed ∈ passing view (fun _ => none) items ∧
    (view passed).key = (view item).key := by
  rcases List.append_of_mem member with ⟨before, later, rfl⟩
  rw [passing_append]
  cases decision : blocked (after view (fun _ => none) before) (view item) with
  | true =>
      rcases (blocked_after_iff view before (List.pairwise_append.mp monotone).1
        (view item)).mp decision with ⟨earlier, admitted, key, _⟩
      exact ⟨earlier, List.mem_append_left _ admitted, key⟩
  | false =>
      refine ⟨item, List.mem_append_right _ ?_, rfl⟩
      rw [passing, decision, if_neg (by decide)]
      exact List.mem_cons_self

/-- Items of other keys do not touch a key's memory. -/
theorem after_of_absent (last : K -> Option Nat) (items : List A) (key : K)
    (absent : forall item, item ∈ items -> (view item).key ≠ key) :
    after view last items key = last key := by
  induction items generalizing last with
  | nil => rfl
  | cons item rest inductionHypothesis =>
      have others := inductionHypothesis (recordFiring last (view item))
        (fun other member => absent other (List.mem_cons_of_mem _ member))
      apply others.trans
      cases decision : blocked last (view item) with
      | true => rw [recordFiring_blocked decision]
      | false => rw [recordFiring_passed decision, if_neg (absent item List.mem_cons_self).symm]

/-- Items of different keys that are not yet remembered all pass. -/
theorem passing_of_fresh (last : K -> Option Nat) (items : List A)
    (distinct : items.Pairwise fun first second => (view first).key ≠ (view second).key)
    (fresh : forall item, item ∈ items -> last (view item).key = none) :
    passing view last items = items := by
  induction items generalizing last with
  | nil => rfl
  | cons item rest inductionHypothesis =>
      have parts := List.pairwise_cons.mp distinct
      have passes : blocked last (view item) = false := by
        rw [blocked, fresh item List.mem_cons_self]
      rw [passing, if_neg (by rw [passes]; decide), inductionHypothesis _ parts.2]
      intro other member
      rw [recordFiring_passed passes, if_neg (parts.1 other member).symm]
      exact fresh other (List.mem_cons_of_mem _ member)

/-- Behind items of other keys, and of keys that differ among themselves, the
throttle decides on one item as if it were the last. -/
theorem length_passing_of_fresh_tail (before : List A) (item : A) (later : List A)
    (distinct : later.Pairwise fun first second => (view first).key ≠ (view second).key)
    (fresh : forall other, other ∈ later -> forall earlier, earlier ∈ before ++ [item] ->
      (view earlier).key ≠ (view other).key) :
    (passing view (fun _ => none) (before ++ item :: later)).length =
      (passing view (fun _ => none) before).length +
        (if blocked (after view (fun _ => none) before) (view item) then 0 else 1) +
          later.length := by
  have unseen : forall other, other ∈ later ->
      recordFiring (after view (fun _ => none) before) (view item) (view other).key = none := by
    intro other member
    have memory : recordFiring (after view (fun _ => none) before) (view item) =
        after view (fun _ => none) (before ++ [item]) := by
      rw [after, after, List.foldl_append]
      rfl
    rw [memory]
    exact after_of_absent view _ _ _ (fresh other member)
  rw [passing_append, List.length_append, passing, passing_of_fresh view _ later distinct unseen]
  cases blocked (after view (fun _ => none) before) (view item) with
  | true => simp
  | false =>
      simp
      omega

private theorem passing_far (last : K -> Option Nat) (items : List A) (key : K) (bound : Nat)
    (present : Exists fun fired => last key = some fired ∧ bound ≤ fired)
    (later : forall item, item ∈ items -> bound ≤ (view item).now)
    (item : A) (member : item ∈ passing view last items) (same : (view item).key = key) :
    bound + (view item).window ≤ (view item).now := by
  induction items generalizing last with
  | nil => cases member
  | cons head rest inductionHypothesis =>
      have kept := recordFiring_keeps last (view head) key bound present
        (later head List.mem_cons_self)
      have restLater : forall other, other ∈ rest -> bound ≤ (view other).now :=
        fun other listed => later other (List.mem_cons_of_mem _ listed)
      cases decision : blocked last (view head) with
      | true =>
          simp only [passing, decision, if_true] at member
          exact inductionHypothesis _ kept restLater member
      | false =>
          simp only [passing, decision, Bool.false_eq_true, if_false] at member
          rcases List.mem_cons.mp member with equal | further
          · subst equal
            rcases present with ⟨fired, found, old⟩
            rw [blocked, same, found] at decision
            have far := of_decide_eq_false decision
            omega
          · exact inductionHypothesis _ kept restLater further

/-- Two passed requests of one key are at least the later one's window
apart. -/
theorem passing_spaced (last : K -> Option Nat) (items : List A) (monotone : Monotone view items) :
    (passing view last items).Pairwise fun earlier later =>
      (view earlier).key = (view later).key ->
      (view earlier).now + (view later).window ≤ (view later).now := by
  induction items generalizing last with
  | nil => exact List.Pairwise.nil
  | cons head rest inductionHypothesis =>
      have tail := List.pairwise_cons.mp monotone
      have others := inductionHypothesis (recordFiring last (view head)) tail.2
      cases decision : blocked last (view head) with
      | true =>
          simp only [passing, decision, if_true]
          exact others
      | false =>
          simp only [passing, decision, Bool.false_eq_true, if_false]
          refine List.pairwise_cons.mpr ⟨fun later member same => ?_, others⟩
          apply passing_far view _ rest (view head).key
            (view head).now ?_ tail.1 later member same.symm
          exact ⟨(view head).now, by rw [recordFiring_passed decision, if_pos rfl], Nat.le_refl _⟩

/-- At any moment at most one passed item of a key is still within the
window. -/
theorem passing_unique (last : K -> Option Nat) (items : List A) (monotone : Monotone view items)
    {left right : A} (leftMember : left ∈ passing view last items)
    (rightMember : right ∈ passing view last items) (sameKey : (view left).key = (view right).key)
    (sameWindow : (view left).window = (view right).window) (moment : Nat)
    (leftBefore : (view left).now ≤ moment) (rightBefore : (view right).now ≤ moment)
    (leftNear : moment < (view left).now + (view left).window)
    (rightNear : moment < (view right).now + (view right).window) : left = right := by
  have spaced := List.pairwise_iff_getElem.mp (passing_spaced view last items monotone)
  rcases List.getElem_of_mem leftMember with ⟨leftPosition, leftInside, rfl⟩
  rcases List.getElem_of_mem rightMember with ⟨rightPosition, rightInside, rfl⟩
  rcases Nat.lt_trichotomy leftPosition rightPosition with earlier | same | later
  · have apart := spaced leftPosition rightPosition leftInside rightInside earlier sameKey
    omega
  · subst same
    rfl
  · have apart := spaced rightPosition leftPosition rightInside leftInside later sameKey.symm
    omega

/-! ## Leaving out other keys -/

/-- The items of some keys can be throttled without the others: the
remaining decisions do not change. -/
theorem passing_filter (keep : A -> Bool)
    (byKey : forall first second, (view first).key = (view second).key -> keep first = keep second)
    (items : List A) (last other : K -> Option Nat)
    (agree : forall item, keep item = true -> last (view item).key = other (view item).key) :
    (passing view last items).filter keep = passing view other (items.filter keep) := by
  induction items generalizing last other with
  | nil => rfl
  | cons item rest inductionHypothesis =>
      cases kept : keep item with
      | true =>
          have sameDecision : blocked last (view item) = blocked other (view item) := by
            rw [blocked, blocked, agree item kept]
          rw [List.filter_cons_of_pos kept]
          simp only [passing, ← sameDecision]
          cases decision : blocked last (view item) with
          | true =>
              rw [if_pos rfl, if_pos rfl, recordFiring_blocked decision,
                recordFiring_blocked (sameDecision ▸ decision)]
              exact inductionHypothesis last other agree
          | false =>
              rw [if_neg (by decide), if_neg (by decide), List.filter_cons_of_pos kept]
              congr 1
              apply inductionHypothesis
              intro later laterKept
              rw [recordFiring_passed decision, recordFiring_passed (sameDecision ▸ decision),
                agree later laterKept]
      | false =>
          have unchanged : forall later, keep later = true ->
              recordFiring last (view item) (view later).key = other (view later).key := by
            intro later laterKept
            cases decision : blocked last (view item) with
            | true =>
                rw [recordFiring_blocked decision]
                exact agree later laterKept
            | false =>
                have different : (view later).key ≠ (view item).key := by
                  intro same
                  have impossible := byKey later item same
                  rw [laterKept, kept] at impossible
                  cases impossible
                rw [recordFiring_passed decision, if_neg different]
                exact agree later laterKept
          rw [List.filter_cons_of_neg (by rw [kept]; decide)]
          simp only [passing]
          cases decision : blocked last (view item) with
          | true =>
              rw [if_pos rfl]
              exact inductionHypothesis _ other unchanged
          | false =>
              rw [if_neg (by decide), List.filter_cons_of_neg (by rw [kept]; decide)]
              exact inductionHypothesis _ other unchanged

end Throttle

end Foundation
end RiskSentinel
