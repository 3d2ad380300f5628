/-
# Proofs.Service.Lifespan -- when the pool of a service is closed

A service opens its pool first, then looks whether there is a type, then serves, and closes the
pool when it has served.  What it opened is closed in the end exactly if it came to serve, served
to a good end, and closing did not fail (`pool_is_closed_only_after_service`): a life that ends
in any other way after the pool was opened leaves it open.
-/
import GeoRegistry.Proofs.Outcome
import GeoRegistry.Proofs.Task
import GeoRegistry.Service.Lifespan

namespace GeoRegistry.Lifespan

set_option autoImplicit false

open Store (Pools)

/-- Every pool that was opened was closed, and none is in use. -/
def Life.Clean (l : Life) : Prop :=
  l.pools.current = none ∧ ∀ n, 1 ≤ n → n ≤ l.pools.opened → n ∈ l.pools.closed

/-- What the count of types is answered. -/
def typeCount (s : Settings) (replies : List Reply) : Reply :=
  replies.head?.getD (s.store.silence .countTypes)

/-- A count of types was returned, and there is one. -/
def HasTypes (s : Settings) (replies : List Reply) : Prop :=
  ∃ v n, typeCount s replies = .returned v ∧ v.count = .ok n ∧ 1 ≤ n

/-! ## With the pool open -/

section Opened

variable {s : Settings} {p : Pools} {closing : Pools.Attempt} {serving : Except Failure Unit}
  {replies : List Reply}

/-- The service comes to serve if there is a type, and only then. -/
theorem check_eq_ok_iff :
    (∃ n, ((Registry.requireTypes s.store).run s.store.silence replies).outcome = .ok n) ↔
      HasTypes s replies := by
  rw [((Registry.requireTypes_asks s.store).run_eq _ _).2]
  constructor
  · rintro ⟨n, passed⟩
    obtain ⟨m, counted, enough⟩ := bind_eq_ok passed
    obtain ⟨v, returned, read⟩ := Store.counted_eq_ok_iff.1 counted
    split at enough
    · cases enough
    · next some_ => exact ⟨v, m, returned, read, Int.not_lt.1 some_⟩
  · rintro ⟨v, n, returned, read, some_⟩
    have given : replies.head?.getD (s.store.silence .countTypes) = .returned v := returned
    refine ⟨n, ?_⟩
    rw [Registry.typesOf, given, Store.counted_returned, read]
    exact if_neg (Int.not_lt.2 some_)

/-- A life that does not get to the end of its service, or whose pool cannot be closed then,
leaves the pool in use. -/
theorem opened_cut_short {n : Nat} (current : p.current = some n)
    (cut : ¬ (HasTypes s replies ∧ serving = .ok () ∧ closing = none)) :
    (opened s p closing serving replies).pools = p ∧
      ∃ e, (opened s p closing serving replies).outcome = .error e := by
  cases passed : ((Registry.requireTypes s.store).run s.store.silence replies).outcome with
  | error e => refine ⟨?_, e, ?_⟩ <;> simp only [opened, passed]
  | ok m =>
      cases serving with
      | error e => refine ⟨?_, e, ?_⟩ <;> simp only [opened, passed]
      | ok _ =>
          cases closing with
          | none => exact absurd ⟨check_eq_ok_iff.1 ⟨m, passed⟩, rfl, rfl⟩ cut
          | some f =>
              refine ⟨?_, .interrupted f, ?_⟩ <;>
                simp only [opened, passed, ended, Pools.close, current]

/-- After a service the pool in use is closed. -/
theorem opened_to_the_end {n : Nat} (current : p.current = some n) (there : HasTypes s replies) :
    (opened s p none (.ok ()) replies).served = true ∧
      (opened s p none (.ok ()) replies).pools =
        { p with current := none, closed := n :: p.closed } := by
  obtain ⟨m, passed⟩ := check_eq_ok_iff.2 there
  constructor <;> simp only [opened, passed, ended, Pools.close, current]

end Opened

/-! ## From the start -/

section Clean

variable {l : Life}

theorem clean_of_unopened (unopened : l.pools = {}) : l.Clean := by
  rw [Life.Clean, unopened]
  exact ⟨rfl, fun n first last => absurd (Nat.le_trans first last) (by decide)⟩

theorem clean_of_closed (closed : l.pools = { current := none, opened := 1, closed := [1] }) :
    l.Clean := by
  rw [Life.Clean, closed]
  exact ⟨rfl, fun n first last => List.mem_singleton.2 (Nat.le_antisymm last first)⟩

theorem not_clean_of_current (left : l.pools = { current := some 1, opened := 1 }) :
    ¬ l.Clean := by
  rw [Life.Clean, left]
  exact fun clean => nomatch clean.1

end Clean

/-- What becomes of the pool in a life: how opening and closing it end, whether there are types,
and how serving ends. -/
structure Fate (opening closing : Pools.Attempt) (types : Prop) (serving : Except Failure Unit)
    (l : Life) : Prop where
  /-- Nothing stays open if nothing could be opened, or if the service ran to its end. -/
  clean_iff : l.Clean ↔
    opening.isSome = true ∨ types ∧ serving = .ok () ∧ closing = none
  /-- What stays open is the one pool of the service, and the life ends with a failure. -/
  left_open : ¬ l.Clean →
    l.pools = { current := some 1, opened := 1 } ∧ ∃ e, l.outcome = .error e
  /-- A life that ends well has served, and its pool is closed. -/
  ended_well : l.outcome = .ok () →
    l.served = true ∧ l.pools = { current := none, opened := 1, closed := [1] }

/-- **The pool is closed only after the service.**  A life in which there is no type, in which
looking for one fails, or in which serving fails leaves its pool open. -/
theorem pool_is_closed_only_after_service (s : Settings) (opening closing : Pools.Attempt)
    (serving : Except Failure Unit) (replies : List Reply) :
    Fate opening closing (HasTypes s replies) serving
      (started s opening closing serving replies) := by
  cases opening with
  | some f =>
      have clean : (started s (some f) closing serving replies).Clean := clean_of_unopened rfl
      exact {
        clean_iff := iff_of_true clean (.inl rfl)
        left_open := fun leaks => absurd clean leaks
        ended_well := fun well => nomatch well }
  | none =>
      -- the pool in use while the service looks for a type and serves
      let p : Pools := { current := some 1, opened := 1 }
      by_cases whole : HasTypes s replies ∧ serving = .ok () ∧ closing = none
      · obtain ⟨there, rfl, rfl⟩ := whole
        obtain ⟨served, closed⟩ := opened_to_the_end (p := p) rfl there
        have clean : (started s none none (.ok ()) replies).Clean := clean_of_closed closed
        exact {
          clean_iff := iff_of_true clean (.inr ⟨there, rfl, rfl⟩)
          left_open := fun leaks => absurd clean leaks
          ended_well := fun _ => ⟨served, closed⟩ }
      · obtain ⟨left, e, failed⟩ := opened_cut_short (p := p) rfl whole
        have leaks : ¬ (started s none closing serving replies).Clean := not_clean_of_current left
        exact {
          clean_iff := iff_of_false leaks fun either => either.elim (nomatch ·) whole
          left_open := fun _ => ⟨left, e, failed⟩
          ended_well := fun well => nomatch failed.symm.trans well }

/-- With an empty table of types the pool stays open, and so it does if serving fails. -/
theorem pool_stays_open :
    (live [] none none (.ok ()) [.returned (.int 0)]).pools = { current := some 1, opened := 1 } ∧
      ¬ (live [] none none (.ok ()) [.returned (.int 0)]).Clean ∧
      ¬ (live [] none none (.error .notJson) [.returned (.int 3)]).Clean :=
  ⟨rfl, not_clean_of_current rfl, not_clean_of_current rfl⟩

end GeoRegistry.Lifespan
