/-
# Proofs.Store.Pool -- no pool is lost, and none is closed twice

Calls for the pool and calls to close it come one after the other, and opening and closing may
fail each time.  `Turn` says what a call can do; everything else follows from it.  Each pool that
was opened is the one in use or was closed, and no pool is both (`Accounted`), which each call
keeps.  Where no call closes the pool in use, nothing changes at all (`after_of_current`), so it
is handed out until it is closed, and a failed call can be made again.
-/
import GeoRegistry.Store.Pool

namespace GeoRegistry.Store.Pools

set_option autoImplicit false

/-! ## Calls -/

/-- A call for the pool or to close it, and how opening or closing ends if it comes to that. -/
inductive Call where
  | get (settings : Except Failure Settings) (opening : Attempt)
  | close (closing : Attempt)

/-- What a call does. -/
def Call.step (p : Pools) : Call → Step
  | .get settings opening => p.get settings opening
  | .close closing => p.close closing

/-- The pools after some calls. -/
def after (p : Pools) (calls : List Call) : Pools :=
  calls.foldl (fun p call => (call.step p).pools) p

/-- **What a call can do.** -/
inductive Turn (p : Pools) : Call → Step → Prop where
  /-- The pool in use is handed out. -/
  | shared {n : Nat} (settings : Except Failure Settings) (opening : Attempt)
      (current : p.current = some n) : Turn p (.get settings opening) { pools := p }
  | unset (e : Failure) (opening : Attempt) (absent : p.current = none) :
      Turn p (.get (.error e) opening) { pools := p, outcome := .error e }
  | refused (s : Settings) (f : StatementFailure) (absent : p.current = none) :
      Turn p (.get (.ok s) (some f))
        { pools := p, requested := some (.ofSettings s), outcome := .error (.interrupted f) }
  | opened (s : Settings) (absent : p.current = none) :
      Turn p (.get (.ok s) none)
        { pools := { p with current := some (p.opened + 1), opened := p.opened + 1 },
          requested := some (.ofSettings s), entries := [openedEntry s] }
  /-- There is nothing to close. -/
  | idle (closing : Attempt) (absent : p.current = none) : Turn p (.close closing) { pools := p }
  | kept {n : Nat} (f : StatementFailure) (current : p.current = some n) :
      Turn p (.close (some f)) { pools := p, outcome := .error (.interrupted f) }
  | closed {n : Nat} (current : p.current = some n) :
      Turn p (.close none) { pools := { p with current := none, closed := n :: p.closed } }

theorem turn (p : Pools) (call : Call) : Turn p call (call.step p) := by
  cases call with
  | get settings opening =>
      cases current : p.current with
      | some n => simpa only [Call.step, get, current] using .shared settings opening current
      | none =>
          cases settings with
          | error e => simpa only [Call.step, get, current] using .unset e opening current
          | ok s =>
              cases opening with
              | some f => simpa only [Call.step, get, current] using .refused s f current
              | none => simpa only [Call.step, get, current] using .opened s current
  | close closing =>
      cases current : p.current with
      | none => simpa only [Call.step, close, current] using .idle closing current
      | some n =>
          cases closing with
          | some f => simpa only [Call.step, close, current] using .kept f current
          | none => simpa only [Call.step, close, current] using .closed current

theorem turn_get (p : Pools) (settings : Except Failure Settings) (opening : Attempt) :
    Turn p (.get settings opening) (p.get settings opening) :=
  turn p _

theorem turn_close (p : Pools) (closing : Attempt) : Turn p (.close closing) (p.close closing) :=
  turn p _

/-- The pool in use is handed out, whatever the settings are. -/
theorem get_of_current {p : Pools} {n : Nat} (current : p.current = some n)
    (settings : Except Failure Settings) (opening : Attempt) :
    p.get settings opening = { pools := p } := by
  simp only [get, current]

/-! ## What calls keep -/

/-- The pool in use and those that were closed are all that were opened, each of them once. -/
def Accounted (p : Pools) : Prop :=
  (p.current.toList ++ p.closed).Perm (List.range' 1 p.opened)

theorem accounted_empty : Accounted {} :=
  .refl []

theorem Turn.accounted {p : Pools} {call : Call} {step : Step} (turn : Turn p call step)
    (accounted : Accounted p) : Accounted step.pools := by
  cases turn with
  | shared | unset | refused | idle | kept => exact accounted
  | opened s absent =>
      rw [Accounted, absent] at accounted
      rw [Accounted, List.range'_1_concat, Nat.add_comm 1]
      exact (accounted.cons _).trans (List.perm_append_singleton ..).symm
  | closed current =>
      rw [Accounted, current] at accounted
      exact accounted

theorem Turn.closed_suffix {p : Pools} {call : Call} {step : Step} (turn : Turn p call step) :
    p.closed <:+ step.pools.closed := by
  cases turn with
  | closed => exact List.suffix_cons ..
  | _ => exact List.suffix_refl _

theorem accounted_after {p : Pools} (accounted : Accounted p) (calls : List Call) :
    Accounted (after p calls) := by
  induction calls generalizing p with
  | nil => exact accounted
  | cons call rest ih => exact ih ((turn p call).accounted accounted)

theorem closed_suffix_after (p : Pools) (calls : List Call) :
    p.closed <:+ (after p calls).closed := by
  induction calls generalizing p with
  | nil => exact List.suffix_refl _
  | cons call rest ih => exact (turn p call).closed_suffix.trans (ih _)

/-- A pool in use stays as it is until it is closed. -/
theorem Turn.of_current {p : Pools} {n : Nat} {call : Call} {step : Step}
    (turn : Turn p call step) (current : p.current = some n) (open_ : call ≠ .close none) :
    step.pools = p := by
  cases turn with
  | shared | unset | refused | idle | kept => rfl
  | opened s absent => rw [current] at absent; cases absent
  | closed => exact absurd rfl open_

/-- **Until the pool in use is closed nothing changes.** -/
theorem after_of_current {p : Pools} {n : Nat} {calls : List Call} (current : p.current = some n)
    (open_ : Call.close none ∉ calls) : after p calls = p := by
  induction calls with
  | nil => rfl
  | cons call rest ih =>
      have same : (call.step p).pools = p :=
        (turn p call).of_current current fun closes => open_ (closes ▸ .head _)
      rw [after, List.foldl_cons, same]
      exact ih fun later => open_ (.tail _ later)

/-! ## What a call tells -/

namespace Turn

variable {p : Pools} {call : Call} {step : Step}

/-- A pool is asked for by a call that finds none, and by no other. -/
theorem requested_iff (turn : Turn p call step) :
    step.requested.isSome = true ↔ p.current = none ∧ ∃ s opening, call = .get (.ok s) opening := by
  cases turn with
  | shared settings opening current => simp [current]
  | refused s f absent | opened s absent => simp [absent]
  | unset | idle | kept | closed => simp

theorem opens_only (turn : Turn p call step) (more : step.pools.opened ≠ p.opened) :
    p.current = none ∧ ∃ s, call = .get (.ok s) none := by
  cases turn with
  | opened s absent => exact ⟨absent, s, rfl⟩
  | shared | unset | refused | idle | kept | closed => exact absurd rfl more

theorem closes_only (turn : Turn p call step) (more : step.pools.closed ≠ p.closed) :
    p.current.isSome = true ∧ call = .close none := by
  cases turn with
  | closed current => exact ⟨by simp [current], rfl⟩
  | shared | unset | refused | opened | idle | kept => exact absurd rfl more

theorem of_get_ok {settings : Except Failure Settings} {opening : Attempt}
    (turn : Turn p (.get settings opening) step) (gets : step.outcome = .ok ()) :
    ∃ n, step.pools.current = some n := by
  cases turn with
  | shared _ _ current => exact ⟨_, current⟩
  | opened => exact ⟨_, rfl⟩
  | unset | refused => cases gets

theorem of_get_error {settings : Except Failure Settings} {opening : Attempt} {e : Failure}
    (turn : Turn p (.get settings opening) step) (fails : step.outcome = .error e) :
    step.pools = p ∧ p.current = none := by
  cases turn with
  | unset _ _ absent | refused _ _ absent => exact ⟨rfl, absent⟩
  | shared | opened => cases fails

theorem of_close_ok {closing : Attempt} (turn : Turn p (.close closing) step)
    (closes : step.outcome = .ok ()) :
    step.pools = { p with current := none, closed := p.current.toList ++ p.closed } := by
  cases turn with
  | idle _ absent =>
      obtain ⟨current, opened, closed⟩ := p
      obtain rfl : current = none := absent
      rfl
  | kept => cases closes
  | closed current => simp [current]

theorem of_close_error {closing : Attempt} {e : Failure} (turn : Turn p (.close closing) step)
    (fails : step.outcome = .error e) : step.pools = p ∧ ∃ n, p.current = some n := by
  cases turn with
  | kept _ current => exact ⟨rfl, _, current⟩
  | idle | closed => cases fails

end Turn

/-! ## From the absent state on -/

/-- A pool that was closed is not in use again, so it is not closed again either. -/
theorem not_current_of_closed {p : Pools} {n : Nat} (accounted : Accounted p)
    (closed : n ∈ p.closed) : p.current ≠ some n := by
  intro current
  have once : (p.current.toList ++ p.closed).Nodup := accounted.nodup_iff.2 List.nodup_range'
  exact (List.nodup_append.1 once).2.2 n (by simp [current]) n closed rfl

/-- What holds of the calls that are made with these pools. -/
structure Lifecycle (p : Pools) : Prop where
  /-- Each pool that was opened is the one in use or was closed, and no pool is both or was
  closed twice. -/
  accounted : Accounted p
  /-- The one who finds no pool asks for one to be opened, and nobody else does. -/
  requests (call : Call) : (call.step p).requested.isSome = true ↔
    p.current = none ∧ ∃ s opening, call = .get (.ok s) opening
  /-- It is opened, unless opening fails. -/
  opens (s : Settings) : p.current = none →
    (p.get (.ok s) none).outcome = .ok () ∧ (p.get (.ok s) none).pools =
      { p with current := some (p.opened + 1), opened := p.opened + 1 }
  /-- No other call opens one. -/
  opens_only (call : Call) : (call.step p).pools.opened ≠ p.opened →
    p.current = none ∧ ∃ s, call = .get (.ok s) none
  /-- A pool that is handed out is handed out to everyone until it is closed. -/
  shares (settings : Except Failure Settings) (opening : Attempt) :
    (p.get settings opening).outcome = .ok () →
    ∃ n, (p.get settings opening).pools.current = some n ∧
      ∀ between, Call.close none ∉ between → ∀ settings' opening',
        let q := after (p.get settings opening).pools between
        q.current = some n ∧ q.get settings' opening' = { pools := q }
  /-- If opening fails there is still no pool, and the next one asks again. -/
  retries (settings : Except Failure Settings) (opening : Attempt) (e : Failure) :
    (p.get settings opening).outcome = .error e →
    (p.get settings opening).pools = p ∧ p.current = none ∧ ∀ s opening',
      ((p.get settings opening).pools.get (.ok s) opening').requested = some (.ofSettings s)
  /-- After closing there is no pool, and the one in use was closed. -/
  closes (closing : Attempt) : (p.close closing).outcome = .ok () →
    (p.close closing).pools = { p with current := none, closed := p.current.toList ++ p.closed }
  /-- No other call closes one. -/
  closes_only (call : Call) : (call.step p).pools.closed ≠ p.closed →
    p.current.isSome = true ∧ call = .close none
  /-- A pool that could not be closed stays in use, and can be closed later. -/
  keeps (closing : Attempt) (e : Failure) : (p.close closing).outcome = .error e →
    ∃ n, p.current = some n ∧ (p.close closing).pools = p ∧
      ∀ between, Call.close none ∉ between →
        ((after (p.close closing).pools between).close none).pools =
          { p with current := none, closed := n :: p.closed }
  /-- A pool that was closed is never in use again, whatever is called. -/
  closed_for_good (later : List Call) (n : Nat) : n ∈ p.closed →
    n ∈ (after p later).closed ∧ (after p later).current ≠ some n

/-- **Pools are opened and closed once.**  After any calls that begin without a pool. -/
theorem pools_are_opened_and_closed_once (calls : List Call) : Lifecycle (after {} calls) := by
  have accounted : Accounted (after {} calls) := accounted_after accounted_empty calls
  generalize after {} calls = p at accounted
  exact {
    accounted
    requests := fun call => (turn p call).requested_iff
    opens := fun s absent => by simp [get, absent]
    opens_only := fun call => (turn p call).opens_only
    shares := fun settings opening gets => by
      obtain ⟨n, current⟩ := (turn_get p settings opening).of_get_ok gets
      refine ⟨n, current, fun between open_ settings' opening' => ?_⟩
      simp only [after_of_current current open_]
      exact ⟨current, get_of_current current settings' opening'⟩
    retries := fun settings opening e fails => by
      obtain ⟨same, absent⟩ := (turn_get p settings opening).of_get_error fails
      refine ⟨same, absent, fun s opening' => ?_⟩
      rw [same]
      cases opening' <;> simp [get, absent]
    closes := fun closing => (turn_close p closing).of_close_ok
    closes_only := fun call => (turn p call).closes_only
    keeps := fun closing e fails => by
      obtain ⟨same, n, current⟩ := (turn_close p closing).of_close_error fails
      refine ⟨n, current, same, fun between open_ => ?_⟩
      rw [same, after_of_current current open_, close, current]
    closed_for_good := fun later n closed => by
      have still : n ∈ (after p later).closed := (closed_suffix_after p later).subset closed
      exact ⟨still, not_current_of_closed (accounted_after accounted later) still⟩ }

/-- Calls among which opening fails once, and closing fails once. -/
def troubled : List Call :=
  [.close none, .get (.ok .standard) (some ⟨.connectionRefused, "refused"⟩),
    .get (.ok .standard) none, .close (some ⟨.interface, "busy"⟩), .get (.error .notJson) none,
    .close none, .get (.ok .standard) none]

/-- The first pool was closed in the end, and is never in use again; the second one is handed out
until it is closed. -/
theorem troubled_pools_are_opened_and_closed_once :
    after {} troubled = { current := some 2, opened := 2, closed := [1] } ∧
      (∀ later, (after (after {} troubled) later).current ≠ some 1) ∧
      ∀ between, Call.close none ∉ between → ∀ settings opening,
        let q := after ((after {} troubled).get (.ok .standard) none).pools between
        q.current = some 2 ∧ q.get settings opening = { pools := q } := by
  have lifecycle := pools_are_opened_and_closed_once troubled
  obtain ⟨n, current, shared⟩ := lifecycle.shares (.ok .standard) none rfl
  obtain rfl : 2 = n := Option.some.inj current
  exact ⟨rfl, fun later => (lifecycle.closed_for_good later 1 (.head _)).2, shared⟩

end GeoRegistry.Store.Pools
