import Fanout.Process.Terminate

/-!
# How a termination escalates

A termination sends `SIGTERM`, waits, and then sends `SIGKILL`; a stop forced on entry sends
only `SIGKILL`, and a child that exits during the wait is spared it. Each signal is routed by one
rule: to the child's process group when groups are used and the system names a group other than
the engine's own, with the child alone as the fallback when the group refuses the signal, and to
the child alone in every other case (`GroupCalls.route`).

This module shows that the termination follows that rule for every answer of the system and
every way the wait can end (`terminate_escalation`): it sends each signal once, by its route,
`SIGTERM` before `SIGKILL`, and it never signals the engine's own group.
-/

namespace Fanout

namespace GroupCalls

variable (os : GroupCalls) (pid : Nat) (useGroups : Bool)

/-- The calls that carry `sig` to child `pid`: to its group when groups are used and the system
names one other than the engine's own, followed by a call to the child alone when the group
refuses the signal; in every other case to the child alone. -/
def route (sig : Signal) : List Kill :=
  match os.childGroup with
  | some g =>
    if useGroups = true ∧ g ≠ os.ownGroup then
      .group g sig :: if os.groupAccepts sig then [] else [.process pid sig]
    else [.process pid sig]
  | none => [.process pid sig]

/-- Sending a signal to the resolved target follows the route. -/
theorem send_resolve (sig : Signal) :
    os.send (os.resolve pid useGroups) sig = os.route pid useGroups sig := by
  unfold resolve route
  cases useGroups with
  | false => cases os.childGroup <;> simp [send]
  | true =>
    cases hg : os.childGroup with
    | none => simp [send]
    | some g =>
      by_cases hown : g = os.ownGroup
      · simp [send, hown]
      · simp only [Bool.not_true, Bool.false_eq_true, if_false, hown, if_false, send, ne_eq,
          not_false_eq_true, and_self, if_true]
        cases os.groupAccepts sig <;> rfl

/-- A route never signals the engine's own group. -/
theorem ownGroup_not_mem_route (sig sig' : Signal) :
    Kill.group os.ownGroup sig' ∉ os.route pid useGroups sig := by
  unfold route
  split
  · split
    · next hsend =>
      -- the group signalled is the child's, which is not the engine's
      cases os.groupAccepts sig <;> simp [Ne.symm hsend.2]
    · simp
  · simp

end GroupCalls

/-- The calls of a termination: `SIGTERM` by its route unless the stop is forced on entry, then
`SIGKILL` by its route when the stop is forced on entry or the child did not exit during the
wait. -/
theorem terminate_some (os : GroupCalls) (pid : Nat) (useGroups forcedOnEntry : Bool)
    (wake : Wake) :
    terminate os (some pid) useGroups forcedOnEntry wake =
      (if forcedOnEntry then [] else os.route pid useGroups .term) ++
        (if forcedOnEntry || wake != .exited then os.route pid useGroups .kill else []) := by
  simp only [terminate]
  cases forcedOnEntry with
  | true => simp [escalate, GroupCalls.send_resolve]
  | false => cases wake <;> simp [escalate, GroupCalls.send_resolve]

/-- Termination escalates as its rule says, for every answer of the system and every way the
wait ends: `SIGTERM` by its route unless the stop is forced on entry, then `SIGKILL` by its route
unless the child exited during the wait, each signal once; and no call signals the engine's own
group. -/
theorem terminate_escalation (os : GroupCalls) (pid : Nat) (useGroups forcedOnEntry : Bool)
    (wake : Wake) :
    terminate os (some pid) useGroups forcedOnEntry wake =
        (if forcedOnEntry then [] else os.route pid useGroups .term) ++
          (if forcedOnEntry || wake != .exited then os.route pid useGroups .kill else []) ∧
      ∀ sig, Kill.group os.ownGroup sig ∉ terminate os (some pid) useGroups forcedOnEntry wake := by
  refine ⟨terminate_some os pid useGroups forcedOnEntry wake, fun sig hmem => ?_⟩
  rw [terminate_some] at hmem
  -- a call of the termination is a call of the route of one of its two signals
  rcases List.mem_append.1 hmem with h | h
  · split at h
    · simp at h
    · exact os.ownGroup_not_mem_route pid useGroups .term sig h
  · split at h
    · exact os.ownGroup_not_mem_route pid useGroups .kill sig h
    · simp at h

/-- A group that refuses signals passes each one on to the child alone; a wait that ends with the
grace period brings `SIGKILL` after `SIGTERM`. -/
example :
    terminate ⟨1, some 4242, fun _ => false⟩ (some 4242) true false .graceOver =
      [.group 4242 .term, .process 4242 .term, .group 4242 .kill, .process 4242 .kill] := by
  decide

end Fanout
