import Mathlib
import RecordStore.Proofs.Store.Sharing

/-!
Closing and opening again.  All that a store loses by it is what it remembers, and that is only what the
database and the codec say anyway.
-/
namespace RecordStore
open Database Transaction RecordStore.Action

/-- What happens to a deployment: one of its stores is given an operation, or all of it is closed and
opened again. -/
inductive Event where
  | perform (store : Nat) (o : Operation)
  | reopen

namespace Event

/-- The operation that is asked for, and the store that is asked. -/
def request? : Event → Option (Nat × Operation)
  | .perform i o => some (i, o)
  | .reopen => none

/-- What happens to the only store: an operation, or that it is closed and opened again. -/
def alone : Option Operation → Event
  | some o => .perform 0 o
  | none => .reopen

end Event

namespace Deployment

/-- The answers to the operations among the events, and the deployment afterwards. -/
def undergo (d : Deployment) : List Event → List (Except Error Answer) × Deployment
  | [] => ([], d)
  | .perform i o :: rest =>
    let (r, d) := d.perform i o
    let (rs, d) := d.undergo rest
    (r :: rs, d)
  | .reopen :: rest => d.reopen.undergo rest

variable {d : Deployment} {concerns : Nat → String → Prop}

theorem reopen_of_durable (h : d.durable = true) :
    d.reopen = { d with sessions := d.sessions.map fun _ => .fresh } := by
  rw [reopen, h]
  rfl

/-- Stores that were opened again remember nothing. -/
theorem getD_reopen (d : Deployment) (i : Nat) : d.reopen.sessions.getD i .fresh = .fresh := by
  rw [List.getD_eq_getElem?_getD, reopen, List.getElem?_map]
  cases d.sessions[i]? <;> rfl

theorem allFaithful_reopen (d : Deployment) (concerns : Nat → String → Prop) :
    d.reopen.AllFaithful concerns :=
  allFaithful_of_fresh (getD_reopen d) concerns

/-- While no store drops what another one consults, a run with reopenings is the run of one store that
is never closed. -/
theorem AllFaithful.undergo_eq {events : List Event}
    (hconsults : ∀ p ∈ events.filterMap Event.request?, ∀ typeName, p.2.Consults typeName →
      concerns p.1 typeName)
    (hdrops : ∀ p ∈ events.filterMap Event.request?, ∀ typeName j, p.2.Drops typeName →
      concerns j typeName → j = p.1) :
    ∀ {d d' : Deployment}, d.AllFaithful concerns → d.durable = true →
      d'.AllFaithful (fun i _ => i = 0) → d'.store = d.store → d.database = d'.database →
      (d.undergo events).1 = (d'.run ((events.filterMap Event.request?).map fun p => (0, p.2))).1 ∧
        (d.undergo events).2.database =
          (d'.run ((events.filterMap Event.request?).map fun p => (0, p.2))).2.database := by
  induction events with
  | nil => exact fun _ _ _ _ hdatabase => ⟨rfl, hdatabase⟩
  | cons e events ih =>
    intro d d' h hdurable h' hstore hdatabase
    cases e with
    | reopen =>
      -- fresh sessions are faithful whatever happened before, and the database is the same one
      have hsame : d.reopen.database = d.database := by rw [reopen_of_durable hdurable]
      exact ih hconsults hdrops (allFaithful_reopen d concerns) hdurable h' hstore (hsame.trans hdatabase)
    | perform i o =>
      obtain ⟨hanswer, hdatabase'⟩ := h.agrees_perform h' hstore hdatabase i 0 o
      have hstep : (d.perform i o).2.AllFaithful concerns :=
        h.perform (hconsults (i, o) List.mem_cons_self) (hdrops (i, o) List.mem_cons_self)
      have hstep' : (d'.perform 0 o).2.AllFaithful fun i _ => i = 0 :=
        h'.perform (fun _ _ => rfl) fun _ _ _ hj => hj
      obtain ⟨hanswers, hdatabases⟩ := ih
        (fun q hq => hconsults q (List.mem_cons_of_mem _ hq))
        (fun q hq => hdrops q (List.mem_cons_of_mem _ hq)) hstep hdurable hstep' hstore hdatabase'
      refine ⟨?_, hdatabases⟩
      show (d.perform i o).1 :: _ = (d'.perform 0 o).1 :: _
      rw [hanswer]
      exact congrArg _ hanswers

end Deployment

open Deployment

theorem filterMap_alone (calls : List (Option Operation)) :
    (calls.map Event.alone).filterMap Event.request? = calls.reduceOption.map fun o => (0, o) := by
  induction calls with
  | nil => rfl
  | cons call calls ih =>
    cases call with
    | none => exact ih
    | some o => exact congrArg ((0, o) :: ·) ih

/-- Wherever a store that is alone on a kept database is closed and opened again, it answers as if it
had been open all the time, and the database is the same. -/
theorem reopening_unobservable (s : Store) (db : Database) (calls : List (Option Operation)) :
    let d : Deployment := ⟨s, true, db, [.fresh]⟩
    (d.undergo (calls.map Event.alone)).1 = (d.run (calls.reduceOption.map fun o => (0, o))).1 ∧
      (d.undergo (calls.map Event.alone)).2.database =
        (d.run (calls.reduceOption.map fun o => (0, o))).2.database := by
  have hrequests := filterMap_alone calls
  have hzero : ∀ p ∈ (calls.map Event.alone).filterMap Event.request?, p.1 = 0 := by
    rw [hrequests]
    rintro p hp
    obtain ⟨o, -, rfl⟩ := List.mem_map.1 hp
    rfl
  have hall : AllFaithful ⟨s, true, db, [.fresh]⟩ fun i _ => i = 0 :=
    allFaithful_of_fresh (getD_replicate_fresh 1) _
  -- the store itself is compared with, and as it is alone nobody drops what it consults
  have heq := hall.undergo_eq (fun p hp _ _ => hzero p hp)
    (fun p hp _ _ _ hj => hj.trans (hzero p hp).symm) rfl hall rfl rfl
  rw [hrequests, List.map_map] at heq
  exact heq

end RecordStore
