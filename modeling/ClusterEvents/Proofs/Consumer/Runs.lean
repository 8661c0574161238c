import ClusterEvents.Consumer.System
import ClusterEvents.Settings.Basic
import ClusterEvents.Proofs.Bulk.Held
import Mathlib.Data.List.Induction

/-!
# Runs of the consumer

A run is a list of acts. Most are moves of the parties. Two more may come at any time: the
reader is asked to stop, or an item is reported. With the latter a run is not bound to the
order in which the worker settles items: of what the indexer holds, anything may be
reported next, stored or not.

Along a run notes are taken. They tell which messages were processed, in which state, and
what was reported of which item; the state of the consumer does not remember this.
-/

namespace ClusterEvents

namespace Bulk.Indexer

variable {κ : Type} [DecidableEq κ]

/-- An indexer without an item that it held. -/
def withdraw (x : Indexer κ) (item : Item κ) : Indexer κ :=
  if item ∈ x.settling.map Prod.fst then
    { x with settling := x.settling.eraseP (·.1 = item) }
  else if item ∈ x.pending then { x with pending := x.pending.erase item }
  else { x with commands := { x.commands with
    values := x.commands.values.eraseP (·.item? = some item) } }

/-- Taking out an element with a value takes one occurrence out of the values. -/
theorem perm_filterMap_eraseP {α β : Type} [DecidableEq β] (f : α → Option β) {b : β}
    {l : List α} (h : b ∈ l.filterMap f) :
    (l.filterMap f).Perm (b :: (l.eraseP fun a => f a = some b).filterMap f) := by
  induction l with
  | nil => cases h
  | cons a l ih =>
      by_cases ha : f a = some b
      · rw [List.eraseP_cons_of_pos (by simpa using ha), List.filterMap_cons_some ha]
      · rw [List.eraseP_cons_of_neg (by simpa using ha)]
        cases hf : f a with
        | none =>
            rw [List.filterMap_cons_none hf] at h ⊢
            rw [List.filterMap_cons_none hf]
            exact ih h
        | some c =>
            rw [List.filterMap_cons_some hf] at h ⊢
            rw [List.filterMap_cons_some hf]
            have hne : b ≠ c := fun heq => ha (hf.trans (congrArg some heq.symm))
            have hrest := ih ((List.mem_cons.1 h).resolve_left hne)
            exact (hrest.cons c).trans (List.Perm.swap b c _)

theorem held_withdraw {x : Indexer κ} {item : Item κ} (h : item ∈ x.held) :
    x.held.Perm (item :: (x.withdraw item).held) := by
  rw [withdraw]
  split
  · rename_i hmem
    have hsettling := perm_filterMap_eraseP (some ∘ Prod.fst) (l := x.settling)
      (b := item) (by simpa using hmem)
    rw [List.filterMap_eq_map] at hsettling
    simp only [Function.comp_apply, Option.some.injEq] at hsettling
    exact (hsettling.append_right _).append_right _
  · rename_i hnot
    split
    · rename_i hmem
      have hpending := List.perm_cons_erase hmem
      exact ((hpending.append_left _).trans List.perm_middle).append_right _
    · rename_i hnot'
      have hmem : item ∈ x.commands.values.filterMap Command.item? :=
        (List.mem_append.1 h).resolve_left fun hfront =>
          (List.mem_append.1 hfront).elim hnot hnot'
      have hcommands := perm_filterMap_eraseP Command.item? hmem
      exact (hcommands.append_left _).trans List.perm_middle

theorem Keeps.withdraw {x : Indexer κ} (h : x.InOrder) (item : Item κ) :
    x.Keeps (x.withdraw item) := by
  rw [Indexer.withdraw]
  split
  · exact ⟨⟨h.hasSenders, h.close_last, h.of_closing, h.closing_of_gone⟩, id⟩
  · split
    · refine ⟨⟨h.hasSenders, h.close_last, fun hclosing => ?_, h.closing_of_gone⟩, id⟩
      obtain ⟨hcommands, hpending⟩ := h.of_closing hclosing
      exact ⟨hcommands, by rw [hpending]; rfl⟩
    · refine ⟨⟨h.hasSenders, h.close_last.sublist List.eraseP_sublist, fun hclosing => ?_,
        h.closing_of_gone⟩, Or.imp_left fun hmem => List.mem_of_mem_eraseP hmem⟩
      obtain ⟨hcommands, hpending⟩ := h.of_closing hclosing
      exact ⟨by rw [hcommands]; rfl, hpending⟩

end Bulk.Indexer

namespace Consumer

variable {σ ε : Type}

/-- What can happen in a run. -/
inductive Act where
  | move (move : Move)
  /-- An item is reported. -/
  | report (item : Bulk.Item Message) (verdict : Bulk.Verdict)
  /-- The reader is asked to stop. -/
  | cancel

/-- What is noted along a run. -/
inductive Note (σ : Type) where
  | processed (m : Message) (state : σ)
  | reported (item : Bulk.Item Message) (verdict : Bulk.Verdict)

/-- An item that the indexer holds is reported. If it is stored its message is
acknowledged, as the worker does it. -/
def report? (s : Consumer σ ε) (item : Bulk.Item Message) (verdict : Bulk.Verdict) :
    Option (Consumer σ ε) :=
  let indexer := s.indexer.withdraw item
  if item ∈ s.indexer.held then
    match verdict with
    | .error _ => some { s with indexer }
    | .ok _ =>
      match s.acks.send (.done item.ticket) with
      | .ok acks => some { s with indexer, acks }
      | .full => none
      | .closed => some { s with indexer }
  else none

/-- The state after an act, if it can happen. -/
def act? (w : Wiring σ ε) : Act → Consumer σ ε → Option (Consumer σ ε)
  | .move move, s => s.step? w move
  | .report item verdict, s => s.report? item verdict
  | .cancel, s => some { s with cancelled := true }

/-- The message that the reader fetches next. -/
def nextMessage? (s : Consumer σ ε) : Option Message :=
  match s.phase with
  | .fetching => if s.cancelled then none else s.unfetched.head?
  | _ => none

/-- What is noted of an act. -/
def notes (s : Consumer σ ε) : Act → List (Note σ)
  | .move .read => s.nextMessage?.toList.map fun m => .processed m s.state
  | .move .work => s.indexer.settle?.toList.map fun next => .reported next.1.1 next.1.2
  | .report item verdict => [.reported item verdict]
  | .move .tick | .move .commit | .cancel => []

/-- The notes of a run and the state after it, if all its acts can happen. -/
def follow? (w : Wiring σ ε) : List Act → Consumer σ ε → Option (List (Note σ) × Consumer σ ε)
  | [], s => some ([], s)
  | act :: acts, s =>
    (s.act? w act).bind fun t =>
      (follow? w acts t).map fun (later, last) => (s.notes act ++ later, last)

/-- What a consumer starts from. -/
structure Plan (σ : Type) where
  log : List Message
  /-- Why the source fails after the log, if it does not just end. -/
  failure : Option String := none
  cancelled : Bool := false
  state : σ
  delivery : DeliverySettings := {}
  flushBytes : Nat := 0

/-- The consumer at its start. -/
def Plan.start (plan : Plan σ) : Consumer σ ε where
  unfetched := plan.log
  failure := plan.failure
  cancelled := plan.cancelled
  state := plan.state
  tracker := match plan.delivery.ordering with
    | .immediate => none
    | .contiguous => some (Tracker.withLimit plan.delivery.maxPending)
  acks := Channel.withCapacity plan.delivery.ackBuffer
  indexer := Bulk.Indexer.new plan.flushBytes plan.delivery.bulkBuffer

/-! ## Runs from their end -/

variable {w : Wiring σ ε} {s t last : Consumer σ ε} {acts : List Act} {act : Act}
  {told : List (Note σ)}

theorem follow?_cons :
    follow? w (act :: acts) s = some (told, last) ↔
      ∃ t later, s.act? w act = some t ∧ follow? w acts t = some (later, last) ∧
        told = s.notes act ++ later := by
  constructor
  · intro h
    obtain ⟨t, hact, hrest⟩ := Option.bind_eq_some_iff.1 h
    obtain ⟨⟨later, last'⟩, hfollow, heq⟩ := Option.map_eq_some_iff.1 hrest
    obtain ⟨rfl, rfl⟩ := Prod.mk.inj heq
    exact ⟨t, later, hact, hfollow, rfl⟩
  · rintro ⟨t, later, hact, hfollow, rfl⟩
    rw [follow?, hact, Option.bind_some, hfollow]
    rfl

theorem follow?_append {acts' : List Act} :
    follow? w (acts ++ acts') s = some (told, last) ↔
      ∃ before t later, follow? w acts s = some (before, t) ∧
        follow? w acts' t = some (later, last) ∧ told = before ++ later := by
  induction acts generalizing s told with
  | nil =>
      rw [List.nil_append]
      constructor
      · intro h
        exact ⟨[], s, told, rfl, h, rfl⟩
      · rintro ⟨before, t, later, hbefore, hlater, rfl⟩
        obtain ⟨rfl, rfl⟩ := Prod.mk.inj (Option.some.inj hbefore)
        exact hlater
  | cons first acts ih =>
      rw [List.cons_append, follow?_cons]
      constructor
      · rintro ⟨u, rest, hfirst, hrest, rfl⟩
        obtain ⟨before, t, later, hbefore, hlater, rfl⟩ := ih.1 hrest
        refine ⟨s.notes first ++ before, t, later, ?_, hlater, (List.append_assoc _ _ _).symm⟩
        exact follow?_cons.2 ⟨u, before, hfirst, hbefore, rfl⟩
      · rintro ⟨before, t, later, hbefore, hlater, rfl⟩
        obtain ⟨u, rest, hfirst, hrest, rfl⟩ := follow?_cons.1 hbefore
        refine ⟨u, rest ++ later, hfirst, ?_, List.append_assoc _ _ _⟩
        exact ih.2 ⟨rest, t, later, hrest, hlater, rfl⟩

theorem follow?_concat :
    follow? w (acts ++ [act]) s = some (told, last) ↔
      ∃ before t, follow? w acts s = some (before, t) ∧ t.act? w act = some last ∧
        told = before ++ t.notes act := by
  rw [follow?_append]
  constructor
  · rintro ⟨before, t, later, hbefore, hlater, rfl⟩
    obtain ⟨u, _, hact, hnil, rfl⟩ := follow?_cons.1 hlater
    obtain ⟨rfl, rfl⟩ := Prod.mk.inj (Option.some.inj hnil)
    exact ⟨before, t, hbefore, hact, by rw [List.append_nil]⟩
  · rintro ⟨before, t, hbefore, hact, rfl⟩
    refine ⟨before, t, t.notes act, hbefore, ?_, rfl⟩
    exact follow?_cons.2 ⟨last, [], hact, rfl, (List.append_nil _).symm⟩

/-- What holds at the start and is kept by every act holds after every run. -/
theorem follow_induction {P : List Act → List (Note σ) → Consumer σ ε → Prop}
    (start : P [] [] s)
    (step : ∀ {acts told t act u}, follow? w acts s = some (told, t) → P acts told t →
      t.act? w act = some u → P (acts ++ [act]) (told ++ t.notes act) u)
    (h : follow? w acts s = some (told, last)) : P acts told last := by
  induction acts using List.reverseRecOn generalizing told last with
  | nil =>
      obtain ⟨rfl, rfl⟩ := Prod.mk.inj (Option.some.inj h)
      exact start
  | append_singleton acts act ih =>
      obtain ⟨before, t, hfollow, hact, rfl⟩ := follow?_concat.1 h
      exact step hfollow (ih hfollow) hact

theorem run?_eq_some_iff {moves : List Move} :
    run? w moves s = some last ↔ ∃ told, follow? w (moves.map .move) s = some (told, last) := by
  induction moves generalizing s with
  | nil =>
      constructor
      · intro h
        obtain rfl := Option.some.inj h
        exact ⟨[], rfl⟩
      · rintro ⟨told, h⟩
        exact congrArg some (Prod.mk.inj (Option.some.inj h)).2
  | cons move moves ih =>
      constructor
      · intro h
        obtain ⟨t, hstep, hrun⟩ := Option.bind_eq_some_iff.1 h
        obtain ⟨later, hfollow⟩ := ih.1 hrun
        exact ⟨_, follow?_cons.2 ⟨t, later, hstep, hfollow, rfl⟩⟩
      · rintro ⟨told, h⟩
        obtain ⟨t, later, hstep, hfollow, -⟩ := follow?_cons.1 h
        exact Option.bind_eq_some_iff.2 ⟨t, hstep, ih.2 ⟨later, hfollow⟩⟩

end Consumer

end ClusterEvents
