import ClusterEvents.Proofs.Bulk.Sessions

/-!
# Items in front of the command to close

Tasks add items while one of them asks the worker to close. The channel takes items for as
long as the worker is there, also behind the command to close, and the worker goes with
what it has not taken. So an item is settled, and what was to be done then is done, when it
stands in front of that command (`Ledger.accepted_of_stopped`). `Ledger` says where the commands
are that were accepted: each act keeps it, whoever acts next.
-/

namespace ClusterEvents.Bulk

/-- What is to be done when an item is stored, and when it is not. -/
structure Callbacks (τ : Type) where
  onSuccess : Option τ := none
  onFailure : Option (BulkError → τ) := none

variable {τ : Type}

def Callbacks.run? (callbacks : Callbacks τ) : Verdict → Option τ
  | .ok _ => callbacks.onSuccess
  | .error error => callbacks.onFailure.map fun callback => callback error

/-- What is done when an item is settled. -/
def callback? (settled : Item (Callbacks τ) × Verdict) : Option τ :=
  settled.1.ticket.run? settled.2

namespace Indexer

variable {κ : Type} {x y : Indexer κ} {answers : Nat → Answer}

/-- The items that the worker has taken and not settled. -/
def inHand (x : Indexer κ) : List (Item κ) :=
  x.settling.map Prod.fst ++ x.pending

@[simp] theorem inHand_leave (x : Indexer κ) : x.leave.inHand = x.inHand := by
  rw [inHand, settling_leave, pending_leave, inHand]

theorem inHand_flush (hidle : x.settling = []) (answers : Nat → Answer) :
    (x.flush answers).inHand = x.inHand := by
  rw [flush]
  split
  · rfl
  · simp only [inHand, map_fst_zip, hidle, List.map_nil, List.nil_append, List.append_nil]

theorem leave_of_open (h : x.closing = false) : x.leave = x := by
  have hstays : x.stopped ≠ true := by simp [stopped, h]
  rw [leave, if_neg hstays]

theorem inHand_settles {next : Item κ × Verdict} {rest : List (Item κ × Verdict)}
    (h : x.settling = next :: rest) :
    x.inHand = next.1 :: inHand { x with settling := rest } := by
  rw [inHand, h]
  rfl

theorem inHand_taking (x : Indexer κ) (item : Item κ) (commands : Channel (Command κ)) :
    (x.taking item commands).inHand = x.inHand ++ [item] :=
  (List.append_assoc _ _ _).symm

theorem inHand_taking_flush {item : Item κ} {commands : Channel (Command κ)}
    (hidle : x.isIdle = true) :
    ((x.taking item commands).flush answers).inHand = x.inHand ++ [item] := by
  have hsettling : (x.taking item commands).settling = [] := (isIdle_iff.1 hidle).2
  rw [inHand_flush hsettling, inHand_taking]

/-- While the worker is not closing, it takes the items that are in the channel. -/
theorem Step.of_open {told : Option (Item κ × Verdict)} (hstep : Step answers x told y)
    (hopen : y.closing = false) :
    x.closing = false ∧ ∃ more : List (Item κ),
      told.toList.map Prod.fst ++ y.inHand = x.inHand ++ more ∧
      x.commands.values = more.map .add ++ y.commands.values := by
  cases hstep with
  | @settles next rest hsettling =>
      have hbefore : x.closing = false :=
        (closing_leave { x with settling := rest }).symm.trans hopen
      refine ⟨hbefore, [], ?_, ?_⟩
      · rw [inHand_leave, inHand_settles hsettling, List.append_nil]
        rfl
      · rw [leave_of_open (x := { x with settling := rest }) hbefore]
        rfl
  | @takes item commands hidle hc _ =>
      refine ⟨hopen, [item], inHand_taking x item commands, ?_⟩
      exact (Channel.receive_eq_value hc).1
  | @fills item commands hidle hc _ =>
      refine ⟨(isIdle_iff.1 hidle).1, [item], inHand_taking_flush hidle, ?_⟩
      rw [commands_flush]
      exact (Channel.receive_eq_value hc).1
  | closes _ _ =>
      rw [closing_leave] at hopen
      cases hopen

/-- A worker that is closing takes nothing any more. It closes when it takes the command to
do so, and then has everything sent that it has taken. -/
theorem Step.of_closing {told : Option (Item κ × Verdict)} (hstep : Step answers x told y)
    (hclosing : y.closing = true) :
    told.toList.map Prod.fst ++ y.inHand = x.inHand ∧
      (x.closing = true ∧ y.pending = x.pending ∨
        x.closing = false ∧ y.pending = [] ∧ ∃ rest, x.commands.values = .close :: rest) := by
  cases hstep with
  | @settles next rest hsettling =>
      have hbefore : x.closing = true :=
        (closing_leave { x with settling := rest }).symm.trans hclosing
      refine ⟨?_, .inl ⟨hbefore, pending_leave _⟩⟩
      rw [inHand_leave, inHand_settles hsettling]
      rfl
  | takes hidle _ _ =>
      have hopen : x.closing = false := (isIdle_iff.1 hidle).1
      cases hopen.symm.trans hclosing
  | fills hidle _ _ =>
      have hopen : x.closing = false := (isIdle_iff.1 hidle).1
      rw [closing_flush] at hclosing
      cases hopen.symm.trans hclosing
  | @closes commands hidle hc =>
      obtain ⟨hopen, hsettling⟩ := isIdle_iff.1 hidle
      refine ⟨?_, .inr ⟨hopen, ?_, commands.values, (Channel.receive_eq_value hc).1⟩⟩
      · rw [inHand_leave]
        exact inHand_flush (x := { x with commands }) hsettling answers
      · rw [pending_leave]
        exact pending_flush answers

/-- What becomes of what a task asks for. -/
def request (x : Indexer κ) : Command κ → Accepted κ
  | .add item => x.add item
  | .close => x.close

theorem request_eq_ok {command : Command κ} (h : x.request command = .ok y) :
    ∃ stats, y = { x with
      commands := { x.commands with values := x.commands.values ++ [command] }
      stats } := by
  cases command with
  | add item =>
      obtain ⟨z, hsubmit, rfl⟩ := add_eq_ok h
      rw [submit_eq_ok hsubmit]
      exact ⟨_, rfl⟩
  | close => exact ⟨x.stats, submit_eq_ok h⟩

end Indexer

/-- What tasks and a worker have done so far. -/
structure Traffic (τ : Type) extends Session (Callbacks τ) where
  /-- The commands that were accepted, in order. -/
  accepted : List (Command (Callbacks τ)) := []
  /-- What was done for items that were settled. -/
  ran : List τ := []

namespace Traffic

/-- A task asks for something, which is accepted or refused unless the task has to wait. -/
def call? (t : Traffic τ) (command : Command (Callbacks τ)) : Option (Traffic τ) :=
  match t.indexer.request command with
  | .ok indexer => some { t with indexer, accepted := t.accepted ++ [command] }
  | .closed => some t
  | .full => none

/-- What is left when the worker has come so far and has settled these items on the way. -/
def after (t : Traffic τ) (told : Batch (Callbacks τ)) (x : Indexer (Callbacks τ)) :
    Traffic τ where
  indexer := x
  settled := t.settled ++ told
  accepted := t.accepted
  ran := t.ran ++ told.filterMap callback?

/-- What is left when a task or the worker acts, if it can. -/
def act? (answers : Nat → Answer) (t : Traffic τ) : Act (Callbacks τ) → Option (Traffic τ)
  | .submit command => t.call? command
  | .step => (t.indexer.step? answers).map fun (told, indexer) => t.after told.toList indexer
  | .tick => (t.indexer.tick? answers).map fun indexer => { t with indexer }

def run? (answers : Nat → Answer) (acts : List (Act (Callbacks τ))) (t : Traffic τ) :
    Option (Traffic τ) :=
  acts.foldlM (act? answers) t

/-- The worker goes on as long as it can, and no task acts. -/
def finish (answers : Nat → Answer) (t : Traffic τ) : Traffic τ :=
  t.after (t.indexer.run answers).1 (t.indexer.run answers).2

/-- Before anything has happened. -/
def start (flushBytes channelBuffer : Nat) : Traffic τ where
  indexer := .new flushBytes channelBuffer

variable {answers : Nat → Answer} {t u : Traffic τ} {acts : List (Act (Callbacks τ))}

/-- The items that the worker has taken. -/
def taken (t : Traffic τ) : List (Item (Callbacks τ)) :=
  t.settled.map Prod.fst ++ t.indexer.inHand

/-- Where the accepted commands are: the worker has taken the first ones, and it takes none
behind the command to close. -/
structure Ledger (t : Traffic τ) : Prop where
  hasSenders : t.indexer.commands.sendersGone = false
  ran : t.ran = t.settled.filterMap callback?
  of_open : t.indexer.closing = false →
    t.accepted = t.taken.map .add ++ t.indexer.commands.values
  of_closing : t.indexer.closing = true →
    t.indexer.pending = [] ∧ ∃ behind, t.accepted = t.taken.map .add ++ .close :: behind

theorem ledger_start (flushBytes channelBuffer : Nat) :
    Ledger (start flushBytes channelBuffer : Traffic τ) where
  hasSenders := rfl
  ran := rfl
  of_open := fun _ => rfl
  of_closing := fun h => by cases h

/-! ## One act -/

theorem Ledger.call {command : Command (Callbacks τ)} (h : t.Ledger)
    (hu : t.call? command = some u) : u.Ledger := by
  rw [call?] at hu
  split at hu
  · rename_i x hok
    obtain rfl := Option.some.inj hu
    obtain ⟨stats, rfl⟩ := Indexer.request_eq_ok hok
    refine ⟨h.hasSenders, h.ran, fun hopen => ?_, fun hclosing => ?_⟩
    · show t.accepted ++ [command] = t.taken.map .add ++ (t.indexer.commands.values ++ [command])
      rw [h.of_open hopen, List.append_assoc]
    · obtain ⟨hpending, behind, haccepted⟩ := h.of_closing hclosing
      refine ⟨hpending, behind ++ [command], ?_⟩
      show t.accepted ++ [command] = t.taken.map .add ++ .close :: (behind ++ [command])
      rw [haccepted, List.append_assoc]
      rfl
  · exact Option.some.inj hu ▸ h
  · cases hu

theorem taken_after (t : Traffic τ) (told : Batch (Callbacks τ)) (x : Indexer (Callbacks τ)) :
    (t.after told x).taken = t.settled.map Prod.fst ++ (told.map Prod.fst ++ x.inHand) := by
  rw [taken, after, List.map_append, List.append_assoc]

theorem Ledger.step {told : Option (Item (Callbacks τ) × Verdict)} {x : Indexer (Callbacks τ)}
    (h : t.Ledger) (hstep : Indexer.Step answers t.indexer told x) :
    (t.after told.toList x).Ledger := by
  refine ⟨(Indexer.sendersGone_step hstep).trans h.hasSenders, ?_, fun hopen => ?_,
    fun hclosing => ?_⟩
  · rw [after, h.ran, List.filterMap_append]
  · obtain ⟨hbefore, more, htaken, hvalues⟩ := hstep.of_open hopen
    rw [taken_after, htaken, ← List.append_assoc, List.map_append, List.append_assoc]
    show t.accepted = t.taken.map .add ++ (more.map .add ++ x.commands.values)
    rw [h.of_open hbefore, hvalues]
  · obtain ⟨htaken, hcases⟩ := hstep.of_closing hclosing
    rw [taken_after, htaken]
    rcases hcases with ⟨hbefore, hpending⟩ | ⟨hbefore, hpending, rest, hvalues⟩
    · obtain ⟨hnone, hbehind⟩ := h.of_closing hbefore
      exact ⟨hpending.trans hnone, hbehind⟩
    · refine ⟨hpending, rest, ?_⟩
      show t.accepted = t.taken.map .add ++ .close :: rest
      rw [h.of_open hbefore, hvalues]

theorem Ledger.tick {x : Indexer (Callbacks τ)} (h : t.Ledger)
    (htick : t.indexer.tick? answers = some x) :
    Ledger { t with indexer := x } := by
  obtain ⟨hopen, hsettling, rfl⟩ := Indexer.tick?_eq_some htick
  have hinHand := Indexer.inHand_flush hsettling answers
  refine ⟨?_, h.ran, fun _ => ?_, fun hclosing => ?_⟩
  · rw [Indexer.commands_flush]
    exact h.hasSenders
  · rw [taken, hinHand, Indexer.commands_flush]
    exact h.of_open hopen
  · rw [Indexer.closing_flush] at hclosing
    cases hopen.symm.trans hclosing

theorem Ledger.act {act : Act (Callbacks τ)} (h : t.Ledger) (hu : t.act? answers act = some u) :
    u.Ledger := by
  cases act with
  | submit command => exact h.call hu
  | step =>
      obtain ⟨⟨told, x⟩, hstep, rfl⟩ := Option.map_eq_some_iff.1 hu
      exact h.step (.of_step? h.hasSenders hstep)
  | tick =>
      obtain ⟨x, htick, rfl⟩ := Option.map_eq_some_iff.1 hu
      exact h.tick htick

/-! ## All acts -/

theorem run?_cons {act : Act (Callbacks τ)} :
    run? answers (act :: acts) t = (t.act? answers act).bind (run? answers acts) := rfl

theorem Ledger.run (h : t.Ledger) (hu : run? answers acts t = some u) : u.Ledger := by
  induction acts generalizing t with
  | nil => exact Option.some.inj hu ▸ h
  | cons act acts ih =>
      rw [run?_cons] at hu
      obtain ⟨v, hact, hrun⟩ := Option.bind_eq_some_iff.1 hu
      exact ih (h.act hact) hrun

/-! ## Once the worker is gone -/

theorem after_nil (t : Traffic τ) : t.after [] t.indexer = t := by
  simp [after]

theorem after_after (t : Traffic τ) (told later : Batch (Callbacks τ))
    (x y : Indexer (Callbacks τ)) :
    (t.after told x).after later y = t.after (told ++ later) y := by
  simp [after, List.filterMap_append]

theorem Ledger.runFor (h : t.Ledger) (fuel : Nat) :
    (t.after (t.indexer.runFor answers fuel).1 (t.indexer.runFor answers fuel).2).Ledger := by
  induction fuel generalizing t with
  | zero =>
      rw [Indexer.runFor, after_nil]
      exact h
  | succ fuel ih =>
      rw [Indexer.runFor]
      cases hstep : t.indexer.step? answers with
      | none =>
          dsimp only
          rw [after_nil]
          exact h
      | some next =>
          have hnext := ih (h.step (.of_step? h.hasSenders hstep))
          rwa [after_after] at hnext

theorem Ledger.finish (h : t.Ledger) : (t.finish answers).Ledger :=
  h.runFor t.indexer.stepBound

/-- Once the command to close was accepted, the worker goes. -/
theorem Ledger.stopped_finish (h : t.Ledger) (hclose : .close ∈ t.accepted) :
    (t.finish answers).indexer.stopped = true := by
  have hstep : (t.finish answers).indexer.step? answers = none :=
    Session.step?_finish (s := t.toSession) h.hasSenders
  obtain ⟨hsettling, hwaits⟩ := Indexer.eq_of_step?_eq_none hstep
  have hclosing : (t.finish answers).indexer.closing = true := by
    rcases hwaits with hclosing | hvalues
    · exact hclosing
    · by_contra hopen
      -- Nothing is left in the channel, so the command would have been taken.
      have hfinish : (t.finish answers).Ledger := h.finish
      have haccepted := hfinish.of_open (Bool.eq_false_iff.2 hopen)
      rw [hvalues, List.append_nil] at haccepted
      obtain ⟨item, -, heq⟩ := List.mem_map.1 (haccepted ▸ hclose)
      cases heq
  rw [Indexer.stopped, hclosing, hsettling]
  rfl

/-- The items that were settled are those in front of the command to close. -/
theorem Ledger.accepted_of_stopped (h : t.Ledger) (hstopped : t.indexer.stopped = true) :
    ∃ behind, t.accepted = (t.settled.map Prod.fst).map .add ++ .close :: behind := by
  obtain ⟨hclosing, hsettling⟩ := Bool.and_eq_true_iff.1 hstopped
  obtain ⟨hpending, behind, haccepted⟩ := h.of_closing hclosing
  refine ⟨behind, haccepted.trans ?_⟩
  rw [taken, Indexer.inHand, List.isEmpty_iff.1 hsettling, hpending]
  simp

/-- Whoever adds items and asks to close, in whatever order, and whenever the worker takes
its steps: it goes once the command to close was accepted. By then each item that was
accepted in front of that command has been settled once, in order, and of those behind it
none more than once. What is done for an item that is settled is the one of its callbacks
that its verdict calls for, if it has that one. -/
theorem accepted_settled (answers : Nat → Answer) (flushBytes channelBuffer : Nat)
    (acts : List (Act (Callbacks τ))) (t : Traffic τ)
    (hrun : run? answers acts (start flushBytes channelBuffer) = some t) :
    (.close ∈ t.accepted → (t.finish answers).indexer.stopped = true) ∧
    (t.indexer.stopped = true → ∃ (before : List (Item (Callbacks τ)))
      (behind : List (Command (Callbacks τ))) (verdicts : List Verdict)
      (later : Batch (Callbacks τ)),
        t.accepted = before.map .add ++ .close :: behind ∧
        verdicts.length = before.length ∧
        t.settled = before.zip verdicts ++ later ∧
        (later.map Prod.fst).Sublist (behind.filterMap Command.item?) ∧
        t.ran = t.settled.filterMap fun (item, verdict) => item.ticket.run? verdict) := by
  have hledger := (ledger_start flushBytes channelBuffer).run hrun
  refine ⟨hledger.stopped_finish, fun hstopped => ?_⟩
  obtain ⟨behind, haccepted⟩ := hledger.accepted_of_stopped hstopped
  refine ⟨t.settled.map Prod.fst, behind, t.settled.map Prod.snd, [], haccepted, by simp, ?_,
    List.nil_sublist _, hledger.ran⟩
  rw [List.append_nil]
  exact List.zip_of_prod rfl rfl

section Run

/-- An item for which a note is made whatever becomes of it. -/
def noted (id : String) : Item (Callbacks String) :=
  ⟨"events", id, Bytes.ofString "\x7b\x7d", some (id ++ " is stored"),
    some fun _ => id ++ " is not stored"⟩

/-- The second item is added while the first one is being settled on the way out. -/
def race : List (Act (Callbacks String)) := [
  .submit (.add (noted "first")), .step, .submit .close, .step, .submit (.add (noted "second")),
  .step]

/-- An item is added for which nothing is to be done. -/
def silence : List (Act (Callbacks String)) := [
  .submit (.add ⟨"events", "only", Bytes.ofString "\x7b\x7d", {}⟩), .step, .submit .close,
  .step, .step]

def unreachable : Nat → Answer := fun _ => .lost "nobody answers"

theorem accepted_settled_in_race :
    ∃ t, run? unreachable race (start 1000 1) = some t ∧ t.indexer.stopped = true ∧
      (∃ (before : List (Item (Callbacks String))) (behind : List (Command (Callbacks String)))
        (verdicts : List Verdict) (later : Batch (Callbacks String)),
          t.accepted = before.map .add ++ .close :: behind ∧
          verdicts.length = before.length ∧
          t.settled = before.zip verdicts ++ later ∧
          (later.map Prod.fst).Sublist (behind.filterMap Command.item?) ∧
          t.ran = t.settled.filterMap fun (item, verdict) => item.ticket.run? verdict) ∧
      t.ran = ["first is not stored"] := by
  have hends : ∃ t ∈ run? unreachable race (start 1000 1),
      t.indexer.stopped = true ∧ t.ran = ["first is not stored"] := by decide +kernel
  obtain ⟨t, ht, hstopped, hran⟩ := hends
  exact ⟨t, ht, hstopped, (accepted_settled unreachable 1000 1 race t ht).2 hstopped, hran⟩

/-- Items that were accepted, for which nothing has been done when the worker is gone: one
for which nothing was to be done, and one that was accepted behind the command to close. -/
theorem accepted_untold :
    (∃ t ∈ run? unreachable silence (start 1000 1), t.indexer.stopped = true ∧
      (t.accepted.filterMap Command.item?).map Item.id = ["only"] ∧ t.ran = []) ∧
    ∃ t ∈ run? unreachable race (start 1000 1), t.indexer.stopped = true ∧
      (t.accepted.filterMap Command.item?).map Item.id = ["first", "second"] ∧
      t.settled.map (fun entry => entry.1.id) = ["first"] ∧ t.ran = ["first is not stored"] := by
  decide +kernel

end Run

end Traffic

end ClusterEvents.Bulk
