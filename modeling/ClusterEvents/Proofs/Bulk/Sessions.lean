import Mathlib.Data.List.Basic
import ClusterEvents.Proofs.Bulk.Batches

/-!
# Every item is told once

An indexer is followed from its start. Senders add items and at last ask it to close, the
worker takes its steps, and now and then the timer runs out, in whatever order. `Accounts`
is what holds all along: no item is lost or changes its place on the way from the channel
to the verdicts. As no sender waits for ever and the worker gets through with what it has,
every item is sent once and is told once what its own place in an answer says
(`every_item_told`).
-/

namespace ClusterEvents.Bulk

variable {κ : Type}

/-- What can happen to an indexer. -/
inductive Act (κ : Type) where
  | submit (command : Command κ)
  /-- The worker takes a step. -/
  | step
  /-- The timer runs out. -/
  | tick

/-- What was asked for, in order. -/
def submitted (acts : List (Act κ)) : List (Command κ) :=
  acts.filterMap fun act =>
    match act with
    | .submit command => some command
    | .step | .tick => none

theorem submitted_submit (command : Command κ) (acts : List (Act κ)) :
    submitted (.submit command :: acts) = command :: submitted acts := rfl

theorem submitted_append (acts acts' : List (Act κ)) :
    submitted (acts ++ acts') = submitted acts ++ submitted acts' :=
  List.filterMap_append

theorem submitted_replicate (k : Nat) : submitted (List.replicate k (.step : Act κ)) = [] := by
  simp [submitted]

/-- An indexer with what it has settled so far. -/
structure Session (κ : Type) where
  indexer : Indexer κ
  settled : Batch κ := []

namespace Session

/-- A sender asks for something, unless it has to wait. -/
def submit? (s : Session κ) (command : Command κ) : Option (Session κ) :=
  let accepted := match command with
    | .add item => s.indexer.add item
    | .close => s.indexer.close
  match accepted with
  | .ok indexer => some { s with indexer }
  | .full | .closed => none

/-- What is left when something happens, if it can. -/
def act? (answers : Nat → Answer) (s : Session κ) : Act κ → Option (Session κ)
  | .submit command => s.submit? command
  | .step => (s.indexer.step? answers).map fun (told, indexer) =>
      { indexer, settled := s.settled ++ told.toList }
  | .tick => (s.indexer.tick? answers).map fun indexer => { s with indexer }

/-- What is left when several things happen, if they all can. -/
def run? (answers : Nat → Answer) (acts : List (Act κ)) (s : Session κ) : Option (Session κ) :=
  acts.foldlM (act? answers) s

/-- The worker goes on as long as it can. -/
def finish (answers : Nat → Answer) (s : Session κ) : Session κ where
  indexer := (s.indexer.run answers).2
  settled := s.settled ++ (s.indexer.run answers).1

variable {answers : Nat → Answer} {s t : Session κ} {batches : List (Batch κ)}
  {commands : List (Command κ)} {acts : List (Act κ)} {flushBytes : Nat}

/-- No item is lost, and none is anywhere but at its place. -/
structure Accounts (answers : Nat → Answer) (commands : List (Command κ))
    (batches : List (Batch κ)) (s : Session κ) : Prop where
  inOrder : s.indexer.InOrder
  told : s.indexer.IsToldToClose ↔ .close ∈ commands
  capacity : 0 < s.indexer.commands.capacity
  items : s.settled.map Prod.fst ++ s.indexer.held = commands.filterMap Command.item?
  added : s.indexer.stats.added = (commands.filterMap Command.item?).length
  dealt : Dealt answers batches s.settled s.indexer.settling s.indexer.sent s.indexer.stats

theorem accounts_new (answers : Nat → Answer) (flushBytes channelBuffer : Nat) :
    Accounts (κ := κ) answers [] [] ⟨.new flushBytes channelBuffer, []⟩ where
  inOrder := Indexer.inOrder_new _ _
  told := iff_of_false (Indexer.not_isToldToClose_new _ _) (by simp)
  capacity := Nat.lt_of_lt_of_le Nat.one_pos (Nat.le_max_right _ _)
  items := rfl
  added := rfl
  dealt := dealt_nil answers

theorem submit?_add_eq_some_iff {item : Item κ} :
    s.submit? (.add item) = some t ↔
      ∃ x, s.indexer.add item = .ok x ∧ t = { s with indexer := x } := by
  simp only [submit?]
  cases s.indexer.add item <;> simp [eq_comm]

theorem submit?_close_eq_some_iff :
    s.submit? .close = some t ↔ ∃ x, s.indexer.close = .ok x ∧ t = { s with indexer := x } := by
  simp only [submit?]
  cases s.indexer.close <;> simp [eq_comm]

theorem Accounts.add {item : Item κ} (h : Accounts answers commands batches s)
    (hopen : .close ∉ commands) (ht : s.submit? (.add item) = some t) :
    Accounts answers (commands ++ [.add item]) batches t ∧
      ∀ flushBytes, Gathered flushBytes s.indexer batches →
        Gathered flushBytes t.indexer batches := by
  obtain ⟨x, hadd, rfl⟩ := submit?_add_eq_some_iff.1 ht
  obtain ⟨hinOrder, hheld, htold⟩ := h.inOrder.add (fun htold => hopen (h.told.1 htold)) hadd
  obtain ⟨z, hsubmit, rfl⟩ := Indexer.add_eq_ok hadd
  obtain rfl := Indexer.submit_eq_ok hsubmit
  refine ⟨⟨hinOrder, iff_of_false htold (by simpa using hopen), h.capacity, ?_, ?_, ?_⟩,
    fun _ hg => hg.congr rfl id hg.pending⟩
  · rw [hheld, ← List.append_assoc, h.items, List.filterMap_append]
    rfl
  · simp [h.added, Command.item?]
  · exact { h.dealt with }

theorem Accounts.close (h : Accounts answers commands batches s) (hopen : .close ∉ commands)
    (ht : s.submit? .close = some t) :
    Accounts answers (commands ++ [.close]) batches t ∧
      ∀ flushBytes, Gathered flushBytes s.indexer batches →
        Gathered flushBytes t.indexer batches := by
  obtain ⟨x, hclose, rfl⟩ := submit?_close_eq_some_iff.1 ht
  obtain ⟨hinOrder, hheld⟩ := h.inOrder.close (fun htold => hopen (h.told.1 htold)) hclose
  obtain rfl := Indexer.submit_eq_ok hclose
  refine ⟨⟨hinOrder, iff_of_true (.inl (by simp)) (by simp), h.capacity, ?_, ?_, h.dealt⟩,
    fun _ hg => hg.congr rfl id hg.pending⟩
  · rw [hheld, h.items]
    simp [Command.item?]
  · simp [h.added, Command.item?]

theorem Accounts.submit {command : Command κ} (h : Accounts answers commands batches s)
    (hopen : .close ∉ commands) (ht : s.submit? command = some t) :
    Accounts answers (commands ++ [command]) batches t ∧
      ∀ flushBytes, Gathered flushBytes s.indexer batches →
        Gathered flushBytes t.indexer batches := by
  cases command with
  | add item => exact h.add hopen ht
  | close => exact h.close hopen ht

theorem added_step {x y : Indexer κ} {told : Option (Item κ × Verdict)}
    (hstep : Indexer.Step answers x told y) : y.stats.added = x.stats.added := by
  cases hstep with
  | settles _ => rw [Indexer.stats_leave]
  | takes _ _ _ => rfl
  | fills _ _ _ => exact Indexer.added_flush _ answers
  | closes _ _ =>
      rw [Indexer.stats_leave]
      exact Indexer.added_flush _ answers

theorem Accounts.step (h : Accounts answers commands batches s)
    (ht : s.act? answers .step = some t) :
    ∃ more, Accounts answers commands (batches ++ more) t ∧ ∀ flushBytes,
      Gathered flushBytes s.indexer batches → Gathered flushBytes t.indexer (batches ++ more) := by
  obtain ⟨⟨told, x⟩, hstep?, rfl⟩ := Option.map_eq_some_iff.1 ht
  have hstep := Indexer.Step.of_step? h.inOrder.hasSenders hstep?
  obtain ⟨hkeeps, hheld⟩ := Indexer.Keeps.step h.inOrder hstep
  obtain ⟨more, hdealt, hgathered⟩ := h.dealt.step hstep
  refine ⟨more, ⟨hkeeps.inOrder, ?_, ?_, ?_, ?_, hdealt⟩, hgathered⟩
  · exact ⟨fun htold => h.told.1 (hkeeps.told htold), fun hclose => (h.told.2 hclose).step hstep⟩
  · rw [Indexer.capacity_step hstep]
    exact h.capacity
  · rw [← h.items, hheld, List.map_append, List.append_assoc]
  · rw [added_step hstep]
    exact h.added

theorem Accounts.tick (h : Accounts answers commands batches s)
    (ht : s.act? answers .tick = some t) :
    ∃ more, Accounts answers commands (batches ++ more) t := by
  obtain ⟨x, htick, rfl⟩ := Option.map_eq_some_iff.1 ht
  obtain ⟨hkeeps, hheld⟩ := Indexer.Keeps.tick h.inOrder htick
  obtain ⟨-, hsettling, rfl⟩ := Indexer.tick?_eq_some htick
  refine ⟨_, ⟨hkeeps.inOrder, ?_, ?_, ?_, ?_, h.dealt.flush hsettling⟩⟩
  · exact ⟨fun htold => h.told.1 (hkeeps.told htold), fun hclose => (h.told.2 hclose).flush⟩
  · rw [Indexer.commands_flush]
    exact h.capacity
  · rw [hheld, h.items]
  · rw [Indexer.added_flush, h.added]

/-! ## All acts -/

theorem run?_cons {act : Act κ} :
    run? answers (act :: acts) s = (s.act? answers act).bind (run? answers acts) := rfl

theorem run?_append (acts acts' : List (Act κ)) (s : Session κ) :
    run? answers (acts ++ acts') s = (run? answers acts s).bind (run? answers acts') :=
  List.foldlM_append

/-- Nothing is asked for after the command to close. -/
def Orderly (commands : List (Command κ)) : Prop :=
  commands.Pairwise fun command _ => command ≠ .close

theorem orderly_concat (items : List (Item κ)) : Orderly (items.map Command.add ++ [.close]) := by
  refine List.pairwise_append.2 ⟨?_, List.pairwise_singleton _ _, ?_⟩
  · exact List.pairwise_map.2 (List.pairwise_of_forall fun _ _ heq => by cases heq)
  · intro command hcommand _ _ heq
    obtain ⟨item, -, rfl⟩ := List.mem_map.1 hcommand
    cases heq

theorem Orderly.not_mem {command : Command κ} {rest : List (Command κ)}
    (h : Orderly (commands ++ command :: rest)) : .close ∉ commands := fun hmem =>
  (List.pairwise_append.1 h).2.2 _ hmem command List.mem_cons_self rfl

theorem Accounts.run (h : Accounts answers commands batches s)
    (horderly : Orderly (commands ++ submitted acts)) (ht : run? answers acts s = some t) :
    ∃ batches', Accounts answers (commands ++ submitted acts) batches' t ∧
      (.tick ∉ acts → ∀ flushBytes, Gathered flushBytes s.indexer batches →
        Gathered flushBytes t.indexer batches') := by
  -- On the acts still to come, with the commands and the batches of those before.
  induction acts generalizing s commands batches with
  | nil =>
      obtain rfl := Option.some.inj ht
      rw [submitted, List.filterMap_nil, List.append_nil]
      exact ⟨batches, h, fun _ _ hg => hg⟩
  | cons act acts ih =>
      rw [run?_cons] at ht
      obtain ⟨u, hact, hrun⟩ := Option.bind_eq_some_iff.1 ht
      cases act with
      | submit command =>
          rw [submitted_submit] at horderly ⊢
          obtain ⟨hu, hgathered⟩ := h.submit horderly.not_mem hact
          rw [← List.singleton_append, ← List.append_assoc] at horderly ⊢
          obtain ⟨batches', ht', hkeeps⟩ := ih hu horderly hrun
          refine ⟨batches', ht', fun htick _ hg => hkeeps ?_ _ (hgathered _ hg)⟩
          exact fun hmem => htick (List.mem_cons_of_mem _ hmem)
      | step =>
          obtain ⟨more, hu, hgathered⟩ := h.step hact
          obtain ⟨batches', ht', hkeeps⟩ := ih hu horderly hrun
          refine ⟨batches', ht', fun htick _ hg => hkeeps ?_ _ (hgathered _ hg)⟩
          exact fun hmem => htick (List.mem_cons_of_mem _ hmem)
      | tick =>
          obtain ⟨more, hu⟩ := h.tick hact
          obtain ⟨batches', ht', -⟩ := ih hu horderly hrun
          exact ⟨batches', ht', fun htick => absurd List.mem_cons_self htick⟩

/-! ## Getting through -/

/-- What the worker does at a stretch is one step after the other. -/
theorem exists_steps (answers : Nat → Answer) (fuel : Nat) (s : Session κ) :
    ∃ k, run? answers (List.replicate k .step) s = some
      ⟨(s.indexer.runFor answers fuel).2, s.settled ++ (s.indexer.runFor answers fuel).1⟩ := by
  induction fuel generalizing s with
  | zero => exact ⟨0, by simp [run?, Indexer.runFor]⟩
  | succ fuel ih =>
      cases hstep : s.indexer.step? answers with
      | none => exact ⟨0, by simp [run?, Indexer.runFor, hstep]⟩
      | some next =>
          obtain ⟨k, hk⟩ := ih ⟨next.2, s.settled ++ next.1.toList⟩
          refine ⟨k + 1, ?_⟩
          rw [List.replicate_succ, run?_cons, act?, hstep, Option.map_some, Option.bind_some, hk]
          simp [Indexer.runFor, hstep]

theorem exists_finish (answers : Nat → Answer) (s : Session κ) :
    ∃ k, run? answers (List.replicate k .step) s = some (s.finish answers) :=
  exists_steps answers s.indexer.stepBound s

theorem Accounts.finish (h : Accounts answers commands batches s) (horderly : Orderly commands) :
    ∃ batches', Accounts answers commands batches' (s.finish answers) ∧
      ∀ flushBytes, Gathered flushBytes s.indexer batches →
        Gathered flushBytes (s.finish answers).indexer batches' := by
  obtain ⟨k, hk⟩ := exists_finish answers s
  have hcommands : commands ++ submitted (List.replicate k (.step : Act κ)) = commands := by
    rw [submitted_replicate, List.append_nil]
  obtain ⟨batches', hfinish, hgathered⟩ := h.run (hcommands.symm ▸ horderly) hk
  refine ⟨batches', hcommands ▸ hfinish, hgathered ?_⟩
  simp

theorem step?_finish (h : s.indexer.commands.sendersGone = false) :
    (s.finish answers).indexer.step? answers = none :=
  Indexer.step?_runFor h (by simp only [Indexer.load, Indexer.stepBound]; omega)

/-- Once it was told to close, the worker stops. -/
theorem stopped_finish (h : Accounts answers commands batches s) (horderly : Orderly commands)
    (hclose : .close ∈ commands) : (s.finish answers).indexer.stopped = true := by
  obtain ⟨batches', hfinish, -⟩ := h.finish horderly
  obtain ⟨hsettling, hwaits⟩ := Indexer.eq_of_step?_eq_none (step?_finish h.inOrder.hasSenders)
  have hclosing : (s.finish answers).indexer.closing = true := by
    rcases hwaits with hclosing | hvalues
    · exact hclosing
    · exact (hfinish.told.2 hclose).resolve_left (by simp [hvalues])
  rw [Indexer.stopped, hclosing, hsettling]
  rfl

/-- All items were sent, in batches, and were told what became of them. -/
structure Delivered (answers : Nat → Answer) (items : List (Item κ)) (batches : List (Batch κ))
    (s : Session κ) : Prop where
  /-- Every item is told once, in the order in which the items were added. -/
  settled : s.settled = batches.flatten
  each : s.settled.map Prod.fst = items
  nonempty : ∀ batch ∈ batches, batch ≠ []
  sent : s.indexer.sent = batches.map Batch.body
  lines : s.indexer.sent.flatten = items.flatMap Item.lines
  /-- It is told that it is stored if its request and the result at its place say so. -/
  told : ∀ k batch, batches[k]? = some batch → ∀ place item verdict,
    batch[place]? = some (item, verdict) → (verdict = .ok () ↔ (answers k).Stores place)
  added : s.indexer.stats.added = items.length
  flushed : s.indexer.stats.flushed = items.length
  indexed : s.indexer.stats.indexed = Batch.stored s.settled
  failed : s.indexer.stats.indexed + s.indexer.stats.failed = items.length
  requests : s.indexer.stats.requests = batches.length

theorem flatten_map_body (batches : List (Batch κ)) :
    (batches.map Batch.body).flatten = (batches.flatten.map Prod.fst).flatMap Item.lines := by
  induction batches with
  | nil => rfl
  | cons batch rest ih =>
      rw [List.map_cons, List.flatten_cons, ih, List.flatten_cons, List.map_append,
        List.flatMap_append]
      rfl

theorem filterMap_item?_concat (items : List (Item κ)) :
    (items.map Command.add ++ [Command.close]).filterMap Command.item? = items := by
  rw [List.filterMap_append, List.filterMap_map]
  have hsome : Command.item? ∘ Command.add = (some : Item κ → Option (Item κ)) := rfl
  rw [hsome, List.filterMap_some]
  exact List.append_nil items

theorem Accounts.delivered {items : List (Item κ)}
    (h : Accounts answers (items.map .add ++ [.close]) batches s)
    (hstopped : s.indexer.stopped = true) : Delivered answers items batches s := by
  have hsettling : s.indexer.settling = [] :=
    List.isEmpty_iff.1 (Bool.and_eq_true_iff.1 hstopped).2
  have hsettled : s.settled = batches.flatten := by
    rw [← h.dealt.settled, hsettling, List.append_nil]
  have heach : s.settled.map Prod.fst = items := by
    have hitems := h.items
    rwa [h.inOrder.held_eq_nil hstopped, List.append_nil, filterMap_item?_concat] at hitems
  have hlength : batches.flatten.length = items.length := by
    rw [← heach, hsettled, List.length_map]
  have hflushed := h.dealt.flushed.trans hlength
  refine ⟨hsettled, heach, h.dealt.nonempty, h.dealt.sent, ?_, ?_, ?_, hflushed, ?_,
    h.dealt.failed.trans hflushed, h.dealt.requests⟩
  · rw [h.dealt.sent, flatten_map_body, ← hsettled, heach]
  · intro k batch hbatch place item verdict hplace
    obtain ⟨hlt, -⟩ := List.getElem?_eq_some_iff.1 hplace
    have hverdict : ((answers k).verdicts batch.length)[place]? = some verdict := by
      rw [← h.dealt.verdicts k batch hbatch, List.getElem?_map, hplace, Option.map_some]
    rw [← Answer.getElem?_verdicts_eq_ok_iff hlt, hverdict, Option.some.injEq]
  · rw [h.added, filterMap_item?_concat]
  · rw [hsettled]
    exact h.dealt.indexed

theorem isGood_iff {verdict : Verdict} : Indexer.isGood verdict = true ↔ verdict = .ok () := by
  cases verdict <;> simp [Indexer.isGood]

/-- Items are told what the store decides on them. -/
theorem Delivered.decided {items : List (Item κ)} (h : Delivered answers items batches s) :
    s.settled.map (fun entry => Indexer.isGood entry.2) = decisions answers batches := by
  rw [h.settled, List.map_flatten, decisions]
  refine congrArg List.flatten (List.ext_getElem (by simp) fun k hk _ => ?_)
  rw [List.getElem_map, List.getElem_mapIdx]
  refine List.ext_getElem (by simp) fun place hplace _ => ?_
  rw [List.getElem_map, List.getElem_map, List.getElem_range, Bool.eq_iff_iff, isGood_iff,
    decide_eq_true_iff]
  rw [List.length_map] at hk hplace
  exact h.told k _ (List.getElem?_eq_getElem hk) place _ _ (List.getElem?_eq_getElem hplace)

/-- However items were added and the indexer was closed, in the end they are delivered. -/
theorem exists_delivered {items : List (Item κ)} {channelBuffer : Nat}
    (hsubmitted : submitted acts = items.map .add ++ [.close])
    (hrun : run? answers acts ⟨.new flushBytes channelBuffer, []⟩ = some s) :
    ∃ batches, Delivered answers items batches (s.finish answers) := by
  have horderly : Orderly (submitted acts) := hsubmitted ▸ orderly_concat items
  obtain ⟨batches, haccounts, -⟩ := (accounts_new answers _ _).run horderly hrun
  rw [List.nil_append, hsubmitted] at haccounts
  have hstopped := stopped_finish haccounts (orderly_concat items) (by simp)
  obtain ⟨batches', hfinish, -⟩ := haccounts.finish (orderly_concat items)
  exact ⟨batches', hfinish.delivered hstopped⟩

section Run

/-- An item of an index. -/
def parcel (id : String) : Item Unit :=
  ⟨"events", id, Bytes.ofString "\x7b\x7d", ()⟩

/-- The first document is taken, the second is not, and nothing is said of a third. -/
def halfHearted : Answer :=
  .response 200 (Bytes.ofString ("\x7b\"items\":[\x7b\"index\":\x7b\"status\":201\x7d\x7d," ++
    "\x7b\"index\":\x7b\"status\":409\x7d\x7d]\x7d"))

/-- The batch is sent when the indexer is closed, since it never grows large. -/
def visit : List (Act Unit) := [
  .submit (.add (parcel "a")), .submit (.add (parcel "b")), .step, .submit (.add (parcel "c")),
  .submit .close]

end Run

end Session

end ClusterEvents.Bulk
