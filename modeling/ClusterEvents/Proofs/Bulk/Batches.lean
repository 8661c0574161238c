import ClusterEvents.Proofs.Bulk.Held
import ClusterEvents.Proofs.Bulk.Verdicts

/-!
# Batches, from the channel to the verdicts

Every step of the worker leaves less to do, so the worker goes on until it waits
(`step?_runFor`).

What an indexer has done is told by the batches that were sent, each with what its items
are told. `Dealt` says what the requests, the verdicts and the counts have to do with the
batches, and `Gathered` how large batches are as long as the timer does not run out. A
step keeps both (`Dealt.step`).
-/

namespace ClusterEvents.Bulk

variable {κ : Type}

/-- The items of a batch, with what each is told. -/
abbrev Batch (κ : Type) := List (Item κ × Verdict)

namespace Batch

/-- The body of the request with a batch. -/
def body (batch : Batch κ) : Bytes :=
  Bulk.body (batch.map Prod.fst)

/-- How many of the items are stored. -/
def stored (batch : Batch κ) : Nat :=
  (batch.filter fun entry => Indexer.isGood entry.2).length

theorem stored_le (batch : Batch κ) : batch.stored ≤ batch.length :=
  List.length_filter_le _ _

theorem stored_append (batch other : Batch κ) :
    stored (batch ++ other) = batch.stored + other.stored := by
  simp [stored]

end Batch

/-- What the store decides on the documents of batches, one after the other. -/
def decisions (answers : Nat → Answer) (batches : List (Batch κ)) : List Bool :=
  (batches.mapIdx fun k batch =>
    (List.range batch.length).map fun place => decide ((answers k).Stores place)).flatten

namespace Indexer

variable {x y : Indexer κ} {answers : Nat → Answer}

/-! ## Steps of the worker -/

section Fields

variable (x : Indexer κ) (answers : Nat → Answer)

@[simp] theorem flushBytes_flush : (x.flush answers).flushBytes = x.flushBytes := by
  rw [flush]
  split <;> rfl

@[simp] theorem added_flush : (x.flush answers).stats.added = x.stats.added := by
  rw [flush]
  split <;> rfl

/-- To leave is to close the channel. -/
theorem leave_eq : x.leave = { x with commands := x.leave.commands } := by
  rw [leave]
  split <;> rfl

@[simp] theorem settling_leave : x.leave.settling = x.settling := by
  rw [leave_eq]

@[simp] theorem pending_leave : x.leave.pending = x.pending := by
  rw [leave_eq]

@[simp] theorem closing_leave : x.leave.closing = x.closing := by
  rw [leave_eq]

@[simp] theorem sent_leave : x.leave.sent = x.sent := by
  rw [leave_eq]

@[simp] theorem stats_leave : x.leave.stats = x.stats := by
  rw [leave_eq]

@[simp] theorem flushBytes_leave : x.leave.flushBytes = x.flushBytes := by
  rw [leave_eq]

theorem commands_leave :
    ∃ values gone, x.leave.commands = { x.commands with values, receiverGone := gone } := by
  rw [leave]
  split
  · exact ⟨[], true, rfl⟩
  · exact ⟨x.commands.values, x.commands.receiverGone, rfl⟩

end Fields

/-- The worker waits only for commands, or for nothing any more. -/
theorem eq_of_step?_eq_none (hy : x.step? answers = none) :
    x.settling = [] ∧ (x.closing = true ∨ x.commands.values = []) := by
  rw [step?, settle?] at hy
  cases hsettling : x.settling with
  | cons next rest =>
      rw [hsettling] at hy
      cases hy
  | nil =>
      refine ⟨rfl, ?_⟩
      rw [hsettling] at hy
      have hwork := Option.map_eq_none_iff.1 hy
      cases hclosing : x.closing with
      | true => exact .inl rfl
      | false =>
          have hidle : x.isIdle = true := isIdle_iff.2 ⟨hclosing, hsettling⟩
          rw [work?, if_pos hidle] at hwork
          refine .inr (Channel.receive_eq_nil fun c d hc => ?_)
          rw [hc] at hwork
          cases c <;> cases hwork

/-- What the worker was told it does not forget. -/
theorem IsToldToClose.leave (h : x.IsToldToClose) : x.leave.IsToldToClose := by
  rw [Indexer.leave]
  split
  · rename_i hstopped
    exact .inr (Bool.and_eq_true_iff.1 hstopped).1
  · exact h

theorem IsToldToClose.flush (h : x.IsToldToClose) : (x.flush answers).IsToldToClose := by
  rw [IsToldToClose, commands_flush, closing_flush]
  exact h

theorem IsToldToClose.taking {item : Item κ} {commands : Channel (Command κ)}
    (hc : x.commands.receive = .value (.add item) commands) (h : x.IsToldToClose) :
    (x.taking item commands).IsToldToClose := by
  obtain ⟨hvalues, -⟩ := Channel.receive_eq_value hc
  refine h.imp_left fun hmem => ?_
  rw [hvalues] at hmem
  exact (List.mem_cons.1 hmem).resolve_left (by simp)

theorem IsToldToClose.step {told : Option (Item κ × Verdict)} (hstep : Step answers x told y)
    (h : x.IsToldToClose) : y.IsToldToClose := by
  cases hstep with
  | settles _ => exact IsToldToClose.leave h
  | takes _ hc _ => exact h.taking hc
  | fills _ hc _ => exact (h.taking hc).flush
  | closes _ _ => exact IsToldToClose.leave (.inr rfl)

/-- The worker takes commands, and may go; nothing else happens to the channel. -/
theorem commands_step {told : Option (Item κ × Verdict)} (hstep : Step answers x told y) :
    ∃ values gone, y.commands = { x.commands with values, receiverGone := gone } := by
  cases hstep with
  | @settles next rest _ => exact commands_leave { x with settling := rest }
  | takes _ hc _ => exact ⟨_, _, (Channel.receive_eq_value hc).2⟩
  | fills _ hc _ => exact ⟨_, _, (commands_flush answers).trans (Channel.receive_eq_value hc).2⟩
  | @closes commands _ hc =>
      obtain ⟨values, gone, hleave⟩ := commands_leave (closed { x with commands } answers)
      have hcommands : (closed { x with commands } answers).commands = commands :=
        commands_flush answers
      refine ⟨values, gone, hleave.trans ?_⟩
      rw [hcommands, (Channel.receive_eq_value hc).2]

theorem capacity_step {told : Option (Item κ × Verdict)} (hstep : Step answers x told y) :
    y.commands.capacity = x.commands.capacity := by
  obtain ⟨values, gone, hcommands⟩ := commands_step hstep
  rw [hcommands]

theorem sendersGone_step {told : Option (Item κ × Verdict)} (hstep : Step answers x told y) :
    y.commands.sendersGone = x.commands.sendersGone := by
  obtain ⟨values, gone, hcommands⟩ := commands_step hstep
  rw [hcommands]

/-! ### How much is left to do -/

/-- A number that every step of the worker makes smaller. -/
def load (x : Indexer κ) : Nat :=
  2 * x.commands.values.length + x.pending.length + x.settling.length

theorem load_leave (x : Indexer κ) : x.leave.load ≤ x.load := by
  rw [leave]
  split
  · simp only [load, Channel.dropReceiver, List.length_nil]
    omega
  · exact Nat.le_refl _

theorem load_flush (hidle : x.settling = []) : (x.flush answers).load = x.load := by
  rw [flush]
  split
  · rfl
  · simp [load, hidle, Answer.length_verdicts]

theorem load_taking {item : Item κ} {commands : Channel (Command κ)}
    (hc : x.commands.receive = .value (.add item) commands) :
    (x.taking item commands).load < x.load := by
  obtain ⟨hvalues, -⟩ := Channel.receive_eq_value hc
  simp only [load, taking, hvalues, List.length_append, List.length_cons, List.length_nil]
  omega

theorem load_step {told : Option (Item κ × Verdict)} (hstep : Step answers x told y) :
    y.load < x.load := by
  cases hstep with
  | settles hsettling =>
      refine Nat.lt_of_le_of_lt (load_leave _) ?_
      simp [load, hsettling]
  | takes _ hc _ => exact load_taking hc
  | fills hidle hc _ =>
      rw [load_flush (x := x.taking _ _) (isIdle_iff.1 hidle).2]
      exact load_taking hc
  | @closes commands hidle hc =>
      have hflush : (closed { x with commands } answers).load = load { x with commands } :=
        load_flush (x := { x with commands }) (isIdle_iff.1 hidle).2
      refine Nat.lt_of_le_of_lt (load_leave _) (hflush ▸ ?_)
      simp only [load, (Channel.receive_eq_value hc).1, List.length_cons]
      omega

/-- The worker goes on until it waits, which it does before long. -/
theorem step?_runFor {fuel : Nat} (h : x.commands.sendersGone = false) (hfuel : x.load ≤ fuel) :
    (runFor answers fuel x).2.step? answers = none := by
  induction fuel generalizing x with
  | zero =>
      cases hstep : x.step? answers with
      | none => exact hstep
      | some next =>
          have hless := load_step (Step.of_step? h hstep)
          omega
  | succ fuel ih =>
      cases hstep : x.step? answers with
      | none => simp only [runFor, hstep]
      | some next =>
          have hless := load_step (Step.of_step? h hstep)
          simp only [runFor, hstep]
          exact ih ((sendersGone_step (.of_step? h hstep)).trans h) (by omega)

/-- The batch that is sent when there is something in it, with what its items are told. -/
def outgoing (x : Indexer κ) (answers : Nat → Answer) : List (Batch κ) :=
  if x.pending.isEmpty then []
  else [x.pending.zip ((answers x.sent.length).verdicts x.pending.length)]

end Indexer

/-! ## What becomes of batches -/

section Dealt

variable {answers : Nat → Answer} {batches : List (Batch κ)} {settled settling : Batch κ}
  {sent : List Bytes} {stats : Stats}

/-- What was settled, what is being settled, the requests and the counts come from these
batches, and each was told what the answer to its request says. -/
structure Dealt (answers : Nat → Answer) (batches : List (Batch κ)) (settled settling : Batch κ)
    (sent : List Bytes) (stats : Stats) : Prop where
  settled : settled ++ settling = batches.flatten
  nonempty : ∀ batch ∈ batches, batch ≠ []
  sent : sent = batches.map Batch.body
  verdicts : ∀ k batch, batches[k]? = some batch →
    batch.map Prod.snd = (answers k).verdicts batch.length
  flushed : stats.flushed = batches.flatten.length
  indexed : stats.indexed = Batch.stored batches.flatten
  failed : stats.indexed + stats.failed = stats.flushed
  requests : stats.requests = batches.length

theorem dealt_nil (answers : Nat → Answer) : Dealt (κ := κ) answers [] [] [] [] {} where
  settled := rfl
  nonempty := by simp
  sent := rfl
  verdicts := by simp
  flushed := rfl
  indexed := rfl
  failed := rfl
  requests := rfl

theorem Dealt.concat (h : Dealt answers batches settled [] sent stats) {batch : Batch κ}
    (hne : batch ≠ [])
    (hverdicts : batch.map Prod.snd = (answers sent.length).verdicts batch.length) :
    Dealt answers (batches ++ [batch]) settled batch (sent ++ [batch.body])
      { stats with
        flushed := stats.flushed + batch.length
        indexed := stats.indexed + batch.stored
        failed := stats.failed + (batch.length - batch.stored)
        requests := stats.requests + 1 } := by
  refine ⟨?_, ?_, ?_, ?_, ?_, ?_, ?_, ?_⟩
  · simp [← h.settled]
  · intro other hother
    rcases List.mem_append.1 hother with hother | hother
    · exact h.nonempty other hother
    · rwa [List.mem_singleton.1 hother]
  · simp [h.sent]
  · intro k other hk
    rcases Nat.lt_or_ge k batches.length with hlt | hge
    · rw [List.getElem?_append_left hlt] at hk
      exact h.verdicts k other hk
    · rw [List.getElem?_append_right hge, List.getElem?_singleton] at hk
      split at hk
      · rename_i hzero
        obtain rfl := Option.some.inj hk
        -- As many requests were sent before this one as there are batches.
        have hsent : sent.length = batches.length := by rw [h.sent, List.length_map]
        rw [hverdicts, hsent, Nat.le_antisymm (Nat.le_of_sub_eq_zero hzero) hge]
      · cases hk
  · simp [h.flushed]
  · simp [h.indexed, Batch.stored_append]
  · have hle := batch.stored_le
    have hfailed := h.failed
    dsimp only
    omega
  · simp [h.requests]

theorem Dealt.flush {x : Indexer κ}
    (h : Dealt answers batches settled x.settling x.sent x.stats) (hidle : x.settling = []) :
    Dealt answers (batches ++ x.outgoing answers) settled (x.flush answers).settling
      (x.flush answers).sent (x.flush answers).stats := by
  rw [Indexer.outgoing, Indexer.flush]
  split
  · rwa [List.append_nil]
  · rename_i hpending
    rw [hidle] at h
    have hlength := Answer.length_verdicts (answers x.sent.length) x.pending.length
    generalize hverdicts : (answers x.sent.length).verdicts x.pending.length = verdicts at hlength
    have hfst : (x.pending.zip verdicts).map Prod.fst = x.pending :=
      List.map_fst_zip (Nat.le_of_eq hlength.symm)
    have hsnd : (x.pending.zip verdicts).map Prod.snd = verdicts :=
      List.map_snd_zip (Nat.le_of_eq hlength)
    have hsize : (x.pending.zip verdicts).length = x.pending.length := by
      simp [hlength]
    have hstored : Batch.stored (x.pending.zip verdicts) =
        (verdicts.filter Indexer.isGood).length := by
      rw [Batch.stored, ← hsnd, List.filter_map, List.length_map, hsnd]
      rfl
    have hne : x.pending.zip verdicts ≠ [] := by
      intro hnil
      rw [hnil] at hfst
      exact hpending (List.isEmpty_iff.2 hfst.symm)
    have hconcat := h.concat hne (by rw [hsnd, hsize, hverdicts])
    rw [hsize, hstored, Batch.body, hfst] at hconcat
    subst hverdicts
    exact hconcat

end Dealt

/-! ## When batches are sent -/

theorem length_body_le {part batch : List (Item κ)} (h : part <+: batch) :
    (body part).length ≤ (body batch).length := by
  obtain ⟨rest, rfl⟩ := h
  simp [body]

/-- As long as the timer does not run out, a batch is sent as soon as it is large enough,
or at the end. A part of a batch that is empty is none. -/
structure Gathered (flushBytes : Nat) (x : Indexer κ) (batches : List (Batch κ)) : Prop where
  threshold : x.flushBytes = flushBytes
  pending : x.pending ≠ [] → (body x.pending).length < flushBytes
  full : ∀ batch ∈ batches.dropLast, flushBytes ≤ batch.body.length
  last_full : x.closing = false → ∀ batch ∈ batches, flushBytes ≤ batch.body.length
  least : ∀ batch ∈ batches, ∀ part, part <+: batch.map Prod.fst → part ≠ batch.map Prod.fst →
    part ≠ [] → (body part).length < flushBytes

section Gathered

variable {flushBytes : Nat} {x : Indexer κ} {batches : List (Batch κ)} {answers : Nat → Answer}

theorem outgoing_of_ne_nil (h : x.pending ≠ []) :
    x.outgoing answers =
      [x.pending.zip ((answers x.sent.length).verdicts x.pending.length)] := by
  rw [Indexer.outgoing, if_neg (by simpa using h)]

theorem Gathered.least_pending (h : Gathered flushBytes x batches) {part : List (Item κ)}
    (hpart : part <+: x.pending) (hne : part ≠ []) : (body part).length < flushBytes := by
  have hpending : x.pending ≠ [] := fun hnil => hne (List.prefix_nil.1 (hnil ▸ hpart))
  exact Nat.lt_of_le_of_lt (length_body_le hpart) (h.pending hpending)

theorem Gathered.concat (h : Gathered flushBytes x batches) (hopen : x.closing = false)
    {y : Indexer κ} (hthreshold : y.flushBytes = flushBytes) (hpending : y.pending = [])
    {batch : Batch κ} (hfull : y.closing = false → flushBytes ≤ batch.body.length)
    (hleast : ∀ part, part <+: batch.map Prod.fst → part ≠ batch.map Prod.fst → part ≠ [] →
      (body part).length < flushBytes) :
    Gathered flushBytes y (batches ++ [batch]) := by
  refine ⟨hthreshold, fun hne => absurd hpending hne, ?_, ?_, ?_⟩
  · rw [List.dropLast_concat]
    exact h.last_full hopen
  · intro hopen' other hother
    rcases List.mem_append.1 hother with hother | hother
    · exact h.last_full hopen other hother
    · rw [List.mem_singleton.1 hother]
      exact hfull hopen'
  · intro other hother
    rcases List.mem_append.1 hother with hother | hother
    · exact h.least other hother
    · rw [List.mem_singleton.1 hother]
      exact hleast

/-- What goes on in the batch that is being gathered is no matter as long as it is small. -/
theorem Gathered.congr (h : Gathered flushBytes x batches) {y : Indexer κ}
    (hthreshold : y.flushBytes = x.flushBytes) (hclosing : y.closing = false → x.closing = false)
    (hpending : y.pending ≠ [] → (body y.pending).length < flushBytes) :
    Gathered flushBytes y batches :=
  ⟨hthreshold.trans h.threshold, hpending, h.full, fun hopen => h.last_full (hclosing hopen),
    h.least⟩

theorem Gathered.fills (h : Gathered flushBytes x batches) (hopen : x.closing = false)
    {item : Item κ} {commands : Channel (Command κ)}
    (hlarge : x.flushBytes ≤ (body (x.pending ++ [item])).length) :
    Gathered flushBytes ((x.taking item commands).flush answers)
      (batches ++ (x.taking item commands).outgoing answers) := by
  have hne : (x.taking item commands).pending ≠ [] := List.concat_ne_nil item x.pending
  have hfst : (x.taking item commands).pending = x.pending ++ [item] := rfl
  rw [outgoing_of_ne_nil hne]
  refine h.concat hopen ?_ (Indexer.pending_flush answers) (fun _ => ?_) ?_
  · rw [Indexer.flushBytes_flush]
    exact h.threshold
  · rw [Batch.body, Indexer.map_fst_zip, hfst, ← h.threshold]
    exact hlarge
  · intro part hpart hproper hpart_ne
    rw [Indexer.map_fst_zip, hfst] at hpart hproper
    -- It was not large enough without its last item.
    have hbefore := (List.prefix_concat_iff.1 hpart).resolve_left hproper
    exact h.least_pending hbefore hpart_ne

theorem Gathered.closes (h : Gathered flushBytes x batches) (hopen : x.closing = false)
    {commands : Channel (Command κ)} :
    Gathered flushBytes (Indexer.closed { x with commands } answers).leave
      (batches ++ x.outgoing answers) := by
  have hpending : (Indexer.closed { x with commands } answers).leave.pending = [] := by
    rw [Indexer.pending_leave]
    exact Indexer.pending_flush answers
  have hthreshold : (Indexer.closed { x with commands } answers).leave.flushBytes =
      x.flushBytes := by
    rw [Indexer.flushBytes_leave]
    exact Indexer.flushBytes_flush _ answers
  have hclosing : (Indexer.closed { x with commands } answers).leave.closing = true :=
    Indexer.closing_leave _
  by_cases hempty : x.pending = []
  · have hnone : x.outgoing answers = [] := by simp [Indexer.outgoing, hempty]
    rw [hnone, List.append_nil]
    exact h.congr hthreshold (fun _ => hopen) (fun hne => absurd hpending hne)
  · rw [outgoing_of_ne_nil hempty]
    refine h.concat hopen (hthreshold.trans h.threshold) hpending (fun hopen' => ?_) ?_
    · rw [hclosing] at hopen'
      cases hopen'
    · intro part hpart _ hpart_ne
      rw [Indexer.map_fst_zip] at hpart
      exact h.least_pending hpart hpart_ne

end Gathered

/-! ## One step -/

/-- A step keeps the accounts, with one batch more if it sends one. -/
theorem Dealt.step {x y : Indexer κ} {answers : Nat → Answer} {batches : List (Batch κ)}
    {settled : Batch κ} {told : Option (Item κ × Verdict)}
    (h : Dealt answers batches settled x.settling x.sent x.stats)
    (hstep : Indexer.Step answers x told y) :
    ∃ more, Dealt answers (batches ++ more) (settled ++ told.toList) y.settling y.sent y.stats ∧
      ∀ flushBytes, Gathered flushBytes x batches → Gathered flushBytes y (batches ++ more) := by
  cases hstep with
  | @settles next rest hsettling =>
      refine ⟨[], ?_, fun flushBytes hg => ?_⟩
      · rw [Indexer.settling_leave, Indexer.sent_leave, Indexer.stats_leave, List.append_nil]
        rw [hsettling] at h
        exact { h with settled := by simpa using h.settled }
      · rw [List.append_nil]
        exact hg.congr (Indexer.flushBytes_leave _) (by simp) (by simpa using hg.pending)
  | takes hidle hc hsmall =>
      refine ⟨[], ?_, fun flushBytes hg => ?_⟩
      · rw [List.append_nil, Option.toList_none, List.append_nil]
        exact h
      · rw [List.append_nil]
        exact hg.congr rfl id fun _ => hg.threshold ▸ hsmall
  | fills hidle hc hlarge =>
      obtain ⟨hopen, hsettling⟩ := Indexer.isIdle_iff.1 hidle
      refine ⟨_, ?_, fun flushBytes hg => hg.fills hopen hlarge⟩
      rw [Option.toList_none, List.append_nil]
      exact Dealt.flush h hsettling
  | @closes commands hidle hc =>
      obtain ⟨hopen, hsettling⟩ := Indexer.isIdle_iff.1 hidle
      refine ⟨_, ?_, fun flushBytes hg => hg.closes hopen⟩
      rw [Indexer.settling_leave, Indexer.sent_leave, Indexer.stats_leave, Option.toList_none,
        List.append_nil]
      exact Dealt.flush (x := { x with commands }) h hsettling

end ClusterEvents.Bulk
