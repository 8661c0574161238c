import ClusterEvents.Proofs.Consumer.Effects
import Mathlib.Data.List.Flatten
import Mathlib.Data.List.Perm.Subperm

/-!
# Accounts of a run

The notes of a run say what the consumer has to account for. A processed message leads to
an acknowledgment at once, or to an item, or to nothing at all; an item leads to an
acknowledgment if it is reported as stored. What is still owed is part of what was due,
and items that are not reported yet make up for the queued ones with those that are.

If queued items carry their own message, no message is thus in two places at once, as
long as the log has none twice.
-/

namespace ClusterEvents

/-- What becomes of a message in a state. -/
def Wiring.disposition {σ ε : Type} (w : Wiring σ ε) (x : Message × σ) : Disposition ε :=
  (w.process x.1 x.2).disposition

/-- Queued items carry the message that they come from. -/
def Wiring.IsTicketed {σ ε : Type} (w : Wiring σ ε) : Prop :=
  ∀ x, ∀ item ∈ (w.disposition x).items, item.ticket = x.1

namespace Consumer

variable {σ ε : Type}

namespace Note

/-- The message that was processed, with the state it was processed in. -/
def visit? : Note σ → Option (Message × σ)
  | .processed m s => some (m, s)
  | .reported _ _ => none

/-- The item that was reported, and how. -/
def report? : Note σ → Option (Bulk.Item Message × Bulk.Verdict)
  | .processed _ _ => none
  | .reported item verdict => some (item, verdict)

/-- The acknowledgments that are due for what is noted. -/
def acks (w : Wiring σ ε) : Note σ → List Ack
  | .processed m s => (w.disposition (m, s)).acks m
  | .reported item verdict => acksOf item verdict

end Note

/-- The messages that were processed, in order. -/
def visited (told : List (Note σ)) : List (Message × σ) :=
  told.filterMap Note.visit?

/-- The messages that were fetched, in order. -/
def fetched (told : List (Note σ)) : List Message :=
  (visited told).map Prod.fst

/-- What was reported, in order. -/
def reports (told : List (Note σ)) : List (Bulk.Item Message × Bulk.Verdict) :=
  told.filterMap Note.report?

/-- The items that messages led to, in the order of the messages. -/
def queued (w : Wiring σ ε) (told : List (Note σ)) : List (Bulk.Item Message) :=
  (visited told).flatMap fun x => (w.disposition x).items

/-- All acknowledgments that are due. -/
def due (w : Wiring σ ε) (told : List (Note σ)) : List Ack :=
  told.flatMap (Note.acks w)

section Append

variable (w : Wiring σ ε) (told new : List (Note σ))

@[simp] theorem visited_append : visited (told ++ new) = visited told ++ visited new :=
  List.filterMap_append

@[simp] theorem fetched_append : fetched (told ++ new) = fetched told ++ fetched new := by
  simp [fetched]

@[simp] theorem reports_append : reports (told ++ new) = reports told ++ reports new :=
  List.filterMap_append

@[simp] theorem queued_append : queued w (told ++ new) = queued w told ++ queued w new := by
  simp [queued]

@[simp] theorem due_append : due w (told ++ new) = due w told ++ due w new :=
  List.flatMap_append

end Append

section Single

variable (w : Wiring σ ε) (m : Message) (state : σ) (item : Bulk.Item Message)
  (verdict : Bulk.Verdict)

@[simp] theorem visited_processed : visited [Note.processed m state] = [(m, state)] := rfl

@[simp] theorem reports_processed : reports [Note.processed m state] = [] := rfl

@[simp] theorem queued_processed :
    queued w [.processed m state] = (w.disposition (m, state)).items :=
  List.append_nil _

@[simp] theorem due_processed :
    due w [.processed m state] = (w.disposition (m, state)).acks m :=
  List.append_nil _

@[simp] theorem reports_reported :
    reports [(Note.reported item verdict : Note σ)] = [(item, verdict)] := rfl

@[simp] theorem queued_reported : queued w [.reported item verdict] = [] := rfl

@[simp] theorem due_reported : due w [.reported item verdict] = acksOf item verdict :=
  List.append_nil _

end Single

/-- What a run has come to, compared with its notes. -/
structure Accounts (w : Wiring σ ε) (plan : Plan σ) (told : List (Note σ))
    (s : Consumer σ ε) : Prop where
  /-- Messages are fetched in the order of the log. -/
  log : fetched told ++ s.unfetched = plan.log
  items : ((reports told).map Prod.fst ++ s.items).Perm (queued w told)
  owed : s.owed.Subperm (due w told)
  /-- The reader goes on after no message that cannot be handled. -/
  unfailed : (visited told).Pairwise fun x _ => (w.disposition x).error? = none
  fatal : ∀ x ∈ visited told, ∀ e, (w.disposition x).error? = some e →
    s.phase.fatal? = some e
  fatal_last : ∀ e, s.phase.fatal? = some e →
    ∃ x ∈ (visited told).getLast?, (w.disposition x).error? = some e

variable {w : Wiring σ ε} {plan : Plan σ} {acts : List Act} {act : Act}
  {told new : List (Note σ)} {s t last : Consumer σ ε}

namespace Accounts

theorem start : Accounts w plan [] plan.start where
  log := rfl
  items := List.Perm.refl _
  owed := List.nil_subperm
  unfailed := List.Pairwise.nil
  fatal := fun x hx => by cases hx
  fatal_last := fun e he => by cases he

/-- Accounts after an act of which only reports are noted. -/
theorem frame (h : Accounts w plan told s) (hunfetched : t.unfetched = s.unfetched)
    (hfatal : t.phase.fatal? = s.phase.fatal?) (hnew : visited new = [])
    (hitems : ((reports (told ++ new)).map Prod.fst ++ t.items).Perm (queued w told))
    (howed : t.owed.Subperm (due w (told ++ new))) : Accounts w plan (told ++ new) t := by
  have hsame : visited (told ++ new) = visited told := by
    rw [visited_append, hnew, List.append_nil]
  refine ⟨?_, ?_, howed, ?_, ?_, ?_⟩
  · rw [fetched, hsame, hunfetched]
    exact h.log
  · rw [queued, hsame]
    exact hitems
  · rw [hsame]
    exact h.unfailed
  · rw [hsame, hfatal]
    exact h.fatal
  · rw [hsame, hfatal]
    exact h.fatal_last

theorem report (h : Accounts w plan told s) (hframe : Frame s t)
    {item : Bulk.Item Message} {verdict : Bulk.Verdict}
    (howed : t.owed.Perm (acksOf item verdict ++ s.owed))
    (hitems : s.items.Perm (item :: t.items)) :
    Accounts w plan (told ++ [.reported item verdict]) t := by
  refine h.frame hframe.unfetched hframe.fatal rfl ?_ ?_
  · refine List.Perm.trans ?_ h.items
    rw [reports_append, List.map_append, List.append_assoc]
    exact hitems.symm.append_left _
  · rw [due_append, due_reported]
    refine howed.subperm.trans ?_
    refine List.Subperm.trans ?_ List.perm_append_comm.subperm
    exact (List.subperm_append_left _).2 h.owed

theorem visit (h : Accounts w plan told s) {m : Message}
    (hunfetched : s.unfetched = m :: t.unfetched)
    (hfatal : s.phase.fatal? = none ∧ t.phase.fatal? = (w.disposition (m, s.state)).error?)
    (howed : t.owed = s.owed ++ (w.disposition (m, s.state)).acks m)
    (hitems : t.items = s.items ++ (w.disposition (m, s.state)).items) :
    Accounts w plan (told ++ [.processed m s.state]) t := by
  have hbefore : ∀ x ∈ visited told, (w.disposition x).error? = none := fun x hx => by
    cases he : (w.disposition x).error? with
    | none => rfl
    | some e => cases hfatal.1.symm.trans (h.fatal x hx e he)
  refine ⟨?_, ?_, ?_, ?_, ?_, ?_⟩
  · rw [fetched_append, List.append_assoc, ← h.log, hunfetched]
    rfl
  · rw [reports_append, reports_processed, List.append_nil, hitems, ← List.append_assoc,
      queued_append, queued_processed]
    exact h.items.append_right _
  · rw [due_append, due_processed, howed]
    exact (List.subperm_append_right _).2 h.owed
  · rw [visited_append, visited_processed]
    refine List.pairwise_append.2 ⟨h.unfailed, List.pairwise_singleton _ _, ?_⟩
    exact fun x hx _ _ => hbefore x hx
  · intro x hx e he
    rw [visited_append, visited_processed] at hx
    rcases List.mem_append.1 hx with hx | hx
    · cases (hbefore x hx).symm.trans he
    · obtain rfl := List.mem_singleton.1 hx
      rw [hfatal.2, he]
  · intro e he
    rw [visited_append, visited_processed, List.getLast?_concat]
    exact ⟨_, rfl, hfatal.2.symm.trans he⟩

theorem step (h : Accounts w plan told s) (heffect : Effect w s t act new) :
    Accounts w plan (told ++ new) t := by
  cases heffect with
  | still frame owed items =>
      refine h.frame frame.unfetched frame.fatal rfl ?_ ?_
      · rw [List.append_nil, items]
        exact h.items
      · rw [List.append_nil, owed]
        exact h.owed
  | processed unfetched tracker commits fatal owed items => exact h.visit unfetched fatal owed items
  | settled frame owed items => exact h.report frame owed (List.Perm.of_eq items)
  | reported frame owed items => exact h.report frame owed items
  | committed unfetched tracker commits fatal owed items =>
      refine h.frame unfetched fatal rfl ?_ ?_
      · rw [List.append_nil, items]
        exact h.items
      · have hrest := h.owed
        rw [owed] at hrest
        rw [List.append_nil]
        exact (List.sublist_cons_self _ _).subperm.trans hrest

end Accounts

theorem accounts_of_follow (h : follow? w acts plan.start = some (told, last)) :
    Accounts w plan told last :=
  effect_induction (P := fun _ told t => Accounts w plan told t) Accounts.start
    (fun _ hs _ heffect => hs.step heffect) h

/-! ## Where a message is -/

/-- The messages that an acknowledgment or an item is on its way for. -/
def custody (s : Consumer σ ε) : List Message :=
  s.owed.map Ack.message ++ s.items.map (·.ticket)

/-- A message leads to one acknowledgment, or to one item, or to nothing. -/
theorem sublist_singleton (hw : w.IsTicketed) (x : Message × σ) :
    (((w.disposition x).acks x.1).map Ack.message ++
      (w.disposition x).items.map (·.ticket)).Sublist [x.1] := by
  have hticket := hw x
  cases hd : w.disposition x with
  | done => exact List.Sublist.refl _
  | skipped => exact List.Sublist.refl _
  | held => exact List.nil_sublist _
  | queued item =>
      rw [hd] at hticket
      have hitem : item.ticket = x.1 := hticket item List.mem_cons_self
      simp [Disposition.acks, Disposition.items, hitem]
  | failed e => exact List.nil_sublist _

/-- What is due comes from the messages themselves and from reports. -/
theorem due_perm (told : List (Note σ)) :
    (due w told).Perm (((visited told).flatMap fun x => (w.disposition x).acks x.1) ++
      (reports told).flatMap fun report => acksOf report.1 report.2) := by
  induction told with
  | nil => exact List.Perm.refl _
  | cons note told ih =>
      cases note with
      | processed m state =>
          have hdue : due w (.processed m state :: told) =
              (w.disposition (m, state)).acks m ++ due w told := rfl
          rw [hdue]
          exact (ih.append_left _).trans (List.Perm.of_eq (List.append_assoc _ _ _).symm)
      | reported item verdict =>
          have hdue : due w (.reported item verdict :: told) =
              acksOf item verdict ++ due w told := rfl
          rw [hdue]
          refine (ih.append_left _).trans ?_
          exact List.perm_append_comm_assoc _ _ _

theorem map_acksOf_sublist (reported : List (Bulk.Item Message × Bulk.Verdict)) :
    ((reported.flatMap fun report => acksOf report.1 report.2).map Ack.message).Sublist
      (reported.map fun report => report.1.ticket) := by
  induction reported with
  | nil => exact List.Sublist.refl _
  | cons report reported ih =>
      obtain ⟨item, verdict⟩ := report
      cases verdict with
      | error e => exact ih.cons _
      | ok u => exact ih.cons_cons _

namespace Accounts

/-- Queued items come from messages of their own. -/
theorem queued_sublist (hw : w.IsTicketed) (told : List (Note σ)) :
    ((queued w told).map (·.ticket)).Sublist (fetched told) := by
  rw [queued, fetched, List.map_flatMap, List.map_eq_flatMap]
  refine List.Sublist.flatMap_right _ fun x _ => ?_
  exact (List.sublist_append_right _ _).trans (sublist_singleton hw x)

/-- No message is in two places. -/
theorem custody_subperm (h : Accounts w plan told s) (hw : w.IsTicketed) :
    (custody s).Subperm (fetched told) := by
  -- what is owed is due for the messages themselves or for reports
  have howed : (s.owed.map Ack.message).Subperm
      (((visited told).flatMap fun x => ((w.disposition x).acks x.1).map Ack.message) ++
        (reports told).map fun report => report.1.ticket) := by
    obtain ⟨l, hperm, hsub⟩ := h.owed
    have hmap : (s.owed.map Ack.message).Subperm ((due w told).map Ack.message) :=
      ⟨l.map _, hperm.map _, hsub.map _⟩
    refine hmap.trans (((due_perm told).map Ack.message).subperm.trans ?_)
    rw [List.map_append, List.map_flatMap]
    exact ((map_acksOf_sublist _).append_left _).subperm
  -- and what was reported makes up with what was not for what was queued
  have hitems : (((reports told).map fun report => report.1.ticket) ++
      s.items.map (·.ticket)).Perm ((queued w told).map (·.ticket)) := by
    have hmap := h.items.map (·.ticket)
    rwa [List.map_append, List.map_map] at hmap
  refine ((List.subperm_append_right _).2 howed).trans ?_
  rw [List.append_assoc]
  refine (hitems.append_left _).subperm.trans ?_
  rw [queued, List.map_flatMap]
  refine (List.flatMap_append_perm _ _ _).subperm.trans ?_
  rw [fetched, List.map_eq_flatMap]
  exact (List.Sublist.flatMap_right _ fun x _ => sublist_singleton hw x).subperm

end Accounts

/-! ## What has been handled -/

/-- A message is handled if it was dropped, or carried out at once, or if its item was
reported as stored. -/
def IsHandled (w : Wiring σ ε) (told : List (Note σ)) (x : Message × σ) : Prop :=
  match w.disposition x with
  | .done | .skipped => True
  | .queued item => (item, .ok ()) ∈ reports told
  | .held | .failed _ => False

theorem IsHandled.mono {x : Message × σ} (h : IsHandled w told x) :
    IsHandled w (told ++ new) x := by
  unfold IsHandled at h ⊢
  cases hd : w.disposition x with
  | queued item =>
      rw [hd] at h
      rw [reports_append]
      exact List.mem_append_left _ h
  | done => trivial
  | skipped => trivial
  | held | failed _ =>
      rw [hd] at h
      cases h

/-- Messages that an acknowledgment is owed for are handled. -/
theorem Accounts.isHandled_of_owed (h : Accounts w plan told s) (hw : w.IsTicketed)
    {ack : Ack} (hack : ack ∈ s.owed) :
    ∃ x ∈ visited told, x.1 = ack.message ∧ IsHandled w told x := by
  have hdue : ack ∈ due w told := h.owed.subset hack
  rcases List.mem_append.1 ((due_perm told).subset hdue) with hvisited | hreported
  · obtain ⟨x, hx, hmem⟩ := List.mem_flatMap.1 hvisited
    refine ⟨x, hx, ?_⟩
    unfold IsHandled
    cases hd : w.disposition x with
    | done =>
        rw [hd] at hmem
        obtain rfl := List.mem_singleton.1 hmem
        exact ⟨rfl, trivial⟩
    | skipped =>
        rw [hd] at hmem
        obtain rfl := List.mem_singleton.1 hmem
        exact ⟨rfl, trivial⟩
    | _ =>
        rw [hd] at hmem
        cases hmem
  · obtain ⟨⟨item, verdict⟩, hreport, hmem⟩ := List.mem_flatMap.1 hreported
    have hqueued : item ∈ queued w told :=
      h.items.subset (List.mem_append_left _ (List.mem_map_of_mem hreport))
    obtain ⟨x, hx, hitem⟩ := List.mem_flatMap.1 hqueued
    refine ⟨x, hx, ?_⟩
    have hticket := hw x item hitem
    unfold IsHandled
    cases hd : w.disposition x with
    | queued item' =>
        rw [hd] at hitem
        obtain rfl := List.mem_singleton.1 hitem
        cases verdict with
        | ok u =>
            obtain rfl := List.mem_singleton.1 hmem
            exact ⟨hticket.symm, hreport⟩
        | error e => cases hmem
    | _ =>
        rw [hd] at hitem
        cases hitem

end Consumer

end ClusterEvents
