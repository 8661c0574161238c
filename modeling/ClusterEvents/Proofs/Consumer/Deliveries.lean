import ClusterEvents.Proofs.Consumer.Accounts
import ClusterEvents.Proofs.Consumer.Moves
import ClusterEvents.Proofs.Bulk.Sessions

/-!
# What is queued is delivered

The indexer of a consumer knows nothing of the other parties. The reader asks it for items
and at last to close, the worker has it take its steps, and the timer runs out now and
then; so whatever the parties do, the indexer goes through a session as it is followed in
`Bulk.Session`, and what it settles on the way is what is reported (`Delivers`). One move
of a party is at most one act of the session.

What holds of sessions thus holds of consumers. When everything has come to its end, each
item that was queued was sent once and was reported as its place in an answer of the store
says (`exists_delivered_of_isFinished`).
-/

namespace ClusterEvents

open Bulk

namespace Phase

variable {ε : Type}

/-- The command to close, once the reader has given it. -/
def farewell (phase : Phase ε) : List (Command Message) :=
  if phase.isClosing then [.close] else []

theorem farewell_of_open {phase : Phase ε} (h : phase.isClosing = false) :
    phase.farewell = [] := by
  rw [farewell, h]
  rfl

theorem item?_of_closing {phase : Phase ε} (h : phase.isClosing = true) :
    phase.item? = none := by
  cases phase with
  | draining r => rfl
  | stopping r => rfl
  | _ => cases h

end Phase

namespace Consumer

variable {σ ε : Type} {w : Wiring σ ε} {plan : Plan σ} {acts more : List (Bulk.Act Message)}
  {told new : List (Note σ)} {s t last : Consumer σ ε} {moves : List Move}

/-- What a party has the indexer do when it moves. -/
def asks (s : Consumer σ ε) : Move → List (Bulk.Act Message)
  | .read =>
    match s.phase with
    | .storing item => [.submit (.add item)]
    | .ended _ => [.submit .close]
    | _ => []
  | .work => [.step]
  | .tick => [.tick]
  | .commit => []

/-- The indexer has done what it was asked to, and was asked for all that the reader has
passed on. -/
structure Delivers (w : Wiring σ ε) (plan : Plan σ) (acts : List (Bulk.Act Message))
    (told : List (Note σ)) (s : Consumer σ ε) : Prop where
  run : Session.run? w.answers acts ⟨.new plan.flushBytes plan.delivery.bulkBuffer, []⟩ =
    some ⟨s.indexer, reports told⟩
  asked : submitted acts ++ s.phase.item?.toList.map .add =
    (queued w told).map .add ++ s.phase.farewell

namespace Delivers

theorem start : Delivers w plan [] [] plan.start := ⟨rfl, rfl⟩

/-- The reader gives no command. -/
theorem go (h : Delivers w plan acts told s) (hitem : t.phase.item? = s.phase.item?)
    (hclosing : t.phase.isClosing = s.phase.isClosing) (hmore : submitted more = [])
    (hnew : queued w new = [])
    (hrun : Session.run? w.answers more ⟨s.indexer, reports told⟩ =
      some ⟨t.indexer, reports told ++ reports new⟩) :
    Delivers w plan (acts ++ more) (told ++ new) t := by
  refine ⟨?_, ?_⟩
  · rw [Session.run?_append, h.run, Option.bind_some, hrun, reports_append]
  · rw [submitted_append, hmore, List.append_nil, queued_append, hnew, List.append_nil, hitem,
      Phase.farewell, hclosing]
    exact h.asked

/-- The indexer does not notice. -/
theorem pass (h : Delivers w plan acts told s) (hindexer : t.indexer = s.indexer)
    (hitem : t.phase.item? = s.phase.item?) (hclosing : t.phase.isClosing = s.phase.isClosing) :
    Delivers w plan (acts ++ []) (told ++ []) t := by
  refine h.go hitem hclosing rfl rfl ?_
  simp [Session.run?, reports, hindexer]

/-- The reader gives a command. -/
theorem ask (h : Delivers w plan acts told s) {command : Command Message}
    (hcommand : s.phase.item?.toList.map .add ++ t.phase.farewell = [command])
    (hopen : s.phase.isClosing = false) (hitem : t.phase.item? = none)
    (hrun : (⟨s.indexer, reports told⟩ : Session Message).submit? command =
      some ⟨t.indexer, reports told⟩) :
    Delivers w plan (acts ++ [.submit command]) (told ++ []) t := by
  rw [List.append_nil]
  refine ⟨?_, ?_⟩
  · rw [Session.run?_append, h.run, Option.bind_some, Session.run?_cons, Session.act?, hrun]
    rfl
  · have hasked := h.asked
    rw [Phase.farewell_of_open hopen, List.append_nil] at hasked
    rw [submitted_append, hitem, ← hasked, List.append_assoc _ _ t.phase.farewell, hcommand]
    exact List.append_nil _

theorem fetch (h : Delivers w plan acts told s) (hphase : s.phase = .fetching) :
    Delivers w plan (acts ++ []) (told ++ s.notes (.move .read)) (s.fetch w) := by
  rcases fetch_spec w hphase with ⟨r, -, hfetch, hnotes⟩ | ⟨m, rest, n, -, hfetch, hnotes⟩
  · rw [hfetch, hnotes]
    exact h.pass rfl (by rw [hphase]; rfl) (by rw [hphase]; rfl)
  · have hasked : submitted acts = (queued w told).map .add := by
      simpa [hphase, Phase.farewell, Phase.isClosing] using h.asked
    rw [hfetch, hnotes, List.append_nil]
    refine ⟨?_, ?_⟩
    · rw [reports_append, reports_processed, List.append_nil]
      exact h.run
    · rw [queued_append, queued_processed, hasked, Phase.item?_phase,
        Phase.farewell_of_open (Phase.isClosing_phase _ _), List.append_nil, List.map_append]
      rfl

theorem read (h : Delivers w plan acts told s) (hs : s.InOrder) (ht : s.read? w = some t) :
    Delivers w plan (acts ++ s.asks .read) (told ++ s.notes (.move .read)) t := by
  by_cases hfetching : s.phase = .fetching
  · rw [read?, hfetching] at ht
    obtain rfl := Option.some.inj ht
    rw [asks, hfetching]
    exact h.fetch hfetching
  · rw [notes_read_of_ne hfetching]
    cases Reads.of_read? hs ht with
    | ends hphase => exact absurd hphase hfetching
    | processes hphase _ => exact absurd hphase hfetching
    | acknowledges hphase _ =>
        rw [asks, hphase]
        exact h.pass rfl (by rw [hphase]; rfl) (by rw [hphase]; rfl)
    | stores hphase hadd =>
        rw [asks, hphase]
        refine h.ask (by rw [hphase]; rfl) (by rw [hphase]; rfl) rfl ?_
        exact Session.submit?_add_eq_some_iff.2 ⟨_, hadd, rfl⟩
    | closes hphase hclose =>
        rw [asks, hphase]
        refine h.ask (by rw [hphase]; rfl) (by rw [hphase]; rfl) rfl ?_
        exact Session.submit?_close_eq_some_iff.2 ⟨_, hclose, rfl⟩
    | stops hphase =>
        rw [asks, hphase]
        exact h.pass rfl (by rw [hphase]; rfl) (by rw [hphase]; rfl)

theorem work (h : Delivers w plan acts told s) (ht : s.work? w = some t) :
    Delivers w plan (acts ++ [.step]) (told ++ s.notes (.move .work)) t := by
  obtain ⟨hphase, settled, hstep, hnotes⟩ := step?_of_work? ht
  rw [hnotes]
  refine h.go (congrArg _ hphase) (congrArg _ hphase) rfl ?_ ?_
  · cases settled <;> rfl
  · rw [Session.run?_cons, Session.act?, hstep]
    cases settled <;> rfl

theorem tick (h : Delivers w plan acts told s) (ht : s.tick? w = some t) :
    Delivers w plan (acts ++ [.tick]) (told ++ []) t := by
  obtain ⟨indexer, htick, rfl⟩ := Option.map_eq_some_iff.1 ht
  refine h.go rfl rfl rfl rfl ?_
  simp [Session.run?, Session.act?, htick, reports]

theorem commit (h : Delivers w plan acts told s) (ht : s.commit? w = some t) :
    Delivers w plan (acts ++ []) (told ++ []) t := by
  cases Commits.of_commit? ht with
  | takes _ _ _ hphase hindexer _ => exact h.pass hindexer (congrArg _ hphase) (congrArg _ hphase)
  | stops _ ht =>
      obtain rfl := ht
      exact h.pass rfl rfl rfl

theorem step (h : Delivers w plan acts told s) (hs : s.InOrder) {move : Move}
    (ht : s.step? w move = some t) :
    Delivers w plan (acts ++ s.asks move) (told ++ s.notes (.move move)) t := by
  cases move with
  | read => exact h.read hs ht
  | work => exact h.work ht
  | tick => exact h.tick ht
  | commit => exact h.commit ht

end Delivers

/-- The indexer of a consumer goes through a session of its own. -/
theorem delivers_of_follow (h : follow? w (moves.map .move) plan.start = some (told, last)) :
    ∃ acts, Delivers w plan acts told last := by
  induction moves using List.reverseRecOn generalizing told last with
  | nil =>
      obtain ⟨rfl, rfl⟩ := Prod.mk.inj (Option.some.inj h)
      exact ⟨[], .start⟩
  | append_singleton moves move ih =>
      rw [List.map_append] at h
      obtain ⟨before, s, hbefore, hstep, rfl⟩ := follow?_concat.1 h
      obtain ⟨acts, hdelivers⟩ := ih hbefore
      exact ⟨_, hdelivers.step (inOrder_of_follow hbefore) hstep⟩

/-- When everything has come to its end, all items that were queued have been sent, in
batches, and each was reported as the answer to its batch decides. -/
theorem exists_delivered_of_isFinished
    (h : follow? w (moves.map .move) plan.start = some (told, last))
    (hfinished : last.isFinished = true) :
    ∃ batches, Session.Delivered w.answers (queued w told) batches
      ⟨last.indexer, reports told⟩ := by
  have hstopping : last.isStopping = true := (Bool.and_eq_true_iff.1 hfinished).1
  have hclosing := isClosing_of_isStopping hstopping
  obtain ⟨acts, hdelivers⟩ := delivers_of_follow h
  have hasked : submitted acts = (queued w told).map .add ++ [.close] := by
    have hasked := hdelivers.asked
    rw [Phase.item?_of_closing hclosing, Phase.farewell, if_pos hclosing] at hasked
    exact (List.append_nil _).symm.trans hasked
  have horderly : Session.Orderly (submitted acts) := hasked ▸ Session.orderly_concat _
  obtain ⟨batches, haccounts, -⟩ := (Session.accounts_new w.answers _ _).run horderly hdelivers.run
  rw [List.nil_append, hasked] at haccounts
  exact ⟨batches, haccounts.delivered ((inOrder_of_follow h).stopped hstopping)⟩

end Consumer

end ClusterEvents
