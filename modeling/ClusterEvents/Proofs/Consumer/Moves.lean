import ClusterEvents.Proofs.Consumer.Effects

/-!
# What a party does in one move

The effects of a move tell what becomes of messages. For all else that a move keeps or
changes it is taken apart here once, party by party: what the reader was about to do and has
done (`Reads`), that the worker does a step of the indexer (`Works`), and what the commit
loop takes out of its channel (`Commits`). Channels that nobody receives from do not occur.
-/

namespace ClusterEvents

namespace Consumer

variable {σ ε : Type} {w : Wiring σ ε} {s t : Consumer σ ε}

/-- What the reader does. -/
inductive Reads (w : Wiring σ ε) (s : Consumer σ ε) : Consumer σ ε → Prop
  | ends {r : RunResult ε} (hphase : s.phase = .fetching) : Reads w s { s with phase := .ended r }
  | processes {m : Message} {rest : List Message} (hphase : s.phase = .fetching)
      (hunfetched : s.unfetched = m :: rest) :
      Reads w s ({ s with unfetched := rest }.handle w m)
  | acknowledges {ack : Ack} {acks : Channel Ack} (hphase : s.phase = .acknowledging ack)
      (hsend : s.acks.send ack = .ok acks) : Reads w s { s with acks }.passedOn
  | stores {item : Bulk.Item Message} {indexer : Bulk.Indexer Message}
      (hphase : s.phase = .storing item) (hadd : s.indexer.add item = .ok indexer) :
      Reads w s { s with indexer }.passedOn
  | closes {r : RunResult ε} {indexer : Bulk.Indexer Message} (hphase : s.phase = .ended r)
      (hclose : s.indexer.close = .ok indexer) :
      Reads w s { s with indexer, phase := .draining r }
  | stops {r : RunResult ε} (hphase : s.phase = .draining r) :
      Reads w s { s with phase := .stopping r }

theorem reads_fetch (hphase : s.phase = .fetching) : Reads w s (s.fetch w) := by
  rw [fetch]
  split
  · exact .ends hphase
  · split
    · rename_i hunfetched
      exact .processes hphase hunfetched
    · split
      · exact .ends hphase
      · exact .ends hphase

theorem Reads.of_read? (h : s.InOrder) (ht : s.read? w = some t) : Reads w s t := by
  rw [read?] at ht
  split at ht
  · rename_i hphase
    exact Option.some.inj ht ▸ reads_fetch hphase
  · rename_i ack hphase
    have hopen := h.not_gone (by rw [hphase]; rfl)
    split at ht
    · rename_i hsend
      exact Option.some.inj ht ▸ .acknowledges hphase hsend
    · cases ht
    · rename_i hsend
      cases hopen.symm.trans (Channel.send_eq_closed hsend)
  · rename_i item hphase
    have hopen := h.indexer.not_gone (h.not_told (by rw [hphase]; rfl))
    split at ht
    · rename_i hadd
      exact Option.some.inj ht ▸ .stores hphase hadd
    · cases ht
    · rename_i hadd
      exact absurd (Bulk.Indexer.add_eq_closed hadd) hopen
  · rename_i r hphase
    have hopen := h.indexer.not_gone (h.not_told (by rw [hphase]; rfl))
    split at ht
    · rename_i hclose
      exact Option.some.inj ht ▸ .closes hphase hclose
    · cases ht
    · rename_i hclose
      exact absurd (Bulk.Indexer.submit_eq_closed hclose) hopen
  · rename_i r hphase
    split at ht
    · exact Option.some.inj ht ▸ .stops hphase
    · cases ht
  · cases ht

/-- The worker takes a step, and may pass on an acknowledgment. -/
inductive Works (w : Wiring σ ε) (s : Consumer σ ε) : Consumer σ ε → Prop
  | quietly {told : Option (Bulk.Item Message × Bulk.Verdict)} {indexer : Bulk.Indexer Message}
      (hstep : Bulk.Indexer.Step w.answers s.indexer told indexer) : Works w s { s with indexer }
  | acknowledges {told : Option (Bulk.Item Message × Bulk.Verdict)}
      {indexer : Bulk.Indexer Message} {ack : Ack} {acks : Channel Ack}
      (hstep : Bulk.Indexer.Step w.answers s.indexer told indexer)
      (hsend : s.acks.send ack = .ok acks) : Works w s { s with indexer, acks }

theorem Works.of_work? (h : s.InOrder) (ht : s.work? w = some t) : Works w s t := by
  rw [work?] at ht
  split at ht
  · obtain ⟨indexer, hwork, rfl⟩ := Option.map_eq_some_iff.1 ht
    exact .quietly (.of_work? h.indexer.hasSenders hwork)
  · rename_i hsettle
    exact Option.some.inj ht ▸ .quietly (.of_settle? w.answers hsettle)
  · rename_i hsettle
    have hstep := Bulk.Indexer.Step.of_settle? w.answers hsettle
    split at ht
    · rename_i hsend
      exact Option.some.inj ht ▸ .acknowledges hstep hsend
    · cases ht
    · exact Option.some.inj ht ▸ .quietly hstep

/-- The worker does a step of the indexer, and what it settles is noted. -/
theorem step?_of_work? (ht : s.work? w = some t) :
    t.phase = s.phase ∧ ∃ settled, s.indexer.step? w.answers = some (settled, t.indexer) ∧
      s.notes (.move .work) = settled.toList.map fun next => .reported next.1 next.2 := by
  rw [work?] at ht
  rw [notes, Bulk.Indexer.step?]
  cases hsettle : s.indexer.settle? with
  | none =>
      rw [hsettle] at ht
      obtain ⟨indexer, hwork, rfl⟩ := Option.map_eq_some_iff.1 ht
      exact ⟨rfl, none, by rw [hwork]; rfl, rfl⟩
  | some next =>
      obtain ⟨⟨item, verdict⟩, indexer⟩ := next
      rw [hsettle] at ht
      have ht : t.phase = s.phase ∧ t.indexer = indexer := by
        cases verdict with
        | error e =>
            obtain rfl := Option.some.inj ht
            exact ⟨rfl, rfl⟩
        | ok u =>
            dsimp only at ht
            split at ht
            · obtain rfl := Option.some.inj ht
              exact ⟨rfl, rfl⟩
            · cases ht
            · obtain rfl := Option.some.inj ht
              exact ⟨rfl, rfl⟩
      obtain ⟨hphase, rfl⟩ := ht
      exact ⟨hphase, some (item, verdict), rfl, rfl⟩

/-- The commit loop takes an acknowledgment, or it stops. -/
inductive Commits (s t : Consumer σ ε) : Prop
  | takes {ack : Ack} (hvalues : s.acks.values = ack :: t.acks.values)
      (hcapacity : t.acks.capacity = s.acks.capacity)
      (hgone : t.acks.receiverGone = s.acks.receiverGone) (hphase : t.phase = s.phase)
      (hindexer : t.indexer = s.indexer) (hunfetched : t.unfetched = s.unfetched)
  | stops (hopen : s.acks.receiverGone = false) (ht : t = { s with acks := s.acks.dropReceiver })

theorem Commits.of_commit? (ht : s.commit? w = some t) : Commits s t := by
  rw [commit?] at ht
  split at ht
  · rename_i ack acks hreceive
    obtain ⟨hvalues, hrest⟩ := Channel.receive_eq_value hreceive
    obtain ⟨n, hsettle⟩ := settle_eq (w := w) (s := s) acks ack
    rw [hsettle] at ht
    obtain rfl := Option.some.inj ht
    refine .takes hvalues ?_ ?_ rfl rfl rfl
    · rw [hrest]
    · rw [hrest]
  all_goals
    split at ht
    · rename_i hstop
      refine .stops ?_ (Option.some.inj ht).symm
      simpa using (Bool.and_eq_true_iff.1 hstop).2
    · cases ht

theorem eq_of_tick? (ht : s.tick? w = some t) :
    s.indexer.settling = [] ∧ t = { s with indexer := s.indexer.flush w.answers } := by
  obtain ⟨indexer, htick, rfl⟩ := Option.map_eq_some_iff.1 ht
  obtain ⟨-, hsettling, rfl⟩ := Bulk.Indexer.tick?_eq_some htick
  exact ⟨hsettling, rfl⟩

end Consumer

end ClusterEvents
