import ClusterEvents.Proofs.Stream.Replay

/-!
# First in, first out

The calls to a queue are answered one by one. From what was called and answered so far it follows
what the next call is answered: `accepted` are the messages of the calls that were not refused,
numbered from zero on, `fetched` are those that were handed out, and `IsAnswer` goes by how many
of the one have become the other and whether the queue has been closed.

A queue keeps the accepted messages that were not fetched, and a record of the commits
(`Told`). Every call is answered as it should be and leaves the queue so (`Told.step`).
-/

namespace ClusterEvents.LocalQueue

/-- A call to a queue. It may be closed as a source, as a sink or by a writer, which is all the
same. -/
inductive Call where
  | push (key value : Bytes)
  /-- A message for the queue as a sink. -/
  | write (key value : Bytes)
  /-- An event that a writer passes on. -/
  | publish (key : Bytes) (event : Event)
  | fetch
  | commit (m : Message)
  | close

/-- What a call comes back with. -/
inductive Answer where
  | offset (n : Int)
  | done
  | message (m : Message)
  /-- A fetch that was given up, since nothing was there yet. -/
  | waiting
  | closed
deriving DecidableEq, Repr

/-- The answer to what was to be appended. -/
def appendAnswer (q : LocalQueue) (told : Int → Answer) (result : Option (Int × LocalQueue)) :
    Answer × LocalQueue :=
  match result with
  | some (offset, q) => (told offset, q)
  | none => (.closed, q)

/-- What a call comes back with, and the queue that it leaves. -/
def answer (q : LocalQueue) : Call → Answer × LocalQueue
  | .push key value => q.appendAnswer .offset (q.push key value)
  | .write key value => q.appendAnswer (fun _ => .done) (q.push key value)
  | .publish key event => q.appendAnswer (fun _ => .done) (q.publish key event)
  | .fetch =>
    match q.fetch with
    | .message m q => (.message m, q)
    | .waiting => (.waiting, q)
    | .closed => (.closed, q)
  | .commit m => (.done, q.commit m)
  | .close => (.done, q.close)

/-- Calls, each with what it came back with. -/
abbrev History := List (Call × Answer)

/-- Calls that are made one after the other, with their answers. -/
def transcript : LocalQueue → List Call → History
  | _, [] => []
  | q, c :: calls => (c, (q.answer c).1) :: transcript (q.answer c).2 calls

/-- The queue after several calls. -/
def after (q : LocalQueue) (calls : List Call) : LocalQueue :=
  calls.foldl (fun q c => (q.answer c).2) q

/-! ## What a history tells -/

/-- The key and the value that a call wants to have appended. -/
def Call.offered? : Call → Option (Bytes × Bytes)
  | .push key value | .write key value => some (key, value)
  | .publish key event => some (key, Bytes.ofString event.encode)
  | .fetch | .commit _ | .close => none

/-- The message that a call commits. -/
def Call.committed? : Call → Option Message
  | .commit m => some m
  | .push .. | .write .. | .publish .. | .fetch | .close => none

/-- The message that an answer hands out. -/
def Answer.message? : Answer → Option Message
  | .message m => some m
  | .offset _ | .done | .waiting | .closed => none

namespace History

/-- The key and the value that were appended with a call. -/
def taken? (entry : Call × Answer) : Option (Bytes × Bytes) :=
  if entry.2 = .closed then none else entry.1.offered?

/-- The keys and values that were appended, in order. -/
def taken (h : History) : List (Bytes × Bytes) :=
  h.filterMap taken?

/-- The message of a number with a key and a value. -/
def numbered (topic : String) (number : Nat) (entry : Bytes × Bytes) : Message :=
  { topic, partition := 0, offset := number, key := entry.1, value := entry.2 }

/-- The messages that were accepted, numbered in the order in which they were. -/
def accepted (topic : String) (h : History) : List Message :=
  h.taken.zipIdx.map fun entry => numbered topic entry.2 entry.1

/-- The messages that were handed out, in order. -/
def fetched (h : History) : List Message :=
  h.filterMap fun entry => entry.2.message?

/-- The messages that were committed, in the order of the calls. -/
def commits (h : History) : List Message :=
  h.filterMap fun entry => entry.1.committed?

/-- Whether the queue has been closed. -/
def IsClosed (h : History) : Prop :=
  .close ∈ h.map Prod.fst

end History

/-- What a call comes back with, after what was called and answered before it. -/
inductive IsAnswer (topic : String) (before : History) : Call → Answer → Prop
  | pushed (hopen : ¬ before.IsClosed) (key value : Bytes) :
      IsAnswer topic before (.push key value) (.offset (before.accepted topic).length)
  | written (hopen : ¬ before.IsClosed) (key value : Bytes) :
      IsAnswer topic before (.write key value) .done
  | published (hopen : ¬ before.IsClosed) (key : Bytes) (event : Event) :
      IsAnswer topic before (.publish key event) .done
  | refused {call : Call} (hoffer : call.offered?.isSome) (hclosed : before.IsClosed) :
      IsAnswer topic before call .closed
  | fetched {m : Message} (hnext : (before.accepted topic)[before.fetched.length]? = some m) :
      IsAnswer topic before .fetch (.message m)
  | waiting (hopen : ¬ before.IsClosed) (hall : before.fetched = before.accepted topic) :
      IsAnswer topic before .fetch .waiting
  | drained (hclosed : before.IsClosed) (hall : before.fetched = before.accepted topic) :
      IsAnswer topic before .fetch .closed
  | committed (m : Message) : IsAnswer topic before (.commit m) .done
  | closed : IsAnswer topic before .close .done

variable {topic : String} {h : History} {q : LocalQueue} {c : Call} {a : Answer}

namespace History

theorem taken_concat (h : History) (c : Call) (a : Answer) :
    taken (h ++ [(c, a)]) = h.taken ++ (taken? (c, a)).toList := by
  cases hm : taken? (c, a) <;> simp [taken, hm]

theorem length_accepted (topic : String) (h : History) :
    (h.accepted topic).length = h.taken.length := by
  rw [accepted, List.length_map, List.length_zipIdx]

theorem accepted_concat (topic : String) (h : History) (c : Call) (a : Answer) :
    accepted topic (h ++ [(c, a)]) =
      h.accepted topic ++ ((taken? (c, a)).map (numbered topic h.taken.length)).toList := by
  cases hm : taken? (c, a) <;> simp [accepted, taken, hm, List.zipIdx_append]

theorem fetched_concat (h : History) (c : Call) (a : Answer) :
    fetched (h ++ [(c, a)]) = h.fetched ++ a.message?.toList := by
  cases hm : a.message? <;> simp [fetched, hm]

theorem commits_concat (h : History) (c : Call) (a : Answer) :
    commits (h ++ [(c, a)]) = h.commits ++ c.committed?.toList := by
  cases hm : c.committed? <;> simp [commits, hm]

theorem isClosed_concat (h : History) (c : Call) (a : Answer) :
    IsClosed (h ++ [(c, a)]) ↔ h.IsClosed ∨ c = .close := by
  simp [IsClosed, eq_comm]

end History

/-! ## What a queue knows of its history -/

/-- A queue has what a history has left of it. -/
structure Told (topic : String) (h : History) (q : LocalQueue) : Prop where
  topic_eq : q.topic = topic
  accepted_eq : h.accepted topic = h.fetched ++ q.waiting
  nextOffset_eq : q.nextOffset = h.taken.length
  closed_iff : q.closed = true ↔ h.IsClosed
  committed_eq : q.committed = h.commits

theorem told_start (topic : String) : Told topic [] { topic } where
  topic_eq := rfl
  accepted_eq := rfl
  nextOffset_eq := rfl
  closed_iff := by simp [History.IsClosed]
  committed_eq := rfl

/-- How a call changes a queue that has what its history has left. -/
theorem Told.concat (ht : Told topic h q) {q' : LocalQueue} (htopic : q'.topic = q.topic)
    (hwaiting : a.message?.toList ++ q'.waiting = q.waiting ++
      ((History.taken? (c, a)).map (History.numbered q.topic q.nextOffset)).toList)
    (hnext : q'.nextOffset = q.nextOffset + (History.taken? (c, a)).toList.length)
    (hclosed : q'.closed = true ↔ q.closed = true ∨ c = .close)
    (hcommitted : q'.committed = q.committed ++ c.committed?.toList) :
    Told topic (h ++ [(c, a)]) q' where
  topic_eq := htopic.trans ht.topic_eq
  accepted_eq := by
    rw [ht.topic_eq, ht.nextOffset_eq] at hwaiting
    rw [History.accepted_concat, History.fetched_concat, ht.accepted_eq, List.append_assoc,
      ← hwaiting, List.append_assoc]
  nextOffset_eq := by
    rw [hnext, ht.nextOffset_eq, History.taken_concat, List.length_append]
  closed_iff := by
    rw [hclosed, ht.closed_iff, History.isClosed_concat]
  committed_eq := by
    rw [hcommitted, ht.committed_eq, History.commits_concat]

/-- A call that changes nothing, and an answer that hands out nothing. -/
theorem Told.frame (ht : Told topic h q) (hnone : History.taken? (c, a) = none)
    (hmessage : a.message? = none) (hcommit : c.committed? = none) (hclose : c ≠ .close) :
    Told topic (h ++ [(c, a)]) q := by
  refine ht.concat rfl ?_ ?_ (or_iff_left hclose).symm ?_
  · rw [hnone, hmessage, Option.map_none, Option.toList_none, List.append_nil, List.nil_append]
  · rw [hnone]
    rfl
  · rw [hcommit, Option.toList_none, List.append_nil]

theorem committed?_of_offered? {entry : Bytes × Bytes} (hoffer : c.offered? = some entry) :
    c.committed? = none ∧ c ≠ .close := by
  cases c with
  | push | write | publish => exact ⟨rfl, nofun⟩
  | fetch | commit | close => cases hoffer

theorem Told.append (ht : Told topic h q) {key value : Bytes}
    (hoffer : c.offered? = some (key, value)) (ha : a ≠ .closed) (hmessage : a.message? = none) :
    Told topic (h ++ [(c, a)]) (q.appended key value) := by
  obtain ⟨hcommit, hclose⟩ := committed?_of_offered? hoffer
  have htaken : History.taken? (c, a) = some (key, value) := by
    rw [History.taken?, if_neg ha, hoffer]
  refine ht.concat rfl ?_ ?_ (or_iff_left hclose).symm ?_
  · rw [htaken, hmessage]
    rfl
  · rw [htaken]
    rfl
  · rw [hcommit, Option.toList_none, List.append_nil]
    rfl

/-- The three ways to append a message differ in what they tell of it. -/
theorem Told.offer (ht : Told topic h q) {told : Int → Answer} {key value : Bytes}
    (hoffer : c.offered? = some (key, value)) (hclosed : ∀ n, told n ≠ .closed)
    (hmessage : ∀ n, (told n).message? = none)
    (hright : ¬ h.IsClosed → IsAnswer topic h c (told (h.accepted topic).length)) :
    IsAnswer topic h c (q.appendAnswer told (q.push key value)).1 ∧
      Told topic (h ++ [(c, (q.appendAnswer told (q.push key value)).1)])
        (q.appendAnswer told (q.push key value)).2 := by
  cases hq : q.closed with
  | true =>
      obtain ⟨hcommit, hclose⟩ := committed?_of_offered? hoffer
      have hrefused : q.push key value = none := by rw [push, if_pos hq]
      rw [hrefused, appendAnswer]
      exact ⟨.refused (by rw [hoffer]; rfl) (ht.closed_iff.1 hq),
        ht.frame rfl rfl hcommit hclose⟩
  | false =>
      have hopen : ¬ h.IsClosed := by
        rw [← ht.closed_iff, hq]
        decide
      rw [push_of_open hq, appendAnswer, ht.nextOffset_eq, ← History.length_accepted topic]
      exact ⟨hright hopen, ht.append hoffer (hclosed _) (hmessage _)⟩

theorem Told.fetch (ht : Told topic h q) :
    IsAnswer topic h .fetch (q.answer .fetch).1 ∧
      Told topic (h ++ [(.fetch, (q.answer .fetch).1)]) (q.answer .fetch).2 := by
  have hsplit := ht.accepted_eq
  cases hw : q.waiting with
  | nil =>
      rw [hw, List.append_nil] at hsplit
      cases hq : q.closed with
      | true =>
          have hanswer : q.answer .fetch = (.closed, q) := by
            simp [answer, LocalQueue.fetch, hw, hq]
          rw [hanswer]
          exact ⟨.drained (ht.closed_iff.1 hq) hsplit.symm, ht.frame rfl rfl rfl nofun⟩
      | false =>
          have hopen : ¬ h.IsClosed := by
            rw [← ht.closed_iff, hq]
            decide
          have hanswer : q.answer .fetch = (.waiting, q) := by
            simp [answer, LocalQueue.fetch, hw, hq]
          rw [hanswer]
          exact ⟨.waiting hopen hsplit.symm, ht.frame rfl rfl rfl nofun⟩
  | cons m rest =>
      have hanswer : q.answer .fetch = (.message m, { q with waiting := rest }) := by
        simp [answer, LocalQueue.fetch, hw]
      have hnext : (h.accepted topic)[h.fetched.length]? = some m := by
        simp [hsplit, hw]
      rw [hanswer]
      exact ⟨.fetched hnext,
        ht.concat rfl (by rw [hw]; exact (List.append_nil _).symm) rfl (or_iff_left nofun).symm
          (List.append_nil _).symm⟩

/-- A call is answered as the history before it says, and the queue knows of it. -/
theorem Told.step (ht : Told topic h q) (c : Call) :
    IsAnswer topic h c (q.answer c).1 ∧
      Told topic (h ++ [(c, (q.answer c).1)]) (q.answer c).2 := by
  cases c with
  | push key value =>
      exact ht.offer rfl nofun (fun _ => rfl) fun hopen => .pushed hopen key value
  | write key value =>
      exact ht.offer rfl nofun (fun _ => rfl) fun hopen => .written hopen key value
  | publish key event =>
      exact ht.offer rfl nofun (fun _ => rfl) fun hopen => .published hopen key event
  | fetch => exact ht.fetch
  | commit m =>
      exact ⟨.committed m,
        ht.concat rfl (List.append_nil _).symm rfl (or_iff_left nofun).symm rfl⟩
  | close =>
      exact ⟨.closed,
        ht.concat rfl (List.append_nil _).symm rfl (iff_of_true rfl (.inr rfl))
          (List.append_nil _).symm⟩

/-! ## A whole history -/

theorem Told.run (ht : Told topic h q) (calls : List Call) :
    Told topic (h ++ q.transcript calls) (q.after calls) ∧
      ∀ before c a later, q.transcript calls = before ++ (c, a) :: later →
        IsAnswer topic (h ++ before) c a := by
  induction calls generalizing h q with
  | nil =>
      refine ⟨?_, fun before c a later heq => ?_⟩
      · rw [transcript, List.append_nil]
        exact ht
      · exact absurd heq.symm (by simp [transcript])
  | cons first calls ih =>
      obtain ⟨hanswer, htold⟩ := ht.step first
      obtain ⟨hend, hlater⟩ := ih htold
      rw [List.append_assoc, List.singleton_append] at hend
      refine ⟨hend, fun before c a later heq => ?_⟩
      cases before with
      | nil =>
          obtain ⟨hfirst, -⟩ := List.cons.inj heq
          obtain ⟨rfl, rfl⟩ := Prod.mk.inj hfirst
          rw [List.append_nil]
          exact hanswer
      | cons entry before =>
          obtain ⟨rfl, hrest⟩ := List.cons.inj heq
          have hright := hlater before c a later hrest
          rwa [List.append_assoc, List.singleton_append] at hright

/-- A queue hands out what it accepts, in that order and each message once. After any calls to a
new queue the answers are those that the history before each of them tells: accepted messages are
numbered from zero on without gaps, what comes after the closing is refused and uses up no number,
and a fetch finds the queue closed only if it is and nothing is left. The messages fetched are a
beginning of those accepted, the rest is pending, and the record of the commits is that of the
calls. -/
theorem first_in_first_out (topic : String) (calls : List Call) :
    let history := transcript { topic } calls
    let q := after { topic } calls
    (∀ before c a later, history = before ++ (c, a) :: later → IsAnswer topic before c a) ∧
      history.accepted topic = history.fetched ++ q.waiting ∧
      q.waiting.length = (history.accepted topic).length - history.fetched.length ∧
      q.committed = history.commits := by
  intro history q
  obtain ⟨htold, hanswers⟩ := (told_start topic).run calls
  have hsplit := htold.accepted_eq
  rw [List.nil_append] at hsplit
  refine ⟨hanswers, hsplit, ?_, htold.committed_eq⟩
  rw [hsplit, List.length_append, Nat.add_sub_cancel_left]

section Run

/-- Calls to a queue that is closed with a message left in it. -/
def closedEarly : List Call := [
  .fetch, .push [1] [2], .publish [3] ⟨"Event", .null, .empty⟩, .fetch, .commit (.bare ⟨"t", 0⟩ 7),
  .close, .write [4] [5], .fetch, .fetch]

/-- What is written after the closing is refused, and one of two messages is pending then. -/
theorem first_in_first_out_closed_early :
    IsAnswer "t" (transcript { topic := "t" } (closedEarly.take 6)) (.write [4] [5]) .closed ∧
      (after { topic := "t" } (closedEarly.take 7)).waiting.length = 1 ∧
      (after { topic := "t" } closedEarly).committed = [.bare ⟨"t", 0⟩ 7] := by
  obtain ⟨hanswers, -, -, hcommits⟩ := first_in_first_out "t" closedEarly
  obtain ⟨-, -, hpending, -⟩ := first_in_first_out "t" (closedEarly.take 7)
  exact ⟨hanswers _ _ _ _ rfl, hpending.trans rfl, hcommits.trans rfl⟩

end Run

end ClusterEvents.LocalQueue
