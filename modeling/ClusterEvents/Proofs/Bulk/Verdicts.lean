import ClusterEvents.Bulk.Answer

/-!
# What an item of a batch is told

The verdict on an item depends on the answer and on the place of the item alone: it is good
if and only if the request succeeded and the result at this place did. Results beyond the
last item, and those of other items, have no say in it.
-/

namespace ClusterEvents.Bulk

theorem Status.isSuccess_iff {code : Nat} :
    Status.isSuccess code = true ↔ 200 ≤ code ∧ code < 300 := by
  simp [Status.isSuccess]

namespace Answer

/-- The request succeeded, and the document at this place of the batch is stored. -/
def Stores (answer : Answer) (place : Nat) : Prop :=
  ∃ status body results result, answer = .response status body ∧
    (200 ≤ status ∧ status < 300) ∧ results? body = .ok results ∧
    results[place]? = some (some result) ∧ 200 ≤ result.status ∧ result.status < 300

theorem verdict_eq_ok_iff {result : ItemResult} :
    result.verdict = .ok () ↔ 200 ≤ result.status ∧ result.status < 300 := by
  rw [ItemResult.verdict, ← Status.isSuccess_iff]
  split
  · rename_i hsuccess
    exact iff_of_true rfl hsuccess
  · rename_i hfailure
    exact iff_of_false (fun h => by cases h) hfailure

theorem results_eq_ok_iff {answer : Answer} {results : List (Option ItemResult)} :
    answer.results = .ok results ↔
      ∃ status body, answer = .response status body ∧ (200 ≤ status ∧ status < 300) ∧
        results? body = .ok results := by
  cases answer with
  | lost reason => simp [Answer.results]
  | response status body =>
      rw [Answer.results]
      constructor
      · intro h
        split at h
        · rename_i hsuccess
          split at h
          · rename_i found hfound
            obtain rfl := Except.ok.inj h
            exact ⟨status, body, rfl, Status.isSuccess_iff.1 hsuccess, hfound⟩
          · cases h
        · cases h
      · rintro ⟨_, _, ⟨⟩, hstatus, hresults⟩
        rw [if_pos (Status.isSuccess_iff.2 hstatus), hresults]

theorem stores_iff {answer : Answer} {place : Nat} :
    answer.Stores place ↔
      ∃ results result, answer.results = .ok results ∧ results[place]? = some (some result) ∧
        result.verdict = .ok () := by
  simp only [results_eq_ok_iff, verdict_eq_ok_iff]
  constructor
  · rintro ⟨status, body, results, result, hanswer, hstatus, hresults, hresult, hverdict⟩
    exact ⟨results, result, ⟨status, body, hanswer, hstatus, hresults⟩, hresult, hverdict⟩
  · rintro ⟨results, result, ⟨status, body, hanswer, hstatus, hresults⟩, hresult, hverdict⟩
    exact ⟨status, body, results, result, hanswer, hstatus, hresults, hresult, hverdict⟩

theorem matched_succ (size : Nat) (results : List (Option ItemResult)) :
    matched (size + 1) results =
      (match results[0]? with
      | some (some result) => result.verdict
      | _ => .error (.response "no result for document")) :: matched size results.tail := by
  match results with
  | [] | none :: _ | some _ :: _ => rfl

theorem getElem?_matched {size place : Nat} (h : place < size)
    (results : List (Option ItemResult)) :
    (matched size results)[place]? = some
      (match results[place]? with
      | some (some result) => result.verdict
      | _ => .error (.response "no result for document")) := by
  induction size generalizing place results with
  | zero => cases h
  | succ size ih =>
      rw [matched_succ]
      cases place with
      | zero => rfl
      | succ place =>
          rw [List.getElem?_cons_succ, ih (Nat.lt_of_succ_lt_succ h), List.getElem?_tail]

theorem getElem?_matched_eq_ok_iff {size place : Nat} (h : place < size)
    {results : List (Option ItemResult)} :
    (matched size results)[place]? = some (.ok ()) ↔
      ∃ result, results[place]? = some (some result) ∧ result.verdict = .ok () := by
  rw [getElem?_matched h]
  split
  · rename_i result hresult
    simp [hresult]
  · rename_i hnone
    simp only [Option.some.injEq, reduceCtorEq, false_iff, not_exists, not_and]
    intro result hresult
    exact absurd hresult (hnone result)

/-- Whether a good verdict is given shows at its place in the answer, whatever the size of
the batch. -/
theorem getElem?_verdicts_eq_ok_iff {answer : Answer} {size place : Nat} (h : place < size) :
    (answer.verdicts size)[place]? = some (.ok ()) ↔ answer.Stores place := by
  rw [stores_iff, verdicts]
  cases answer.results with
  | error e => simp [h]
  | ok results => simp [getElem?_matched_eq_ok_iff h]

theorem any_isOk_iff {answer : Answer} {place : Nat} :
    (answer.verdicts (place + 1))[place]?.any Except.isOk = true ↔ answer.Stores place := by
  rw [← getElem?_verdicts_eq_ok_iff (Nat.lt_succ_self place)]
  cases (answer.verdicts (place + 1))[place]? with
  | none => simp
  | some verdict => cases verdict <;> simp [Except.isOk, Except.toBool]

instance (answer : Answer) (place : Nat) : Decidable (answer.Stores place) :=
  decidable_of_iff _ any_isOk_iff

end Answer

end ClusterEvents.Bulk
