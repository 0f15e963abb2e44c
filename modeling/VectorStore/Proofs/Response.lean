import VectorStore.Response

/-!
Responses under any calls. Taking a value empties its place, and nothing else in a response ever
changes: what calls leave of it is known from the calls alone (`Response.leftBy`). So every value is
delivered once, and a failure is reported to every call that asks for it
(`Response.respondAll_owes`).
-/
namespace VectorStore

namespace StatementResult

/-- What taking leaves of a result. A failed one keeps its message. -/
def emptied (entry : StatementResult) : StatementResult :=
  match entry.status with
  | .ok => { entry with result := .null }
  | .err => entry

variable {entry : StatementResult}

theorem emptied_of_ok (succeeded : entry.status = .ok) :
    entry.emptied = { entry with result := .null } := by
  rw [emptied, succeeded]

theorem emptied_of_err (failed : entry.status = .err) : entry.emptied = entry := by
  rw [emptied, failed]

@[simp] theorem status_emptied (entry : StatementResult) : entry.emptied.status = entry.status := by
  cases status : entry.status with
  | ok => rw [emptied_of_ok status, status]
  | err => rw [emptied_of_err status, status]

@[simp] theorem emptied_emptied (entry : StatementResult) :
    entry.emptied.emptied = entry.emptied := by
  cases status : entry.status with
  | ok => rw [emptied_of_ok (by simpa using status), emptied_of_ok status]
  | err => rw [emptied_of_err status, emptied_of_err status]

end StatementResult

namespace Response

/-- What is asked of a response. -/
inductive Call
  | take (index : Nat)
  | check
  deriving DecidableEq

/-- What comes back from a call. -/
inductive Reply
  | value (outcome : Except Error Json)
  | verdict (outcome : Except Error Unit)

/-- The reply to a call, and what the call leaves of the response. -/
def respond (r : Response) : Call → Reply × Response
  | .take index => (.value (r.take index).1, (r.take index).2)
  | .check => (.verdict r.check, r)

/-- The replies to calls made one after another, and what they leave of the response. -/
def respondAll (r : Response) : List Call → List Reply × Response
  | [] => ([], r)
  | call :: rest =>
    let (reply, after) := r.respond call
    let (replies, left) := after.respondAll rest
    (reply :: replies, left)

/-- What a response owes to a call after earlier ones, told from the response as it was before all
of them. -/
inductive Owes (r : Response) (earlier : List Call) : Call → Reply → Prop
  | verdict : Owes r earlier .check (.verdict r.check)
  | missing {index : Nat} (beyond : r.results.length ≤ index) :
      Owes r earlier (.take index)
        (.value (.error (.malformedResult (.missing index r.results.length))))
  /-- A failure is reported every time, with its own message. -/
  | failed {index : Nat} {entry : StatementResult} (found : r.results[index]? = some entry)
      (failed : entry.status = .err) :
      Owes r earlier (.take index) (.value (.error (failure index entry)))
  | original {index : Nat} {entry : StatementResult} (found : r.results[index]? = some entry)
      (succeeded : entry.status = .ok) (fresh : .take index ∉ earlier) :
      Owes r earlier (.take index) (.value (.ok entry.result))
  /-- What was taken before is null. -/
  | spent {index : Nat} {entry : StatementResult} (found : r.results[index]? = some entry)
      (succeeded : entry.status = .ok) (again : .take index ∈ earlier) :
      Owes r earlier (.take index) (.value (.ok .null))

variable {r : Response} {index : Nat} {entry : StatementResult}

/-- Responses are equal if they have the same results. -/
theorem ext_getElem? {r r' : Response} (same : ∀ i : Nat, r.results[i]? = r'.results[i]?) :
    r = r' :=
  congrArg mk (List.ext_getElem? same)

/-! ## Taking once -/

theorem take_of_length_le (beyond : r.results.length ≤ index) :
    r.take index = (.error (.malformedResult (.missing index r.results.length)), r) := by
  rw [take, List.getElem?_eq_none beyond]

theorem take_of_err (found : r.results[index]? = some entry) (failed : entry.status = .err) :
    r.take index = (.error (failure index entry), r) := by
  simp only [take, found, failed]

theorem take_of_ok (found : r.results[index]? = some entry) (succeeded : entry.status = .ok) :
    r.take index = (.ok entry.result, ⟨r.results.set index entry.emptied⟩) := by
  simp only [take, found, succeeded, StatementResult.emptied_of_ok]

theorem take_fst_eq_ok_iff {value : Json} : (r.take index).1 = .ok value ↔
    ∃ entry, r.results[index]? = some entry ∧ entry.status = .ok ∧ entry.result = value := by
  cases found : r.results[index]? with
  | none =>
    rw [take_of_length_le (List.getElem?_eq_none_iff.mp found)]
    simp
  | some entry =>
    cases status : entry.status with
    | ok =>
      rw [take_of_ok found status]
      simp [status]
    | err =>
      rw [take_of_err found status]
      simp [status]

/-- Taking empties its own place and no other. -/
theorem getElem?_take (r : Response) (index i : Nat) :
    (r.take index).2.results[i]? =
      r.results[i]?.map fun entry => if index = i then entry.emptied else entry := by
  cases found : r.results[index]? with
  | none =>
    rw [take_of_length_le (List.getElem?_eq_none_iff.mp found)]
    by_cases here : index = i
    · subst here
      rw [found]
      rfl
    · simp [here]
  | some entry =>
    cases status : entry.status with
    | ok =>
      rw [take_of_ok found status, List.getElem?_set]
      by_cases here : index = i
      · subst here
        rw [if_pos rfl, if_pos (List.getElem?_eq_some_iff.mp found).1, found]
        simp
      · simp [here]
    | err =>
      rw [take_of_err found status]
      by_cases here : index = i
      · subst here
        simp [found, StatementResult.emptied_of_err status]
      · simp [here]

theorem getElem?_take_of_ne {i : Nat} (ne : index ≠ i) (r : Response) :
    (r.take index).2.results[i]? = r.results[i]? := by
  rw [getElem?_take]
  simp [ne]

theorem length_take (r : Response) (index : Nat) :
    (r.take index).2.results.length = r.results.length := by
  cases found : r.results[index]? with
  | none => rw [take_of_length_le (List.getElem?_eq_none_iff.mp found)]
  | some entry =>
    cases status : entry.status with
    | ok => rw [take_of_ok found status, List.length_set]
    | err => rw [take_of_err found status]

/-- What taking answers is told by the place it takes from and the number of results. -/
theorem take_fst_congr {r r' : Response} (found : r.results[index]? = r'.results[index]?)
    (length : r.results.length = r'.results.length) : (r.take index).1 = (r'.take index).1 := by
  rw [take, take, found, length]
  cases r'.results[index]? with
  | none => rfl
  | some entry => cases status : entry.status <;> simp only [status]

/-! ## What calls leave -/

/-- What calls leave of a response. -/
def leftBy (r : Response) (calls : List Call) : Response :=
  ⟨r.results.mapIdx fun i entry => if .take i ∈ calls then entry.emptied else entry⟩

theorem getElem?_leftBy (r : Response) (calls : List Call) (i : Nat) :
    (r.leftBy calls).results[i]? =
      r.results[i]?.map fun entry => if .take i ∈ calls then entry.emptied else entry :=
  List.getElem?_mapIdx

/-- Failures are left. -/
theorem getElem?_leftBy_of_err (found : r.results[index]? = some entry)
    (failed : entry.status = .err) (calls : List Call) :
    (r.leftBy calls).results[index]? = some entry := by
  rw [getElem?_leftBy, found, Option.map_some, StatementResult.emptied_of_err failed, ite_self]

theorem length_leftBy (r : Response) (calls : List Call) :
    (r.leftBy calls).results.length = r.results.length :=
  List.length_mapIdx

theorem leftBy_nil (r : Response) : r.leftBy [] = r := by
  refine ext_getElem? fun i => ?_
  simp [getElem?_leftBy]

theorem map_status_leftBy (r : Response) (calls : List Call) :
    (r.leftBy calls).results.map (·.status) = r.results.map (·.status) := by
  refine List.ext_getElem? fun i => ?_
  rw [List.getElem?_map, List.getElem?_map, getElem?_leftBy, Option.map_map]
  congr 1
  funext entry
  rw [Function.comp_apply]
  split
  · exact entry.status_emptied
  · rfl

/-- Emptying leaves the first failure where it is. -/
theorem firstFailure?_mapIdx {f : Nat → StatementResult → StatementResult}
    (empties : ∀ i entry, f i entry = entry.emptied ∨ f i entry = entry)
    (results : List StatementResult) (index : Nat) :
    firstFailure? index (results.mapIdx f) = firstFailure? index results := by
  induction results generalizing f index with
  | nil => rfl
  | cons entry rest ih =>
    rw [List.mapIdx_cons, firstFailure?, firstFailure?]
    cases status : entry.status with
    | ok =>
      have stays : (f 0 entry).status = .ok := by
        rcases empties 0 entry with same | same
        · rw [same, StatementResult.status_emptied, status]
        · rw [same, status]
      rw [stays]
      exact ih (fun i entry => empties (i + 1) entry) (index + 1)
    | err =>
      have stays : f 0 entry = entry := by
        rcases empties 0 entry with same | same
        · rw [same, StatementResult.emptied_of_err status]
        · exact same
      rw [stays, status]

theorem check_leftBy (r : Response) (calls : List Call) : (r.leftBy calls).check = r.check := by
  have first : firstFailure? 0 (r.leftBy calls).results = firstFailure? 0 r.results := by
    refine firstFailure?_mapIdx (fun i entry => ?_) r.results 0
    split
    · exact .inl rfl
    · exact .inr rfl
  rw [check, check, first]

/-- One call more empties the place that it takes from. -/
theorem respond_leftBy (r : Response) (earlier : List Call) (call : Call) :
    ((r.leftBy earlier).respond call).2 = r.leftBy (earlier ++ [call]) := by
  refine ext_getElem? fun i => ?_
  cases call with
  | check => simp [respond, getElem?_leftBy]
  | take index =>
    rw [respond, getElem?_take, getElem?_leftBy, getElem?_leftBy, Option.map_map]
    congr 1
    funext entry
    by_cases here : index = i <;> by_cases before : Call.take i ∈ earlier <;>
      simp [here, before, Ne.symm]

/-- What is replied to a call is owed to it. -/
theorem owes_leftBy (r : Response) (earlier : List Call) (call : Call) :
    r.Owes earlier call ((r.leftBy earlier).respond call).1 := by
  cases call with
  | check =>
    rw [respond, check_leftBy]
    exact .verdict
  | take index =>
    rw [respond]
    cases found : r.results[index]? with
    | none =>
      have beyond : (r.leftBy earlier).results.length ≤ index := by
        rw [length_leftBy]
        exact List.getElem?_eq_none_iff.mp found
      rw [take_of_length_le beyond, length_leftBy]
      exact .missing (List.getElem?_eq_none_iff.mp found)
    | some entry =>
      cases status : entry.status with
      | err =>
        rw [take_of_err (getElem?_leftBy_of_err found status earlier) status]
        exact .failed found status
      | ok =>
        have left := r.getElem?_leftBy earlier index
        rw [found, Option.map_some] at left
        by_cases again : Call.take index ∈ earlier
        · rw [if_pos again] at left
          rw [take_of_ok left (by simpa using status), StatementResult.emptied_of_ok status]
          exact .spent found status again
        · rw [if_neg again] at left
          rw [take_of_ok left status]
          exact .original found status again

/-! ## Any calls -/

/-- After earlier calls, each further call gets what is owed to it. -/
theorem respondAll_leftBy (r : Response) (earlier calls : List Call) :
    ((r.leftBy earlier).respondAll calls).2 = r.leftBy (earlier ++ calls) ∧
      ∀ i call, calls[i]? = some call → ∃ reply,
        ((r.leftBy earlier).respondAll calls).1[i]? = some reply ∧
          r.Owes (earlier ++ calls.take i) call reply := by
  induction calls generalizing earlier with
  | nil => simp [respondAll]
  | cons call rest ih =>
    obtain ⟨left, replies⟩ := ih (earlier ++ [call])
    rw [← respond_leftBy] at left replies
    rw [respondAll]
    refine ⟨by simpa using left, fun i later found => ?_⟩
    cases i with
    | zero =>
      obtain rfl : call = later := by simpa using found
      refine ⟨((r.leftBy earlier).respond call).1, rfl, ?_⟩
      rw [List.take_zero, List.append_nil]
      exact r.owes_leftBy earlier call
    | succ i =>
      obtain ⟨reply, replied, owed⟩ := replies i later (by simpa using found)
      exact ⟨reply, by simpa using replied, by simpa using owed⟩

/-- Each of any calls gets what is owed to it. What the calls leave has the results of the response
but for the values taken; and taking one value more changes nothing where there was none, and no
other value anywhere. -/
theorem respondAll_owes (r : Response) (calls : List Call) :
    let replies := (r.respondAll calls).1
    let left := (r.respondAll calls).2
    (∀ i call, calls[i]? = some call →
        ∃ reply, replies[i]? = some reply ∧ r.Owes (calls.take i) call reply) ∧
      left.results.length = r.results.length ∧
      left.results.map (·.status) = r.results.map (·.status) ∧ left.check = r.check ∧
      (∀ index, r.results.length ≤ index ∨
        (∃ entry, r.results[index]? = some entry ∧ entry.status = .err) →
          (left.take index).2 = left) ∧
      ∀ index other, index ≠ other → ((left.take index).2.take other).1 = (left.take other).1 := by
  intro replies left
  obtain ⟨leaves, owed⟩ := r.respondAll_leftBy [] calls
  rw [leftBy_nil, List.nil_append] at leaves
  rw [leftBy_nil] at owed
  have known : left = r.leftBy calls := leaves
  rw [known]
  refine ⟨owed, length_leftBy .., map_status_leftBy .., check_leftBy .., ?_, ?_⟩
  · rintro index (beyond | ⟨entry, found, failed⟩)
    · rw [take_of_length_le (by rwa [length_leftBy])]
    · rw [take_of_err (getElem?_leftBy_of_err found failed calls) failed]
  · intro index other ne
    exact take_fst_congr (getElem?_take_of_ne ne _) (length_take ..)

/-- Three results, the second a failure. -/
def boundWriteAndRows : Response := ⟨[.ok .null, .err "no table", .ok (.array [])]⟩

/-- The rows are delivered once, and the failure to every call; the last call gets what it would
have got at first. -/
theorem owes_rows_once :
    let calls : List Call := [.take 2, .take 1, .check, .take 2, .take 3, .take 1]
    let ran := boundWriteAndRows.respondAll calls
    let fault := Error.executionFailure "statement 1" "no table"
    ran.1 = [.value (.ok (.array [])), .value (.error fault), .verdict (.error fault),
        .value (.ok .null), .value (.error (.malformedResult (.missing 3 3))),
        .value (.error fault)] ∧
      boundWriteAndRows.Owes (calls.take 3) (.take 2) (.value (.ok .null)) ∧
      (ran.2.take 1).2 = ran.2 ∧ ((ran.2.take 2).2.take 0).1 = (ran.2.take 0).1 := by
  intro calls ran fault
  obtain ⟨owed, -, -, -, unchanged, apart⟩ := respondAll_owes boundWriteAndRows calls
  obtain ⟨reply, replied, owes⟩ := owed 3 (.take 2) rfl
  obtain rfl : .value (.ok .null) = reply := Option.some.inj replied
  exact ⟨rfl, owes, unchanged 1 (.inr ⟨_, rfl, rfl⟩), apart 2 0 (by decide)⟩

end Response
end VectorStore
