import PreparedSql.Session.Basic

/-!
# What an execution sends

A session keeps the list of what it sent. Main statement: running a statement executes it once, with
the given parameters, if it succeeds, and not at all if it fails (`Session.executed_run`).
-/

namespace PreparedSql

open Calendar

def Traffic.parameters? : Traffic → Option (List (Datum DateTime))
  | execute _ parameters => some parameters
  | prepare .. | close _ => none

namespace Session

def executed (σ : Session) : List (List (Datum DateTime)) :=
  σ.traffic.filterMap Traffic.parameters?

def sentFor {ε α : Type} (parameters : List (Datum DateTime)) : Except ε α → List (List (Datum DateTime))
  | .ok _ => [parameters]
  | .error _ => []

theorem executed_send (t : Traffic) (σ : Session) :
    (σ.send t).executed = σ.executed ++ t.parameters?.toList := by
  cases t <;> simp [executed, send, Traffic.parameters?]

@[simp] theorem executed_close (id : Nat) (σ : Session) : (σ.send (.close id)).executed = σ.executed := by
  simp [executed_send, Traffic.parameters?]

/-- Behind the last reply the server is done and changed nothing. -/
theorem nextReply_eq (σ : Session) :
    σ.nextReply = (σ.replies.headD {}, { σ with replies := σ.replies.tail }) := by
  obtain ⟨replies, _, _, _, _, _⟩ := σ
  cases replies <;> rfl

/-- The next reply is decided by the replies that are left. -/
theorem nextReply_congr {σ σ' : Session} (same : σ.replies = σ'.replies) :
    σ.nextReply.1 = σ'.nextReply.1 := by
  rw [nextReply_eq, nextReply_eq, same]

@[simp] theorem traffic_nextReply (σ : Session) : σ.nextReply.2.traffic = σ.traffic := by
  rw [nextReply_eq]

@[simp] theorem traffic_finish (σ : Session) : σ.finish.2.traffic = σ.traffic := by
  unfold finish
  split <;> rfl

/-- What becomes of the connection after an answer: it is left as it is, or the answer is read to its end, which
may be logged. -/
inductive Drains (σ : Session) : Session → Prop where
  | untouched : Drains σ σ
  | finished : Drains σ σ.finish.2
  | logged (e : Event) : Drains σ (σ.finish.2.log e)

theorem drains_firstRow (answer : Answer) (σ : Session) : σ.Drains (σ.firstRow answer).2 := by
  have drained : σ.Drains σ.finish.2 := .finished
  unfold firstRow
  split
  · exact .untouched
  · split <;> rename_i read <;> rwa [read] at drained

/-- Reading an answer sends nothing. -/
theorem Drains.traffic {σ after : Session} (drains : σ.Drains after) : after.traffic = σ.traffic := by
  cases drains with
  | untouched => rfl
  | finished => exact σ.traffic_finish
  | logged e => exact σ.traffic_finish

theorem refusal_nextReply (σ : Session) :
    σ.nextReply.1.refusal = σ.replies.head?.bind Reply.refusal := by
  rw [nextReply_eq]
  cases σ.replies <;> rfl

/-- Preparing fails as the next reply says, or gives out an id and leaves the reply for the execution. -/
theorem prepare_cases (sql : String) (σ : Session) :
    (∃ e, σ.nextReply.1.refusal = some e ∧
        σ.prepare sql = (.error e, { σ with replies := σ.replies.tail }.send (.prepare sql none))) ∨
      (σ.nextReply.1.refusal = none ∧
        σ.prepare sql = (.ok (σ.preparedCount + 1), { σ with preparedCount := σ.preparedCount + 1 }.send
          (.prepare sql (some (σ.preparedCount + 1))))) := by
  rw [refusal_nextReply, prepare]
  cases σ.replies.head?.bind Reply.refusal with
  | some e => exact .inl ⟨e, rfl, rfl⟩
  | none => exact .inr ⟨rfl, rfl⟩

theorem executed_prepare (sql : String) (σ : Session) : (σ.prepare sql).2.executed = σ.executed := by
  rcases σ.prepare_cases sql with ⟨e, _, given⟩ | ⟨_, given⟩
  · rw [given, executed_send]
    exact List.append_nil _
  · rw [given, executed_send]
    exact List.append_nil _

theorem closeAll_eq (oldest : List (String × Nat)) (σ : Session) :
    oldest.foldl (fun σ (_, id) => σ.send (.close id)) σ =
      { σ with traffic := σ.traffic ++ oldest.map fun (_, id) => .close id } := by
  induction oldest generalizing σ with
  | nil => simp
  | cons first rest ih =>
    rw [List.foldl_cons, ih]
    simp [send]

/-- The statements that make room for another are closed, and nothing else is sent. -/
theorem keep_eq (sql : String) (id : Nat) (σ : Session) :
    let others := σ.prepared.filter fun (text, _) => text ≠ sql
    σ.keep sql id = { σ with
      prepared := (sql, id) :: others.take (capacity - 1)
      traffic := σ.traffic ++ (others.drop (capacity - 1)).map fun (_, id) => .close id } :=
  closeAll_eq _ _

theorem executed_keep (sql : String) (id : Nat) (σ : Session) : (σ.keep sql id).executed = σ.executed := by
  have silent (oldest : List (String × Nat)) :
      (oldest.map fun (_, id) => Traffic.close id).filterMap Traffic.parameters? = [] := by
    refine List.filterMap_eq_nil_iff.2 fun t member => ?_
    obtain ⟨_, _, rfl⟩ := List.mem_map.1 member
    rfl
  rw [keep_eq, executed, List.filterMap_append, silent, List.append_nil, executed]

theorem executed_execute (id : Nat) (parameters : List (Datum DateTime)) (σ : Session) :
    (σ.execute id parameters).2.executed = σ.executed ++ [parameters] := by
  have traffic : (σ.execute id parameters).2.traffic = (σ.send (.execute id parameters)).traffic :=
    traffic_nextReply _
  rw [executed, traffic]
  exact executed_send (.execute id parameters) σ

theorem executed_runPersistent (sql : String) (parameters : List (Datum DateTime)) (σ : Session) :
    (σ.runPersistent sql parameters).2.executed =
      σ.executed ++ sentFor parameters (σ.runPersistent sql parameters).1 := by
  unfold runPersistent
  split
  · rename_i id kept
    exact (executed_execute id parameters _).trans (by rw [executed_keep]; rfl)
  · have prepared := executed_prepare sql σ
    split
    · rename_i e σ' refused
      rw [refused] at prepared
      exact prepared.trans (List.append_nil _).symm
    · rename_i id σ' accepted
      rw [accepted] at prepared
      exact (executed_execute id parameters _).trans (by rw [executed_keep, prepared]; rfl)

theorem executed_runOnce (sql : String) (parameters : List (Datum DateTime)) (σ : Session) :
    (σ.runOnce sql parameters).2.executed =
      σ.executed ++ sentFor parameters (σ.runOnce sql parameters).1 := by
  unfold runOnce
  have prepared := executed_prepare sql σ
  split
  · rename_i e σ' refused
    rw [refused] at prepared
    exact prepared.trans (List.append_nil _).symm
  · rename_i id σ' accepted
    rw [accepted] at prepared
    exact (executed_close id _).trans ((executed_execute id parameters _).trans (by rw [prepared]; rfl))

/-- A statement is not run if a date among its parameters cannot be encoded, nor if an error waits on the
connection. -/
theorem run_cases (sql : String) (persistent : Bool) (parameters : List (Datum DateTime)) (σ : Session) :
    (∃ position date, firstUnsendable parameters = some (position, date) ∧
        σ.run sql persistent parameters = (.error (.database (.encode position date)), σ)) ∨
      (firstUnsendable parameters = none ∧ ∃ e, σ.unread = some e ∧
        σ.run sql persistent parameters = (.error (.database (.server e)), { σ with unread := none })) ∨
      (firstUnsendable parameters = none ∧ σ.unread = none ∧ ∃ result after,
        (if persistent then σ.runPersistent sql parameters else σ.runOnce sql parameters) = (result, after) ∧
          σ.run sql persistent parameters = (result.mapError fun e => .database (.server e), after)) := by
  cases sendable : firstUnsendable parameters with
  | some unsendable => exact .inl ⟨_, _, rfl, by rw [run, sendable]⟩
  | none =>
    cases unread : σ.unread with
    | some e => exact .inr (.inl ⟨rfl, e, rfl, by rw [run, sendable, finish, unread]⟩)
    | none =>
      refine .inr (.inr ⟨rfl, rfl, ?_⟩)
      rw [run, sendable, finish, unread]
      dsimp only
      generalize (if persistent then σ.runPersistent sql parameters else σ.runOnce sql parameters) = outcome
      obtain ⟨result, after⟩ := outcome
      cases result <;> exact ⟨_, _, rfl, rfl⟩

/-- A statement that fails before its answer was not executed, any other was executed once. -/
theorem executed_run (sql : String) (persistent : Bool) (parameters : List (Datum DateTime))
    (σ : Session) :
    (σ.run sql persistent parameters).2.executed =
      σ.executed ++ sentFor parameters (σ.run sql persistent parameters).1 := by
  rcases σ.run_cases sql persistent parameters with
    ⟨_, _, _, given⟩ | ⟨_, e, _, given⟩ | ⟨_, _, result, after, ran, given⟩
  · rw [given]
    exact (List.append_nil _).symm
  · rw [given]
    exact (List.append_nil _).symm
  · have sent : after.executed = σ.executed ++ sentFor parameters result := by
      cases persistent with
      | true =>
        have sent := executed_runPersistent sql parameters σ
        rwa [show σ.runPersistent sql parameters = (result, after) from ran] at sent
      | false =>
        have sent := executed_runOnce sql parameters σ
        rwa [show σ.runOnce sql parameters = (result, after) from ran] at sent
    rw [given]
    cases result <;> exact sent

end Session

end PreparedSql
