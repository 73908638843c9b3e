import PreparedSql.Proofs.Rows.Delivery
import PreparedSql.Proofs.Use.Traffic

/-!
# What a server serves

A server executes statements by the ids that it gave out; what it executes is the text that it prepared
under the id. Main statements: in every session that use leads to, the statements that are kept are
prepared on the server under their ids (`Session.Reached.consistent`), so that a statement whose dates
can be encoded is served once with its text and its parameters, unless an error waits on the
connection or the server refuses to prepare (`Session.sends_run`).
-/

namespace PreparedSql

open Calendar

/-- The texts that the server keeps under their ids, and what it executed. -/
structure Served where
  text? : Nat → Option String := fun _ => none
  executed : List (Option String × List (Datum DateTime)) := []

namespace Served

def receive (v : Served) : Traffic → Served
  | .prepare sql (some id) => { v with text? := fun i => if i = id then some sql else v.text? i }
  | .prepare _ none => v
  | .execute id parameters => { v with executed := v.executed ++ [(v.text? id, parameters)] }
  | .close id => { v with text? := fun i => if i = id then none else v.text? i }

def of (traffic : List Traffic) : Served :=
  traffic.foldl receive {}

end Served

namespace Session

def served (σ : Session) : Served :=
  .of σ.traffic

@[simp] theorem served_send (t : Traffic) (σ : Session) : (σ.send t).served = σ.served.receive t := by
  simp [served, Served.of, send]

theorem served_congr {σ σ' : Session} (same : σ.traffic = σ'.traffic) : σ.served = σ'.served :=
  congrArg Served.of same

/-- Where the session stands with the server: what it keeps is prepared under its ids, each text once, and
higher ids than it counted are free. -/
structure Consistent (σ : Session) : Prop where
  kept : ∀ text id, (text, id) ∈ σ.prepared → σ.served.text? id = some text
  distinct : (σ.prepared.map Prod.fst).Nodup
  free : ∀ id, σ.preparedCount < id → σ.served.text? id = none

theorem Consistent.congr {σ σ' : Session} (h : σ.Consistent) (prepared : σ'.prepared = σ.prepared)
    (count : σ'.preparedCount = σ.preparedCount) (traffic : σ'.traffic = σ.traffic) : σ'.Consistent := by
  have served := served_congr traffic
  exact ⟨by rw [prepared, served]; exact h.kept, by rw [prepared]; exact h.distinct,
    by rw [count, served]; exact h.free⟩

structure Holds (σ : Session) (sql : String) (id : Nat) : Prop where
  consistent : σ.Consistent
  text : σ.served.text? id = some sql

structure Prepared (σ after : Session) (sql : String) (id : Nat) : Prop extends after.Holds sql id where
  executed : after.served.executed = σ.served.executed
  new : ∀ text other, (text, other) ∈ after.prepared → other ≠ id

theorem Consistent.prepared {σ : Session} (h : σ.Consistent) (sql : String) :
    σ.Prepared (Session.send (.prepare sql (some (σ.preparedCount + 1)))
      { σ with preparedCount := σ.preparedCount + 1 }) sql (σ.preparedCount + 1) := by
  have new : ∀ text other, (text, other) ∈ σ.prepared → other ≠ σ.preparedCount + 1 := by
    rintro text other member rfl
    have free := h.free (σ.preparedCount + 1) (Nat.lt_succ_self _)
    rw [h.kept text _ member] at free
    cases free
  have served : (Session.send (.prepare sql (some (σ.preparedCount + 1)))
      { σ with preparedCount := σ.preparedCount + 1 }).served =
        σ.served.receive (.prepare sql (some (σ.preparedCount + 1))) := served_send _ _
  refine ⟨⟨⟨?_, h.distinct, ?_⟩, ?_⟩, ?_, new⟩
  · intro text other member
    rw [served]
    simpa [Served.receive, new text other member] using h.kept text other member
  · intro other above
    have above : σ.preparedCount + 1 < other := above
    rw [served]
    simpa [Served.receive, Nat.ne_of_gt above] using h.free other (by omega)
  · rw [served]
    simp [Served.receive]
  · rw [served]
    rfl

theorem Consistent.refused {σ : Session} (h : σ.Consistent) (sql : String) :
    (Session.send (.prepare sql none) { σ with replies := σ.replies.tail }).Consistent := by
  have served : (Session.send (.prepare sql none) { σ with replies := σ.replies.tail }).served = σ.served :=
    served_send _ _
  exact ⟨by rw [served]; exact h.kept, h.distinct, by rw [served]; exact h.free⟩

theorem served_closed (oldest : List (String × Nat)) (v : Served) :
    (oldest.map fun (_, id) => Traffic.close id).foldl Served.receive v =
      { v with text? := fun i => if i ∈ oldest.map Prod.snd then none else v.text? i } := by
  induction oldest generalizing v with
  | nil => simp
  | cons first rest ih =>
    rw [List.map_cons, List.foldl_cons, ih]
    simp only [Served.receive, List.map_cons, List.mem_cons, Served.mk.injEq, and_true]
    funext i
    by_cases later : i ∈ rest.map Prod.snd <;> by_cases same : i = first.2 <;> simp [later, same]

def others (σ : Session) (sql : String) : List (String × Nat) :=
  σ.prepared.filter fun (text, _) => text ≠ sql

theorem served_keep (sql : String) (id : Nat) (σ : Session) :
    (σ.keep sql id).served = { σ.served with
      text? := fun i => if i ∈ ((σ.others sql).drop (capacity - 1)).map Prod.snd then none else σ.served.text? i } := by
  rw [keep_eq, Session.served, Served.of, List.foldl_append]
  exact served_closed _ _

theorem Consistent.of_mem_others {σ : Session} (h : σ.Consistent) {sql text : String} {i : Nat}
    (member : (text, i) ∈ σ.others sql) : σ.served.text? i = some text ∧ text ≠ sql := by
  obtain ⟨kept, other⟩ := List.mem_filter.1 member
  exact ⟨h.kept text i kept, by simpa using other⟩

theorem Consistent.nodup_others {σ : Session} (h : σ.Consistent) (sql : String) :
    ((σ.others sql).map Prod.fst).Nodup :=
  h.distinct.sublist (List.filter_sublist.map _)

/-- Nothing that stays is among what is closed. -/
theorem Holds.stays {σ : Session} {sql : String} {id : Nat} (h : σ.Holds sql id) {text : String} {i : Nat}
    (member : (text, i) ∈ (sql, id) :: (σ.others sql).take (capacity - 1)) :
    σ.served.text? i = some text ∧ i ∉ ((σ.others sql).drop (capacity - 1)).map Prod.snd := by
  have here : σ.served.text? i = some text := by
    rcases List.mem_cons.1 member with same | taken
    · cases same
      exact h.text
    · exact (h.consistent.of_mem_others (List.mem_of_mem_take taken)).1
  refine ⟨here, fun closed => ?_⟩
  obtain ⟨⟨old, _⟩, dropped, rfl⟩ := List.mem_map.1 closed
  -- An id belongs to one text, so what is closed under it is the same text.
  obtain ⟨there, other⟩ := h.consistent.of_mem_others (List.mem_of_mem_drop dropped)
  cases here.symm.trans there
  rcases List.mem_cons.1 member with same | taken
  · cases same
    exact other rfl
  · have distinct := h.consistent.nodup_others sql
    rw [← List.take_append_drop (capacity - 1) (σ.others sql), List.map_append, List.nodup_append] at distinct
    exact distinct.2.2 text (List.mem_map_of_mem taken) text (List.mem_map_of_mem dropped) rfl

theorem Holds.keep {σ : Session} {sql : String} {id : Nat} (h : σ.Holds sql id) :
    (σ.keep sql id).Holds sql id ∧ (σ.keep sql id).served.executed = σ.served.executed := by
  have served := σ.served_keep sql id
  have prepared : (σ.keep sql id).prepared = (sql, id) :: (σ.others sql).take (capacity - 1) := by
    rw [keep_eq]
    rfl
  have count : (σ.keep sql id).preparedCount = σ.preparedCount := by rw [keep_eq]
  refine ⟨⟨⟨?_, ?_, ?_⟩, ?_⟩, by rw [served]⟩
  · intro text i member
    rw [prepared] at member
    obtain ⟨here, stays⟩ := h.stays member
    rw [served]
    exact (if_neg stays).trans here
  · have fresh : sql ∉ ((σ.others sql).take (capacity - 1)).map Prod.fst := by
      intro member
      obtain ⟨⟨text, i⟩, taken, rfl⟩ := List.mem_map.1 member
      exact (h.consistent.of_mem_others (List.mem_of_mem_take taken)).2 rfl
    rw [prepared, List.map_cons, List.nodup_cons]
    exact ⟨fresh, (h.consistent.nodup_others sql).sublist ((List.take_sublist _ _).map _)⟩
  · intro i above
    rw [count] at above
    rw [served]
    dsimp only
    split
    · rfl
    · exact h.consistent.free i above
  · rw [served]
    exact (if_neg (h.stays List.mem_cons_self).2).trans h.text

theorem Holds.execute {σ : Session} {sql : String} {id : Nat} (h : σ.Holds sql id)
    (parameters : List (Datum DateTime)) :
    (σ.execute id parameters).2.Holds sql id ∧
      (σ.execute id parameters).2.served.executed = σ.served.executed ++ [(some sql, parameters)] ∧
      (σ.execute id parameters).2.prepared = σ.prepared := by
  have traffic : (σ.execute id parameters).2.traffic = (σ.send (.execute id parameters)).traffic :=
    traffic_nextReply _
  have served := (served_congr traffic).trans (served_send _ _)
  have kept : (σ.execute id parameters).2.prepared = σ.prepared ∧
      (σ.execute id parameters).2.preparedCount = σ.preparedCount := by
    rw [Session.execute, nextReply_eq]
    exact ⟨rfl, rfl⟩
  obtain ⟨prepared, count⟩ := kept
  refine ⟨⟨⟨?_, ?_, ?_⟩, ?_⟩, ?_, prepared⟩
  · rw [prepared, served]
    exact h.consistent.kept
  · rw [prepared]
    exact h.consistent.distinct
  · rw [count, served]
    exact h.consistent.free
  · rw [served]
    exact h.text
  · rw [served, Served.receive, h.text]

/-- A statement that is closed after its execution leaves nothing behind. -/
theorem Prepared.executeAndClose {σ after : Session} {sql : String} {id : Nat}
    (prepared : σ.Prepared after sql id) (parameters : List (Datum DateTime)) :
    ((after.execute id parameters).2.send (.close id)).Consistent ∧
      ((after.execute id parameters).2.send (.close id)).served.executed =
        σ.served.executed ++ [(some sql, parameters)] := by
  obtain ⟨done, sent, same⟩ := prepared.toHolds.execute parameters
  have served := served_send (.close id) (after.execute id parameters).2
  refine ⟨⟨?_, done.consistent.distinct, ?_⟩, ?_⟩
  · intro text other member
    have kept := done.consistent.kept text other member
    have member : (text, other) ∈ (after.execute id parameters).2.prepared := member
    rw [same] at member
    rw [served]
    exact (if_neg (prepared.new text other member)).trans kept
  · intro other above
    rw [served]
    dsimp only [Served.receive]
    split
    · rfl
    · exact done.consistent.free other above
  · rw [served, ← prepared.executed]
    exact sent

/-- The text stays prepared from an execution before. -/
def Keeps (σ : Session) (sql : String) (persistent : Bool) : Prop :=
  persistent = true ∧ (σ.prepared.lookup sql).isSome = true

/-- What running comes to on a connection on which no error waits: the server refuses to prepare the text, or
executes it once. -/
inductive Runs (σ : Session) (sql : String) (persistent : Bool) (parameters : List (Datum DateTime)) :
    Except ServerError Answer → Session → Prop where
  | refused {e : ServerError} {after : Session} (unprepared : ¬ σ.Keeps sql persistent)
      (refusal : σ.nextReply.1.refusal = some e) (consistent : after.Consistent)
      (traffic : after.traffic = σ.traffic ++ [.prepare sql none]) :
      Runs σ sql persistent parameters (.error e) after
  | once {answer : Answer} {after : Session}
      (ready : σ.Keeps sql persistent ∨ σ.nextReply.1.refusal = none) (consistent : after.Consistent)
      (executed : after.served.executed = σ.served.executed ++ [(some sql, parameters)]) :
      Runs σ sql persistent parameters (.ok answer) after

theorem Consistent.runPersistent {σ : Session} (h : σ.Consistent) (sql : String)
    (parameters : List (Datum DateTime)) :
    σ.Runs sql true parameters (σ.runPersistent sql parameters).1 (σ.runPersistent sql parameters).2 := by
  unfold Session.runPersistent
  cases found : σ.prepared.lookup sql with
  | some id =>
    have member : (sql, id) ∈ σ.prepared := by
      obtain ⟨before, after, same, _⟩ := List.lookup_eq_some_iff.1 found
      simp [same]
    have holds : σ.Holds sql id := ⟨h, h.kept sql id member⟩
    obtain ⟨kept, executed⟩ := holds.keep
    obtain ⟨after, sent, _⟩ := kept.execute parameters
    exact .once (.inl ⟨rfl, by rw [found]; rfl⟩) after.consistent (sent.trans (by rw [executed]))
  | none =>
    rcases σ.prepare_cases sql with ⟨e, refusal, given⟩ | ⟨refusal, given⟩
    · rw [given]
      exact .refused (by simp [Keeps, found]) refusal (h.refused sql) rfl
    · have prepared := h.prepared sql
      obtain ⟨kept, executed⟩ := prepared.toHolds.keep
      obtain ⟨after, sent, _⟩ := kept.execute parameters
      rw [given]
      exact .once (.inr refusal) after.consistent (sent.trans (by rw [executed, prepared.executed]))

theorem Consistent.runOnce {σ : Session} (h : σ.Consistent) (sql : String)
    (parameters : List (Datum DateTime)) :
    σ.Runs sql false parameters (σ.runOnce sql parameters).1 (σ.runOnce sql parameters).2 := by
  unfold Session.runOnce
  rcases σ.prepare_cases sql with ⟨e, refusal, given⟩ | ⟨refusal, given⟩
  · rw [given]
    exact .refused (by simp [Keeps]) refusal (h.refused sql) rfl
  · obtain ⟨consistent, executed⟩ := (h.prepared sql).executeAndClose parameters
    rw [given]
    exact .once (.inr refusal) consistent executed

theorem Consistent.runs {σ : Session} (h : σ.Consistent) (sql : String) (persistent : Bool)
    (parameters : List (Datum DateTime)) :
    σ.Runs sql persistent parameters
      (if persistent then σ.runPersistent sql parameters else σ.runOnce sql parameters).1
      (if persistent then σ.runPersistent sql parameters else σ.runOnce sql parameters).2 := by
  cases persistent with
  | true => exact h.runPersistent sql parameters
  | false => exact h.runOnce sql parameters

theorem Runs.consistent {σ after : Session} {sql : String} {persistent : Bool}
    {parameters : List (Datum DateTime)} {result : Except ServerError Answer}
    (runs : σ.Runs sql persistent parameters result after) : after.Consistent := by
  cases runs with
  | refused _ _ consistent _ => exact consistent
  | once _ consistent _ => exact consistent

theorem Consistent.finish {σ : Session} (h : σ.Consistent) : σ.finish.2.Consistent := by
  unfold Session.finish
  split
  · exact h
  · exact h.congr rfl rfl rfl

/-- Running a statement keeps the session in step with the server. -/
theorem Consistent.run {σ : Session} (h : σ.Consistent) (sql : String) (persistent : Bool)
    (parameters : List (Datum DateTime)) : (σ.run sql persistent parameters).2.Consistent := by
  rcases σ.run_cases sql persistent parameters with
    ⟨_, _, _, given⟩ | ⟨_, e, _, given⟩ | ⟨_, _, result, after, ran, given⟩
  · rwa [given]
  · rw [given]
    exact h.congr rfl rfl rfl
  · have runs := h.runs sql persistent parameters
    rw [ran] at runs
    rw [given]
    exact runs.consistent

/-- The sessions that use leads to, from a connection that was just opened. -/
inductive Reached : Session → Prop where
  | opened : Reached {}
  | expect {σ : Session} (before : Reached σ) (replies : List Reply) : Reached (σ.expect replies)
  | log {σ : Session} (before : Reached σ) (e : Event) : Reached (σ.log e)
  | run {σ : Session} (before : Reached σ) (sql : String) (persistent : Bool)
      (parameters : List (Datum DateTime)) : Reached (σ.run sql persistent parameters).2
  | finish {σ : Session} (before : Reached σ) : Reached σ.finish.2

theorem Reached.consistent {σ : Session} (reached : σ.Reached) : σ.Consistent := by
  induction reached with
  | opened => exact ⟨by simp, by simp, fun _ _ => rfl⟩
  | expect _ replies ih => exact ih.congr rfl rfl rfl
  | log _ e ih => exact ih.congr rfl rfl rfl
  | run _ sql persistent parameters ih => exact ih.run sql persistent parameters
  | finish _ ih => exact ih.finish

/-- What one execution comes to if its parameters can be encoded: the error that waits on the connection, a
refusal to prepare the text, or one execution of the text with the parameters. -/
inductive Sends (σ : Session) (sql : String) (persistent : Bool) (parameters : List (Datum DateTime)) :
    Except Error Unit → List Traffic → Prop where
  | waiting {e : ServerError} (unread : σ.unread = some e) :
      Sends σ sql persistent parameters (.error e.reported) σ.traffic
  | refused {e : ServerError} (unread : σ.unread = none) (unprepared : ¬ σ.Keeps sql persistent)
      (refusal : σ.nextReply.1.refusal = some e) :
      Sends σ sql persistent parameters (.error e.reported) (σ.traffic ++ [.prepare sql none])
  | once {result : Except Error Unit} {traffic : List Traffic} (unread : σ.unread = none)
      (ready : σ.Keeps sql persistent ∨ σ.nextReply.1.refusal = none)
      (executed : (Served.of traffic).executed = σ.served.executed ++ [(some sql, parameters)]) :
      Sends σ sql persistent parameters result traffic

/-- A run comes to one of three things: the waiting error, a refusal, or one execution. -/
theorem sends_run {σ : Session} (reached : σ.Reached) (sql : String) (persistent : Bool)
    {parameters : List (Datum DateTime)} (sendable : firstUnsendable parameters = none) :
    σ.Sends sql persistent parameters ((σ.run sql persistent parameters).1.map fun _ => ())
      (σ.run sql persistent parameters).2.traffic := by
  rcases σ.run_cases sql persistent parameters with
    ⟨_, _, unsendable, _⟩ | ⟨_, e, unread, given⟩ | ⟨_, unread, result, after, ran, given⟩
  · cases sendable.symm.trans unsendable
  · rw [given]
    exact .waiting unread
  · have runs := reached.consistent.runs sql persistent parameters
    rw [ran] at runs
    rw [given]
    cases runs with
    | refused unprepared refusal _ traffic =>
      dsimp only
      rw [traffic]
      exact .refused unread unprepared refusal
    | once ready _ executed => exact .once unread ready executed

end Session

end PreparedSql
