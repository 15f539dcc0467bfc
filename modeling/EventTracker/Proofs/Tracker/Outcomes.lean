import EventTracker.Proofs.Tracker.Alike
import EventTracker.Proofs.Tracker.Runs

/-!
# One outcome for each request

A run and the flush after it give each call its one outcome, whatever the transport and
the callbacks do. Which of the callbacks fail has no bearing on anything but the log.
-/

namespace EventTracker

variable {w v : World}

/-! ## The event loop in worlds that are alike -/

theorem Task.Alike.owner_eq {task task' : Task} (alike : task.Alike task') :
    task'.owner = task.owner := by
  cases alike
  rfl

theorem Task.Alike.weight_eq {task task' : Task} (alike : task.Alike task') :
    task'.weight = task.weight := by
  obtain ⟨listeners⟩ := alike
  obtain ⟨number, owner, endpoint, url, body, listener⟩ := task
  cases listeners <;> rfl

theorem Task.totalWeight_eq {tasks tasks' : List Task} (alike : List.Forall₂ Task.Alike tasks tasks') :
    Task.totalWeight tasks' = Task.totalWeight tasks := by
  induction alike with
  | nil => rfl
  | cons first rest ih => rw [totalWeight, totalWeight, first.weight_eq, ih]

theorem World.Alike.pending_eq (alike : w.Alike v) : v.pending = w.pending := by
  have owned (place : Nat) {tasks tasks' : List Task}
      (alike : List.Forall₂ Task.Alike tasks tasks') :
      (tasks'.filter fun task => task.owner == place).length =
        (tasks.filter fun task => task.owner == place).length := by
    induction alike with
    | nil => rfl
    | cons first rest ih =>
      simp only [List.filter_cons, first.owner_eq]
      split
      · exact congrArg (· + 1) ih
      · exact ih
  obtain ⟨log, queue, tasks, rfl⟩ := alike
  exact owned w.currentPlace tasks

theorem agree_openChannel (alike : w.Alike v) (place : Nat) (t : Tracker) :
    Agree (w.openChannel place t) (v.openChannel place t) := by
  obtain ⟨log, queue, tasks, rfl⟩ := alike
  unfold World.openChannel
  cases t.channel with
  | some channel => exact ⟨⟨log, queue, tasks, rfl⟩, rfl⟩
  | none => cases t.session <;> exact ⟨⟨log, queue, tasks, rfl⟩, rfl⟩

theorem agree_post (alike : w.Alike v) (t : Tracker) (channel : Channel) (url : Text)
    (body : String) : Agree (w.post t channel url body) (v.post t channel url body) := by
  obtain ⟨log, queue, tasks, rfl⟩ := alike
  have same : ({ w with log, queue } : World).isOpen channel = w.isOpen channel := by
    cases channel <;> rfl
  unfold World.post
  simp only [nextReply_eq, same]
  cases w.isOpen channel with
  | false => exact ⟨⟨_, queue, tasks, rfl⟩, rfl⟩
  | true => cases channel <;> exact ⟨⟨_, queue, tasks, rfl⟩, rfl⟩

theorem World.Alike.runTask (alike : w.Alike v) {task task' : Task} (tasks : task.Alike task') :
    (w.runTask task).Alike (v.runTask task') := by
  obtain ⟨listeners⟩ := tasks
  have trackers : v.trackers = w.trackers := by
    obtain ⟨log, queue, waiting, rfl⟩ := alike
    rfl
  unfold World.runTask
  rw [trackers]
  cases w.trackers[task.owner]? with
  | none => exact alike
  | some t =>
    simp only
    obtain ⟨opened, same⟩ := agree_openChannel alike task.owner t
    rw [← same]
    obtain ⟨posted, same⟩ := agree_post opened t (w.openChannel task.owner t).2 task.url task.body
    rw [← same]
    obtain ⟨log, queue, waiting, done⟩ := (posted.record _ _).deliver listeners _
    rw [done]
    exact ⟨log, queue, waiting, rfl⟩

theorem World.Alike.drain (alike : w.Alike v) (fuel : Nat) : (w.drain fuel).Alike (v.drain fuel) := by
  induction fuel generalizing w v with
  | zero => exact alike
  | succ fuel ih =>
    obtain ⟨log, queue, tasks, rfl⟩ := alike
    rw [World.drain, World.drain]
    simp only
    cases waits : w.queue with
    | nil =>
      rw [waits, List.forall₂_nil_left_iff] at tasks
      subst tasks
      exact ⟨log, [], by rw [waits]; exact .nil, rfl⟩
    | cons task rest =>
      rw [waits, List.forall₂_cons_left_iff] at tasks
      obtain ⟨task', rest', first, others, rfl⟩ := tasks
      have alike : ({ w with queue := rest } : World).Alike { w with log, queue := rest' } :=
        ⟨log, rest', others, rfl⟩
      exact ih (alike.runTask first)

theorem World.Alike.flush (alike : w.Alike v) : w.flush.Alike v.flush := by
  have workload : v.workload = w.workload := by
    obtain ⟨log, queue, tasks, rfl⟩ := alike
    exact Task.totalWeight_eq tasks
  unfold World.flush
  rw [alike.pending_eq, workload]
  split
  · exact alike
  · exact alike.drain _

/-! ## Runs -/

/-- A run whose calls are alike goes the same way. -/
theorem ClientRun.exists_alike {turns : List Turn} {w' : World} (run : ClientRun w turns w')
    (alike : w.Alike v) {calls : List ClientCall}
    (same : List.Forall₂ (fun turn call => turn.call.Alike call) turns calls) :
    ∃ turns' v', ClientRun v turns' v' ∧ w'.Alike v' ∧ turns'.map Turn.call = calls ∧
      turns'.map Turn.looping = turns.map Turn.looping ∧
      turns'.map Turn.result = turns.map Turn.result := by
  induction run generalizing v calls with
  | done w =>
    rw [List.forall₂_nil_left_iff] at same
    subst same
    exact ⟨[], v, .done v, alike, rfl, rfl, rfl⟩
  | @turn w w₁ w' t call looping result turns current returned rest ih =>
    rw [List.forall₂_cons_left_iff] at same
    obtain ⟨call', calls, first, others, rfl⟩ := same
    obtain ⟨worlds, results⟩ := agree_perform (alike.looping looping) t first
    rw [returned] at worlds results
    obtain ⟨turns', v', run', alike', same_calls, same_looping, same_results⟩ := ih worlds others
    have returned' : call'.perform { v with looping } t =
        ((call'.perform { v with looping } t).1, .ok result) := Prod.ext rfl results.symm
    refine ⟨_, v', .turn (alike.current?_eq.trans current) returned' run', alike', ?_, ?_, ?_⟩
    · rw [List.map_cons, same_calls]
    · rw [List.map_cons, List.map_cons, same_looping]
    · rw [List.map_cons, List.map_cons, same_results]

/-- The flushes after two runs that are alike differ in their logs only. -/
theorem World.Alike.flush_eq (alike : w.Alike v)
    (emptied : ({ w with looping := true } : World).flush.queue = []) :
    ∃ log, ({ v with looping := true } : World).flush =
      { ({ w with looping := true } : World).flush with log } := by
  obtain ⟨log, queue, tasks, same⟩ := (alike.looping true).flush
  rw [emptied, List.forall₂_nil_left_iff] at tasks
  subst tasks
  refine ⟨log, same.trans ?_⟩
  rw [← emptied]

/-- Calls of one connected client that all return are settled once and for all by a flush, which ends
because no task is left to run. Had more or fewer of the callbacks failed, only the log would be
another. -/
theorem run_delivers_once {w w' : World} {t : Tracker} {turns : List Turn}
    (client : w.trackers = [t]) (connected : w.Connected) (idle : w.queue = [])
    (run : ClientRun w turns w') :
    let called : World := { w' with looping := true }
    let flushed := called.flush
    (∀ fuel, called.workload ≤ fuel → called.drain fuel = flushed) ∧
      (∃ outcomes, RunSettled t.isDirect w flushed turns outcomes) ∧
      ∀ calls, List.Forall₂ (fun turn call => turn.call.Alike call) turns calls →
        ∃ turns' v', ClientRun w turns' v' ∧ turns'.map Turn.call = calls ∧
          turns'.map Turn.looping = turns.map Turn.looping ∧
          turns'.map Turn.result = turns.map Turn.result ∧
          ∃ log, ({ v' with looping := true } : World).flush = { flushed with log } := by
  intro called flushed
  obtain ⟨outcomes, settled⟩ := flush_settles client connected idle run
  refine ⟨?_, ⟨outcomes, settled⟩, ?_⟩
  · intro fuel enough
    obtain ⟨props, after, waiting⟩ := run.waiting client idle
    exact drain_eq_flush (t := { t with props }) (w := called) after waiting.owners settled.emptied
      enough
  · intro calls same
    obtain ⟨turns', v', run', alike, made, loops, results⟩ :=
      run.exists_alike (World.Alike.refl w) same
    exact ⟨turns', v', run', made, loops, results, alike.flush_eq settled.emptied⟩

/-- One call is refused, and the callback that it tells fails; another makes a task, whose callback
will track an event. With a callback that does not fail it all goes the same way. -/
theorem run_delivers_once_refused_tracking :
    let t : Tracker :=
      { token := "token", config := .standard, name := .str "mon_token"
        props := [(.str "distinct_id", .str "ada")], environment := none
        channel := some .direct, session := none, external := false }
    let w : World :=
      { storage := .memory [] [] 0, files := ⟨[]⟩, log := [], ids := ⟨.succ, 0, []⟩, clock := .ticking 0
        trackers := [t], looping := true, queue := [], created := 0
        replies := [.text 200 "0"], sessions := [], posts := [], deliveries := [], finished := [] }
    let calls (reaction : Reaction) : List ClientCall :=
      [.set (.map []) (some (.int 1)) (.callback ⟨"first", reaction, 1⟩),
        .unset (.str "plan") (.callback ⟨"second", .track "again", 2⟩)]
    w.trackers = [t] ∧ w.Connected ∧ w.queue = [] ∧
      ∃ turns w', turns.map Turn.call = calls .fail ∧ turns.map Turn.result = [none, some 0] ∧
        ClientRun w turns w' ∧
        (∃ outcomes,
          RunSettled true w ({ w' with looping := true } : World).flush turns outcomes) ∧
        ∃ turns' v', turns'.map Turn.call = calls .settle ∧ ClientRun w turns' v' ∧
          ∃ log, ({ v' with looping := true } : World).flush =
            { ({ w' with looping := true } : World).flush with log } := by
  intro t w calls
  have connected : w.Connected := .of_alone (t := t) rfl ⟨nofun, nofun⟩
  let first : ClientCall := .set (.map []) (some (.int 1)) (.callback ⟨"first", .fail, 1⟩)
  let second : ClientCall := .unset (.str "plan") (.callback ⟨"second", .track "again", 2⟩)
  have refused : first.perform { w with looping := true } t =
      ((first.perform { w with looping := true } t).1, .ok none) := rfl
  generalize first_world : (first.perform { w with looping := true } t).1 = w₁ at refused
  have made : second.perform { w₁ with looping := true } t =
      ((second.perform { w₁ with looping := true } t).1, .ok (some 0)) := by
    rw [← first_world]
    rfl
  have run := ClientRun.turn rfl refused (.turn (by rw [← first_world]; rfl) made (.done _))
  obtain ⟨-, settled, others⟩ := run_delivers_once (t := t) rfl connected rfl run
  obtain ⟨turns', v', run', made', -, -, same⟩ := others (calls .settle)
    (.cons (.set (.settles "first" 1)) (.cons (.unset (.same _)) .nil))
  exact ⟨rfl, connected, rfl, _, _, rfl, rfl, run, settled, turns', v', made', run', same⟩

end EventTracker
