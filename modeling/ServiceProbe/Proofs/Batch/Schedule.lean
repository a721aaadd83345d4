import Mathlib.Data.List.Nodup
import Mathlib.Logic.Relation
import ServiceProbe.Program

/-!
# Batches in any order

The keys of a batch are spawned one after the other and evaluated at the same time. They end in
any order, and what has ended is handed over in any order, once the last key is spawned. No step
changes what was handed over together with what is outstanding, and every step leaves fewer to
take. So a batch comes to its end with the results of all keys in some order, and sorting them by
place leaves a single one.
-/

namespace ServiceProbe

namespace Batch

section Order

variable {monitor : Nat → Monitor} {keys : List String} {finished : List Finished}

/-- The result of a key at its place. -/
def evaluated (monitor : Nat → Monitor) (task : String × Nat) : Finished :=
  ⟨task.2, task.1, (monitor task.2).evaluateKey task.1⟩

/-- The keys of a batch are evaluated with their places. -/
theorem evaluate_eq_map : evaluate monitor keys = keys.zipIdx.map (evaluated monitor) := rfl

/-- The places of a batch count its keys. -/
theorem map_place_evaluate (monitor : Nat → Monitor) (keys : List String) :
    (evaluate monitor keys).map (·.place) = List.range keys.length := by
  have places : Finished.place ∘ evaluated monitor = Prod.snd := rfl
  rw [evaluate_eq_map, List.map_map, places, List.zipIdx_map_snd, List.range_eq_range']

/-- Every result of a batch is that of the key at its place. -/
theorem own_of_mem_evaluate {result : Finished} (h : result ∈ evaluate monitor keys) :
    keys[result.place]? = some result.raw ∧
      result.check = (monitor result.place).evaluateKey result.raw := by
  obtain ⟨task, listed, rfl⟩ := List.mem_map.mp h
  exact ⟨List.mem_zipIdx_iff_getElem?.mp listed, rfl⟩

/-- The results of a batch stand in the order of their places. -/
theorem pairwise_evaluate :
    (evaluate monitor keys).Pairwise fun first second => first.place ≤ second.place := by
  rw [← List.pairwise_map, map_place_evaluate]
  exact List.pairwise_lt_range.imp Nat.le_of_lt

/-- Sorting puts results in the order of their places. -/
theorem pairwise_inOrder (finished : List Finished) :
    (inOrder finished).Pairwise fun first second => first.place ≤ second.place := by
  have sorted : (inOrder finished).Pairwise fun first second =>
      decide (first.place ≤ second.place) = true := by
    apply List.pairwise_mergeSort
    · intro first second third le le'
      simp only [decide_eq_true_eq] at le le' ⊢
      omega
    · intro first second
      simp only [Bool.or_eq_true, decide_eq_true_eq]
      exact Nat.le_total first.place second.place
  exact sorted.imp of_decide_eq_true

/-- Whatever order the results of a batch are in, sorting restores the one they were asked for. -/
theorem inOrder_eq_of_perm (h : finished.Perm (evaluate monitor keys)) :
    inOrder finished = evaluate monitor keys := by
  have perm : (inOrder finished).Perm (evaluate monitor keys) :=
    (List.mergeSort_perm finished _).trans h
  have places : ((evaluate monitor keys).map (·.place)).Nodup := by
    rw [map_place_evaluate]
    exact List.nodup_range
  refine perm.eq_of_pairwise ?_ (pairwise_inOrder finished) pairwise_evaluate
  intro first second hf hs le ge
  exact List.inj_on_of_nodup_map places (perm.mem_iff.mp hf) hs (Nat.le_antisymm le ge)

end Order

/-- How far a batch has come. -/
structure Progress where
  /-- The keys that are yet to be spawned, with their places. -/
  waiting : List (String × Nat)
  /-- The tasks that run. -/
  running : List (String × Nat)
  /-- The results of tasks that ended, not handed over yet. -/
  ended : List Finished
  /-- The results handed over, the first one first. -/
  yielded : List Finished

namespace Progress

variable {monitor : Nat → Monitor} {keys : List String} {finished : List Finished}

/-- Nothing but the keys of a batch. -/
def start (keys : List String) : Progress := ⟨keys.zipIdx, [], [], []⟩

/-- Nothing but results that were handed over. -/
def done (finished : List Finished) : Progress := ⟨[], [], [], finished⟩

/-- One step of a batch. -/
inductive Step (monitor : Nat → Monitor) : Progress → Progress → Prop where
  /-- The next key becomes a task. -/
  | spawn (task : String × Nat) (waiting running : List (String × Nat))
      (ended yielded : List Finished) :
      Step monitor ⟨task :: waiting, running, ended, yielded⟩
        ⟨waiting, task :: running, ended, yielded⟩
  /-- One of the tasks ends. -/
  | complete (task : String × Nat) (waiting before after : List (String × Nat))
      (ended yielded : List Finished) :
      Step monitor ⟨waiting, before ++ task :: after, ended, yielded⟩
        ⟨waiting, before ++ after, evaluated monitor task :: ended, yielded⟩
  /-- One of the results is handed over, when every key was spawned. -/
  | yield (result : Finished) (running : List (String × Nat))
      (before after yielded : List Finished) :
      Step monitor ⟨[], running, before ++ result :: after, yielded⟩
        ⟨[], running, before ++ after, yielded ++ [result]⟩

/-- A batch that came all the way and handed over its results in this order. -/
def Yields (monitor : Nat → Monitor) (keys : List String) (finished : List Finished) : Prop :=
  Relation.ReflTransGen (Step monitor) (start keys) (done finished)

/-- The results that are yet to be handed over. -/
def outstanding (monitor : Nat → Monitor) (progress : Progress) : List Finished :=
  progress.ended ++ (progress.running ++ progress.waiting).map (evaluated monitor)

/-- The results that were handed over and those that will be. -/
def results (monitor : Nat → Monitor) (progress : Progress) : List Finished :=
  progress.yielded ++ progress.outstanding monitor

/-- No step loses a result, makes up one or gives it to another key. -/
theorem Step.results_perm {first second : Progress} (h : Step monitor first second) :
    (second.results monitor).Perm (first.results monitor) := by
  cases h with
  | spawn task waiting running ended yielded =>
    have tasks : (task :: running ++ waiting).Perm (running ++ task :: waiting) :=
      List.perm_middle.symm
    exact ((tasks.map _).append_left ended).append_left yielded
  | complete task waiting before after ended yielded =>
    have tasks : (before ++ task :: after ++ waiting).Perm (task :: (before ++ after ++ waiting)) :=
      List.perm_middle.append_right waiting
    have moved : (evaluated monitor task :: ended ++
        (before ++ after ++ waiting).map (evaluated monitor)).Perm
        (ended ++ (before ++ task :: after ++ waiting).map (evaluated monitor)) :=
      List.perm_middle.symm.trans ((tasks.map _).symm.append_left ended)
    exact moved.append_left yielded
  | yield result running before after yielded =>
    have front : (result :: (before ++ after)).Perm (before ++ result :: after) :=
      List.perm_middle.symm
    rw [results, List.append_assoc yielded]
    exact (front.append_right _).append_left yielded

/-- Nor does any number of steps. -/
theorem results_perm {first second : Progress}
    (h : Relation.ReflTransGen (Step monitor) first second) :
    (second.results monitor).Perm (first.results monitor) := by
  induction h with
  | refl => exact .refl _
  | tail _ step ih => exact step.results_perm.trans ih

/-- How many steps are left: three for a key, two for a task and one for a result. -/
def remaining (progress : Progress) : Nat :=
  3 * progress.waiting.length + 2 * progress.running.length + progress.ended.length

/-- Every step leaves fewer of them. -/
theorem Step.remaining_lt {first second : Progress} (h : Step monitor first second) :
    second.remaining < first.remaining := by
  cases h with
  | spawn task waiting running ended yielded =>
    simp only [remaining, List.length_cons]
    omega
  | complete task waiting before after ended yielded =>
    simp only [remaining, List.length_append, List.length_cons]
    omega
  | yield result running before after yielded =>
    simp only [remaining, List.length_append, List.length_cons]
    omega

/-- So no batch goes on for ever. -/
theorem wellFounded_step (monitor : Nat → Monitor) :
    WellFounded fun later earlier => Step monitor earlier later :=
  Subrelation.wf Step.remaining_lt (measure remaining).wf

/-- All keys can be spawned, whatever has ended by then. -/
theorem spawn_all (waiting running : List (String × Nat)) (ended yielded : List Finished) :
    Relation.ReflTransGen (Step monitor) ⟨waiting, running, ended, yielded⟩
      ⟨[], waiting.reverse ++ running, ended, yielded⟩ := by
  induction waiting generalizing running with
  | nil => exact .refl
  | cons task waiting ih =>
    rw [List.reverse_cons, List.append_assoc, List.singleton_append]
    exact .head (.spawn task waiting running ended yielded) (ih (task :: running))

/-- All tasks can end. -/
theorem complete_all (running : List (String × Nat)) (ended yielded : List Finished) :
    Relation.ReflTransGen (Step monitor) ⟨[], running, ended, yielded⟩
      ⟨[], [], (running.map (evaluated monitor)).reverse ++ ended, yielded⟩ := by
  induction running generalizing ended with
  | nil => exact .refl
  | cons task running ih =>
    rw [List.map_cons, List.reverse_cons, List.append_assoc, List.singleton_append]
    exact .head (.complete task [] [] running ended yielded) (ih (evaluated monitor task :: ended))

/-- What has ended can be handed over in any order. -/
theorem yield_all {rest ended : List Finished} (h : rest.Perm ended) (yielded : List Finished) :
    Relation.ReflTransGen (Step monitor) ⟨[], [], ended, yielded⟩
      ⟨[], [], [], yielded ++ rest⟩ := by
  induction rest generalizing ended yielded with
  | nil =>
    rw [List.nil_perm.mp h, List.append_nil]
  | cons result rest ih =>
    obtain ⟨before, after, rfl⟩ := List.append_of_mem (h.mem_iff.mp List.mem_cons_self)
    have left : rest.Perm (before ++ after) := (h.trans List.perm_middle).cons_inv
    rw [List.append_cons yielded]
    exact .head (.yield result [] before after yielded) (ih left (yielded ++ [result]))

/-- From wherever a batch has come, what is outstanding can still be handed over, in any order. -/
theorem reaches_done {progress : Progress} {rest : List Finished}
    (h : rest.Perm (progress.outstanding monitor)) :
    Relation.ReflTransGen (Step monitor) progress (done (progress.yielded ++ rest)) := by
  obtain ⟨waiting, running, ended, yielded⟩ := progress
  have tasks : (running ++ waiting).Perm (waiting.reverse ++ running) :=
    List.perm_append_comm.trans (waiting.reverse_perm.symm.append_right running)
  have results : ((running ++ waiting).map (evaluated monitor)).Perm
      ((waiting.reverse ++ running).map (evaluated monitor)).reverse :=
    (tasks.map _).trans (List.reverse_perm _).symm
  have left := h.trans ((results.append_left ended).trans List.perm_append_comm)
  exact (spawn_all waiting running ended yielded).trans
    ((complete_all _ ended yielded).trans (yield_all left yielded))

/-- The results of an untouched batch are those of its keys. -/
theorem results_start (monitor : Nat → Monitor) (keys : List String) :
    (start keys).results monitor = evaluate monitor keys := by
  simp only [results, outstanding, start, List.nil_append, evaluate_eq_map]

/-- What a batch hands over are the results of its keys. -/
theorem Yields.perm (h : Yields monitor keys finished) :
    finished.Perm (evaluate monitor keys) := by
  have perm := results_perm h
  rw [results_start] at perm
  simpa only [results, outstanding, done, List.map_nil, List.append_nil] using perm

/-- A batch can hand over the results of its keys in every order, and nothing else. -/
theorem yields_iff_perm :
    Yields monitor keys finished ↔ finished.Perm (evaluate monitor keys) := by
  refine ⟨Yields.perm, ?_⟩
  intro h
  rw [← results_start] at h
  exact reaches_done h

end Progress

section Report

variable {monitor : Nat → Monitor} {keys : List String} {finished : List Finished}

/-- In whatever order results come, the report has a line for each key, in the order the keys were
given. -/
theorem report_of_perm (h : finished.Perm (evaluate monitor keys)) (colour : Bool) :
    report colour finished =
      String.join (keys.zipIdx.map fun key => line colour (evaluated monitor key)) := by
  rw [report, inOrder_eq_of_perm h, evaluate_eq_map, List.map_map]
  rfl

/-- A key on its own is reported by its line. -/
theorem report_alone (monitor : Monitor) (raw : String) (place : Nat) (colour : Bool) :
    report colour (evaluate (fun _ => monitor) [raw]) =
      line colour ⟨place, raw, monitor.evaluateKey raw⟩ := by
  rw [report_of_perm (.refl _)]
  simp [evaluated, line]

/-- What it means that a batch keeps the order of its keys, although it hands over their results in
another. -/
structure KeepsOrder (environment : Environment) (filter : Log.Filter) (monitor : Nat → Monitor)
    (keys : List String) (finished : List Finished) : Prop where
  /-- No key holds up another: from wherever a batch has come, the rest of its results can be handed
  over, and it never goes on for ever. -/
  unhindered : ∀ progress : Progress,
    (∃ rest, Relation.ReflTransGen (Progress.Step monitor) progress
      (.done (progress.yielded ++ rest))) ∧
      Acc (fun later earlier => Progress.Step monitor earlier later) progress
  /-- Every place has one result, and nothing else has. -/
  once : (finished.map (·.place)).Perm (List.range keys.length)
  /-- The result of a place is that of the key given there, with the monitor of the place. -/
  own : ∀ result ∈ finished, keys[result.place]? = some result.raw ∧
    result.check = (monitor result.place).evaluateKey result.raw
  /-- The report is what the program writes for each key on its own, one after the other as the
  keys were given. -/
  report : report environment.colour finished =
    String.join (keys.zipIdx.map fun key =>
      (Program.batch environment filter (fun _ => monitor key.2) [key.1]).out)
  /-- It is what the program writes for the batch, -/
  out : (Program.batch environment filter monitor keys).out =
    Batch.report environment.colour finished
  /-- which is a success, whatever became of the keys. -/
  success : (Program.batch environment filter monitor keys).exitCode = 0

/-- A batch keeps the order of its keys in whatever order it hands over their results. -/
theorem keepsOrder (h : Progress.Yields monitor keys finished) (environment : Environment)
    (filter : Log.Filter) : KeepsOrder environment filter monitor keys finished where
  unhindered := by
    intro progress
    exact ⟨⟨_, Progress.reaches_done (.refl _)⟩, (Progress.wellFounded_step monitor).apply progress⟩
  once := by
    rw [← map_place_evaluate monitor]
    exact h.perm.map _
  own := fun result mem => own_of_mem_evaluate (h.perm.mem_iff.mp mem)
  report := by
    rw [report_of_perm h.perm]
    congr 2
    funext key
    exact (report_alone (monitor key.2) key.1 key.2 environment.colour).symm
  out := by
    rw [Program.batch, report_of_perm h.perm, report_of_perm (.refl _)]
  success := rfl

/-- Surroundings in which a host accepts the first connection only. -/
def oneDoor : Environment :=
  { colour := false
    logFilter := none
    network := fun place _ =>
      if place = 0 then .ok ⟨[], .silent, {}⟩ else .error (.system 111)
    elapsed := fun _ => ⟨0, 0⟩ }

/-- The monitors of these surroundings. -/
def doorMonitor : Nat → Monitor := Program.monitor oneDoor .standard

/-- One key twice, and what is no key between the two. -/
def doorKeys : List String := ["net.tcp.port[,80]", "net.tcp.port[,80", "net.tcp.port[,80]"]

/-- Although the last result comes first, each of the two keys is reported with its own. -/
theorem oneDoor_keepsOrder :
    Progress.Yields doorMonitor doorKeys (evaluate doorMonitor doorKeys).reverse ∧
      report false (evaluate doorMonitor doorKeys).reverse =
        Terminal.column resultColumn "net.tcp.port[,80]" ++ "[t|1]\n" ++
        Terminal.column resultColumn "net.tcp.port[,80" ++
          "[m|Invalid item key format: missing closing bracket]\n" ++
        Terminal.column resultColumn "net.tcp.port[,80]" ++ "[t|0]\n" := by
  have yields : Progress.Yields doorMonitor doorKeys (evaluate doorMonitor doorKeys).reverse :=
    Progress.yields_iff_perm.mpr (List.reverse_perm _)
  have keeps := keepsOrder yields oneDoor (Program.filter oneDoor 0)
  refine ⟨yields, keeps.report.trans ?_⟩
  decide +kernel

end Report

end Batch

end ServiceProbe
