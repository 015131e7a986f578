import TenzroEdge.Broker.Marketplace
import TenzroEdge.Broker.Replies
import TenzroEdge.Interaction.Replay

/-!
# Offers that run at the same time

Any number of offers share one marketplace, and their commands interleave in any way. An offer
is told about its own task only, so that what it returns is what it would return alone, against
the script of the replies that it got; and on a marketplace where a completed task has been
worked on by an executor, every offer gets the work on its own request.
-/

namespace TenzroEdge.Broker

open Codec Interaction Interaction.Prog

/-! ## The commands of an offer -/

section

variable {debug : SdkError → String} {blake3 : Bytes → Octets 32} {decodeError : String → String}
  {rounds : ℕ} {broker : TenzroBroker} {work : WorkOffer}

/-- The command that posts the task of an offer. -/
def postCmd (broker : TenzroBroker) (work : WorkOffer) : Cmd :=
  .postTask ("furcate:" ++ work.workType) "Posted by furcate WorkBroker (tenzro-edge)"
    work.workType (work.maxPrice.getD (BitVec.allOnes 128)) (inputOf work) broker.poster

/-- What an offer does when it has got the reply to its posting. -/
def afterPost (debug : SdkError → String) (blake3 : Bytes → Octets 32)
    (decodeError : String → String) (rounds : ℕ) (broker : TenzroBroker) (work : WorkOffer) :
    Except SdkError PostedTask → Prog io (Except WorkBrokerError (Option WorkOutcome))
  | .error error => .ret (.error (mapSdk debug error))
  | .ok posted => (do
      let started ← ExceptT.lift now
      loop (poll debug blake3 decodeError broker.pollInterval (deadlineOf broker work)
        posted.taskId started) rounds :
          ExceptT WorkBrokerError (Prog io) (Option WorkOutcome)).run

theorem offer_eq : (offer debug blake3 decodeError rounds broker work).run =
    .call (I := io) (postCmd broker work)
      (afterPost debug blake3 decodeError rounds broker work) := by
  change (orFail _ (postTask _ _ _ _ _ _) >>= _).run = _
  rw [run_orFail_bind]
  apply congrArg (Prog.call (I := io) (postCmd broker work))
  funext reply
  cases reply with
  | error error => rfl
  | ok posted => rfl

theorem afterPost_asksAbout (posted : PostedTask) :
    (afterPost debug blake3 decodeError rounds broker work (.ok posted)).Issues
      (AsksAbout posted.taskId) := by
  apply Issues.bind_run (Issues.lift (Issues.request trivial))
  intro started
  exact Issues_loop poll_asksAbout rounds

end

/-! ## The script of the replies -/

def reading? : Exchange io → Option ℕ
  | ⟨.now, current⟩ => some current
  | _ => none

def poll? : Exchange io → Option (Except SdkError TaskInfo)
  | ⟨.getTask _, reply⟩ => some reply
  | _ => none

def posting? : Exchange io → Option (Except SdkError PostedTask)
  | ⟨.postTask _ _ _ _ _ _, reply⟩ => some reply
  | _ => none

/-- The script that gives the replies of a transcript, and fails when they are used up. -/
def scriptOf (transcript : List (Exchange io)) : Script where
  posted := (transcript.filterMap posting?).headD (.error .timeout)
  clock reading := (transcript.filterMap reading?).getD reading 0
  reply _ round := (transcript.filterMap poll?).getD round (.error .timeout)

section

variable {β : Type} {f : Exchange io → Option β} {done rest : List (Exchange io)}
  {entry : Exchange io} {value default : β}

theorem getD_filterMap (found : f entry = some value) :
    ((done ++ entry :: rest).filterMap f).getD (done.filterMap f).length default = value := by
  rw [List.filterMap_append, List.filterMap_cons_some found]
  simp [List.getD_eq_getElem?_getD]

theorem length_filterMap_some (found : f entry = some value) :
    ((done ++ [entry]).filterMap f).length = (done.filterMap f).length + 1 := by
  rw [List.filterMap_append, List.filterMap_cons_some found]
  simp

theorem length_filterMap_none (skipped : f entry = none) :
    ((done ++ [entry]).filterMap f).length = (done.filterMap f).length := by
  rw [List.filterMap_append, List.filterMap_cons_none skipped]
  simp

end

/-- The script of a transcript with one posting, which polls the posted task alone, answers it
from any point of it on. -/
theorem answers_scriptOf {transcript done rest : List (Exchange io)}
    (once : ∀ reply ∈ transcript.filterMap posting?, (scriptOf transcript).posted = reply)
    (own : ∀ taskId reply, (⟨.getTask taskId, reply⟩ : Exchange io) ∈ transcript →
      (scriptOf transcript).posted = .ok ⟨taskId⟩)
    (split : transcript = done ++ rest) (input : String) :
    ∃ after, Answers (serveScript (scriptOf transcript))
      ⟨input, (done.filterMap reading?).length, (done.filterMap poll?).length⟩ rest after := by
  induction rest generalizing done input with
  | nil => exact ⟨_, .nil _⟩
  | cons entry more ih =>
      rcases entry with ⟨cmd, reply⟩
      have moved : transcript = (done ++ [⟨cmd, reply⟩]) ++ more := by simp [split]
      have goesOn := ih moved
      cases cmd with
      | postTask title description taskType maxPrice posted poster =>
          have posts : reply ∈ transcript.filterMap posting? := by
            rw [split, List.filterMap_append]
            exact List.mem_append_right _ (List.mem_cons_self)
          rcases goesOn posted with ⟨after, answers⟩
          rw [length_filterMap_none (f := reading?) rfl,
            length_filterMap_none (f := poll?) rfl] at answers
          exact ⟨after, .cons (once reply posts) answers⟩
      | getTask taskId =>
          rcases goesOn input with ⟨after, answers⟩
          rw [length_filterMap_none (f := reading?) rfl,
            length_filterMap_some (f := poll?) rfl] at answers
          have accepted := own taskId reply (by simp [split])
          refine ⟨after, .cons ?_ answers⟩
          have polled := run_getTask_script accepted
            ⟨input, (done.filterMap reading?).length, (done.filterMap poll?).length⟩
          refine (congrArg Prod.fst polled).trans ?_
          change (transcript.filterMap poll?).getD _ _ = reply
          rw [split]
          exact getD_filterMap rfl
      | now =>
          rcases goesOn input with ⟨after, answers⟩
          rw [length_filterMap_some (f := reading?) rfl,
            length_filterMap_none (f := poll?) rfl] at answers
          refine ⟨after, .cons ?_ answers⟩
          change (transcript.filterMap reading?).getD _ _ = reply
          rw [split]
          exact getD_filterMap rfl
      | sleep duration =>
          rcases goesOn input with ⟨after, answers⟩
          rw [length_filterMap_none (f := reading?) rfl,
            length_filterMap_none (f := poll?) rfl] at answers
          exact ⟨after, .cons rfl answers⟩

/-! ## One offer among others -/

section

variable {debug : SdkError → String} {blake3 : Bytes → Octets 32} {decodeError : String → String}
  {rounds : ℕ} {broker : TenzroBroker} {work : WorkOffer} {transcript : List (Exchange io)}
  {left : Prog io (Except WorkBrokerError (Option WorkOutcome))}

/-- What the transcript of an offer looks like when it has begun. -/
inductive Transcribed (broker : TenzroBroker) (work : WorkOffer) : List (Exchange io) → Prop where
  | unstarted : Transcribed broker work []
  | rejected (error : SdkError) :
      Transcribed broker work [⟨postCmd broker work, .error error⟩]
  | accepted (posted : PostedTask) {rest : List (Exchange io)}
      (own : ∀ entry ∈ rest, AsksAbout posted.taskId entry.1) :
      Transcribed broker work (⟨postCmd broker work, .ok posted⟩ :: rest)

theorem transcribed_of_leaves
    (leaves : (offer debug blake3 decodeError rounds broker work).run.Leaves transcript left) :
    Transcribed broker work transcript := by
  rw [offer_eq] at leaves
  cases leaves with
  | start => exact .unstarted
  | exchange reply rest =>
      cases reply with
      | error error =>
          rcases Leaves.ret_iff.mp rest with ⟨rfl, -⟩
          exact .rejected error
      | ok posted =>
          have issues := Issues.of_leaves (afterPost_asksAbout posted) rest
          exact .accepted posted issues.1

theorem posting?_of_asksAbout {taskId : String} {entry : Exchange io}
    (asks : AsksAbout taskId entry.1) : posting? entry = none := by
  rcases entry with ⟨cmd, reply⟩
  cases cmd with
  | postTask => exact absurd asks id
  | _ => rfl

theorem Transcribed.postings (transcribed : Transcribed broker work transcript) :
    ∀ reply ∈ transcript.filterMap posting?, (scriptOf transcript).posted = reply := by
  intro reply mem
  cases transcribed with
  | unstarted => cases mem
  | rejected error =>
      rcases List.mem_singleton.mp mem with rfl
      rfl
  | accepted posted own =>
      rename_i rest
      have only : rest.filterMap posting? = [] := by
        apply List.filterMap_eq_nil_iff.mpr
        intro entry later
        exact posting?_of_asksAbout (own entry later)
      have first : (⟨postCmd broker work, .ok posted⟩ :: rest : List (Exchange io)).filterMap
          posting? = [.ok posted] := by
        rw [List.filterMap_cons_some (f := posting?) (b := .ok posted) rfl, only]
      rw [first] at mem
      rcases List.mem_singleton.mp mem with rfl
      rw [scriptOf, first, List.headD_cons]

theorem Transcribed.polls (transcribed : Transcribed broker work transcript) (taskId : String)
    (reply : Except SdkError TaskInfo)
    (mem : (⟨.getTask taskId, reply⟩ : Exchange io) ∈ transcript) :
    (scriptOf transcript).posted = .ok ⟨taskId⟩ := by
  have posted := transcribed.postings
  cases transcribed with
  | unstarted => cases mem
  | rejected error => cases List.mem_singleton.mp mem
  | accepted task own =>
      rcases List.mem_cons.mp mem with first | later
      · cases first
      · have asks : taskId = task.taskId := own _ later
        rw [asks]
        exact posted _ (List.mem_filterMap.mpr ⟨_, List.mem_cons_self, rfl⟩)

/-- An offer returns what it would return alone, against the script of its own replies. -/
theorem offered_of_leaves {value : Except WorkBrokerError (Option WorkOutcome)}
    (leaves : (offer debug blake3 decodeError rounds broker work).run.Leaves transcript
      (.ret value)) :
    (offered debug blake3 decodeError (scriptOf transcript) rounds broker work).1 = value := by
  have start : transcript = [] ++ transcript := rfl
  have transcribed := transcribed_of_leaves leaves
  rcases answers_scriptOf transcribed.postings transcribed.polls start "" with ⟨after, answers⟩
  have replayed : run (serveScript (scriptOf transcript))
      (offer debug blake3 decodeError rounds broker work).run unmarked = (value, after) :=
    run_of_leaves leaves answers
  exact congrArg Prod.fst replayed

theorem mem_of_poll {info : TaskInfo} {input : String} {round : ℕ}
    (replied : (scriptOf transcript).reply input round = .ok info) :
    ∃ taskId, (⟨.getTask taskId, .ok info⟩ : Exchange io) ∈ transcript := by
  have polled : .ok info ∈ transcript.filterMap poll? := by
    change (transcript.filterMap poll?).getD round (.error .timeout) = .ok info at replied
    rw [List.getD_eq_getElem?_getD] at replied
    cases reading : (transcript.filterMap poll?)[round]? with
    | none => simp [reading] at replied
    | some reply =>
        have same : reply = .ok info := by simpa [reading] using replied
        rw [← same]
        exact List.mem_of_getElem? reading
  rcases List.mem_filterMap.mp polled with ⟨⟨cmd, reply⟩, mem, found⟩
  cases cmd with
  | getTask taskId =>
      have same : reply = .ok info := Option.some.inj found
      rw [same] at mem
      exact ⟨taskId, mem⟩
  | postTask => cases found
  | now => cases found
  | sleep => cases found

end

/-! ## Offers on one marketplace -/

/-- The task and its input, of an exchange that has posted one. -/
def task? : Exchange io → Option (String × String)
  | ⟨.postTask _ _ _ _ input _, .ok posted⟩ => some (posted.taskId, input)
  | _ => none

section

variable {ι ε σ : Type} {f : Bytes → Bytes} {postedAs : σ → String → Option String}

/-- A marketplace whose executors apply a function to the work that they are given. It gives every
task an identifier of its own and keeps the input that it was posted with. -/
structure Executes (f : Bytes → Bytes) (postedAs : σ → String → Option String)
    (serve : ε → ι → Handler io σ) : Prop where
  fresh : ∀ event i (cmd : io.Cmd) state taskId input,
    task? ⟨cmd, (serve event i cmd state).1⟩ = some (taskId, input) →
      postedAs state taskId = none ∧ postedAs (serve event i cmd state).2 taskId = some input
  kept : ∀ event i (cmd : io.Cmd) state taskId input, postedAs state taskId = some input →
    postedAs (serve event i cmd state).2 taskId = some input
  worked : ∀ event i taskId state info, (serve event i (.getTask taskId) state).1 = .ok info →
    statusStr info.status = "completed" →
      ∃ input, postedAs state taskId = some input ∧ info.output = outputOf f input

/-- The journals agree with the marketplace. -/
structure Consistent (f : Bytes → Bytes) (postedAs : σ → String → Option String)
    (world : Journaled io ι σ) : Prop where
  recorded : ∀ i, ∀ entry ∈ world.journal i, ∀ taskId input, task? entry = some (taskId, input) →
    postedAs world.state taskId = some input
  distinct : ∀ i j, ∀ entry ∈ world.journal i, ∀ other ∈ world.journal j,
    ∀ taskId input input', task? entry = some (taskId, input) →
      task? other = some (taskId, input') → i = j
  worked : ∀ i taskId info, (⟨.getTask taskId, .ok info⟩ : Exchange io) ∈ world.journal i →
    statusStr info.status = "completed" →
      ∃ input, postedAs world.state taskId = some input ∧ info.output = outputOf f input

variable [DecidableEq ι] {serve : ε → ι → Handler io σ}

theorem Consistent.step (executes : Executes f postedAs serve) (event : ε) (i : ι) (cmd : io.Cmd)
    {world : Journaled io ι σ} (consistent : Consistent f postedAs world) :
    Consistent f postedAs (journaling serve event i cmd world).2 := by
  constructor
  case recorded =>
    intro j entry mem taskId input posts
    rcases mem_journal mem with old | ⟨-, rfl⟩
    · exact executes.kept _ _ _ _ _ _ (consistent.recorded j entry old taskId input posts)
    · exact (executes.fresh _ _ _ _ _ _ posts).2
  case distinct =>
    intro j k entry mem other mem' taskId input input' posts posts'
    rcases mem_journal mem with old | ⟨rfl, rfl⟩
    · rcases mem_journal mem' with old' | ⟨rfl, rfl⟩
      · exact consistent.distinct j k entry old other old' taskId input input' posts posts'
      · have known := consistent.recorded j entry old taskId input posts
        rw [(executes.fresh _ _ _ _ _ _ posts').1] at known
        cases known
    · rcases mem_journal mem' with old' | ⟨rfl, -⟩
      · have known := consistent.recorded k other old' taskId input' posts'
        rw [(executes.fresh _ _ _ _ _ _ posts).1] at known
        cases known
      · rfl
  case worked =>
    intro j taskId info mem status
    rcases mem_journal mem with old | ⟨-, new⟩
    · rcases consistent.worked j taskId info old status with ⟨input, known, output⟩
      exact ⟨input, executes.kept _ _ _ _ _ _ known, output⟩
    · rcases Sigma.mk.inj new with ⟨rfl, replied⟩
      rcases executes.worked _ _ _ _ _ (eq_of_heq replied).symm status with
        ⟨input, known, output⟩
      exact ⟨input, executes.kept _ _ _ _ _ _ known, output⟩

variable {debug : SdkError → String} {blake3 : Bytes → Octets 32} {decodeError : String → String}
  {rounds : ι → ℕ} {broker : ι → TenzroBroker} {work : ι → WorkOffer}
  {start pool : Pool io ι (Journaled io ι σ) (Except WorkBrokerError (Option WorkOutcome))}

/-- The offers of the members, before any of them has begun. -/
structure Unstarted (debug : SdkError → String) (blake3 : Bytes → Octets 32)
    (decodeError : String → String) (rounds : ι → ℕ) (broker : ι → TenzroBroker)
    (work : ι → WorkOffer)
    (start : Pool io ι (Journaled io ι σ) (Except WorkBrokerError (Option WorkOutcome))) :
    Prop where
  offers : ∀ i, start.progs i =
    (offer debug blake3 decodeError (rounds i) (broker i) (work i)).run
  blank : ∀ i, start.state.journal i = []

theorem Unstarted.leaves (unstarted : Unstarted debug blake3 decodeError rounds broker work start)
    (reached : Pool.Reachable (journaling serve) start pool) (i : ι) :
    (offer debug blake3 decodeError (rounds i) (broker i) (work i)).run.Leaves
      (pool.state.journal i) (pool.progs i) := by
  have leaves := reached.leaves unstarted.blank i
  rwa [unstarted.offers i] at leaves

theorem Unstarted.consistent
    (unstarted : Unstarted debug blake3 decodeError rounds broker work start)
    (executes : Executes f postedAs serve)
    (reached : Pool.Reachable (journaling serve) start pool) :
    Consistent f postedAs pool.state := by
  apply reached.world_invariant
  · constructor
    · simp [unstarted.blank]
    · simp [unstarted.blank]
    · simp [unstarted.blank]
  · intro event i cmd world consistent
    exact consistent.step executes event i cmd

/-- A poll is about the task that its own offer has posted. -/
theorem Transcribed.task_of_poll {broker : TenzroBroker} {work : WorkOffer}
    {transcript : List (Exchange io)} (transcribed : Transcribed broker work transcript)
    {taskId : String} {reply : Except SdkError TaskInfo}
    (mem : (⟨.getTask taskId, reply⟩ : Exchange io) ∈ transcript) :
    ∃ entry ∈ transcript, task? entry = some (taskId, inputOf work) := by
  cases transcribed with
  | unstarted => cases mem
  | rejected error =>
      have same := List.mem_singleton.mp mem
      cases same
  | accepted posted own =>
      rcases List.mem_cons.mp mem with same | later
      · cases same
      · have asks : taskId = posted.taskId := own _ later
        rw [asks]
        exact ⟨_, List.mem_cons_self, rfl⟩

/-- However the offers and the marketplace interleave, the response that an offer returns is the
work on its own request, and no two offers poll the same task. -/
theorem offers_get_own_work
    (unstarted : Unstarted debug blake3 decodeError rounds broker work start)
    (executes : Executes f postedAs serve)
    (reached : Pool.Reachable (journaling serve) start pool) :
    (∀ i response executor, pool.progs i = .ret (.ok (some (.completed response executor))) →
      response = f (work i).request) ∧
    ∀ i j taskId reply reply', (⟨.getTask taskId, reply⟩ : Exchange io) ∈ pool.state.journal i →
      (⟨.getTask taskId, reply'⟩ : Exchange io) ∈ pool.state.journal j → i = j := by
  have consistent := unstarted.consistent executes reached
  have transcribed : ∀ i, Transcribed (broker i) (work i) (pool.state.journal i) :=
    fun i => transcribed_of_leaves (unstarted.leaves reached i)
  constructor
  · intro i response executor returned
    have leaves := unstarted.leaves reached i
    rw [returned] at leaves
    rcases reported_of_offered (offered_of_leaves leaves) with ⟨named, reported⟩
    cases reported with
    | settled first settled =>
        cases settled with
        | completed status decoded =>
            rcases mem_of_poll first.replied with ⟨taskId, polled⟩
            rcases consistent.worked i taskId _ polled status with ⟨input, known, output⟩
            rcases (transcribed i).task_of_poll polled with ⟨entry, mem, posts⟩
            rw [consistent.recorded i entry mem taskId _ posts] at known
            cases known
            rw [output, outputOf_inputOf, Option.getD_some, Base64.decode_encode] at decoded
            exact (Option.some.inj decoded).symm
  · intro i j taskId reply reply' mem mem'
    rcases (transcribed i).task_of_poll mem with ⟨entry, posted, posts⟩
    rcases (transcribed j).task_of_poll mem' with ⟨entry', posted', posts'⟩
    exact consistent.distinct i j entry posted entry' posted' taskId _ _ posts posts'

end

/-! ## A workshop -/

/-- What happens to one command on its way to the workshop, and whether the task that it asks for
is done by then. -/
structure Shift where
  delivery : Delivery SdkError
  id : String
  done : Bool

/-- The reply to a poll of a task with the given input. -/
def Shift.report (f : Bytes → Bytes) (shift : Shift) (taskId : String) :
    Option String → Except SdkError TaskInfo
  | none => .error (.notFound taskId)
  | some input =>
      match shift.delivery with
      | .lost fault => .error fault
      | .replyLost fault => .error fault
      | .delivered =>
          .ok (if shift.done then ⟨.string "completed", outputOf f input, none⟩
            else ⟨.string "running", none, none⟩)

theorem Shift.output_of_report {f : Bytes → Bytes} {shift : Shift} {taskId : String}
    {known : Option String} {info : TaskInfo} (replied : shift.report f taskId known = .ok info)
    (status : statusStr info.status = "completed") :
    ∃ input, known = some input ∧ info.output = outputOf f input := by
  rcases shift with ⟨delivery, id, done⟩
  cases known with
  | none => cases replied
  | some input =>
      cases delivery with
      | lost fault => cases replied
      | replyLost fault => cases replied
      | delivered =>
          cases done with
          | true =>
              cases replied
              exact ⟨input, rfl, rfl⟩
          | false =>
              cases replied
              have running : statusStr (.string "running") ≠ "completed" := by decide
              exact absurd status running

/-- The inputs of the tasks. An identifier that is taken is refused. -/
def serveWorkshop {ι : Type} (f : Bytes → Bytes) (shift : Shift) (_ : ι) :
    Handler io (String → Option String)
  | .postTask _ _ _ _ input _, tasks =>
      match shift.delivery, tasks shift.id with
      | .lost fault, _ => (.error fault, tasks)
      | _, some _ => (.error (.rpcError "identifier taken"), tasks)
      | .replyLost fault, none => (.error fault, Function.update tasks shift.id (some input))
      | .delivered, none => (.ok ⟨shift.id⟩, Function.update tasks shift.id (some input))
  | .getTask taskId, tasks => (shift.report f taskId (tasks taskId), tasks)
  | .now, tasks => ((0 : ℕ), tasks)
  | .sleep _, tasks => ((), tasks)

theorem kept_update {tasks : String → Option String} {id taskId input posted : String}
    (free : tasks id = none) (known : tasks taskId = some input) :
    Function.update tasks id (some posted) taskId = some input := by
  have other : taskId ≠ id := by
    rintro rfl
    rw [free] at known
    cases known
  rwa [Function.update_of_ne other]

theorem executes_workshop {ι : Type} (f : Bytes → Bytes) :
    Executes f (fun tasks => tasks) (serveWorkshop f : Shift → ι → Handler io _) := by
  constructor
  case fresh =>
    intro shift i cmd tasks taskId input posts
    cases cmd with
    | postTask title description taskType maxPrice posted poster =>
        rcases shift with ⟨delivery, id, done⟩
        cases taken : tasks id with
        | some other => cases delivery <;> simp [serveWorkshop, taken, task?] at posts
        | none =>
            cases delivery with
            | lost fault => simp [serveWorkshop, task?] at posts
            | replyLost fault => simp [serveWorkshop, taken, task?] at posts
            | delivered =>
                have same : id = taskId ∧ posted = input := by
                  simpa [serveWorkshop, taken, task?] using posts
                rcases same with ⟨rfl, rfl⟩
                exact ⟨taken, by simp [serveWorkshop, taken]⟩
    | _ => cases posts
  case kept =>
    intro shift i cmd tasks taskId input known
    cases cmd with
    | postTask title description taskType maxPrice posted poster =>
        rcases shift with ⟨delivery, id, done⟩
        cases taken : tasks id with
        | some other => cases delivery <;> simpa [serveWorkshop, taken] using known
        | none =>
            cases delivery with
            | lost fault => simpa [serveWorkshop] using known
            | replyLost fault => simpa [serveWorkshop, taken] using kept_update taken known
            | delivered => simpa [serveWorkshop, taken] using kept_update taken known
    | _ => exact known
  case worked =>
    intro shift i taskId tasks info replied status
    exact Shift.output_of_report replied status

def twoOctets : WorkOffer := { threeOctets with request := [8, 9] }

/-- Two offers whose tasks have not been posted. -/
def twoOffers : Pool io Bool (Journaled io Bool (String → Option String))
    (Except WorkBrokerError (Option WorkOutcome)) where
  progs first := (offer (fun _ => "") (fun _ => Octets.replicate 32 0) (fun _ => "") 2 hourlyBroker
    (if first then threeOctets else twoOctets)).run
  state := ⟨fun _ => none, fun _ => []⟩

/-- The second offer is posted and settled while the first one waits. -/
def overtaking : List (Shift × Bool) :=
  let on (first done : Bool) : Shift × Bool :=
    (⟨.delivered, if first then "task-1" else "task-2", done⟩, first)
  [on true false, on false false, on false false, on true false, on true false, on true false,
    on false false, on false true, on true false, on true false, on true true]

theorem unstarted_twoOffers : Unstarted (fun _ => "") (fun _ => Octets.replicate 32 0)
    (fun _ => "") (fun _ => 2) (fun _ => hourlyBroker)
    (fun first => if first then threeOctets else twoOctets) twoOffers :=
  ⟨fun _ => rfl, fun _ => rfl⟩

theorem offers_get_own_work_overtaking : ∃ response executor,
    (twoOffers.schedule (journaling (serveWorkshop List.reverse)) overtaking).progs true =
        .ret (.ok (some (.completed response executor))) ∧
      response = threeOctets.request.reverse :=
  ⟨[255, 2, 1], Octets.replicate 32 0, rfl, (offers_get_own_work unstarted_twoOffers
    (executes_workshop List.reverse) (Pool.reachable_schedule overtaking twoOffers)).1 true _ _ rfl⟩

end TenzroEdge.Broker
