import FlashImage.Proofs.Stitch.Output

/-!
What building all containers delivers, and what it reports on the way.

The answer for a container is what a call for it alone gives. It can be asked for when its turn
comes, after the containers that are declared before it. If the compressor answers the same question
always in the same way and no files change, it can as well be asked for before the first one. The
answers settle the output and the reports: all goes in the order of the layout up to the first
container that fails, whatever has been built earlier as a part of another one.
-/

set_option autoImplicit false
set_option relaxedAutoImplicit false

namespace FlashImage

def Event.isProgress : Event → Bool
  | .started _ | .containerDone _ _ | .finished => true
  | .compression _ _ | .toolRun _ _ _ => false

def Workspace.progress (w : Workspace) : List Event := (w.events.filter Event.isProgress).reverse

private theorem Workspace.progress_recorded {w : Workspace} {e : Event} (h : e.isProgress = true) :
    (w.recorded e).progress = w.progress ++ [e] := by
  simp only [progress, recorded, List.filter_cons_of_pos h, List.reverse_cons]

private theorem Workspace.progress_recorded_of_not {w : Workspace} {e : Event}
    (h : e.isProgress = false) : (w.recorded e).progress = w.progress := by
  simp only [progress, recorded, List.filter_cons, h, Bool.false_eq_true, if_false]

/-- A compressor reports no progress, which is for the stitcher to do. -/
def Compressor.KeepsProgress (compress : Compressor) : Prop :=
  ∀ codec raw w, (compress codec raw w).2.progress = w.progress

namespace StitchJob

variable {job : StitchJob} {m m' m₁ : StitchMemory} {w w' w₁ v : Workspace} {fs : Files}

/-- What is reported of containers one after another, given the answer for each one: those that are
done up to the first failure, and the end if there is none. -/
def reports (answer : String → Except Error Bytes) : List String → List Event
  | [] => [.finished]
  | name :: rest =>
    match answer name with
    | .error _ => []
    | .ok data => .containerDone name data.length :: reports answer rest

/-- The call for all containers has delivered the answers for them, in the order of the layout: what
it has given and kept, and what it has reported. -/
structure Delivered (job : StitchJob) (answer : String → Except Error Bytes) (w : Workspace)
    (result : Except Error (List (String × Bytes))) (m' : StitchMemory) (w' : Workspace) :
    Prop where
  succeeds : (∃ outputs, result = .ok outputs) ↔
    ∀ c ∈ job.tree.containers, ∃ data, answer c.name = .ok data
  names : ∀ outputs, result = .ok outputs → outputs.map (·.1) = job.tree.names
  bytes : ∀ outputs, result = .ok outputs → ∀ name data, (name, data) ∈ outputs →
    answer name = .ok data ∧ m'.built? name = some data
  found : ∀ outputs, result = .ok outputs → ∀ c ∈ job.tree.containers,
    (StitchOutput.get? ⟨outputs⟩ c.name).map .ok = some (answer c.name)
  final : ∀ outputs, result = .ok outputs →
    (StitchOutput.final? ⟨outputs⟩).map (·.1) = job.tree.final?.map (·.name)
  fails : ∀ e, result = .error e →
    ∃ before c after, job.tree.containers = before ++ c :: after ∧
      (∀ d ∈ before, ∃ data, answer d.name = .ok data) ∧ answer c.name = .error e
  progress : job.compress.KeepsProgress → w'.progress =
    w.progress ++ .started job.tree.containers.length :: reports answer job.tree.names

/-- The answer for a container in its turn: what a call for it gives after those that are declared
before it have been asked for. -/
def answerInTurn (job : StitchJob) (m : StitchMemory) (w : Workspace) (name : String) :
    Except Error Bytes :=
  let left := job.stitchEach (job.tree.names.takeWhile (· ≠ name)) m
    (w.recorded (.started job.tree.containers.length))
  (job.stitch name left.1.2 left.2).1.1

/-- The answer for a container by itself: what a call for it gives at once. -/
def answerAtOnce (job : StitchJob) (m : StitchMemory) (w : Workspace) (name : String) :
    Except Error Bytes :=
  (job.stitch name m w).1.1

/-! ### Reports -/

private theorem progress_of_compressed (keeps : job.compress.KeepsProgress) {codec : Codec}
    {raw : Bytes}
    {result : Except Error Bytes} (h : job.compressed codec raw w = (result, w')) :
    w'.progress = w.progress := by
  by_cases hcodec : codec = .none
  · subst hcodec
    rw [compressed_none] at h
    cases h
    rfl
  · rw [compressed_of_ne hcodec] at h
    have hkept := keeps codec raw (w.recorded (.compression codec raw.length))
    rw [h] at hkept
    exact hkept.trans (Workspace.progress_recorded_of_not rfl)

theorem ContentRun.progress (keeps : job.compress.KeepsProgress) {container artifact : String}
    {r : Region} {result : Except Error (Option Bytes)}
    (run : job.ContentRun container r artifact m w result m' w') : w'.progress = w.progress := by
  cases run with
  | kept | unread | leftOut | missing => rfl
  | failed _ _ compress => exact progress_of_compressed keeps compress
  | loaded _ _ compress => exact progress_of_compressed keeps compress

theorem StitchRun.progress (keeps : job.compress.KeepsProgress) {task : Task}
    {result : Except Error Bytes} (run : job.StitchRun task m w result m' w') :
    w'.progress = w.progress := by
  induction run with
  | kept | cycle | unknown | zeroSize | nil => rfl
  | failed _ _ _ _ ih => exact ih
  | built _ _ _ _ ih => exact ih
  | noContent _ _ content => exact content.progress keeps
  | artifact _ _ run => exact run.progress keeps
  | noChild _ _ _ ih => exact ih
  | incompressible _ _ _ compress ih => exact (progress_of_compressed keeps compress).trans ih
  | child _ _ _ compress ih => exact (progress_of_compressed keeps compress).trans ih
  | firstFailed _ ih => exact ih
  | restFailed _ _ ihFirst ihRest => exact ihRest.trans ihFirst
  | cons _ _ ihFirst ihRest => exact ihRest.trans ihFirst

/-! ### Answers in turn -/

/-- Each of some containers has its answer when those before it have been built. -/
def Answers (job : StitchJob) (answer : String → Except Error Bytes) (names : List String)
    (m : StitchMemory) (w : Workspace) : Prop :=
  ∀ before name after, names = before ++ name :: after → ∀ outputs m₁ w₁,
    job.stitchEach before m w = ((.ok outputs, m₁), w₁) → (job.stitch name m₁ w₁).1.1 = answer name

section

variable {answer : String → Except Error Bytes} {name : String} {names rest : List String}

private theorem stitchEach_nil (job : StitchJob) (m : StitchMemory) (w : Workspace) :
    job.stitchEach [] m w = ((.ok [], m), w) := by
  rw [stitchEach]
  rfl

private theorem stitchEach_cons_of_ok {data : Bytes}
    (first : job.stitch name m w = ((.ok data, m₁), w₁))
    {outputs : List (String × Bytes)}
    (others : job.stitchEach rest m₁ (w₁.recorded (.containerDone name data.length)) =
      ((.ok outputs, m'), w')) :
    job.stitchEach (name :: rest) m w = ((.ok ((name, data) :: outputs), m'), w') := by
  rw [stitchEach, Stitching.bind_ok first, Stitching.bind_ok (Stitching.record_eq _ m₁ w₁),
    Stitching.bind_ok others]
  rfl

theorem Answers.head (answers : job.Answers answer (name :: rest) m w)
    {result : Except Error Bytes} (call : job.stitch name m w = ((result, m'), w')) :
    answer name = result := by
  rw [← answers [] name rest rfl _ _ _ (stitchEach_nil job m w), call]

theorem Answers.tail (answers : job.Answers answer (name :: rest) m w) {data : Bytes}
    (call : job.stitch name m w = ((.ok data, m'), w')) :
    job.Answers answer rest m' (w'.recorded (.containerDone name data.length)) := by
  intro before name' after heq outputs m₁ w₁ hbefore
  exact answers (name :: before) name' after (congrArg _ heq) _ _ _
    (stitchEach_cons_of_ok call hbefore)

private theorem answers_inTurn (job : StitchJob) (m : StitchMemory) (w : Workspace) :
    job.Answers (job.answerInTurn m w) job.tree.names m
      (w.recorded (.started job.tree.containers.length)) := by
  intro before name after heq outputs m₁ w₁ hbefore
  have hnodup : (before ++ name :: after).Nodup := heq ▸ job.tree.distinct
  have hnew : ∀ other ∈ before, decide (other ≠ name) = true := fun other hother =>
    decide_eq_true ((List.nodup_append.1 hnodup).2.2 other hother name List.mem_cons_self)
  have hturn : job.tree.names.takeWhile (· ≠ name) = before := by
    rw [heq, List.takeWhile_append_of_pos hnew, List.takeWhile_cons_of_neg (by simp),
      List.append_nil]
  rw [answerInTurn, hturn, hbefore]

/-! ### Delivery -/

private theorem EachRun.answered {outputs : List (String × Bytes)}
    (run : job.EachRun names m w (.ok outputs) m' w') (answers : job.Answers answer names m w) :
    ∀ name data, (name, data) ∈ outputs → answer name = .ok data := by
  generalize hresult : Except.ok outputs = result at run
  induction run generalizing outputs with
  | nil =>
    cases hresult
    exact fun _ _ h => (nomatch h)
  | failed => cases hresult
  | restFailed => cases hresult
  | cons first _ ih =>
    cases hresult
    intro name data hmem
    rcases List.mem_cons.1 hmem with heq | hmem
    · cases heq
      exact answers.head first
    · exact ih (answers.tail first) rfl name data hmem

private theorem EachRun.error_of_answers {e : Error} (run : job.EachRun names m w (.error e) m' w')
    (answers : job.Answers answer names m w) :
    ∃ before name after, names = before ++ name :: after ∧
      (∀ other ∈ before, ∃ data, answer other = .ok data) ∧ answer name = .error e := by
  generalize hresult : Except.error e = result at run
  induction run with
  | nil => cases hresult
  | @failed name rest _ _ _ _ _ first =>
    cases hresult
    exact ⟨[], name, rest, rfl, fun _ h => (nomatch h), answers.head first⟩
  | @restFailed name _ _ _ _ _ _ _ data _ first _ ih =>
    cases hresult
    obtain ⟨before, failing, after, heq, hbefore, hfails⟩ := ih (answers.tail first) rfl
    refine ⟨name :: before, failing, after, congrArg _ heq, ?_, hfails⟩
    exact List.forall_mem_cons.2 ⟨⟨data, answers.head first⟩, hbefore⟩
  | cons => cases hresult

/-- The reports are those that the answers call for. -/
theorem EachRun.progress (keeps : job.compress.KeepsProgress)
    {result : Except Error (List (String × Bytes))} (run : job.EachRun names m w result m' w')
    (answers : job.Answers answer names m w) :
    (finished w' result).progress = w.progress ++ reports answer names := by
  induction run with
  | nil => exact Workspace.progress_recorded rfl
  | failed first =>
    rw [reports, answers.head first, List.append_nil]
    exact (stitchRun first).progress keeps
  | restFailed first _ ih =>
    rw [reports, answers.head first]
    refine (ih (answers.tail first)).trans ?_
    rw [Workspace.progress_recorded rfl, (stitchRun first).progress keeps, List.append_assoc]
    rfl
  | cons first _ ih =>
    rw [reports, answers.head first]
    refine (ih (answers.tail first)).trans ?_
    rw [Workspace.progress_recorded rfl, (stitchRun first).progress keeps, List.append_assoc]
    rfl

theorem Answers.delivered {result : Except Error (List (String × Bytes))}
    (answers : job.Answers answer job.tree.names m
      (w.recorded (.started job.tree.containers.length)))
    (call : job.stitchAll m w = ((result, m'), w')) :
    job.Delivered answer w result m' w' := by
  obtain ⟨w₁, rfl, run⟩ := eachRun_of_stitchAll call
  have hfails : ∀ e, result = .error e →
      ∃ before c after, job.tree.containers = before ++ c :: after ∧
        (∀ d ∈ before, ∃ data, answer d.name = .ok data) ∧ answer c.name = .error e := by
    rintro e rfl
    obtain ⟨before, name, after, heq, hbefore, hfails⟩ := run.error_of_answers answers
    obtain ⟨cs, ds, hcs, rfl, hds⟩ := List.map_eq_append_iff.1 heq
    obtain ⟨c, cs', rfl, rfl, rfl⟩ := List.map_eq_cons_iff.1 hds
    exact ⟨cs, c, cs', hcs, fun d hd => hbefore d.name (List.mem_map_of_mem hd), hfails⟩
  have hfound : ∀ outputs, result = .ok outputs → ∀ c ∈ job.tree.containers,
      ∃ data, (c.name, data) ∈ outputs ∧ answer c.name = .ok data := by
    rintro outputs rfl c hc
    have hname : c.name ∈ outputs.map (·.1) := run.outputs.1 ▸ List.mem_map_of_mem hc
    obtain ⟨⟨name, data⟩, hmem, rfl⟩ := List.mem_map.1 hname
    exact ⟨data, hmem, run.answered answers _ _ hmem⟩
  refine ⟨?succeeds, ?names, ?bytes, ?found, ?final, hfails, ?progress⟩
  case succeeds =>
    constructor
    · rintro ⟨outputs, hresult⟩ c hc
      obtain ⟨data, -, hdata⟩ := hfound outputs hresult c hc
      exact ⟨data, hdata⟩
    · intro hanswers
      rcases result with e | outputs
      · obtain ⟨before, c, after, heq, -, hfails⟩ := hfails e rfl
        obtain ⟨data, hdata⟩ := hanswers c (heq ▸ List.mem_append_right _ List.mem_cons_self)
        cases hfails.symm.trans hdata
      · exact ⟨outputs, rfl⟩
  case names =>
    rintro outputs rfl
    exact run.outputs.1
  case bytes =>
    rintro outputs rfl name data hmem
    exact ⟨run.answered answers name data hmem, run.outputs.2 name data hmem⟩
  case found =>
    rintro outputs rfl c hc
    obtain ⟨data, hmem, hdata⟩ := hfound outputs rfl c hc
    have hdistinct : (outputs.map (·.1)).Nodup := run.outputs.1 ▸ job.tree.distinct
    rw [StitchOutput.get?_of_mem hdistinct hmem, hdata]
    rfl
  case final =>
    rintro outputs rfl
    rw [StitchOutput.final?, LayoutTree.final?, ← List.getLast?_map, ← List.getLast?_map]
    exact congrArg List.getLast? run.outputs.1
  case progress =>
    intro keeps
    rw [run.progress keeps answers, Workspace.progress_recorded rfl, List.append_assoc]
    rfl

end

/-! ### Answers at once -/

/-- While the files are as given, the compressor leaves them so and answers a question always in the
same way. -/
structure Repeats (job : StitchJob) (fs : Files) : Prop where
  result : ∀ codec raw w w', w.files = fs → w'.files = fs →
    (job.compress codec raw w).1 = (job.compress codec raw w').1
  files : job.Keeps (· = fs)

private theorem repeats_setting (s : StitchSetting) (fs : Files) : s.job.Repeats fs where
  result codec raw w w' _ _ := by
    change (Build.ofExcept _ w).1 = (Build.ofExcept _ w').1
    rw [Build.ofExcept_eq, Build.ofExcept_eq]
  files codec raw w hw := by
    change (Build.ofExcept _ w).2.files = fs
    rw [Build.ofExcept_eq, hw]

private theorem keepsProgress_setting (s : StitchSetting) : s.job.compress.KeepsProgress := by
  intro codec raw w
  change (Build.ofExcept _ w).2.progress = w.progress
  rw [Build.ofExcept_eq]

def setting (job : StitchJob) (fs : Files) : StitchSetting where
  tree := job.tree
  store := job.store
  files := fs
  compress := fun codec raw => (job.compress codec raw ⟨fs, "", [], [], []⟩).1
  pad := job.pad

namespace Repeats

theorem compressed (repeats : job.Repeats fs) (hw : w.files = fs) {codec : Codec} {raw : Bytes}
    {result : Except Error Bytes} (h : job.compressed codec raw w = (result, w'))
    (v : Workspace) : ∃ v', (job.setting fs).job.compressed codec raw v = (result, v') := by
  obtain ⟨hresult, -⟩ := StitchSetting.compressed_run (s := job.setting fs)
    (rfl : (job.setting fs).job.compressed codec raw v = (_, _))
  refine ⟨_, Prod.ext (hresult.trans ?_) rfl⟩
  by_cases hcodec : codec = .none
  · subst hcodec
    rw [compressed_none] at h
    cases h
    rfl
  · rw [compressed_of_ne hcodec] at h
    rw [StitchSetting.compressed, if_neg hcodec]
    change (job.compress codec raw _).1 = result
    rw [repeats.result codec raw _ (w.recorded (.compression codec raw.length)) rfl hw, h]

theorem contentRun (repeats : job.Repeats fs) (hw : w.files = fs) (hv : v.files = fs)
    {container artifact : String} {r : Region} {result : Except Error (Option Bytes)}
    (run : job.ContentRun container r artifact m w result m' w') :
    ∃ v', (job.setting fs).job.ContentRun container r artifact m v result m' v' := by
  have hfiles : (job.setting fs).job.store.load v.files artifact =
      job.store.load w.files artifact := by
    rw [hv, hw]
    rfl
  cases run with
  | kept kept => exact ⟨v, .kept kept⟩
  | unread new load => exact ⟨v, .unread new (hfiles.trans load)⟩
  | leftOut new load policy => exact ⟨v, .leftOut new (hfiles.trans load) policy⟩
  | missing new load policy => exact ⟨v, .missing new (hfiles.trans load) policy⟩
  | failed new load compress =>
    obtain ⟨v', hv'⟩ := repeats.compressed hw compress v
    exact ⟨v', .failed new (hfiles.trans load) hv'⟩
  | loaded new load compress =>
    obtain ⟨v', hv'⟩ := repeats.compressed hw compress v
    exact ⟨v', .loaded new (hfiles.trans load) hv'⟩

theorem stitchRun (repeats : job.Repeats fs) {task : Task} {result : Except Error Bytes}
    (run : job.StitchRun task m w result m' w') (hw : w.files = fs) (hv : v.files = fs) :
    ∃ v', (job.setting fs).job.StitchRun task m v result m' v' := by
  have hkeeps := (repeats_setting (job.setting fs) fs).files
  -- The workspace in the setting is another one; all that the runs look at are its files.
  induction run generalizing v with
  | kept kept => exact ⟨v, .kept kept⟩
  | cycle new onPath => exact ⟨v, .cycle new onPath⟩
  | unknown new offPath lacking => exact ⟨v, .unknown new offPath lacking⟩
  | failed new offPath found _ ih =>
    obtain ⟨v', run⟩ := ih hw hv
    exact ⟨v', .failed new offPath found run⟩
  | built new offPath found _ ih =>
    obtain ⟨v', run⟩ := ih hw hv
    exact ⟨v', .built new offPath found run⟩
  | zeroSize size => exact ⟨v, .zeroSize size⟩
  | noContent size source content =>
    obtain ⟨v', run⟩ := repeats.contentRun hw hv content
    exact ⟨v', .noContent size source run⟩
  | artifact size source content =>
    obtain ⟨v', run⟩ := repeats.contentRun hw hv content
    exact ⟨v', .artifact size source run⟩
  | noChild size source _ ih =>
    obtain ⟨v', run⟩ := ih hw hv
    exact ⟨v', .noChild size source run⟩
  | incompressible size source below compress ih =>
    obtain ⟨v₁, run⟩ := ih hw hv
    obtain ⟨v', hv'⟩ := repeats.compressed (below.files repeats.files hw) compress v₁
    exact ⟨v', .incompressible size source run hv'⟩
  | child size source below compress ih =>
    obtain ⟨v₁, run⟩ := ih hw hv
    obtain ⟨v', hv'⟩ := repeats.compressed (below.files repeats.files hw) compress v₁
    exact ⟨v', .child size source run hv'⟩
  | nil => exact ⟨v, .nil⟩
  | firstFailed _ ih =>
    obtain ⟨v', run⟩ := ih hw hv
    exact ⟨v', .firstFailed run⟩
  | restFailed first _ ihFirst ihRest =>
    obtain ⟨v₁, runFirst⟩ := ihFirst hw hv
    obtain ⟨v', runRest⟩ := ihRest (first.files repeats.files hw) (runFirst.files hkeeps hv)
    exact ⟨v', .restFailed runFirst runRest⟩
  | cons first _ ihFirst ihRest =>
    obtain ⟨v₁, runFirst⟩ := ihFirst hw hv
    obtain ⟨v', runRest⟩ := ihRest (first.files repeats.files hw) (runFirst.files hkeeps hv)
    exact ⟨v', .cons runFirst runRest⟩

theorem stitch_faithful (repeats : job.Repeats fs) {name : String} {result : Except Error Bytes}
    (faithful : (job.setting fs).Faithful m w) (call : job.stitch name m w = ((result, m'), w')) :
    result = (job.setting fs).meaning name ∧ (job.setting fs).Faithful m' w' := by
  have run := StitchJob.stitchRun call
  obtain ⟨v', hrun⟩ := repeats.stitchRun run faithful.files faithful.files
  obtain ⟨hresult, hfaithful⟩ := StitchSetting.stitchRun_faithful hrun (.nil _ name) faithful
  refine ⟨hresult, hfaithful.withFiles ?_⟩
  exact (run.files repeats.files faithful.files).trans hfaithful.files.symm

theorem faithful (repeats : job.Repeats fs) (reachable : job.Reachable (· = fs) m w) :
    (job.setting fs).Faithful m w := by
  refine reachable.invariant (job.setting fs).Faithful ?_ ?_ ?_ ?_
  · exact fun hw => StitchSetting.faithful_empty hw
  · intro name m w result m' w' faithful call
    exact (repeats.stitch_faithful faithful call).2
  · intro m w e faithful
    exact faithful.withFiles rfl
  · intro m w fs' faithful hfs
    exact faithful.withFiles (hfs.trans faithful.files.symm)

theorem answers (repeats : job.Repeats fs) (reachable : job.Reachable (· = fs) m w)
    (names : List String) (e : Event) :
    job.Answers (job.answerAtOnce m w) names m (w.recorded e) := by
  have hfaithful := repeats.faithful reachable
  intro before name after _ outputs m₁ w₁ hbefore
  have hthen : (job.setting fs).Faithful m₁ w₁ :=
    (eachRun hbefore).keeps (fun faithful call => (repeats.stitch_faithful faithful call).2)
      (fun _ faithful => faithful.withFiles rfl) (hfaithful.withFiles rfl)
  rw [answerAtOnce]
  exact (repeats.stitch_faithful hthen rfl).1.trans (repeats.stitch_faithful hfaithful rfl).1.symm

end Repeats

/-- Building all containers delivers the answer for each one in its turn, with any compressor and
from any state. While the files stay as they are and the compressor repeats its answers, these are
the answers that calls at once would give, in all states that calls lead to. -/
theorem delivered_of_stitchAll (job : StitchJob) (m : StitchMemory) (w : Workspace) :
    job.Delivered (job.answerInTurn m w) w (job.stitchAll m w).1.1 (job.stitchAll m w).1.2
        (job.stitchAll m w).2 ∧
      ∀ fs, job.Repeats fs → job.Reachable (· = fs) m w →
        job.Delivered (job.answerAtOnce m w) w (job.stitchAll m w).1.1 (job.stitchAll m w).1.2
          (job.stitchAll m w).2 := by
  refine ⟨(answers_inTurn job m w).delivered rfl, fun fs repeats reachable => ?_⟩
  exact (repeats.answers reachable _ _).delivered rfl

def spareSetting (spare : List (String × Bytes)) : StitchSetting :=
  { StitchSetting.sample with store := ⟨("a", [1, 2, 3]) :: spare, []⟩ }

/-- After a call for the second container, which builds the first one as a part of it, the call for
all containers reports each of them in order. It stops at the third one if its artifact is missing,
and ends with it otherwise. -/
theorem delivered_of_stitchAll_spare :
    let bare := (spareSetting []).job
    let first := bare.stitch "IMAGE" .empty sampleWorkspace
    let left := bare.stitchAll first.1.2 first.2
    let full := (spareSetting [("c", [7])]).job
    let all := full.stitchAll first.1.2 first.2
    first.1.2.built.map (·.1) = ["IMAGE", "STAGE"] ∧
      left.1.1 = .error (.missingArtifact "SPARE" "c" "c") ∧
      bare.Delivered (bare.answerAtOnce first.1.2 first.2) first.2 left.1.1 left.1.2 left.2 ∧
      bare.compress.KeepsProgress ∧
      left.2.progress = [.started 3, .containerDone "STAGE" 4, .containerDone "IMAGE" 8] ∧
      all.1.1 = .ok [("STAGE", [1, 2, 0xFF, 0xFF]),
        ("IMAGE", [0xFF, 0xFF, 0xFF, 0xFF, 1, 2, 0xFF, 0xFF]), ("SPARE", [7, 0xFF, 0xFF, 0xFF])] ∧
      full.Delivered (full.answerInTurn first.1.2 first.2) first.2 all.1.1 all.1.2 all.2 ∧
      full.compress.KeepsProgress ∧
      all.2.progress = [.started 3, .containerDone "STAGE" 4, .containerDone "IMAGE" 8,
        .containerDone "SPARE" 4, .finished] := by
  have hreachable : (spareSetting []).job.Reachable (· = sampleWorkspace.files)
      ((spareSetting []).job.stitch "IMAGE" .empty sampleWorkspace).1.2
      ((spareSetting []).job.stitch "IMAGE" .empty sampleWorkspace).2 :=
    .stitched (.start rfl) rfl
  have hleft := (delivered_of_stitchAll (spareSetting []).job _ _).2 _
    (repeats_setting _ sampleWorkspace.files) hreachable
  have hall := (delivered_of_stitchAll (spareSetting [("c", [7])]).job
    ((spareSetting []).job.stitch "IMAGE" .empty sampleWorkspace).1.2
    ((spareSetting []).job.stitch "IMAGE" .empty sampleWorkspace).2).1
  exact ⟨by cbv, by cbv, hleft, keepsProgress_setting _, by cbv, by cbv, hall,
    keepsProgress_setting _, by cbv⟩

end StitchJob
end FlashImage
