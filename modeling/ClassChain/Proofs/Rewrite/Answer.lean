import Mathlib.Data.List.Forall2
import ClassChain.Proofs.Files.Writing
import ClassChain.Proofs.Rewrite.Effort
import ClassChain.Proofs.Rewrite.Found
import ClassChain.Proofs.Rewrite.Run

/-!
# What a run answers

Each file has its turn in a run, and meets with what the turns before have left. A run has an answer for each turn, made of the effort
that is made then, or ends at the first turn that stops it (`rewriteFiles_eq_answers`, `rewriteFiles_of_stop`). So the rewriting of a
tree ends in one of three ways, whatever the file system holds (`rewriteTree_ends`): its files cannot be listed, one of them stops it,
or each is answered for (`rewriteTree_answers`).
-/

namespace ClassChain.Rewrite

open Files (Path FileSystem Name Location)

section

variable {s : Settings} {check : Bool} {fs : FileSystem} {dir : Path} {outputDir? : Option Path}

/-! ## Turns -/

/-- A file and its output without a null character in their paths. -/
structure Plain (task : Task) : Prop where
  input : task.1.hasNull = false
  output : (task.2.getD task.1).hasNull = false

/-- The turn stops the run. -/
def Turn.Stops (s : Settings) (check : Bool) (turn : Turn) : Prop := Rewrite.Stops s check turn.files turn.task.1 turn.output

/-- What is made of the effort when its turn comes. -/
def Turn.effort (s : Settings) (check : Bool) (turn : Turn) : FileSystem.Attempt :=
  Rewrite.effort s check turn.files turn.task.1 turn.output

/-- What is told of it. -/
def Turn.answer (s : Settings) (check : Bool) (turn : Turn) : Result :=
  Rewrite.answer s check turn.files turn.task.1 turn.output

/-- A turn between plain paths that does not stop the run is the effort, and has an answer. -/
theorem Turn.rewriteFile_eq {turn : Turn} (hplain : Plain turn.task) (hgoes : ¬ turn.Stops s check) :
    turn.left s check = (turn.effort s check).files ∧
      (rewriteFile s check turn.files turn.task.1 turn.task.2).result = .ok (turn.answer s check) :=
  rewriteFile_eq_answer fun _ => isExpected_of_effort hplain.input hplain.output hgoes

theorem plain_of_mem_turns {tasks : List Task} (h : ∀ task ∈ tasks, Plain task) :
    ∀ turn ∈ turns s check fs tasks, Plain turn.task := by
  induction tasks generalizing fs with
  | nil => simp [turns]
  | cons task tasks ih =>
    obtain ⟨htask, htasks⟩ := List.forall_mem_cons.mp h
    rw [turns, List.forall_mem_cons]
    exact ⟨htask, ih htasks⟩

/-- A run that no turn stops comes to its end, and has the answers of all turns. -/
theorem rewriteFiles_eq_answers {tasks : List Task} (h : ∀ task ∈ tasks, Plain task)
    (hgoes : ∀ turn ∈ turns s check fs tasks, ¬ turn.Stops s check) :
    (rewriteFiles s check fs tasks).result = .ok ((turns s check fs tasks).map (Turn.answer s check)) := by
  induction tasks generalizing fs with
  | nil => rfl
  | cons task tasks ih =>
    obtain ⟨htask, htasks⟩ := List.forall_mem_cons.mp h
    rw [turns, List.forall_mem_cons] at hgoes
    obtain ⟨-, hfirst⟩ := @Turn.rewriteFile_eq s check ⟨fs, task⟩ htask hgoes.1
    rw [(rewriteFiles_cons hfirst tasks).2, ih htasks hgoes.2, turns]
    rfl

/-- A run ends at the first turn that stops it, and leaves what this turn has found. -/
theorem rewriteFiles_of_stop {tasks : List Task} {front back : List Turn} {turn : Turn} (h : ∀ task ∈ tasks, Plain task)
    (hturns : turns s check fs tasks = front ++ turn :: back) (hgoes : ∀ turn ∈ front, ¬ turn.Stops s check)
    (hstop : turn.Stops s check) :
    (rewriteFiles s check fs tasks).files = turn.files ∧
      (rewriteFiles s check fs tasks).result = .error (.tooDeep .making) := by
  induction tasks generalizing fs front with
  | nil => simp [turns] at hturns
  | cons task tasks ih =>
    obtain ⟨htask, htasks⟩ := List.forall_mem_cons.mp h
    cases front with
    | nil =>
      obtain ⟨rfl, -⟩ := List.cons.inj hturns
      obtain ⟨hfiles, hresult⟩ := hstop.rewriteFile
      obtain ⟨hfiles', hresult'⟩ := rewriteFiles_of_error hresult tasks
      exact ⟨hfiles'.trans hfiles, hresult'⟩
    | cons first front =>
      obtain ⟨rfl, hrest⟩ := List.cons.inj hturns
      obtain ⟨hfirst, hfront⟩ := List.forall_mem_cons.mp hgoes
      obtain ⟨-, hanswer⟩ := Turn.rewriteFile_eq htask hfirst
      obtain ⟨hfiles, hresult⟩ := rewriteFiles_cons hanswer tasks
      obtain ⟨hfiles', hresult'⟩ := ih htasks hrest hfront
      exact ⟨hfiles.trans hfiles', hresult.trans (by rw [hresult']; rfl)⟩

/-- A turn that stops the run has one before which none does. -/
theorem exists_first_stop {ts : List Turn} (h : ∃ turn ∈ ts, turn.Stops s check) :
    ∃ front turn back, ts = front ++ turn :: back ∧ (∀ turn ∈ front, ¬ turn.Stops s check) ∧ turn.Stops s check := by
  induction ts with
  | nil => simp at h
  | cons first ts ih =>
    by_cases hfirst : first.Stops s check
    · exact ⟨[], first, ts, rfl, by simp, hfirst⟩
    · obtain ⟨turn, hturn, hstop⟩ := h
      have hlater : turn ∈ ts := (List.mem_cons.mp hturn).resolve_left fun heq => hfirst (heq ▸ hstop)
      obtain ⟨front, turn, back, rfl, hgoes, hstop⟩ := ih ⟨turn, hlater, hstop⟩
      exact ⟨first :: front, turn, back, rfl, List.forall_mem_cons.mpr ⟨hfirst, hgoes⟩, hstop⟩

/-! ## Trees -/

/-- The file of the names below the directory, with its output. -/
def taskOf (dir : Path) (outputDir? : Option Path) (names : List Name) : Task :=
  (dir.append names, outputDir?.map (·.append names))

/-- The turns of the files found. -/
def turnsOf (s : Settings) (check : Bool) (fs : FileSystem) (dir : Path) (outputDir? : Option Path) (found : List (List Name)) :
    List Turn := turns s check fs (found.map (taskOf dir outputDir?))

theorem plain_taskOf {names : List Name} (hdir : dir.hasNull = false) (hout : ∀ out, outputDir? = some out → out.hasNull = false)
    (hfits : ∀ n ∈ names, n.fits = true) : Plain (taskOf dir outputDir? names) where
  input := Path.hasNull_append hdir hfits
  output := by
    cases outputDir? with
    | none => exact Path.hasNull_append hdir hfits
    | some out => exact Path.hasNull_append (hout out rfl) hfits

theorem Found.plain {found : List (List Name)} (h : Found s fs dir found) (hdir : dir.hasNull = false)
    (hout : ∀ out, outputDir? = some out → out.hasNull = false) : ∀ task ∈ found.map (taskOf dir outputDir?), Plain task := by
  intro task htask
  obtain ⟨names, hnames, rfl⟩ := List.mem_map.mp htask
  exact plain_taskOf hdir hout (h.fits names hnames)

theorem rewriteTree_of_found {found : List (List Name)} (h : findFiles s fs dir = .ok found) (check : Bool) (out? : Option Path) :
    (rewriteTree s check fs dir out?).files =
        (rewriteFiles s check fs (found.map fun names => (dir.append names, out?.map (·.append names)))).files ∧
      (rewriteTree s check fs dir out?).result =
        (rewriteFiles s check fs (found.map fun names => (dir.append names, out?.map (·.append names)))).result := by
  rw [rewriteTree, h]
  exact ⟨rfl, rfl⟩

theorem rewriteTree_of_error {error : Files.Error} (h : findFiles s fs dir = .error error) (check : Bool) (out? : Option Path) :
    (rewriteTree s check fs dir out?).files = fs ∧ (rewriteTree s check fs dir out?).result = .error error := by
  rw [rewriteTree, h]
  exact ⟨rfl, rfl⟩

/-- A result answers for a turn: it names the file and its output, its status says whether the effort made when its turn came met with
an error, its message is of that error, and it has a message exactly when the status is that of a failure. -/
structure Answers (s : Settings) (check : Bool) (turn : Turn) (r : Result) : Prop where
  input : r.input = turn.task.1
  output : r.output = turn.output
  status_iff : r.status = true ↔ (turn.effort s check).error? = none
  message_eq : r.message? = (turn.effort s check).error?.bind (failureMessage? turn.task.1)
  message_iff : r.message?.isSome = true ↔ r.status = false

theorem Turn.answers {turn : Turn} (hplain : Plain turn.task) (hgoes : ¬ turn.Stops s check) :
    Answers s check turn (turn.answer s check) where
  input := rfl
  output := rfl
  status_iff := Option.isNone_iff_eq_none
  message_eq := rfl
  message_iff := isSome_message?_answer hplain.input hplain.output hgoes

/-- How the rewriting of a tree ends, and what it leaves. -/
inductive Ends (s : Settings) (check : Bool) (fs : FileSystem) (dir : Path) (outputDir? : Option Path) :
    FileSystem → Except Files.Error (List Result) → Prop where
  /-- Directories stand too deep to be listed. -/
  | unlisted : Bottomless s fs dir → Ends s check fs dir outputDir? fs (.error (.tooDeep .listing))
  /-- A turn stops the run, the first that does. -/
  | stopped {found : List (List Name)} {front back : List Turn} {turn : Turn} : Found s fs dir found →
      turnsOf s check fs dir outputDir? found = front ++ turn :: back → (∀ turn ∈ front, ¬ turn.Stops s check) →
      turn.Stops s check → Ends s check fs dir outputDir? turn.files (.error (.tooDeep .making))
  /-- There is an answer for each file found, in their order. -/
  | answered {found : List (List Name)} {results : List Result} {after : FileSystem} : Found s fs dir found →
      (∀ turn ∈ turnsOf s check fs dir outputDir? found, ¬ turn.Stops s check) →
      results = (turnsOf s check fs dir outputDir? found).map (Turn.answer s check) →
      List.Forall₂ (Answers s check) (turnsOf s check fs dir outputDir? found) results →
      Ends s check fs dir outputDir? after (.ok results)

/-- The rewriting of a tree ends in one of these ways, whatever the file system holds. -/
theorem rewriteTree_ends (s : Settings) (check : Bool) (fs : FileSystem) (hdir : dir.hasNull = false)
    (hout : ∀ out, outputDir? = some out → out.hasNull = false) :
    Ends s check fs dir outputDir? (rewriteTree s check fs dir outputDir?).files (rewriteTree s check fs dir outputDir?).result := by
  by_cases hdeep : Bottomless s fs dir
  · obtain ⟨hfiles, hresult⟩ := rewriteTree_of_error (findFiles_of_bottomless hdir hdeep) check outputDir?
    rw [hfiles, hresult]
    exact .unlisted hdeep
  obtain ⟨found, hfound⟩ := exists_found hdir hdeep
  have hplain := hfound.plain hdir hout
  obtain ⟨hfiles, hresult⟩ := rewriteTree_of_found hfound.eq check outputDir?
  by_cases hstops : ∃ turn ∈ turnsOf s check fs dir outputDir? found, turn.Stops s check
  · obtain ⟨front, turn, back, hturns, hgoes, hstop⟩ := exists_first_stop hstops
    obtain ⟨hleft, herror⟩ := rewriteFiles_of_stop hplain hturns hgoes hstop
    rw [hfiles.trans hleft, hresult.trans herror]
    exact .stopped hfound hturns hgoes hstop
  · have hgoes : ∀ turn ∈ turnsOf s check fs dir outputDir? found, ¬ turn.Stops s check := fun turn hturn hstop =>
      hstops ⟨turn, hturn, hstop⟩
    rw [hresult.trans (rewriteFiles_eq_answers hplain hgoes)]
    refine .answered hfound hgoes rfl (List.forall₂_map_right_iff.mpr (List.forall₂_same.mpr fun turn hturn => ?_))
    exact Turn.answers (plain_of_mem_turns hplain turn hturn) (hgoes turn hturn)

theorem map_task_turns (s : Settings) (check : Bool) (fs : FileSystem) (tasks : List Task) :
    (turns s check fs tasks).map (·.task) = tasks := by
  induction tasks generalizing fs with
  | nil => rfl
  | cons task tasks ih => rw [turns, List.map_cons, ih]

end

namespace Sample

/-- The directory that the files are in. -/
def input : Name := ⟨"in", by decide⟩

/-- The directory for the output. -/
def output : Name := ⟨"o", by decide⟩

/-- A file that the hook changes. -/
def first : Name := ⟨"a.md", by decide⟩

/-- A file that it does not change. -/
def second : Name := ⟨"b.md", by decide⟩

/-- A file of which it takes no notice. -/
def plain : Name := ⟨"g", by decide⟩

/-- A directory that is not there. -/
def missing : Name := ⟨"x", by decide⟩

/-- The path of the directory that the files are in. -/
def inputPath : Path := ⟨.standing, [.into input]⟩

/-- The path of the directory for the output. -/
def outputPath : Path := ⟨.standing, [.into output]⟩

/-- A directory with trouble in it: bytes that are no text, and the directory for the output with another in place of a file. -/
def troubled : FileSystem :=
  ((((FileSystem.empty.makeDirectory [input]).putFile [input, first] ⟨#[0xFF]⟩).putFile [input, second]
    (Text.Utf8.encode "h:x|y")).makeDirectory [input, output]).makeDirectory [input, output, second]

theorem noLinkBelow_troubled (l : Location) : troubled.NoLinkBelow l :=
  ((((FileSystem.noLinkBelow_empty l).makeDirectory _).putFile _ _ |>.putFile _ _).makeDirectory _).makeDirectory _

/-- The path of a directory in the root, where the program stands, leads to it. -/
theorem resolve_into {fs : FileSystem} {name : Name} (hstanding : fs.standing = []) (hdir : fs.get? [name] = some .directory)
    (hshort : ¬ (⟨.standing, [.into name]⟩ : Path).IsLong) :
    fs.resolve ⟨.standing, [.into name]⟩ = .ok (.directory [name]) := by
  have hstart := @FileSystem.follow_standing fs (by rw [hstanding, FileSystem.get?_root])
  rw [hstanding] at hstart
  rw [FileSystem.resolve_of_not_long hshort]
  exact FileSystem.follow_append_of_directory hstart hdir

theorem resolve_inputPath {fs : FileSystem} (hstanding : fs.standing = []) (hdir : fs.get? [input] = some .directory) :
    fs.resolve inputPath = .ok (.directory [input]) := resolve_into hstanding hdir (by decide)

theorem findFiles_troubled : findFiles {} troubled inputPath = .ok [[first], [second]] :=
  findFiles_of_entries (by decide) (resolve_inputPath rfl (by decide)) (noLinkBelow_troubled _) (by decide) (by decide) (by decide)
    (by decide)

/-- Both files have their results: the directory above an output has fewer steps than can be made. -/
theorem exists_results_troubled :
    ∃ results, (rewriteTree {} false troubled inputPath (some (inputPath.append [output]))).result = .ok results := by
  have hdir : inputPath.hasNull = false := by decide
  have hout : ∀ out, some (inputPath.append [output]) = some out → out.hasNull = false := by
    intro out heq
    obtain rfl : inputPath.append [output] = out := by simpa using heq
    decide
  have hgoes : ∀ turn ∈ turnsOf {} false troubled inputPath (some (inputPath.append [output])) [[first], [second]],
      ¬ turn.Stops {} false := by
    intro turn hturn hstop
    have hlength := FileSystem.length_of_lacks hstop.outOfReach
    have htask := List.mem_map_of_mem (f := (·.task)) hturn
    rw [turnsOf, map_task_turns] at htask
    rw [Turn.output] at hlength
    simp only [List.map_cons, List.map_nil, List.mem_cons, List.not_mem_nil, or_false] at htask
    rcases htask with htask | htask <;>
    · rw [htask] at hlength
      exact absurd hlength (by decide)
  have hplain := (found_of_findFiles hdir findFiles_troubled).plain hdir hout
  exact ⟨_, (rewriteTree_of_found findFiles_troubled false _).2.trans (rewriteFiles_eq_answers hplain hgoes)⟩

end Sample

end ClassChain.Rewrite
