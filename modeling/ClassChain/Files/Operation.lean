import ClassChain.Files.Walk
import ClassChain.Text.Newline

/-!
# Operations on files

Reading, writing and copying files and making directories, by path. An operation that fails says why; reading changes nothing, and
a write, a copy or the making of one directory that fails has changed nothing. Only the making of a directory with those above it
can stop halfway. It calls itself for the directory above as long as something is missing, so it ends in an error, and makes nothing,
where more are missing than calls can stand within one another.

`get?_of_write` says what a write leaves at every location.
-/

namespace ClassChain.Files

/-- The steps of a path as they are written, a dot for a path without steps. -/
def Path.writtenSteps (p : Path) : List Step := if p = ⟨.standing, []⟩ then [.here] else p.steps

/-- The path by the steps as they are written. -/
def Path.written (p : Path) : Path := ⟨p.anchor, p.writtenSteps⟩

/-- A path into the directory that a path leads to, under the last name of another path. -/
def Path.enter (p source : Path) : Path := { p with steps := p.writtenSteps ++ source.writtenSteps.getLast?.toList }

namespace FileSystem

/-- Whether a path leads to a directory; a path that is too long, or has too long a name, cannot be asked. -/
def askDirectory (fs : FileSystem) (p : Path) : Except Error Bool :=
  match fs.resolve p with
  | .error .nameTooLong => if p.hasNull then .ok false else .error (.refused .nameTooLong p)
  | _ => .ok (fs.isDirectory p)

/-- Whether a path leads to a file or a directory; a path that is too long, or has too long a name, cannot be asked. -/
def askHolds (fs : FileSystem) (p : Path) : Except Error Bool :=
  match fs.resolve p with
  | .error .nameTooLong => if p.hasNull then .ok false else .error (.refused .nameTooLong p)
  | _ => .ok (fs.holds p)

/-- The content of a file. -/
def readBytes (fs : FileSystem) (p : Path) : Except Error ByteArray :=
  if p.hasNull then .error .nullCharacter
  else
    match fs.resolve p with
    | .ok (.file _ content) => .ok content
    | .ok (.directory _) => .error (.refused .isDirectory p)
    | .ok (.absent _ _) => .error (.refused .missing p)
    | .error cause => .error (.refused cause p)

/-- The text that bytes write, with every kind of line end read as a newline. -/
def textOf (bytes : ByteArray) : Except Error String :=
  match Text.Utf8.decode bytes with
  | .ok text => .ok (String.ofList (Text.unify text.toList))
  | .error fault => .error (.undecodable fault)

/-- The text of a file. -/
def readText (fs : FileSystem) (p : Path) : Except Error String := do textOf (← fs.readBytes p)

/-- The file system after a file was given a content; links are followed, and a file that was not there is made. -/
def write (fs : FileSystem) (p : Path) (content : ByteArray) : Except Error FileSystem :=
  if p.hasNull then .error .nullCharacter
  else
    match fs.resolveForMaking p with
    | .ok (.file l _) => .ok (fs.putFile l content)
    | .ok (.absent l n) => .ok (fs.putFile (l ++ [n]) content)
    | .ok (.directory _) => .error (.refused .isDirectory p)
    | .error cause => .error (.refused cause p)

/-- The location of the file or directory that a path leads to. -/
def locate? (fs : FileSystem) (p : Path) : Option Location :=
  match fs.resolve p with
  | .ok (.file l _) | .ok (.directory l) => some l
  | _ => none

/-- Two paths lead to the same file or directory. -/
def same (fs : FileSystem) (p q : Path) : Bool := (fs.locate? p).isSome && fs.locate? p == fs.locate? q

/-- The file system after a file was copied to a path, or into the directory that the path leads to. -/
def copy (fs : FileSystem) (source target : Path) : Except Error FileSystem :=
  let within := fs.isDirectory target
  let goal := if within then target.enter source else target
  if source.hasNull || goal.hasNull then .error .nullCharacter
  else if fs.same source goal then .error (.sameFile source goal within)
  else do
    match fs.write goal (← fs.readBytes source) with
    | .error (.refused .isDirectory _) => .error (if fs.holds goal then .refused .isDirectory goal else .noDirectory goal)
    | written => written

/-- The file system after a directory was made; what is above it must be there, and nothing in its place. -/
def makeOne (fs : FileSystem) (p : Path) : Except Error FileSystem :=
  if p.hasNull then .error .nullCharacter
  else if pathLimit < p.text.utf8ByteSize then .error (.refused .nameTooLong p)
  else
    match p.steps.getLast? with
    | some (.into n) =>
      match fs.follow false p.parent.route with
      | .ok (.directory d) =>
        if !n.fits then .error (.refused .nameTooLong p)
        else if (fs.get? (d ++ [n])).isSome then .error (.refused .exists p)
        else .ok (fs.makeDirectory (d ++ [n]))
      | .ok (.file _ _) => .error (.refused .notDirectory p)
      | .ok (.absent _ _) => .error (.refused .missing p)
      | .error cause => .error (.refused cause p)
    | _ =>
      match fs.follow false p.route with
      | .ok _ => .error (.refused .exists p)
      | .error cause => .error (.refused cause p)

/-- What an operation left, and the error that stopped it, if any. -/
structure Attempt where
  files : FileSystem
  error? : Option Error

/-- Makes a directory unless there is one. -/
def ensureOne (fs : FileSystem) (p : Path) : Attempt :=
  match fs.makeOne p with
  | .ok made => ⟨made, none⟩
  | .error (.refused .missing shown) => ⟨fs, some (.refused .missing shown)⟩
  | .error (.refused cause shown) =>
    match fs.askDirectory p with
    | .ok true => ⟨fs, none⟩
    | .ok false => ⟨fs, some (.refused cause shown)⟩
    | .error error => ⟨fs, some error⟩
  | .error error => ⟨fs, some error⟩

/-- Makes a directory and all that are missing above it, unless there is one. The number is that of the calls that can yet stand
within one another, one for each directory that is missing. -/
def ensureWithin (fs : FileSystem) (p : Path) : Nat → Attempt
  | 0 => ⟨fs, some (.tooDeep .making)⟩
  | calls + 1 =>
    match fs.ensureOne p with
    | ⟨left, some (.refused .missing shown)⟩ =>
      if p.steps = [] then ⟨left, some (.refused .missing shown)⟩
      else
        match ensureWithin left p.parent calls with
        | ⟨above, none⟩ => above.ensureOne p
        | stopped => stopped
    | done => done

/-- The greatest number of missing directories that are made one above another. -/
def makeLimit : Nat := 988

/-- Makes a directory and all that are missing above it, unless there is one. -/
def ensure (fs : FileSystem) (p : Path) : Attempt := fs.ensureWithin p makeLimit

/-! ## What operations leave -/

/-- After a write the file has the content, and all else is as it was. -/
theorem get?_of_write {fs after : FileSystem} {p : Path} {content : ByteArray} (h : fs.write p content = .ok after) :
    ∃ l, fs.isFree l = true ∧ ∀ m, after.get? m = if l = m then some (.file content) else fs.get? m := by
  unfold write at h
  split at h
  · simp at h
  · split at h
    · rename_i l old hr
      simp only [Except.ok.injEq] at h
      have hfree := isFree_of_file (stands_of_resolveForMaking hr)
      exact ⟨l, hfree, fun m => h ▸ get?_putFile hfree content m⟩
    · rename_i l n hr
      simp only [Except.ok.injEq] at h
      have hs := stands_of_resolveForMaking hr
      have hfree := isFree_of_absent hs.1 hs.2.1 hs.2.2
      exact ⟨l ++ [n], hfree, fun m => h ▸ get?_putFile hfree content m⟩
    · simp at h
    · simp at h

end FileSystem

end ClassChain.Files
