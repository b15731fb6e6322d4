import ContractAssist.Shell.Program.Paths

/-!
# Files — programs that change the files

* `Program.touch`, `Program.mkdir` and `Program.mktemp` make files and directories, `Program.rm` and
  `Program.rmdir` remove them;
* `Program.cp`, `Program.mv` and `Program.ln` make them appear in other places;
* `Program.chmod` says whether a file can be run.
-/

namespace ContractAssist
namespace Shell
namespace Program

def changing (name failure path : Text) (change : FileTree → Except IoError FileTree) :
    Act Nat := do
  match change (← Act.tree) with
  | .ok files => do
    Act.setTree files
    return 0
  | .error e => do
    complain name (failure ++ ' ' :: shellQuoted path ++ ": " ++ e.text)
    return 1

def isInhabited (files : FileTree) (place : Place) : Bool :=
  !(files.namesBelow place).isEmpty

/-- The cause for which a directory with something in it is not removed. -/
def notEmpty : IoError := .other "Directory not empty"

def invalid : IoError := .other "Invalid argument"

/-! ## Making -/

def touch : Program :=
  withOptions 1 "acd:fhmr:t:" (longOptions [("no-create", 'c')] [("date", 'd'), ("reference", 'r')])
    fun name o => do
      if o.others.isEmpty then misuse 1 name "missing file operand"
      else
        forAll (fun path => do
          match (← Act.tree).destination true (toText path) with
          | .ok (.found _ _) => return 0
          | .ok (.vacant place false) => do
            if !o.has 'c' then Act.setTree ((← Act.tree).put place (.file [] false))
            return 0
          | .ok (.vacant _ true) => do
            if o.has 'c' then return 0
            else
              complain name ("setting times of " ++ shellQuoted path ++ ": "
                ++ IoError.notFound.text)
              return 1
          | .error e => do
            if o.has 'c' && e = .notFound then return 0
            else
              let failure : Text :=
                if path.getLast? = some '/' then "setting times of " else "cannot touch "
              complain name (failure ++ shellQuoted path ++ ": " ++ e.text)
              return 1) o.others

/-- The paths of the directories that a path leads through, the path itself last. -/
def stages (path : Text) : List Text :=
  let parts := (FileTree.parts path).filter fun part => !part.isEmpty
  let start : Text := if Path.isAbsolute path then ['/'] else []
  (List.range parts.length).map fun n => start ++ Text.joinWith ['/'] (parts.take (n + 1))

/-- Makes directories one in the other; those that are there stay. -/
def makeStages (name : Text) (tells : Bool) : List Text → Act Nat
  | [] => pure 0
  | path :: r => do
    let files ← Act.tree
    if files.isDirectory (toText path) then makeStages name tells r
    else
      let status ← changing name "cannot create directory" path fun files =>
        if !r.isEmpty && files.pathExists (toText path) then .error .notADirectory
        else files.makeDir? (toText path)
      if status ≠ 0 then return status
      else
        if tells then
          let _ ← write name (name ++ ": created directory " ++ shellQuoted path ++ ['\n'])
        makeStages name tells r

def mkdir : Program :=
  withOptions 1 "m:pvZ" (longOptions [("parents", 'p'), ("verbose", 'v')] [("mode", 'm')])
    fun name o => do
      if o.others.isEmpty then missing name
      else
        forAll (fun path => do
          if o.has 'p' && !path.isEmpty then makeStages name (o.has 'v') (stages path)
          else
            let status ← changing name "cannot create directory" path fun files =>
              files.makeDir? (toText path)
            if status = 0 && o.has 'v' then
              let _ ← write name (name ++ ": created directory " ++ shellQuoted path ++ ['\n'])
            return status) o.others

/-- So many letters are free in the name of a temporary file, at least. -/
def freeLetters : Nat := 3

def temporaryDir (s : State) : Text :=
  match (s.environment.find? fun v => v.1 = ("TMPDIR" : Text)).map Prod.snd with
  | some dir => if dir.isEmpty then "/tmp" else dir
  | none => "/tmp"

def within (dir path : Text) : Text :=
  if dir.isEmpty then path else if dir.getLast? = some '/' then dir ++ path else dir ++ '/' :: path

/--
The first of `fuel` paths from number `n` on that leads to nothing; the number stands between
`before` and `after`, and has `width` digits at least.
-/
def freePath (files : FileTree) (before after : Text) (width : Nat) : Nat → Nat → Text
  | 0, n => before ++ Text.ofNatPadded width n ++ after
  | fuel + 1, n =>
    let path := before ++ Text.ofNatPadded width n ++ after
    if files.pathExists (toText path) then freePath files before after width fuel (n + 1) else path

/-- Makes a file, or a directory, where nothing is, and says where. -/
def makeTemporary (name template after : Text) (dir? : Option Text) (o : Options) : Act Nat := do
  let marks := (template.reverse.takeWhile (· = 'X')).length
  let before := within (dir?.getD []) (template.take (template.length - marks))
  let files ← Act.tree
  let path := freePath files before after marks (files.nodes.length + 1) 1
  let failure (e : IoError) : Act Nat := do
    let what : Text := if o.has 'd' then "directory" else "file"
    if !o.has 'q' then
      complain name ("failed to create " ++ what ++ " via template "
        ++ shellQuoted (within (dir?.getD []) template ++ after) ++ ": " ++ e.text)
    return 1
  if o.has 'u' then write name (path ++ ['\n'])
  else
    match if o.has 'd' then files.makeDir? (toText path) else files.createNew? (toText path) [] with
    | .error e => failure e
    | .ok files => do
      Act.setTree files
      write name (path ++ ['\n'])

def mktemp : Program :=
  withOptions 1 "dp:qtu" (longOptions [("directory", 'd'), ("quiet", 'q'), ("dry-run", 'u')]
    [("suffix", 's')]) fun name o => do
      let given := o.others.headD "tmp.XXXXXXXXXX"
      let dir := ((o.argument? 'p').filter fun dir => !dir.isEmpty).getD (temporaryDir (← Act.get))
      let inDir := o.has 't' || o.has 'p' || o.others.isEmpty
      let tail := (given.reverse.takeWhile (· ≠ 'X')).reverse
      let template := given.take (given.length - tail.length)
      let suffix := tail ++ (o.argument? 's').getD []
      let refuse (text : Text) : Act Nat := do
        complain name text
        return 1
      if 1 < o.others.length then misuse 1 name "too many templates"
      else if o.has 's' && !tail.isEmpty then
        refuse ("with --suffix, template " ++ shellQuoted given ++ " must end in X")
      else if (template.reverse.takeWhile (· = 'X')).length < freeLetters then
        refuse ("too few X's in template " ++ shellQuoted given)
      else if suffix.elem '/' then
        refuse ("invalid suffix " ++ shellQuoted suffix ++ ", contains directory separator")
      else if o.has 't' && template.elem '/' then
        refuse ("invalid template, " ++ shellQuoted given ++ ", contains directory separator")
      else if inDir && Path.isAbsolute template then
        refuse ("invalid template, " ++ shellQuoted given
          ++ "; with --tmpdir, it may not be absolute")
      else makeTemporary name template suffix (if inDir then some dir else none) o

/-! ## Removing -/

def removeDir? (files : FileTree) (path : Text) : Except IoError FileTree := do
  if (FileTree.parts path).getLast? = some ['.'] then .error invalid
  match ← files.destination false (toText path) with
  | .found place .directory =>
    if isInhabited files place then .error notEmpty else return files.remove place
  | .found _ _ => .error .notADirectory
  | .vacant _ _ => .error .notFound

/-- Removes the empty directories that a path leads through, the last one first. -/
def removeStages (name : Text) (path : Text) : List Text → Act Nat
  | [] => pure 0
  | stage :: r => do
    let failure : Text := if stage = path then "failed to remove" else "failed to remove directory"
    let status ← changing name failure stage fun files => removeDir? files stage
    if status ≠ 0 then return status else removeStages name path r

def rmdir : Program :=
  withOptions 1 "pv" (longOptions [("parents", 'p'), ("verbose", 'v')] []) fun name o => do
    if o.others.isEmpty then missing name
    else
      forAll (fun path =>
        removeStages name path (if o.has 'p' then (stages path).reverse else [path])) o.others

def removeBelow (files : FileTree) (place : Place) : FileTree :=
  { files with nodes := files.nodes.filter fun n => !place.isPrefixOf n.1 }

/-- Is the last name of a path a dot, or two? -/
def endsInDots (path : Text) : Bool :=
  basenameOf path = ['.'] || basenameOf path = ['.', '.']

def removePath (name : Text) (o : Options) (path : Text) : Act Nat := do
  let files ← Act.tree
  let deep := o.has 'r' || o.has 'R'
  let refuse (e : IoError) : Act Nat := do
    complain name ("cannot remove " ++ shellQuoted path ++ ": " ++ e.text)
    return 1
  let removed (files : FileTree) (what : Text) : Act Nat := do
    Act.setTree files
    if o.has 'v' then write name ("removed " ++ what ++ shellQuoted path ++ ['\n']) else return 0
  match files.destination false (toText path) with
  | .ok (.found place .directory) =>
    if !deep && !o.has 'd' then refuse .isADirectory
    else if endsInDots path then do
      complain name ("refusing to remove '.' or '..' directory: skipping " ++ shellQuoted path)
      return 1
    else if deep then removed (removeBelow files place) "directory "
    else if isInhabited files place then refuse notEmpty
    else removed (files.remove place) "directory "
  | .ok (.found place _) =>
    if path.getLast? = some '/' then refuse .notADirectory else removed (files.remove place) []
  | .ok (.vacant _ _) => if o.has 'f' then return 0 else refuse .notFound
  | .error e =>
    if o.has 'f' && (e = .notFound || e = .notADirectory) then return 0 else refuse e

def rm : Program :=
  withOptions 1 "dfirRvI" (longOptions [("force", 'f'), ("recursive", 'r'), ("verbose", 'v'),
    ("dir", 'd')] []) fun name o => do
      if o.others.isEmpty then if o.has 'f' then return 0 else missing name
      else forAll (removePath name o) o.others

/-! ## Copying and moving -/

/-- A copy of everything at and below a place, at another one. -/
def copyBelow (files : FileTree) (source target : Place) : FileTree :=
  files.nodes.foldl (fun t n =>
    if source.isPrefixOf n.1 then t.put (target ++ n.1.drop source.length) n.2 else t) files

def moveBelow (files : FileTree) (source target : Place) : FileTree :=
  let files := files.remove target
  { files with nodes := files.nodes.map fun n =>
      if source.isPrefixOf n.1 then (target ++ n.1.drop source.length, n.2) else n }

def inDirectory (directory path : Text) : Text :=
  if directory.getLast? = some '/' then directory ++ basenameOf path
  else directory ++ '/' :: basenameOf path

abbrev Transfer := Text → Options → Text → Text → Act Nat

def copyOne : Transfer := fun name o source target => do
  let files ← Act.tree
  let deep := o.has 'r' || o.has 'R' || o.has 'a'
  let fail (text : Text) : Act Nat := do
    complain name text
    return 1
  let done (files : FileTree) : Act Nat := do
    Act.setTree files
    if o.has 'v' then write name (shellQuoted source ++ " -> " ++ shellQuoted target ++ ['\n'])
    else return 0
  let keepsLinks := o.has 'd' || o.has 'P' || o.has 'a' || deep
  match files.destination (!keepsLinks) (toText source), files.destination true (toText target) with
  | .error e, _ => fail ("cannot stat " ++ shellQuoted source ++ ": " ++ e.text)
  | .ok (.vacant _ _), _ =>
    fail ("cannot stat " ++ shellQuoted source ++ ": " ++ IoError.notFound.text)
  | .ok (.found _ _), .error e =>
    fail ("cannot create regular file " ++ shellQuoted target ++ ": " ++ e.text)
  | .ok (.found place .directory), .ok goal =>
    if !deep then fail ("-r not specified; omitting directory " ++ shellQuoted source)
    else
      match goal with
      | .found other node =>
        if node ≠ .directory then
          fail ("cannot overwrite non-directory " ++ shellQuoted target ++ " with directory "
            ++ shellQuoted source)
        else if place.isPrefixOf other then
          fail ("cannot copy a directory, " ++ shellQuoted source ++ ", into itself, "
            ++ shellQuoted target)
        else done (copyBelow files place other)
      | .vacant other _ =>
        if place.isPrefixOf other then
          fail ("cannot copy a directory, " ++ shellQuoted source ++ ", into itself, "
            ++ shellQuoted target)
        else done (copyBelow files place other)
  | .ok (.found place node), .ok (.found other old) =>
    if place = other then
      fail (shellQuoted source ++ " and " ++ shellQuoted target ++ " are the same file")
    else if old = .directory then
      fail ("cannot overwrite directory " ++ shellQuoted target ++ " with non-directory")
    else if o.has 'n' then return 0
    else
      match node, old with
      | .file content _, .file _ runnable => done (files.put other (.file content runnable))
      | _, .device _ => return 0
      | _, _ => done (files.put other node)
  | .ok (.found _ node), .ok (.vacant other slash) =>
    if slash then
      fail ("cannot create regular file " ++ shellQuoted target ++ ": "
        ++ IoError.notADirectory.text)
    else done (files.put other (match node with
      | .device _ => .file [] false
      | node => node))

def moveOne : Transfer := fun name o source target => do
  let files ← Act.tree
  let fail (text : Text) : Act Nat := do
    complain name text
    return 1
  let cannot (e : IoError) : Act Nat :=
    fail ("cannot move " ++ shellQuoted source ++ " to " ++ shellQuoted target ++ ": " ++ e.text)
  let done (files : FileTree) : Act Nat := do
    Act.setTree files
    if o.has 'v' then
      write name ("renamed " ++ shellQuoted source ++ " -> " ++ shellQuoted target ++ ['\n'])
    else return 0
  match files.destination false (toText source), files.destination false (toText target) with
  | .error e, _ => fail ("cannot stat " ++ shellQuoted source ++ ": " ++ e.text)
  | .ok (.vacant _ _), _ =>
    fail ("cannot stat " ++ shellQuoted source ++ ": " ++ IoError.notFound.text)
  | .ok (.found _ _), .error e => cannot e
  | .ok (.found place node), .ok (.found other old) =>
    if place = other then
      fail (shellQuoted source ++ " and " ++ shellQuoted target ++ " are the same file")
    else if o.has 'n' then return 0
    else if node = .directory && old ≠ .directory then
      fail ("cannot overwrite non-directory " ++ shellQuoted target ++ " with directory "
        ++ shellQuoted source)
    else if node ≠ .directory && old = .directory then
      fail ("cannot overwrite directory " ++ shellQuoted target ++ " with non-directory")
    else if place.isPrefixOf other then
      fail ("cannot move " ++ shellQuoted source ++ " to a subdirectory of itself, "
        ++ shellQuoted target)
    else if isInhabited files other then cannot notEmpty
    else done (moveBelow files place other)
  | .ok (.found place node), .ok (.vacant other slash) =>
    if slash && node ≠ .directory then cannot .notADirectory
    else if place.isPrefixOf other then
      fail ("cannot move " ++ shellQuoted source ++ " to a subdirectory of itself, "
        ++ shellQuoted target)
    else done (moveBelow files place other)

def transferring (allowed : Text) (long : LongOptions) (transfer : Transfer) : Program :=
  withOptions 1 allowed long fun name o => do
    let files ← Act.tree
    let (sources, target?) := match o.argument? 't' with
      | some directory => (o.others, some directory)
      | none => (o.others.dropLast, if 1 < o.others.length then o.others.getLast? else none)
    match o.others, target? with
    | [], _ => misuse 1 name "missing file operand"
    | source :: _, none =>
      misuse 1 name ("missing destination file operand after " ++ quoted source)
    | _, some target =>
      if files.isDirectory (toText target) && !o.has 'T' then
        forAll (fun source => transfer name o source (inDirectory target source)) sources
      else
        match sources with
        | [source] => transfer name o source target
        | _ => do
          let cause := match files.stat? (toText target) with
            | .ok _ => IoError.notADirectory
            | .error e => e
          complain name ("target " ++ shellQuoted target ++ ": " ++ cause.text)
          return 1

def cp : Program :=
  transferring "abdfHilLnprRst:TuvxP" (longOptions [("recursive", 'r'), ("force", 'f'),
    ("archive", 'a'), ("no-clobber", 'n'), ("verbose", 'v')] [("target-directory", 't')]) copyOne

def mv : Program :=
  transferring "bfint:Tuv" (longOptions [("force", 'f'), ("no-clobber", 'n'), ("verbose", 'v')]
    [("target-directory", 't')]) moveOne

/-! ## Links -/

def linkOne : Transfer := fun name o source target => do
  let files ← Act.tree
  let fail (text : Text) : Act Nat := do
    complain name text
    return 1
  let what : Text := if o.has 's' then "failed to create symbolic link "
    else "failed to create hard link "
  let node? : Except Text Node :=
    if o.has 's' then .ok (.link (toText source))
    else
      match files.destination false (toText source) with
      | .ok (.found _ .directory) =>
        .error (shown source ++ ": hard link not allowed for directory")
      | .ok (.found _ node) => .ok node
      | .ok (.vacant _ _) =>
        .error ("failed to access " ++ shellQuoted source ++ ": " ++ IoError.notFound.text)
      | .error e => .error ("failed to access " ++ shellQuoted source ++ ": " ++ e.text)
  match node?, files.destination false (toText target) with
  | .error text, _ => fail text
  | .ok _, .error e => fail (what ++ shellQuoted target ++ ": " ++ e.text)
  | .ok _, .ok (.vacant _ true) =>
    fail (what ++ shellQuoted target ++ ": " ++ IoError.notFound.text)
  | .ok node, .ok (.vacant place false) => do
    Act.setTree (files.put place node)
    return 0
  | .ok node, .ok (.found place _) =>
    if o.has 'f' then do
      Act.setTree (files.put place node)
      return 0
    else fail (what ++ shellQuoted target ++ ": " ++ IoError.alreadyExists.text)

def ln : Program :=
  withOptions 1 "bdfFiLnPrst:Tv" (longOptions [("symbolic", 's'), ("force", 'f'),
    ("no-dereference", 'n')] []) fun name o => do
      let files ← Act.tree
      let isLink (path : Text) : Bool :=
        match files.destination false (toText path) with
        | .ok (.found _ (.link _)) => true
        | _ => false
      let isDirectory (path : Text) : Bool :=
        files.isDirectory (toText path) && !(o.has 'n' && isLink path) && !o.has 'T'
      match o.others.reverse with
      | [] => misuse 1 name "missing file operand"
      | [source] => linkOne name o source (inDirectory ['.'] source)
      | target :: sources =>
        if isDirectory target then
          forAll (fun source => linkOne name o source (inDirectory target source)) sources.reverse
        else
          match sources with
          | [source] => linkOne name o source target
          | _ => do
            complain name ("target " ++ shellQuoted target ++ ": " ++ IoError.notADirectory.text)
            return 1

/-! ## Permissions -/

/-- What a mode makes of whether a file can be run; `none` if it is no mode. -/
def runnableAfter? (mode : Text) (runnable : Bool) : Option Bool :=
  if !mode.isEmpty && mode.all (fun c => '0' ≤ c && c ≤ '7') then
    let bits := mode.map fun c => (c.toNat - 48) % 2
    some ((bits.drop (mode.length - 3)).any (· = 1))
  else
    let clause (runnable? : Option Bool) (t : Text) : Option Bool :=
      let change := t.dropWhile fun c => "ugoa".toList.elem c
      match change with
      | operator :: letters =>
        let isChange := "+-=".toList.elem operator && letters.all fun c => "rwxXst".toList.elem c
        let runs := letters.elem 'x'
        if !isChange then none
        else
          runnable?.map fun runnable =>
            if operator = '+' then runnable || runs
            else if operator = '-' then runnable && !runs
            else runs
      | [] => none
    (Text.parts ',' mode).foldl clause (some runnable)

def chmod : Program := fun name arguments => do
  let (options, others) := arguments.partition fun a =>
    match a with
    | ['-', c] => "Rvfc".toList.elem c
    | _ => false
  let _ := options
  match others with
  | [] => missing name
  | [mode] => misuse 1 name ("missing operand after " ++ quoted mode)
  | mode :: paths =>
    if (runnableAfter? mode false).isNone then
      misuse 1 name ("invalid mode: " ++ quoted mode)
    else
      forAll (fun path => do
        let files ← Act.tree
        match files.stat? (toText path) with
        | .ok (place, .file content runnable) => do
          let after := (runnableAfter? mode runnable).getD runnable
          Act.setTree (files.put place (.file content after))
          return 0
        | .ok _ => return 0
        | .error e => do
          complain name ("cannot access " ++ shellQuoted path ++ ": " ++ e.text)
          return 1) paths

end Program
end Shell
end ContractAssist
