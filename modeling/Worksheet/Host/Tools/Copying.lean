-- Tools that copy and move files. What stands at a target may be in the way and be kept as a backup,
-- and what is to be copied may be the target itself.
import Worksheet.Host.Tools.Files

namespace Worksheet.Host.Tools

open Text (Octets)

/-- How a backup is named. `existing` stands for a number where there are numbers already, and for
a suffix otherwise. -/
inductive Backups
  | none
  | simple
  | existing
  | numbered
  deriving DecidableEq, Repr

namespace Backups

def kinds : List (String × Backups) :=
  [("none", none), ("off", none), ("simple", simple), ("never", simple), ("existing", existing),
    ("nil", existing), ("numbered", numbered), ("t", numbered)]

/-- The kind of backups that a word or its beginning stands for. -/
def kind? (text : String) : Option Backups :=
  match kinds.lookup text with
  | some kind => some kind
  | Option.none =>
    match kinds.filter fun k => text.toList.isPrefixOf k.1.toList with
    | [k] => some k.2
    | _ => Option.none

/-- The kind of backups that is asked for. -/
def chosen (i : Invocation) (o : Options) : Task Backups := do
  if !o.has "b" && !o.has "S" then return none
  let given := (o.value? "b").filter fun t => !t.isEmpty
  let usual := (i.environment.lookup (word "VERSION_CONTROL")).filter fun t => !t.isEmpty
  match given, usual with
  | some text, _ =>
    match kind? text.spelled with
    | some kind => return kind
    | Option.none => refuse text "backup type"
  | Option.none, some text =>
    match kind? text.spelled with
    | some kind => return kind
    | Option.none => refuse text "$VERSION_CONTROL"
  | Option.none, Option.none => return existing
where
  refuse (text : Octets) (place : String) : Task Backups := do
    complain i ((if (kinds.filter fun k => text.isPrefixOf k.1.toList).isEmpty then "invalid"
        else "ambiguous") ++ " argument " ++ inQuotes text ++ " for " ++ inQuotes (word place))
    let line (names : List String) : String :=
      "  - " ++ ", ".intercalate (names.map fun n => inQuotes (word n)) ++ "\n"
    Task.errText ("Valid arguments are:\n" ++ line ["none", "off"] ++ line ["simple", "never"] ++
      line ["existing", "nil"] ++ line ["numbered", "t"])
    advise i 1

/-- The suffix of a backup without a number. -/
def suffix (i : Invocation) (o : Options) : Octets :=
  match o.value? "S" <|> i.environment.lookup (word "SIMPLE_BACKUP_SUFFIX") with
  | some s => if s.isEmpty || s.contains '/' then ['~'] else s
  | Option.none => ['~']

/-- The number of a backup of a file, behind its name. -/
def number? (name backup : Octets) : Option Nat :=
  if (name ++ word ".~").isPrefixOf backup && backup.getLast? = some '~' then
    match (backup.drop (name.length + 2)).dropLast with
    | '0' :: _ => Option.none
    | ds => digits? ds
  else Option.none

/-- The name that a backup of a file is given. -/
def nameFor (kind : Backups) (suffix target : Octets) : Task Octets := do
  let names ← match ← Task.call (.list (directoryName target)) with
    | .ok names => pure names
    | .error _ => pure []
  let numbers := names.filterMap (number? (baseName target))
  if kind = numbered || (kind = existing && !numbers.isEmpty) then
    return target ++ word ".~" ++ Octets.ofNat (numbers.foldl max 0 + 1) ++ ['~']
  else return target ++ suffix

end Backups

namespace Copying

/-! ## Manners -/

/-- Which links are followed where they are to be copied. -/
inductive Following
  | never
  | operands
  | always
  deriving DecidableEq, Repr

/-- What happens where something stands at the target. -/
inductive Consent
  | given
  | asked
  | refused
  deriving DecidableEq, Repr

/-- How files are copied or moved. The targets may be in a directory that has been opened, and a
copy can be a link to what it is a copy of. -/
structure Manner where
  moves : Bool
  installs : Bool
  inside : Bool
  trees : Bool
  hard : Bool
  symbolic : Bool
  following : Following
  consent : Consent
  newer : Bool
  clears : Bool
  forced : Bool
  keepsTimes : Bool
  keepsLinks : Bool
  backups : Backups
  suffix : Octets
  mode : Option Mode

/-- What has been done so far: the operands that have been copied and the targets made for them, by
place, the copies of files that have several names, and the first directory that has been made. -/
structure Record where
  sources : List Octets
  targets : List Octets
  copies : List (List Octets × Octets)
  first : Option Octets

abbrev Copier := StateT Record Task

/-- How a copy is told of. -/
def arrow (source target : Octets) (backup : Option Octets) : String :=
  inPlainQuotes source ++ " -> " ++ inPlainQuotes target ++ (match backup with
    | some b => " (backup: " ++ inPlainQuotes b ++ ")"
    | none => "")

def placeOf (name : Octets) : Task Octets := do
  match ← Task.call (.resolve (directoryName name)) with
  | .ok directory => return under directory (baseName name)
  | .error _ => return name

/-! ## The same file -/

/-- What is to become of a source whose target is there. -/
inductive Verdict
  | replace
  | done
  | same
  deriving DecidableEq, Repr

def namesOf (follow : Bool) (name : Octets) : Task (List Octets) := do
  match ← Task.call (.names follow name) with
  | .ok names => return names
  | .error _ => return []

def isLink (name : Octets) : Task Bool := do
  return (← Task.call (.inspect name)).toOption == some .link

/-- Both names stand for one entry of one directory. A link to a directory counts as another one,
unless the second name is in a directory that has been opened. -/
def isSameEntry (inside : Bool) (a b : Octets) : Task Bool := do
  let directory ← namesOf false (directoryName a)
  return baseName a = baseName b && !directory.isEmpty &&
    directory = (← namesOf inside (directoryName b))

/-- Whether both names lead to one file; links at their ends are followed or not. -/
def isOneFile (follow : Bool) (a b : Octets) : Task Bool := do
  let names ← namesOf follow a
  return !names.isEmpty && names = (← namesOf follow b)

/-- Whether a source may take the place of a target that is there. The flags say whether a link at
the source or at the target counts as what it leads to. -/
def verdict (m : Manner) (followSource followTarget : Bool) (source target : Octets) :
    Task Verdict := do
  let judge (ok : Bool) : Verdict := if ok then .replace else .same
  let a ← namesOf followSource source
  let same := !a.isEmpty && a = (← namesOf followTarget target)
  let sourceLink ← isLink source
  let targetLink ← isLink target
  let sameEntry ← isSameEntry m.inside source target
  let sameLink ← isOneFile false source target
  if same && m.hard then return .done
  let untouched := !followSource
  if untouched && sourceLink && targetLink && !followTarget then
    if !sameEntry && m.backups = .none && sameLink then
      return if m.moves then .same else .done
    return judge (!sameEntry)
  if !untouched then
    if !same then return .replace
    if sourceLink && targetLink && m.clears then return .replace
  if m.backups ≠ .none then
    if !sameLink then
      return judge (!(!m.moves && !untouched && sourceLink && !targetLink))
    return judge (!sameEntry)
  if m.moves || m.clears then
    if targetLink then return .replace
    if sameLink && 1 < (← namesOf false target).length && !sameEntry then return judge (!m.moves)
  if !sourceLink && !targetLink then
    if !sameLink then return .replace
    if m.hard then return .done
  if m.moves && sourceLink && 1 < (← namesOf false target).length then
    match ← Task.call (.resolve source) with
    | .ok place => return judge (!(← isSameEntry m.inside place target))
    | .error _ => pure ()
  if m.symbolic && targetLink then return .replace
  if untouched then
    if !(← isOneFile true source target) then return .replace
    if m.hard then return if targetLink then .replace else .done
  return .same

/-! ## Files -/

/-- The time and the mode of a copy are those of what has been copied, if that is asked for. -/
def keepTime (m : Manner) (source target : Octets) : Task Unit := do
  if m.keepsTimes then
    match ← Task.call (.modified true source) with
    | .ok t =>
      let _ ← Task.call (.stamp true target (some t))
      if m.mode.isNone then
        let _ ← setMode target (← modeAt source)
    | .error _ => pure ()

/-- Opens the target of a copy. One that cannot be opened is taken away first, if that is asked
for. -/
def openTarget (i : Invocation) (o : Options) (m : Manner) (fresh : Bool) (target : Octets) :
    Task (Option Nat) := do
  let refuse (e : Errno) : Task (Option Nat) := do
    let e := if e = .isDirectory && target.getLast? = some '/' then .notDirectory else e
    complain i ("cannot create regular file " ++ inPlainQuotes target ++ ": " ++ e.text)
    return none
  match ← Task.call (.opened target .fresh) with
  | .ok descriptor => return some descriptor
  | .error e =>
    if fresh || !m.forced then refuse e
    else match ← Task.call (.remove target) with
      | .error e =>
        complain i ("cannot remove " ++ inPlainQuotes target ++ ": " ++ e.text)
        return none
      | .ok () =>
        announce i o ("removed " ++ inPlainQuotes target)
        match ← Task.call (.opened target .fresh) with
        | .ok descriptor => return some descriptor
        | .error e => refuse e

/-- Copies the content of a file. A new file gets the mode of the old one, as far as the mask lets
it through. -/
def copyContent (i : Invocation) (o : Options) (m : Manner) (fresh : Bool)
    (source target : Octets) : Task Bool := do
  match ← readInput source with
  | .error e => told i ("cannot open " ++ inPlainQuotes source ++ " for reading") (.error e)
  | .ok text =>
    if fresh && (← isLink target) then
      complain i ("not writing through dangling symlink " ++ inPlainQuotes target)
      return false
    match ← openTarget i o m fresh target with
    | none => return false
    | some descriptor =>
      let result ← Task.tryWrite descriptor text
      Task.call (.close descriptor)
      if fresh then
        let _ ← setMode target ((← modeAt source).without (← Task.call .mask) % 512)
      match m.mode with
      | some mode =>
        let _ ← setMode target mode
      | none => pure ()
      match result with
      | none => return true
      | some e => told i ("error writing " ++ inPlainQuotes target) (.error e)

/-- Makes a further name for a file, in the place of what is there if that is wanted. -/
def makeName (i : Invocation) (o : Options) (replaces follow : Bool) (source target : Octets) :
    Task Bool := do
  let place : Octets ← match ← Task.call (.resolve source) with
    | .ok place => pure (if follow then place else source)
    | .error _ => pure source
  let refuse (e : Errno) : Task Bool :=
    told i ("cannot create hard link " ++ inPlainQuotes target ++ " to " ++ inPlainQuotes source)
      (.error e)
  match ← Task.call (.addName place target) with
  | .ok () => return true
  | .error .alreadyExists =>
    if !replaces then refuse .alreadyExists
    else
      let _ ← Task.call (.remove target)
      match ← Task.call (.addName place target) with
      | .ok () =>
        announce i o ("removed " ++ inPlainQuotes target)
        return true
      | .error e => refuse e
  | .error e => refuse e

/-- Makes a link, in the place of what is there if that is wanted. -/
def makeLink (replaces : Bool) (text target : Octets) : Task (Except Errno Unit) := do
  match ← Task.call (.makeLink text target) with
  | .error .alreadyExists =>
    if !replaces then return .error .alreadyExists
    else
      let _ ← Task.call (.remove target)
      Task.call (.makeLink text target)
  | r => return r

/-! ## Targets that are there -/

/-- Whether what stands at the target may be replaced, as far as its kind, its age and the answers
to questions go. -/
inductive Clearance
  | go (fresh : Bool) (backup : Option Octets)
  | skip
  | failed

/-- Makes way for a copy to a target that is there. -/
def clear (i : Invocation) (o : Options) (m : Manner) (operand : Bool)
    (sourceKind targetKind : FileKind) (followSource followTarget : Bool)
    (source target : Octets) : Copier Clearance := do
  let refuse (message : String) : Copier Clearance := do
    complain i message
    return .failed
  let v : Verdict ← if m.consent = .refused then pure .replace
    else verdict m followSource followTarget source target
  if v = .same then
    return ← refuse (inPlainQuotes source ++ " and " ++ inPlainQuotes target ++
      " are the same file")
  let isTree := sourceKind = .directory
  if m.newer && !isTree then
    match ← Task.call (.modified followSource source), ← Task.call (.modified followTarget target) with
    | .ok a, .ok b => if a ≤ b then return .skip
    | _, _ => pure ()
  if m.moves || !isTree then
    if m.consent = .refused then return .skip
    if m.consent = .asked then
      if !(← agrees i ("overwrite " ++ inPlainQuotes target)) then return .skip
  if v = .done then return .skip
  let onto := targetKind = .directory
  let mixes := m.moves && m.backups ≠ .none
  if !onto then
    if isTree && !mixes then
      return ← refuse ("cannot overwrite non-directory " ++ inPlainQuotes target ++
        " with directory " ++ inPlainQuotes source)
    let there ← placeOf target
    if operand && m.backups ≠ .numbered && (← get).targets.contains there then
      return ← refuse ("will not overwrite just-created " ++ inPlainQuotes target ++ " with " ++
        inPlainQuotes source)
  if !isTree && onto && !mixes then
    return ← refuse ("cannot overwrite directory " ++ inPlainQuotes target ++
      " with non-directory")
  let last := baseName source
  if m.backups ≠ .none && last ≠ word "." && last ≠ word ".." && (m.moves || !onto) then
    if m.backups ≠ .numbered && last = baseName target ++ m.suffix &&
        (← isOneFile false source (target ++ m.suffix)) then
      return ← refuse ("backing up " ++ inPlainQuotes target ++ " might destroy source;  " ++
        inPlainQuotes source ++ " not " ++ (if m.moves then "moved" else "copied"))
    let backup : Octets ← m.backups.nameFor m.suffix target
    match ← Task.call (.rename target backup) with
    | .ok () => return .go true (some backup)
    | .error .noEntry => return .go true none
    | .error e => return ← refuse ("cannot backup " ++ inPlainQuotes target ++ ": " ++ e.text)
  let shared := m.keepsLinks && 1 < (← namesOf followTarget target).length
  let regular := match sourceKind with
    | .regular .. => true
    | _ => false
  if !onto && !m.moves && (m.clears || shared || (m.following = .never && !regular)) then
    match ← Task.call (.remove target) with
    | .ok () =>
      announce i o ("removed " ++ inPlainQuotes target)
      return .go true none
    | .error .noEntry => return .go true none
    | .error e => return ← refuse ("cannot remove " ++ inPlainQuotes target ++ ": " ++ e.text)
  return .go false none

/-! ## Copying -/

/-- Moves what has been cleared. -/
def moveCleared (i : Invocation) (o : Options) (source target : Octets)
    (backup : Option Octets) : Task Bool := do
  match ← Task.call (.rename source target) with
  | .ok () =>
    announce i o ("renamed " ++ arrow source target backup)
    return true
  | .error .invalidArgument =>
    complain i ("cannot move " ++ inPlainQuotes source ++ " to a subdirectory of itself, " ++
      inPlainQuotes target)
    return false
  | .error e =>
    if [.alreadyExists, .isDirectory, .notEmpty, .noSpace].contains e then
      told i ("cannot overwrite " ++ inPlainQuotes target) (.error e)
    else
      told i ("cannot move " ++ inPlainQuotes source ++ " to " ++ inPlainQuotes target) (.error e)

/-- Copies one file that is no directory. -/
def copyFile (i : Invocation) (o : Options) (m : Manner) (kind : FileKind) (follow fresh : Bool)
    (source target : Octets) : Task Bool := do
  if m.symbolic then
    let here ← Task.call .whereabouts
    if source.head? ≠ some '/' && !(← isOneFile true (directoryName target) here) then
      complain i (bare target ++
        ": can make relative symbolic links only in current directory")
      return false
    told i ("cannot create symbolic link " ++ inPlainQuotes target ++ " to " ++
      inPlainQuotes source) (← makeLink m.forced source target)
  else if m.hard then
    makeName i o (m.forced || m.consent = .asked) follow source target
  else match kind with
    | .link =>
      match ← Task.call (.readLink source) with
      | .error e => told i ("cannot read symbolic link " ++ inPlainQuotes source) (.error e)
      | .ok text =>
        told i ("cannot create symbolic link " ++ inPlainQuotes target)
          (← makeLink m.forced text target)
    | .fifo =>
      if m.trees then
        told i ("cannot create fifo " ++ inPlainQuotes target) (← Task.call (.makeFifo target))
      else
        copyContent i o m fresh source target
    | _ =>
      let good ← copyContent i o m fresh source target
      if good then keepTime m source target
      return good

/-- Takes back a backup where the copy has failed. -/
def restore (i : Invocation) (o : Options) (backup : Option Octets) (target : Octets) :
    Task Unit := do
  match backup with
  | none => pure ()
  | some backup =>
    match ← Task.call (.rename backup target) with
    | .ok () => announce i o (inPlainQuotes backup ++ " -> " ++ inPlainQuotes target ++ " (unbackup)")
    | .error e => complain i ("cannot un-backup " ++ inPlainQuotes target ++ ": " ++ e.text)

/-- The kind of what stands at a target, if anything does; only a regular file can be copied
through a link at the target. -/
def targetKind (i : Invocation) (m : Manner) (sourceKind : FileKind) (target : Octets) :
    Task (Except Unit (Option FileKind × Bool)) := do
  let plain := match sourceKind with
    | .regular .. => true
    | .directory => false
    | .link => false
    | _ => !m.trees
  let follow := plain && !m.moves && !m.symbolic && !m.hard && m.backups = .none && !m.clears
  match ← (if follow then Task.call (.examine target) else Task.call (.inspect target)) with
  | .ok kind => return .ok (some kind, follow)
  | .error .noEntry => return .ok (none, follow)
  | .error e =>
    if e = .tooManyLinks && m.forced then return .ok (none, follow)
    complain i ("cannot stat " ++ inPlainQuotes target ++ ": " ++ e.text)
    return .error ()

/-- Copies or moves one file or tree. `top` names what the whole copy goes from and to. -/
def copy (i : Invocation) (o : Options) (m : Manner) (top : Octets × Octets) :
    Nat → (operand : Bool) → Octets → Octets → Copier Bool
  | 0, _, _, _ => pure false
  | n + 1, operand, source, target => do
    let follow := m.following = .always || (operand && m.following = .operands)
    match ← (if follow then Task.call (.examine source) else Task.call (.inspect source)) with
    | .error e => told i ("cannot stat " ++ inPlainQuotes source) (.error e)
    | .ok kind =>
      if kind = .directory && !m.trees && !m.moves then
        complain i ((if m.installs then "omitting directory " else
          "-r not specified; omitting directory ") ++ inPlainQuotes source)
        return false
      let place ← placeOf source
      if operand && !m.moves && m.backups = .none && kind ≠ .directory then
        if (← get).sources.contains place then
          complain i ("warning: source file " ++ inPlainQuotes source ++
            " specified more than once")
          return true
      if operand then modify fun r => { r with sources := place :: r.sources }
      match ← targetKind i m kind target with
      | .error () => return false
      | .ok (there, followTarget) =>
        let cleared ← match there with
          | none => pure (.go true none)
          | some old => clear i o m operand kind old follow followTarget source target
        match cleared with
        | .failed => return false
        | .skip => return true
        | .go fresh backup =>
          if m.moves then
            let good ← moveCleared i o source target backup
            if good && operand then
              let made ← placeOf target
              modify fun r => { r with targets := made :: r.targets }
            return good
          let there ← placeOf target
          if operand && m.backups = .none && (← isLink target) &&
              (← get).targets.contains there then
            complain i ("will not copy " ++ inPlainQuotes source ++ " through just-created symlink " ++
              inPlainQuotes target)
            return false
          if kind = .directory then copyDirectory n fresh source target
          else
            announce i o (arrow source target backup)
            let names ← namesOf follow source
            let copies := (← get).copies
            let earlier := if m.keepsLinks && !m.hard && 1 < names.length then copies.lookup names
              else none
            let good ← match earlier with
              | some first => makeName i o true false first target
              | none => copyFile i o m kind follow fresh source target
            if good then
              if m.keepsLinks then modify fun r => { r with copies := (names, target) :: r.copies }
              if operand then
                let made ← placeOf target
                modify fun r => { r with targets := made :: r.targets }
            else restore i o backup target
            return good
where
  /-- Copies a directory, and then what is in it. -/
  copyDirectory (n : Nat) (fresh : Bool) (source target : Octets) : Copier Bool := do
    let place : Octets ← match ← Task.call (.resolve source) with
      | .ok place => pure place
      | .error _ => pure source
    if (← get).first = some place then
      complain i ("cannot copy a directory, " ++ inPlainQuotes top.1 ++ ", into itself, " ++
        inPlainQuotes top.2)
      return false
    let made ← if fresh then
        told i ("cannot create directory " ++ inPlainQuotes target)
          (← Task.call (.makeDirectory target))
      else pure true
    if !made then return false
    if fresh then
      let made : Octets ← match ← Task.call (.resolve target) with
        | .ok place => pure place
        | .error _ => pure target
      modify fun r => { r with first := r.first <|> some made }
      announce i o (arrow source target none)
    match ← Task.call (.list source) with
    | .error e => told i ("cannot access " ++ inPlainQuotes source) (.error e)
    | .ok names =>
      let good ← names.foldlM (fun good name => do
        let next ← copy i o m top n false (under source name) (under target name)
        return good && next) true
      if fresh then
        let _ ← setMode target ((← modeAt source).without (← Task.call .mask))
      keepTime m source target
      return good

/-! ## Destinations -/

/-- Where operands go: into a directory, or one to the name of the other. -/
inductive Destination
  | into (directory : Octets) (names : List Octets)
  | onto (source target : Octets)

/-- Finds out where the operands go. The flag says whether a link to a directory counts as one. -/
def destination (i : Invocation) (o : Options) (follow : Bool) : Task Destination := do
  match o.value? "t", o.operands with
  | _, [] => misuse i 1 "missing file operand"
  | some directory, names =>
    if o.has "T" then
      fail i 1 ("cannot combine --target-directory (-t) and --no-target-directory (-T)")
    match ← Task.call (.examine directory) with
    | .ok .directory => return .into directory names
    | .ok _ => fail i 1 ("target directory " ++ inPlainQuotes directory ++ ": " ++
        Errno.notDirectory.text)
    | .error e => fail i 1 ("target directory " ++ inPlainQuotes directory ++ ": " ++ e.text)
  | none, [a] => misuse i 1 ("missing destination file operand after " ++ inPlainQuotes a)
  | none, [source, target] =>
    let entered := !o.has "T" && (← isDirectory target) && (follow || !(← isLink target))
    return if entered then .into target [source] else .onto source target
  | none, names =>
    let target := names.getLast?.getD []
    if o.has "T" then misuse i 1 ("extra operand " ++ inPlainQuotes (names.getD 2 []))
    match ← Task.call (.examine target) with
    | .ok .directory => return .into target names.dropLast
    | .ok _ => fail i 1 ("target " ++ inPlainQuotes target ++ ": " ++ Errno.notDirectory.text)
    | .error e => fail i 1 ("target " ++ inPlainQuotes target ++ ": " ++ e.text)

/-- The name of an operand in the directory that it is copied to. -/
def nameInside (directory source : Octets) : Octets :=
  let last := baseName source
  if last = word ".." then directory else under directory last

/-- Makes the directories that lead to an operand again, below the directory that it is copied
to. -/
def makeParents (i : Invocation) (o : Options) (directory : Octets) :
    List Octets → Octets → Task Bool
  | [], _ => pure true
  | c :: rest, above => do
    let source := if above.isEmpty then c else under above c
    let target := under directory source
    match ← Task.call (.examine target) with
    | .ok .directory => makeParents i o directory rest source
    | .ok _ =>
      complain i (inPlainQuotes target ++ " exists but is not a directory")
      return false
    | .error _ =>
      match ← Task.call (.makeDirectory target) with
      | .error e => told i ("cannot make directory " ++ inPlainQuotes target) (.error e)
      | .ok () =>
        announce i o (bare source ++ " -> " ++ bare target)
        makeParents i o directory rest source

def blank : Record := ⟨[], [], [], none⟩

/-- Copies or moves each of some operands to its target. -/
def copyAll (i : Invocation) (o : Options) (m : Manner) (pairs : List (Octets × Octets)) :
    Task Nat := do
  let (good, _) ← (pairs.foldlM (fun good (source, target) => do
    modify fun r => { r with first := none }
    let ready ← if o.has "parents" then
        let parts := ((Text.split '/' (Way.trimSlashes source)).filter fun c => !c.isEmpty).dropLast
        makeParents i o (target.take (target.length - (Way.trimSlashes source).length - 1)) parts []
      else pure true
    if !ready then return false
    let next ← copy i o m (source, target) treeDepth true source target
    return good && next) true : Copier Bool).run blank
  return codeOf good

end Copying

/-! ## Tools -/

def consentOf (o : Options) : Copying.Consent :=
  match o.lastOf ["f", "i", "n"] with
  | some "i" => .asked
  | some "n" => .refused
  | _ => .given

/-- Ends a tool that is to keep what it is to leave alone. -/
def refuseKeeping (i : Invocation) (o : Options) : Task Unit := do
  if (o.has "b" || o.has "S") && o.lastOf ["f", "i", "n"] = some "n" then
    misuse i 1 "options --backup and --no-clobber are mutually exclusive"

/-- Copies files and trees. -/
def cp : Tool := fun i => do
  let o ← options (grammar "abdfHilLnprst:uvxPRTS:Z" [("archive", "a"), ("attributes-only", "A"),
    ("backup?", "b"), ("dereference", "L"), ("force", "f"), ("interactive", "i"), ("link", "l"),
    ("no-clobber", "n"), ("no-dereference", "P"), ("no-target-directory", "T"),
    ("one-file-system", "x"), ("parents", "parents"), ("preserve?", "p"), ("recursive", "R"),
    ("remove-destination", "E"), ("strip-trailing-slashes", "strip"), ("symbolic-link", "s"),
    ("suffix=", "S"), ("target-directory=", "t"), ("update?", "u"), ("verbose", "v")]) i
  refuseKeeping i o
  if o.has "s" && o.has "l" then
    misuse i 1 "cannot make both hard and symbolic links"
  let trees := o.has "r" || o.has "R" || o.has "a"
  let following : Copying.Following := match o.lastOf ["a", "d", "H", "L", "P"] with
    | some "L" => .always
    | some "H" => .operands
    | some _ => .never
    | none => if trees && !o.has "l" then .never else .always
  let kept := ((o.valuesOf "p").map fun v => Text.split ',' v).flatten
  let keeps (what : String) : Bool := kept.contains (word what) || kept.contains (word "all")
  let plainly := o.has "p" && (o.valuesOf "p").isEmpty
  let backups ← Backups.chosen i o
  let m : Copying.Manner := {
    moves := false, installs := false, inside := false, trees := trees,
    hard := o.has "l", symbolic := o.has "s"
    following := following, consent := consentOf o
    newer := o.has "u" && consentOf o ≠ .refused, clears := o.has "E", forced := o.has "f"
    keepsTimes := o.has "a" || plainly || keeps "timestamps"
    keepsLinks := o.has "a" || o.has "d" || keeps "links", backups := backups
    suffix := Backups.suffix i o, mode := none }
  match ← Copying.destination i o true with
  | .into directory names =>
    Copying.copyAll i o { m with inside := true } (names.map fun name => (name,
      if o.has "parents" then under directory (Way.trimSlashes name)
      else Copying.nameInside directory name))
  | .onto source target =>
    if o.has "parents" then misuse i 1 "with --parents, the destination must be a directory"
    let regular ← match ← Task.call (.examine target) with
      | .ok (.regular ..) => pure true
      | _ => pure false
    if o.has "f" && backups ≠ .none && source = target && regular then
      let target ← backups.nameFor m.suffix target
      Copying.copyAll i o { m with backups := .none } [(source, target)]
    else Copying.copyAll i o m [(source, target)]

/-- Moves files and trees. -/
def mv : Tool := fun i => do
  let o ← options (grammar "bfint:uvS:TZ" [("backup?", "b"), ("force", "f"), ("interactive", "i"),
    ("no-clobber", "n"), ("no-target-directory", "T"), ("strip-trailing-slashes", "strip"),
    ("suffix=", "S"), ("target-directory=", "t"), ("update?", "u"), ("verbose", "v")]) i
  let destination ← Copying.destination i o true
  refuseKeeping i o
  let m : Copying.Manner := {
    moves := true, installs := false, inside := false, trees := true,
    hard := false, symbolic := false
    following := .never, consent := consentOf o, newer := o.has "u" && consentOf o ≠ .refused
    clears := false, forced := false, keepsTimes := true, keepsLinks := true
    backups := ← Backups.chosen i o, suffix := Backups.suffix i o, mode := none }
  match destination with
  | .into directory names =>
    Copying.copyAll i o { m with inside := true }
      (names.map fun name => (name, under directory (baseName name)))
  | .onto source target => Copying.copyAll i o m [(source, target)]

end Worksheet.Host.Tools
